import SelfUpdate.Proofs.Directories
import SelfUpdate.Proofs.Disk.Confinement
import SelfUpdate.Proofs.World

/-!
# What the log writes

A record that is kept appends its line to the log file, or no line when that file cannot be written.
When nothing is at the path of the log any more, its directories and the file are made anew. Nothing
else changes on the disk.
-/

namespace SelfUpdate

open Disk

variable {directories : Directories} {base : Location} {disk after : Disk} {world : World}
  {file : LogFile} {way : Prop} {first second third : Option Node} {early late : Bytes}

namespace Log

/-- Records as the log file has them. -/
def lines (now : Int64) (records : List Record) : Bytes :=
  records.flatMap fun record => Text.encode (Effect.logLine now record)

/-- What becomes of the entry in the place of the log while lines are appended to it. -/
inductive Grows (way : Prop) : Bytes → Option Node → Option Node → Prop where
  | same (node : Option Node) : Grows way [] node node
  | longer (identity mode : Nat) (bytes lines : Bytes) :
      Grows way lines (some (.file identity mode bytes))
        (some (.file identity mode (bytes ++ lines)))
  | begun (identity : Nat) (lines : Bytes) :
      Grows way lines none (some (.file identity fileMode lines))
  /-- A directory was made in its place. -/
  | obstructed (on : way) : Grows way [] none (some (.directory directoryMode))

theorem Grows.trans (grows : Grows way early first second) (further : Grows way late second third) :
    Grows way (early ++ late) first third := by
  cases grows with
  | same node => exact further
  | longer identity mode bytes early =>
      cases further with
      | same node =>
          rw [List.append_nil]
          exact .longer identity mode bytes early
      | longer =>
          rw [List.append_assoc]
          exact .longer identity mode bytes _
  | begun identity early =>
      cases further with
      | same node =>
          rw [List.append_nil]
          exact .begun identity early
      | longer => exact .begun identity _
  | obstructed on =>
      cases further with
      | same node => exact .obstructed on

/-- No line was written, but a directory may have been made. -/
theorem Grows.of_sparedAt {way : Location → Prop} {place : Location}
    (spared : SparedAt way disk after place) :
    Grows (way place) [] (disk.get? place) (after.get? place) := by
  rcases spared with same | ⟨missing, on, made⟩
  · rw [same]
    exact .same _
  · rw [missing, made]
    exact .obstructed on

/-- An open log file is nowhere but in the place of the log. -/
structure Owns (directories : Directories) (base : Location) (disk : Disk) (file : LogFile) :
    Prop where
  path : file.path = directories.logFile
  identity_lt : file.identity < disk.freshIdentity
  only : ∀ location, disk.identityAt? location = some file.identity →
    location = directories.logPlace base

/-- Changes elsewhere do not take the log file away, nor do changes in its place. -/
theorem Owns.mono {inside way : Location → Prop} (owns : Owns directories base disk file)
    (confined : Confined inside way disk after)
    (sole : inside (directories.logPlace base) → ∀ location, inside location →
      location = directories.logPlace base) : Owns directories base after file where
  path := owns.path
  identity_lt := Nat.lt_of_lt_of_le owns.identity_lt confined.freshIdentity_le
  only place found := by
    rcases confined.files place _ found with new | there | ⟨here, old, within, there⟩
    · exact absurd owns.identity_lt (Nat.not_lt.mpr new)
    · exact owns.only place there
    · obtain rfl := owns.only old there
      exact sole within place here

/-- A file in the place of the log is nowhere else. -/
def Sole (directories : Directories) (base : Location) (disk : Disk) : Prop :=
  ∀ identity, disk.identityAt? (directories.logPlace base) = some identity →
    ∀ location, disk.identityAt? location = some identity → location = directories.logPlace base

/-- It is enough to look at what is listed. -/
theorem Sole.of_entries (single : ∀ entry ∈ disk.entries, ∀ identity ∈ entry.2.identity?,
    disk.identityAt? (directories.logPlace base) = some identity →
      entry.1 = directories.logPlace base) : Sole directories base disk := by
  intro identity here location there
  obtain ⟨mode, bytes, found⟩ := identityAt?_eq_some_iff.mp there
  by_cases root : location = []
  · subst root
    cases found
  · exact single _ (mem_entries_of_get? root found) identity rfl here

/-- Changes elsewhere give the log file no other place, nor do changes in its place. -/
theorem Sole.mono {inside way : Location → Prop} (alone : Sole directories base disk)
    (plain : disk.Plain) (confined : Confined inside way disk after)
    (sole : inside (directories.logPlace base) → ∀ location, inside location →
      location = directories.logPlace base) : Sole directories base after := by
  intro identity here location there
  by_cases within : inside (directories.logPlace base)
  · by_cases same : inside location
    · exact sole within location same
    · have old := (confined.elsewhere location same).identityAt? there
      rcases confined.files _ identity here with new | before | ⟨-, other, from_, before⟩
      · exact absurd (plain.identity_lt old) (Nat.not_lt.mpr new)
      · exact alone identity before location old
      · obtain rfl := sole within other from_
        exact alone identity before location old
  · have old := (confined.elsewhere _ within).identityAt? here
    rcases confined.files location identity there with new | before | ⟨-, other, from_, before⟩
    · exact absurd (plain.identity_lt old) (Nat.not_lt.mpr new)
    · exact alone identity old location before
    · obtain rfl := alone identity old other before
      exact absurd from_ within

/-- A file in the place of the log is a log file. -/
theorem Owns.of_place (plain : disk.Plain) (sole : Sole directories base disk) {identity : Nat}
    (found : disk.identityAt? (directories.logPlace base) = some identity) :
    Owns directories base disk ⟨directories.logFile, identity⟩ where
  path := rfl
  identity_lt := plain.identity_lt found
  only := sole identity found

/-- The log file is written as a whole. -/
theorem writeFile_confined (plain : disk.Plain) (sole : Sole directories disk.workingDirectory disk)
    {bytes : Bytes} (written : disk.writeFile directories.logFile bytes = .ok after) :
    Confined (· = directories.logPlace disk.workingDirectory) (fun _ => False) disk after := by
  rw [writeFile] at written
  obtain ⟨⟨identity, opened⟩, opens, written⟩ := bind_eq_ok_iff.mp written
  cases written
  rcases openForWriting_destination plain.linkFree opens with
    ⟨here, rfl⟩ | ⟨above, name, place, vacant, held, rfl, rfl⟩
  · exact .modifyFile plain identity _ (sole identity here)
  · have same : above ++ [name] = placeOf disk.workingDirectory directories.data ++
        ["debug.log"] := place.symm.trans Directories.logPlace_eq
    obtain ⟨-, last⟩ := List.append_inj' same rfl
    obtain rfl := (List.cons.inj last).1
    have made : Confined (· = directories.logPlace disk.workingDirectory) (fun _ => False) disk _ :=
      .makeFile plain (by decide) vacant held place.symm fileMode []
    refine made.trans (.modifyFile made.plain _ _ fun location found => ?_)
    exact (plain.eq_of_fresh (by simp) found).trans place.symm

/-- Nothing but the place of the log and its directories has changed, and lines were appended. -/
structure Kept (directories : Directories) (base : Location) (lines : Bytes) (before after : Disk) :
    Prop where
  confined : Confined (· = directories.logPlace base) (directories.OnWay base) before after
  grows : Grows (directories.OnWay base (directories.logPlace base)) lines
    (before.get? (directories.logPlace base)) (after.get? (directories.logPlace base))

namespace Kept

theorem refl (plain : disk.Plain) : Kept directories base [] disk disk :=
  ⟨.refl plain, .same _⟩

theorem trans {made : Disk} (kept : Kept directories base early disk made)
    (further : Kept directories base late made after) :
    Kept directories base (early ++ late) disk after :=
  ⟨kept.confined.trans further.confined, kept.grows.trans further.grows⟩

end Kept

end Log

namespace Effect

open Log

/-- Opening the log file finds it in its place or puts an empty one there. -/
theorem openLogFile_kept (plain : world.disk.Plain) (there : world.disk.workingDirectory = base)
    (sole : Sole directories base world.disk) :
    ∃ opened disk, openLogFile directories.logFile world = (opened, world.setDisk disk) ∧
      Kept directories base [] world.disk disk ∧
      ∀ file ∈ opened, Owns directories base disk file := by
  subst there
  simp only [openLogFile, Stateful.bind_run, Stateful.get_run]
  cases opened : world.disk.openForWriting directories.logFile with
  | error error => exact ⟨none, world.disk, rfl, .refl plain, nofun⟩
  | ok found =>
      obtain ⟨identity, disk⟩ := found
      refine ⟨some ⟨directories.logFile, identity⟩, disk, rfl, ?_⟩
      rcases openForWriting_destination plain.linkFree opened with
        ⟨here, rfl⟩ | ⟨above, name, place, vacant, held, rfl, rfl⟩
      · refine ⟨.refl plain, fun file listed => ?_⟩
        cases listed
        exact .of_place plain sole here
      · have same : above ++ [name] = placeOf world.disk.workingDirectory directories.data ++
            ["debug.log"] := place.symm.trans Directories.logPlace_eq
        obtain ⟨-, last⟩ := List.append_inj' same rfl
        obtain rfl := (List.cons.inj last).1
        have confined : Confined (· = directories.logPlace world.disk.workingDirectory)
            (directories.OnWay world.disk.workingDirectory) world.disk _ :=
          .makeFile plain (by decide) vacant held place.symm fileMode []
        have some_ : above ++ ["debug.log"] ≠ [] := by simp
        have fresh := get?_putNewFile world.disk fileMode [] (above ++ ["debug.log"]) some_
        rw [if_pos rfl] at fresh
        rw [← place] at vacant fresh confined ⊢
        refine ⟨⟨confined, ?_⟩, fun file listed => ?_⟩
        · rw [Directories.logPlace, vacant, fresh]
          exact .begun _ []
        · cases listed
          have sole := sole.mono plain confined fun _ _ same => same
          exact .of_place confined.plain sole (identityAt?_eq_some_iff.mpr ⟨fileMode, [], fresh⟩)

/-- The log file is made anew at most. -/
theorem liveLogFile_kept (plain : world.disk.Plain) (there : world.disk.workingDirectory = base)
    (sole : Sole directories base world.disk) (owns : Owns directories base world.disk file) :
    ∃ live disk, liveLogFile file world = (live, world.setDisk disk) ∧
      Kept directories base [] world.disk disk ∧ ∀ file ∈ live, Owns directories base disk file := by
  rw [liveLogFile]
  simp only [Stateful.bind_run, Stateful.get_run, Stateful.ite_run]
  split
  · exact ⟨some file, world.disk, rfl, .refl plain, fun other listed => by cases listed; exact owns⟩
  · rw [owns.path]
    cases parts : Path.parent? directories.logFile with
    | none => exact openLogFile_kept plain there sole
    | some parent =>
        subst there
        have made : Confined (fun _ => False) (directories.OnWay world.disk.workingDirectory)
            world.disk (makeDirectories parent world.disk).2 :=
          .makeDirectories plain parent fun above listed some_ =>
            Directories.onWay_of_log parts listed some_
        have kept : Kept directories world.disk.workingDirectory [] world.disk
            (makeDirectories parent world.disk).2 :=
          ⟨made.mono (fun _ nowhere => nowhere.elim) fun _ on => on,
            .of_sparedAt (made.elsewhere _ not_false)⟩
        simp only [Stateful.bind_run, ofSteps_run]
        cases (makeDirectories parent world.disk).1 with
        | error error => exact ⟨none, _, rfl, kept, nofun⟩
        | ok done =>
            obtain ⟨live, disk, opened, more, owned⟩ := @openLogFile_kept directories _
              (world.setDisk (makeDirectories parent world.disk).2) made.plain
              made.workingDirectory (sole.mono plain made fun none => none.elim)
            exact ⟨live, disk, opened, kept.trans more, owned⟩

/-- A line goes to the log file where that still is. -/
theorem modifyLogFile_kept (plain : disk.Plain) (owns : Owns directories base disk file)
    (now : Int64) (record : Record) : ∃ written, written.Sublist [record] ∧
      Kept directories base (lines now written) disk
        (disk.modifyFile file.identity (· ++ Text.encode (logLine now record))) := by
  generalize line_eq : Text.encode (logLine now record) = line
  have confined : Confined (· = directories.logPlace base) (directories.OnWay base) disk
      (disk.modifyFile file.identity (· ++ line)) := .modifyFile plain _ _ owns.only
  have place := get?_modifyFile disk file.identity (· ++ line) (directories.logPlace base)
  by_cases here : disk.identityAt? (directories.logPlace base) = some file.identity
  · obtain ⟨mode, bytes, found⟩ := identityAt?_eq_some_iff.mp here
    refine ⟨[record], List.Sublist.refl _, confined, ?_⟩
    rw [place, found, Option.map_some, Node.alter, if_pos rfl, lines, List.flatMap_singleton,
      line_eq]
    exact .longer _ _ _ _
  · refine ⟨[], List.nil_sublist _, confined, ?_⟩
    rw [place]
    cases found : disk.get? (directories.logPlace base) with
    | none => exact .same _
    | some node =>
        rw [Option.map_some, Node.alter_of_ne]
        · exact .same _
        · rwa [identityAt?, found] at here

/-- What a record does when it is kept: at most its line is appended. -/
theorem appendToLogFile_kept (plain : world.disk.Plain)
    (there : world.disk.workingDirectory = base) (sole : Sole directories base world.disk)
    (owns : ∀ file, world.sink = .file file → Owns directories base world.disk file)
    (record : Record) : ∃ disk sink written,
      (appendToLogFile record world).2 = { world with disk := disk, sink := sink } ∧
      written.Sublist [record] ∧ Kept directories base (lines world.now written) world.disk disk ∧
      ∀ file, sink = .file file → Owns directories base disk file := by
  rw [appendToLogFile]
  simp only [Stateful.bind_run, Stateful.get_run]
  cases found : world.sink with
  | unset | host => exact ⟨world.disk, world.sink, [], rfl, List.nil_sublist _, .refl plain, owns⟩
  | file file =>
      obtain ⟨live, made, run, kept, owned⟩ := liveLogFile_kept plain there sole (owns file found)
      simp only [Stateful.bind_run, run]
      cases live with
      | none =>
          refine ⟨made, world.sink, [], rfl, List.nil_sublist _, kept, fun other same => ?_⟩
          exact (owns other same).mono kept.confined fun here _ same => same
      | some current =>
          have owns := owned current rfl
          obtain ⟨written, among, more⟩ :=
            modifyLogFile_kept kept.confined.plain owns world.now record
          refine ⟨_, .file current, written, rfl, among, kept.trans more, fun other same => ?_⟩
          cases same
          exact owns.mono more.confined fun _ _ same => same

/-- A record appends at most its line. -/
theorem log_kept (plain : world.disk.Plain) (there : world.disk.workingDirectory = base)
    (sole : Sole directories base world.disk)
    (owns : ∀ file, world.sink = .file file → Owns directories base world.disk file)
    (level : Level) (source : Source) (text : String) :
    ∃ disk sink noted written, (log level source text world).2 =
        { world with disk := disk, sink := sink, records := world.records ++ noted } ∧
      written.Sublist noted ∧ Kept directories base (lines world.now written) world.disk disk ∧
      ∀ file, sink = .file file → Owns directories base disk file := by
  simp only [log, Stateful.bind_run, Stateful.get_run, Stateful.ite_run]
  split
  · exact ⟨world.disk, world.sink, [], [], by simp, .slnil, .refl plain, owns⟩
  · obtain ⟨disk, sink, written, run, among, kept, owned⟩ := @appendToLogFile_kept directories base
      { world with records := world.records ++ [⟨level, source, text⟩] } plain there sole owns
      ⟨level, source, text⟩
    exact ⟨disk, sink, [⟨level, source, text⟩], written, run, among, kept, owned⟩

end Effect

end SelfUpdate
