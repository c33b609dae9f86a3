import SelfUpdate.Directories
import SelfUpdate.Proofs.Disk.Parents

/-!
# The layout of the directories

Whatever paths the directories of the updater have, the log lies beside the download directory, and
neither it nor any other file of the updater is an entry of that directory.
-/

namespace SelfUpdate

namespace Path

variable {path parent name other : String}

theorem ancestorsWithin_mono {fuel more : Nat} (enough : fuel ≤ more) (path : Path) :
    ancestorsWithin fuel path ⊆ ancestorsWithin more path := by
  induction fuel generalizing more path with
  | zero => exact fun _ listed => absurd listed List.not_mem_nil
  | succ fuel ih =>
      cases more with
      | zero => exact absurd enough (Nat.not_succ_le_zero fuel)
      | succ more =>
          rw [ancestorsWithin, ancestorsWithin]
          cases parent? path with
          | none => exact List.Subset.refl _
          | some parent =>
              exact List.cons_subset_cons path (ih (Nat.le_of_succ_le_succ enough) parent)

/-- What is above a parent is above the path. -/
theorem ancestors_parent_subset (above : parent? path = some parent) :
    ancestors parent ⊆ ancestors path := by
  have shorter := length_parent above
  have unfolded : ancestors path = path :: ancestorsWithin path.length parent := by
    rw [ancestors, ancestorsWithin, above]
  rw [unfolded]
  exact fun upper listed =>
    List.mem_cons_of_mem _ (ancestorsWithin_mono (Nat.succ_le_of_lt shorter) parent listed)

end Path

theorem Disk.placeOf_join (base : Location) (directory : Path) {name : String}
    (named : Path.isName name = true) :
    placeOf base (Path.join directory name) = placeOf base directory ++ [name] := by
  rw [← destination_eq_placeOf, destination_join _ _ named]

namespace Directories

open Disk

/-- Directories below one root, or where the environment of a user puts them. -/
inductive Standard : Directories → Prop where
  | rooted (root : Path) : Standard (rootedAt root)
  | environment (environment : Environment) : Standard (ofEnvironment environment)

/-- The files in which the updater keeps what it knows. -/
def stateFiles (directories : Directories) : List Path :=
  [directories.settingsFile, directories.policyFile, directories.lastReleaseFile]

section

variable (directories : Directories) (base : Location)

/-- Where the entries of the download directory lie, when no link is on its path. -/
def InDownloads (location : Location) : Prop :=
  ∃ name, location = placeOf base directories.downloads ++ [name]

/-- Where the download directory and those above it lie, or would lie. -/
def OnWay (location : Location) : Prop :=
  ∃ above ∈ Path.ancestors directories.downloads, above ≠ "" ∧ location = destination base above

def logPlace : Location := destination base directories.logFile

end

variable {directories : Directories} {base location : Location} {name : String}

theorem logPlace_eq : directories.logPlace base = placeOf base directories.data ++ ["debug.log"] :=
  destination_join base _ (by decide)

theorem inDownloads_iff : directories.InDownloads base location ↔
    ∃ name, location = placeOf base directories.data ++ ["updates"] ++ [name] := by
  rw [InDownloads, downloads, placeOf_join base _ (by decide)]

/-- A file beside the download directory is not in it. -/
theorem not_inDownloads_beside (named : Path.isName name = true) :
    ¬ directories.InDownloads base (destination base (Path.join directories.data name)) := by
  rw [inDownloads_iff, destination_join base _ named]
  rintro ⟨other, same⟩
  have length := congrArg List.length same
  simp at length

theorem logPlace_not_inDownloads : ¬ directories.InDownloads base (directories.logPlace base) :=
  not_inDownloads_beside (by decide)

/-- What is above the log is above the download directory. -/
theorem onWay_of_log {parent above : Path} (parts : Path.parent? directories.logFile = some parent)
    (listed : above ∈ Path.ancestors parent) (some_ : above ≠ "") :
    directories.OnWay base (destination base above) := by
  have beside : Path.isName "updates" = true := by decide
  rw [logFile, Path.parent?_join_congr directories.data (by decide) beside] at parts
  exact ⟨above, Path.ancestors_parent_subset parts listed, some_, rfl⟩

namespace Standard

theorem config (standard : directories.Standard) : ∃ above name, Path.isName name = true ∧
    name ≠ "updates" ∧ directories.config = Path.join above name := by
  cases standard with
  | rooted root => exact ⟨root, "config", by decide, by decide, rfl⟩
  | environment environment => exact ⟨_, applicationName, by decide, by decide, rfl⟩

theorem cache (standard : directories.Standard) : ∃ above name, Path.isName name = true ∧
    name ≠ "updates" ∧ directories.cache = Path.join above name := by
  cases standard with
  | rooted root => exact ⟨root, "cache", by decide, by decide, rfl⟩
  | environment environment => exact ⟨_, applicationName, by decide, by decide, rfl⟩

/-- In a directory that is not named like the download directory is none of its entries. -/
theorem not_inDownloads_join {above : Path} {folder : String} (named : Path.isName folder = true)
    (differ : folder ≠ "updates") (fileNamed : Path.isName name = true) :
    ¬ directories.InDownloads base
      (destination base (Path.join (Path.join above folder) name)) := by
  rw [inDownloads_iff, destination_join base _ fileNamed, placeOf_join base _ named]
  rintro ⟨other, same⟩
  obtain ⟨upper, -⟩ := List.append_inj' same rfl
  obtain ⟨-, last⟩ := List.append_inj' upper rfl
  exact differ (List.cons.inj last).1

theorem not_inDownloads (standard : directories.Standard) {file : Path}
    (listed : file ∈ directories.stateFiles) :
    ¬ directories.InDownloads base (destination base file) := by
  simp only [stateFiles, List.mem_cons, List.not_mem_nil, or_false] at listed
  rcases listed with rfl | rfl | rfl
  · obtain ⟨above, folder, named, differ, config⟩ := standard.config
    rw [settingsFile, config]
    exact not_inDownloads_join named differ (by decide)
  · exact not_inDownloads_beside (by decide)
  · obtain ⟨above, folder, named, differ, cache⟩ := standard.cache
    rw [lastReleaseFile, cache]
    exact not_inDownloads_join named differ (by decide)

end Standard

/-- The files of the updater have names of their own. -/
theorem ne_logPlace {file : Path} (listed : file ∈ directories.stateFiles) :
    destination base file ≠ directories.logPlace base := by
  have differ {directory : Path} {name : String} (named : Path.isName name = true)
      (other : name ≠ "debug.log") :
      destination base (Path.join directory name) ≠ directories.logPlace base := by
    rw [logPlace_eq, destination_join base _ named]
    intro same
    obtain ⟨-, last⟩ := List.append_inj' same rfl
    exact other (List.cons.inj last).1
  simp only [stateFiles, List.mem_cons, List.not_mem_nil, or_false] at listed
  rcases listed with rfl | rfl | rfl
  · exact differ (by decide) (by decide)
  · exact differ (by decide) (by decide)
  · exact differ (by decide) (by decide)

end Directories

end SelfUpdate
