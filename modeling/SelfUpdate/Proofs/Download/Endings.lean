import SelfUpdate.Proofs.Download.Courses
import SelfUpdate.Proofs.Download.Promotion

/-!
# What one transfer does

A transfer that nobody disturbs, in a directory that can be used, succeeds exactly when the stream is
accepted, and its result and the entries afterwards are known.
-/

namespace SelfUpdate.Transfer

variable {config : DownloadConfig} {update : Update} {answer : Answer StreamReply}
  {stage next : Stage} {disk after final : Disk} {result : Except (Halt DownloadError) Artifact}

/-! ## To the end -/

/-- How moves lead from a stage to the end. -/
inductive Ends (config : DownloadConfig) (update : Update) (answer : Answer StreamReply) :
    Stage → Disk → Except (Halt DownloadError) Artifact → Disk → Prop where
  | here (result : Except (Halt DownloadError) Artifact) (disk : Disk) :
      Ends config update answer (.ended result) disk result disk
  | move {stage next : Stage} {disk after final : Disk}
      {result : Except (Halt DownloadError) Artifact}
      (move : Move config update answer stage disk next after)
      (onward : Ends config update answer next after result final) :
      Ends config update answer stage disk result final

namespace Ends

theorem of_ended {early : Except (Halt DownloadError) Artifact}
    (ends : Ends config update answer (.ended early) disk result final) :
    result = early ∧ final = disk := by
  generalize same : Stage.ended early = stage at ends
  induction ends with
  | here result disk =>
      cases same
      exact ⟨rfl, rfl⟩
  | move move onward ih =>
      subst same
      cases move with
      | rest => exact ih rfl

theorem of_course {ticket : Nat} {first second : Stage} {early late : World}
    (course : Course config ticket update first early second late) (quiet : early.Quiet)
    (ends : Ends config update (early.network.stream early.requests update.url) second late.disk
      result final) :
    Ends config update (early.network.stream early.requests update.url) first early.disk result
      final := by
  induction course with
  | here => exact ends
  | next earlier ih => exact ih (.move (earlier.move quiet) ends)

/-- Running a transfer in a quiet world is making moves to the end. -/
theorem run (config : DownloadConfig) (ticket : Nat) (update : Update) {world : World}
    (quiet : world.Quiet) :
    Ends config update (world.network.stream world.requests update.url) .begun world.disk
      (run config ticket update world).1 (run config ticket update world).2.disk :=
  of_course (course_run _ _ _ quiet) quiet (.here _ _)

end Ends

/-! ## A directory that can be used -/

/-- What a slot needs of the directory in which it is: its names are legal, nothing has them, and the
path leads to a directory that can be written. -/
structure Blank (directory : Path) (home : Location) (name : String) (disk : Disk) : Prop where
  named : Path.isName name = true
  text : Disk.checkText (Path.join directory (name ++ stagingSuffix)) = .ok ()
  short : Disk.isTooLong (name ++ stagingSuffix) = false
  tree : disk.IsTree
  leads : disk.Leads directory home
  unsealed : disk.isSealed home = false
  unstaged : disk.get? (home ++ [name ++ stagingSuffix]) = none
  uncommitted : disk.get? (home ++ [name]) = none

/-- A disk on which the staging file has a content, and nothing else is new. -/
structure Staged (base : Disk) (home : Location) (name : String) (content : Bytes) (disk : Disk) :
    Prop where
  lookup : ∀ other, disk.get? other =
    if other = home ++ [name ++ stagingSuffix] then
      some (.file base.freshIdentity Disk.fileMode content)
    else base.get? other
  workingDirectory : disk.workingDirectory = base.workingDirectory
  sealedDirectories : disk.sealedDirectories = base.sealedDirectories

section

variable {base : Disk} {home : Location} {name : String} {content : Bytes}

namespace Blank

theorem isTooLong (blank : Blank config.directory home name base) : Disk.isTooLong name = false :=
  Slot.isTooLong_committed blank.short

theorem checkText (blank : Blank config.directory home name base) :
    Disk.checkText (Path.join config.directory name) = .ok () :=
  Slot.checkText_committed blank.named blank.text

/-- What is put at a blank place is in nobody's way. -/
theorem leads_of_lookup {directory : Path} (blank : Blank directory home name base) {place : Location}
    (vacant : base.get? place = none) {node : Node}
    (lookup : ∀ other, disk.get? other = if other = place then some node else base.get? other)
    (same : disk.workingDirectory = base.workingDirectory) : disk.Leads directory home := by
  refine blank.leads.mono (.of_lookups fun other old found _ => ?_) same
  rw [lookup, if_neg]
  · exact found
  · rintro rfl
    rw [vacant] at found
    cases found

end Blank

namespace Staged

theorem get?_staging (staged : Staged base home name content disk) :
    disk.get? (home ++ [name ++ stagingSuffix]) =
      some (.file base.freshIdentity Disk.fileMode content) := by
  rw [staged.lookup, if_pos rfl]

theorem leads (staged : Staged base home name content disk)
    (blank : Blank config.directory home name base) : disk.Leads config.directory home :=
  blank.leads_of_lookup blank.unstaged staged.lookup staged.workingDirectory

theorem isSealed (staged : Staged base home name content disk)
    (blank : Blank config.directory home name base) : disk.isSealed home = false := by
  rw [Disk.isSealed, staged.sealedDirectories]
  exact blank.unsealed

/-- Making the staging file. -/
theorem create (blank : Blank config.directory home name base) :
    Staged base home name [] (base.putNewFile (home ++ [name ++ stagingSuffix]) Disk.fileMode [])
    where
  lookup other := Disk.get?_putNewFile _ _ _ _ (by simp)
  workingDirectory := (Disk.Change.makeFile Disk.fileMode [] (by simp) blank.unstaged
    (by rw [List.dropLast_concat]; exact blank.leads.2)).workingDirectory
  sealedDirectories := (Disk.Change.makeFile Disk.fileMode [] (by simp) blank.unstaged
    (by rw [List.dropLast_concat]; exact blank.leads.2)).sealedDirectories

theorem overwrite_end (content bytes : Bytes) :
    Disk.overwrite content content.length bytes = content ++ bytes := by
  simp [Disk.overwrite]

/-- A chunk goes to the end of the staging file. -/
theorem write (blank : Blank config.directory home name base)
    (staged : Staged base home name content disk) (bytes : Bytes) :
    Staged base home name (content ++ bytes)
      (disk.write ⟨base.freshIdentity, content.length⟩ bytes).2 := by
  rw [Disk.write]
  split
  · rename_i empty
    rw [List.isEmpty_iff.mp empty, List.append_nil]
    exact staged
  · refine ⟨fun other => ?_, staged.workingDirectory, staged.sealedDirectories⟩
    rw [Disk.get?_modifyFile, staged.lookup]
    split
    · simp [Node.alter, overwrite_end]
    · -- no older file has the identity of the staging file
      cases found : base.get? other with
      | none => rfl
      | some node =>
          rw [Option.map_some, Node.alter_of_ne]
          intro same
          exact Nat.lt_irrefl _ (blank.tree.identity_lt found same)

theorem removeFile (blank : Blank config.directory home name base)
    (staged : Staged base home name content disk) :
    disk.removeFile (Path.join config.directory (name ++ stagingSuffix)) =
      .ok (disk.erase (home ++ [name ++ stagingSuffix])) := by
  rw [Disk.removeFile_join (Slot.isName_staging blank.named) blank.short blank.text
    (staged.leads blank), staged.get?_staging]
  simp [staged.isSealed blank, Node.isDirectory]

/-- Without its staging file the disk is as it was. -/
theorem get?_erase (blank : Blank config.directory home name base)
    (staged : Staged base home name content disk) (other : Location) :
    (disk.erase (home ++ [name ++ stagingSuffix])).get? other = base.get? other := by
  rw [Disk.get?_erase _ _ (by simp), staged.lookup]
  by_cases below : home ++ [name ++ stagingSuffix] <+: other
  · rw [if_pos below]
    by_cases here : other = home ++ [name ++ stagingSuffix]
    · rw [here, blank.unstaged]
    · rw [blank.tree.get?_below (Disk.IsOffWay.of_vacant blank.unstaged).1 below (Ne.symm here)]
  · rw [if_neg below, if_neg]
    rintro rfl
    exact below (List.prefix_refl _)

theorem holds_iff (blank : Blank config.directory home name base)
    (staged : Staged base home name content disk) {checksum : String} :
    Digest.Holds disk (Path.join config.directory (name ++ stagingSuffix)) checksum ↔
      Sha256.hexDigest content = checksum := by
  have read : disk.content? (Path.join config.directory (name ++ stagingSuffix)) =
      some content := by
    rw [Disk.content?_eq_some_iff, Disk.node?_join (Slot.isName_staging blank.named) blank.short
      blank.text (staged.leads blank) (by simp [staged.get?_staging])]
    exact ⟨_, _, staged.get?_staging⟩
  rw [Digest.Holds, read]
  constructor
  · rintro ⟨bytes, same, digest⟩
    rwa [Option.some.inj same]
  · intro digest
    exact ⟨content, rfl, digest⟩

theorem rename (blank : Blank config.directory home name base)
    (staged : Staged base home name content disk) :
    disk.rename (Path.join config.directory (name ++ stagingSuffix))
        (Path.join config.directory name) =
      .ok ((disk.erase (home ++ [name])).move (home ++ [name ++ stagingSuffix])
        (home ++ [name])) := by
  refine Disk.rename_join (Slot.isName_staging blank.named) blank.named blank.short
    blank.isTooLong blank.text blank.checkText (staged.leads blank) (Slot.staging_ne name)
    (staged.isSealed blank) staged.get?_staging rfl ?_
  rw [Disk.isDirectoryAt, staged.lookup, if_neg (by simp [(Slot.staging_ne name).symm]),
    blank.uncommitted]
  rfl

/-- After the promotion the content is at the committed name, and nothing else is new. -/
theorem get?_promoted (blank : Blank config.directory home name base)
    (staged : Staged base home name content disk) (other : Location) :
    ((disk.erase (home ++ [name])).move (home ++ [name ++ stagingSuffix])
        (home ++ [name])).get? other =
      if other = home ++ [name] then some (.file base.freshIdentity Disk.fileMode content)
      else base.get? other := by
  have differ := Slot.staging_ne name
  have nothing {place : Location} (vacant : base.get? place = none) {rest : Location}
      (below : place <+: rest) : base.get? rest = none := by
    by_cases here : place = rest
    · rwa [← here]
    · exact blank.tree.get?_below (Disk.IsOffWay.of_vacant vacant).1 below here
  rw [Disk.get?_erase_move _ _ (by simp) (by simp) (Disk.append_ne home differ)
    (Disk.append_ne home differ.symm)]
  by_cases here : other = home ++ [name]
  · rw [here, if_pos (List.prefix_refl _), if_pos rfl, List.drop_length, List.append_nil,
      staged.get?_staging]
  · rw [if_neg here]
    split
    · rename_i below
      obtain ⟨rest, rfl⟩ := below
      have deeper : rest ≠ [] := by simpa using here
      rw [List.drop_left, staged.lookup, if_neg (by simpa using deeper),
        nothing blank.unstaged (List.prefix_append _ _),
        nothing blank.uncommitted (List.prefix_append _ _)]
    · split
      · rename_i below
        rw [nothing blank.unstaged below]
      · rename_i outside
        rw [staged.lookup, if_neg]
        rintro rfl
        exact outside (List.prefix_refl _)

end Staged

/-! ## From each stage -/

/-- What became of a transfer whose stream has delivered a content. -/
def Outcome (config : DownloadConfig) (update : Update) (base : Disk) (home : Location)
    (name : String) (content : Bytes) (result : Except (Halt DownloadError) Artifact)
    (final : Disk) : Prop :=
  result = .ok (artifactOf (.named config.directory name) update content.length) ∧
    ∀ other, final.get? other =
      if other = home ++ [name] then some (.file base.freshIdentity Disk.fileMode content)
      else base.get? other

/-- What became of a transfer that failed. -/
def Failed (base : Disk) (result : Except (Halt DownloadError) Artifact) (final : Disk) : Prop :=
  (∃ error, result = .error (.failure error)) ∧ ∀ other, final.get? other = base.get? other

namespace Ends

theorem failing (blank : Blank config.directory home name base)
    (staged : Staged base home name content disk) {error : DownloadError}
    (ends : Ends config update answer (.failing (.named config.directory name) error) disk result
      final) :
    result = .error (.failure error) ∧ ∀ other, final.get? other = base.get? other := by
  have removed := staged.removeFile blank
  cases ends with
  | move move onward =>
      cases move with
      | discard cleared =>
          obtain ⟨rfl, rfl⟩ := onward.of_ended
          rcases cleared with gone | ⟨missing, -⟩
          · obtain rfl := Except.ok.inj (removed.symm.trans gone)
            exact ⟨rfl, staged.get?_erase blank⟩
          · cases removed.symm.trans missing
      | leave kept present => cases removed.symm.trans kept

theorem received (blank : Blank config.directory home name base)
    (staged : Staged base home name content disk)
    (ends : Ends config update answer
      (.received (.named config.directory name) content.length) disk result final) :
    Sha256.hexDigest content = update.checksum ∧
        Outcome config update base home name content result final ∨
      Sha256.hexDigest content ≠ update.checksum ∧ Failed base result final := by
  cases ends with
  | move move onward =>
      cases move with
      | reject differs =>
          obtain ⟨rfl, same⟩ := onward.failing blank staged
          exact .inr ⟨(staged.holds_iff blank).not.mp differs, ⟨_, rfl⟩, same⟩
      | accept holds =>
          left
          refine ⟨(staged.holds_iff blank).mp holds, ?_⟩
          cases onward with
          | move move onward =>
              have renamed := staged.rename blank
              cases move with
              | uncommitted refused => cases renamed.symm.trans refused
              | commit done =>
                  obtain rfl := Except.ok.inj (renamed.symm.trans done)
                  obtain ⟨rfl, rfl⟩ := onward.of_ended
                  exact ⟨rfl, staged.get?_promoted blank⟩

end Ends

/-! ## Streams -/

/-- An event of a stream that neither crashes nor is accompanied by others. -/
def isPlain : StreamEvent → Bool
  | .chunk _ => true
  | .failure _ => true
  | _ => false

/-- What comes completes a content that fits and has the digest. -/
def Completes (limit : Nat) (checksum : String) (content : Bytes) (events : List StreamEvent)
    (whole : Bytes) : Prop :=
  (∃ rest, StreamEvent.delivered events = (rest, none) ∧ whole = content ++ rest) ∧
    whole.length ≤ limit ∧ Sha256.hexDigest whole = checksum

theorem completes_chunk {limit : Nat} {checksum : String} {bytes whole : Bytes}
    {events : List StreamEvent} :
    Completes limit checksum content (.chunk bytes :: events) whole ↔
      Completes limit checksum (content ++ bytes) events whole := by
  simp only [Completes, StreamEvent.delivered]
  refine and_congr_left fun _ => ⟨?_, ?_⟩
  · rintro ⟨rest, same, rfl⟩
    obtain ⟨rfl, ended⟩ := Prod.mk.inj same
    exact ⟨(StreamEvent.delivered events).1, Prod.ext rfl ended, by simp⟩
  · rintro ⟨rest, same, rfl⟩
    exact ⟨bytes ++ rest, by rw [same], by simp⟩

theorem not_completes_failure {limit : Nat} {checksum : String} {whole : Bytes}
    {error : Network.Error} {events : List StreamEvent} :
    ¬ Completes limit checksum content (.failure error :: events) whole := by
  rintro ⟨⟨rest, same, -⟩, -⟩
  simp [StreamEvent.delivered] at same

theorem not_completes_long {limit : Nat} {checksum : String} {whole : Bytes}
    {events : List StreamEvent} (long : limit < content.length) :
    ¬ Completes limit checksum content events whole := by
  rintro ⟨⟨rest, -, rfl⟩, fits, -⟩
  rw [List.length_append] at fits
  omega

namespace Ends

theorem streaming (blank : Blank config.directory home name base)
    (staged : Staged base home name content disk) {total : Nat} {told : Option Nat}
    {events : List StreamEvent} (plain : ∀ event ∈ events, isPlain event = true)
    (fits : content.length ≤ config.limit.toNat)
    (ends : Ends config update answer (.streaming (.named config.directory name) total
      ⟨content.length, told, ⟨base.freshIdentity, content.length⟩⟩ events) disk result final) :
    (∃ whole, Completes config.limit.toNat update.checksum content events whole ∧
        Outcome config update base home name whole result final) ∨
      (∀ whole, ¬ Completes config.limit.toNat update.checksum content events whole) ∧
        Failed base result final := by
  induction events generalizing content disk told with
  | nil =>
      cases ends with
      | move move onward =>
          cases move with
          | finish =>
              have ends := onward.received blank staged
              have same (whole : Bytes) :
                  Completes config.limit.toNat update.checksum content [] whole ↔
                    whole = content ∧ Sha256.hexDigest content = update.checksum := by
                constructor
                · rintro ⟨⟨rest, ended, rfl⟩, -, digest⟩
                  cases ended
                  simpa using digest
                · rintro ⟨rfl, digest⟩
                  exact ⟨⟨[], rfl, by simp⟩, fits, digest⟩
              rcases ends with ⟨digest, outcome⟩ | ⟨differs, failed⟩
              · exact .inl ⟨content, (same content).mpr ⟨rfl, digest⟩, outcome⟩
              · exact .inr ⟨fun whole completes => differs ((same whole).mp completes).2, failed⟩
  | cons event events ih =>
      rw [List.forall_mem_cons] at plain
      cases ends with
      | move move onward =>
          cases move with
          | crash => cases plain.1
          | interfere => cases plain.1
          | breakOff =>
              obtain ⟨rfl, same⟩ := onward.failing blank staged
              exact .inr ⟨fun _ => not_completes_failure, ⟨_, rfl⟩, same⟩
          | overflow long =>
              obtain ⟨rfl, same⟩ := onward.failing blank staged
              refine .inr ⟨fun whole completes => ?_, ⟨_, rfl⟩, same⟩
              refine not_completes_long ?_ (completes_chunk.mp completes)
              rwa [List.length_append]
          | write within =>
              rw [← List.length_append] at within
              have ends := ih (staged.write blank _) plain.2 within
                (by simpa only [Disk.write, List.length_append] using onward)
              simpa only [completes_chunk] using ends

end Ends

/-- A reply whose stream is taken, and the content that it delivers. -/
def Accepted (limit : Nat) (checksum : String) (reply : StreamReply) (content : Bytes) : Prop :=
  ∃ length events, reply = .opened length events ∧
    (∀ announced, length = some announced → announced ≤ limit) ∧
    StreamEvent.delivered events = (content, none) ∧ content.length ≤ limit ∧
    Sha256.hexDigest content = checksum

/-- A reply that does not bring the transfer down, and with which others do nothing. -/
structure Undisturbed (answer : Answer StreamReply) : Prop where
  opening : answer.interference = []
  noCrash : answer.reply ≠ .crash
  plain : ∀ length events, answer.reply = .opened length events →
    ∀ event ∈ events, isPlain event = true

theorem accepted_opened {limit : Nat} {checksum : String} {length : Option Nat}
    {events : List StreamEvent}
    (short : ∀ announced, length = some announced → announced ≤ limit) :
    Accepted limit checksum (.opened length events) content ↔
      Completes limit checksum [] events content := by
  constructor
  · rintro ⟨_, _, same, -, delivered, fits, digest⟩
    cases same
    exact ⟨⟨content, delivered, rfl⟩, fits, digest⟩
  · rintro ⟨⟨rest, delivered, rfl⟩, fits, digest⟩
    exact ⟨length, events, rfl, short, delivered, fits, digest⟩

namespace Ends

theorem opened (blank : Blank config.directory home name base) {total : Nat}
    {events : List StreamEvent} (plain : ∀ event ∈ events, isPlain event = true)
    (ends : Ends config update answer (.opened (.named config.directory name) total events) base
      result final) :
    (∃ whole, Completes config.limit.toNat update.checksum [] events whole ∧
        Outcome config update base home name whole result final) ∨
      (∀ whole, ¬ Completes config.limit.toNat update.checksum [] events whole) ∧
        Failed base result final := by
  have created := Disk.createNew_join (Slot.isName_staging blank.named) blank.short blank.text
    blank.leads blank.unstaged
  rw [blank.unsealed, if_neg (by decide)] at created
  cases ends with
  | move move onward =>
      cases move with
      | uncreated refused => cases created.symm.trans refused
      | create made =>
          obtain ⟨rfl, rfl⟩ := Prod.mk.inj (Except.ok.inj (created.symm.trans made))
          exact onward.streaming blank (Staged.create blank) plain (Nat.zero_le _)

theorem emptied (blank : Blank config.directory home name base) (undisturbed : Undisturbed answer)
    (ends : Ends config update answer (.emptied (.named config.directory name)) base result
      final) :
    (∃ content, Accepted config.limit.toNat update.checksum answer.reply content ∧
        Outcome config update base home name content result final) ∨
      (∀ content, ¬ Accepted config.limit.toNat update.checksum answer.reply content) ∧
        Failed base result final := by
  have quiet : base.afterActions answer.interference = base := by
    rw [undisturbed.opening]
    rfl
  cases ends with
  | move move onward =>
      cases move with
      | collapse replied => exact absurd replied undisturbed.noCrash
      | unanswered replied =>
          rw [quiet] at onward
          obtain ⟨rfl, rfl⟩ := onward.of_ended
          refine .inr ⟨fun content accepted => ?_, ⟨_, rfl⟩, fun _ => rfl⟩
          obtain ⟨_, _, same, -⟩ := accepted
          cases replied.symm.trans same
      | refuse replied long =>
          rw [quiet] at onward
          obtain ⟨rfl, rfl⟩ := onward.of_ended
          refine .inr ⟨fun content accepted => ?_, ⟨_, rfl⟩, fun _ => rfl⟩
          obtain ⟨_, _, same, short, -⟩ := accepted
          cases replied.symm.trans same
          exact absurd (short _ rfl) (Nat.not_le.mpr long)
      | connect replied short =>
          rw [quiet] at onward
          simp only [replied, accepted_opened short]
          exact onward.opened blank (undisturbed.plain _ _ replied)

end Ends

/-! ## The whole transfer -/

/-- What is cleared is removed, and nothing keeps a file from being removed. -/
theorem removeFile_of_usable {entry : String} (named : Path.isName entry = true)
    (short : Disk.isTooLong entry = false)
    (text : Disk.checkText (Path.join config.directory entry) = .ok ())
    (tree : disk.IsTree) (leads : disk.Leads config.directory home)
    (unsealed : disk.isSealed home = false)
    (free : disk.isDirectoryAt (home ++ [entry]) = false) :
    (∀ after, Clears (Path.join config.directory entry) disk after →
        after = disk.erase (home ++ [entry])) ∧
      ∀ error, disk.removeFile (Path.join config.directory entry) = .error error →
        error = .notFound := by
  have removal := Disk.removeFile_join named short text leads
  cases found : disk.get? (home ++ [entry]) with
  | none =>
      rw [found] at removal
      refine ⟨fun after cleared => ?_, fun error kept => ?_⟩
      · rcases cleared with gone | ⟨-, rfl⟩
        · cases removal.symm.trans gone
        · exact (tree.erase_vacant (by simp) found).symm
      · cases removal.symm.trans kept
        rfl
  | some node =>
      rw [Disk.isDirectoryAt_of_get? found] at free
      simp only [found, unsealed, free, Bool.false_eq_true, if_false] at removal
      refine ⟨fun after cleared => ?_, fun error kept => ?_⟩
      · rcases cleared with gone | ⟨missing, -⟩
        · exact (Except.ok.inj (removal.symm.trans gone)).symm
        · cases removal.symm.trans missing
      · cases removal.symm.trans kept

/-- A disk without the two files of a slot. -/
def vacated (disk : Disk) (home : Location) (name : String) : Disk :=
  (disk.erase (home ++ [name ++ stagingSuffix])).erase (home ++ [name])

/-- What a transfer needs of the directory of its slot: the names of the slot are legal, no directory
has them, and once they are cleared the path still leads to a directory that can be written. -/
structure Usable (directory : Path) (home : Location) (name : String) (disk : Disk) : Prop where
  named : Path.isName name = true
  text : Disk.checkText (Path.join directory (name ++ stagingSuffix)) = .ok ()
  short : Disk.isTooLong (name ++ stagingSuffix) = false
  tree : disk.IsTree
  leads : (vacated disk home name).Leads directory home
  unsealed : disk.isSealed home = false
  stagingFree : disk.isDirectoryAt (home ++ [name ++ stagingSuffix]) = false
  committedFree : disk.isDirectoryAt (home ++ [name]) = false

namespace Usable

theorem get?_vacated (usable : Usable config.directory home name disk) (other : Location) :
    (vacated disk home name).get? other =
      if other = home ++ [name] ∨ other = home ++ [name ++ stagingSuffix] then none
      else disk.get? other := by
  have nothing {place : Location} (free : disk.isDirectoryAt place = false)
      (below : place <+: other) (proper : other ≠ place) : disk.get? other = none :=
    usable.tree.get?_below free below (Ne.symm proper)
  rw [vacated, Disk.get?_erase _ _ (by simp), Disk.get?_erase _ _ (by simp)]
  by_cases committed : other = home ++ [name]
  · subst committed
    simp
  · by_cases staging : other = home ++ [name ++ stagingSuffix]
    · subst staging
      simp
    · rw [if_neg (c := other = home ++ [name] ∨ _) (by simp [committed, staging])]
      split
      · exact (nothing usable.committedFree ‹_› committed).symm
      · split
        · exact (nothing usable.stagingFree ‹_› staging).symm
        · rfl

theorem blank (usable : Usable config.directory home name disk) :
    Blank config.directory home name (vacated disk home name) where
  named := usable.named
  text := usable.text
  short := usable.short
  tree := Disk.Change.isTree (.remove (by simp))
    (Disk.Change.isTree (.remove (by simp)) usable.tree)
  leads := usable.leads
  unsealed := usable.unsealed
  unstaged := by rw [usable.get?_vacated, if_pos (.inr rfl)]
  uncommitted := by rw [usable.get?_vacated, if_pos (.inl rfl)]

end Usable

theorem Ends.ready (usable : Usable config.directory home name disk)
    (undisturbed : Undisturbed answer)
    (ends : Ends config update answer (.ready (.named config.directory name)) disk result final) :
    (∃ content, Accepted config.limit.toNat update.checksum answer.reply content ∧
        Outcome config update (vacated disk home name) home name content result final) ∨
      (∀ content, ¬ Accepted config.limit.toNat update.checksum answer.reply content) ∧
        Failed (vacated disk home name) result final := by
  have ways := Disk.KeepsWays.of_erase (disk.erase (home ++ [name ++ stagingSuffix]))
    (show home ++ [name] ≠ [] by simp)
  have leads := usable.leads.mono ways rfl
  have first := leads.mono (Disk.KeepsWays.of_erase disk (by simp)) rfl
  obtain ⟨staging, stagingGone⟩ := removeFile_of_usable (Slot.isName_staging usable.named)
    usable.short usable.text usable.tree first usable.unsealed usable.stagingFree
  have free : (disk.erase (home ++ [name ++ stagingSuffix])).isDirectoryAt (home ++ [name]) =
      false := by
    rw [Disk.isDirectoryAt, Disk.get?_erase _ _ (by simp),
      if_neg (Disk.append_ne home (Slot.staging_ne name))]
    exact usable.committedFree
  obtain ⟨committed, committedGone⟩ := removeFile_of_usable usable.named
    (Slot.isTooLong_committed usable.short) (Slot.checkText_committed usable.named usable.text)
    (Disk.Change.isTree (.remove (by simp)) usable.tree) leads usable.unsealed free
  cases ends with
  | move move onward =>
      cases move with
      | keepStaging kept present => exact absurd (stagingGone _ kept) present
      | clearStaging cleared =>
          obtain rfl := staging _ cleared
          cases onward with
          | move move onward =>
              cases move with
              | keepCommitted kept present => exact absurd (committedGone _ kept) present
              | clearCommitted cleared =>
                  obtain rfl := committed _ cleared
                  exact onward.emptied usable.blank undisturbed

end

end SelfUpdate.Transfer
