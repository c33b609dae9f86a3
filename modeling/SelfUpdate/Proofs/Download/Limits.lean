import Mathlib.Data.List.Infix
import SelfUpdate.Proofs.Disk.Sizes
import SelfUpdate.Proofs.Download.Refusals
import SelfUpdate.Proofs.Download.Specification

/-!
# The size limit

No file that a download makes is ever longer than the limit. A stream is refused as soon as it is
known to be longer: when more is advertised, or else with the first chunk that does not fit any more.
-/

namespace SelfUpdate

namespace Transfer

variable {config : DownloadConfig} {ticket : Nat} {update : Update} {answer : Answer StreamReply}
  {stage next : Stage} {slot : Slot} {disk after final : Disk} {world asking : World}
  {result : Except (Halt DownloadError) Artifact} {limit since : Nat}

/-! ## What is never exceeded -/

/-- The staging file is about to be made, or it is written. -/
def Stage.isStaging : Stage → Bool
  | .opened _ _ _ => true
  | .streaming _ _ _ _ => true
  | _ => false

theorem Clears.oldFiles {path : Path} (cleared : Clears path disk after) :
    Disk.OldFiles disk after := by
  rcases cleared with removed | ⟨-, rfl⟩
  · exact .removeFile removed
  · exact .refl _

/-- A file is made while the stream comes, and at no other time. -/
theorem Move.oldFiles (alone : answer.Alone) (aside : stage.isStaging = false)
    (move : Move config update answer stage disk next after) : Disk.OldFiles disk after := by
  cases move with
  | create | uncreated | write | overflow | breakOff | crash | interfere | finish => cases aside
  | barred named made | prepare named made =>
      have digs := Disk.makeDirectories_digs config.directory disk
      rw [made] at digs
      exact .of_digs digs
  | clearStaging cleared | clearCommitted cleared | discard cleared => exact cleared.oldFiles
  | connect | refuse | unanswered | collapse =>
      rw [alone.opening]
      exact .refl _
  | commit renamed => exact .rename renamed
  | unnamed | keepStaging | keepCommitted | accept | reject | uncommitted | leave | rest =>
      exact .refl _

theorem Move.solitary (alone : answer.Alone)
    (coming : ∀ actions, StreamEvent.interference actions ∉ stage.events)
    (move : Move config update answer stage disk next after) :
    ∀ actions, StreamEvent.interference actions ∉ next.events := by
  cases move with
  | connect replied short => exact alone.streaming _ _ replied
  | create made => exact coming
  | write fits => exact fun actions listed => coming actions (List.mem_cons_of_mem _ listed)
  | interfere => exact absurd List.mem_cons_self (coming _)
  | _ => exact fun actions => List.not_mem_nil

/-- What is known of the file that is received. -/
def Receiving (disk : Disk) : Stage → Prop
  | .streaming _ _ status _ => status.handle.position = status.downloaded ∧
      disk.SizeLe status.handle.identity status.downloaded
  | _ => True

/-- What holds at every stage of a transfer: no file that was made since is longer than the limit.
While a file is received, it is as long as what has come. -/
structure Bounded (limit since : Nat) (stage : Stage) (disk : Disk) : Prop where
  tree : disk.IsTree
  alone : ∀ actions, StreamEvent.interference actions ∉ stage.events
  new : ∀ identity, since ≤ identity → disk.SizeLe identity limit
  receiving : Receiving disk stage

theorem Bounded.move (alone : answer.Alone)
    (bounded : Bounded config.limit.toNat since stage disk)
    (move : Move config update answer stage disk next after) :
    Bounded config.limit.toNat since next after := by
  have harmless : Harmless stage.events := fun actions listed =>
    absurd listed (bounded.alone actions)
  have tree := (move.changes alone.harmless harmless).1.isTree bounded.tree
  have solitary := move.solitary alone bounded.alone
  have kept (old : Disk.OldFiles disk after) (identity : Nat) (late : since ≤ identity) :
      after.SizeLe identity config.limit.toNat :=
    .of_oldFiles old (bounded.new identity late)
  have aside := move.oldFiles alone
  cases move with
  | create made =>
      have empty : after.SizeLe disk.freshIdentity 0 :=
        .createNew made (.of_fresh bounded.tree (Nat.le_refl _) 0)
      obtain ⟨place, -, -, rfl, -⟩ := Disk.createNew_eq_ok made
      exact ⟨tree, solitary, fun identity late => .createNew made (bounded.new identity late), rfl,
        empty⟩
  | @write _ slot total status bytes events told fits =>
      -- the file that is received is as long as what has come, and that still fits
      obtain ⟨position, short⟩ := bounded.receiving
      rw [← position] at short
      have grown := short.write bytes
      rw [position] at grown
      refine ⟨tree, solitary, fun identity late => ?_, congrArg (· + bytes.length) position, grown⟩
      by_cases same : identity = status.handle.identity
      · rw [same]
        exact grown.mono fits
      · exact .write_aside same (bounded.new identity late) bytes
  | interfere => exact absurd List.mem_cons_self (bounded.alone _)
  | uncreated | overflow | breakOff | crash | finish =>
      exact ⟨tree, solitary, bounded.new, trivial⟩
  | _ => exact ⟨tree, solitary, kept (aside rfl), trivial⟩

theorem Course.bounded (course : Course config ticket update .begun world stage asking)
    (quiet : world.Quiet) (tree : world.disk.IsTree)
    (alone : (world.network.stream world.requests update.url).Alone) :
    Bounded config.limit.toNat world.disk.freshIdentity stage asking.disk := by
  induction course with
  | here =>
      exact ⟨tree, fun actions => List.not_mem_nil, fun identity late => .of_fresh tree late _,
        trivial⟩
  | next earlier ih => exact ih.move alone (earlier.move quiet)

/-! ## Advertised lengths -/

theorem Move.unopened {announced : Nat} {events : List StreamEvent}
    (replied : answer.reply = .opened (some announced) events)
    (long : config.limit.toNat < announced) (aside : stage.isStaging = false)
    (move : Move config update answer stage disk next after) : next.isStaging = false := by
  cases move with
  | connect again short =>
      cases replied.symm.trans again
      exact absurd (short _ rfl) (Nat.not_le.mpr long)
  | create | uncreated | write | overflow | breakOff | crash | interfere | finish => cases aside
  | _ => rfl

/-- When too much is advertised no file is made. -/
theorem Course.oldFiles {announced : Nat} {events : List StreamEvent}
    (course : Course config ticket update .begun world stage asking) (quiet : world.Quiet)
    (alone : (world.network.stream world.requests update.url).Alone)
    (replied : (world.network.stream world.requests update.url).reply =
      .opened (some announced) events)
    (long : config.limit.toNat < announced) :
    stage.isStaging = false ∧ Disk.OldFiles world.disk asking.disk := by
  induction course with
  | here => exact ⟨rfl, .refl _⟩
  | next earlier ih =>
      have move := earlier.move quiet
      exact ⟨move.unopened replied long ih.1, ih.2.trans (move.oldFiles alone ih.1)⟩

theorem Clears.vacant {directory : Path} {name : String} (named : Path.isName name = true)
    (cleared : Clears (Path.join directory name) disk after) :
    after.Vacant (Path.join directory name) := by
  rcases cleared with removed | ⟨missing, rfl⟩
  · exact .of_removeFile (Path.getLast?_join _ named) removed
  · exact .of_missing named missing

theorem Clears.vacant_aside {directory path : Path} {name : String} (named : Path.isName name = true)
    (vacant : disk.Vacant (Path.join directory name)) (cleared : Clears path disk after) :
    after.Vacant (Path.join directory name) := by
  rcases cleared with removed | ⟨-, rfl⟩
  · exact .removeFile_aside (Path.getLast?_join _ named) vacant removed
  · exact vacant

/-- Nothing is at the staging path of a slot that was emptied. -/
def Cleared (disk : Disk) : Stage → Prop
  | .halfEmptied slot => disk.Vacant slot.staging
  | .emptied slot => disk.Vacant slot.staging
  | _ => True

theorem Move.cleared
    (known : ∀ slot, stage.slot? = some slot → slotOf config update = .ok slot)
    (cleared : Cleared disk stage) (move : Move config update answer stage disk next after) :
    Cleared after next := by
  cases move with
  | clearStaging removal =>
      obtain ⟨name, named, rfl⟩ := Slot.ofVersion_eq_ok (known _ rfl)
      exact removal.vacant (Slot.isName_staging named)
  | clearCommitted removal =>
      obtain ⟨name, named, rfl⟩ := Slot.ofVersion_eq_ok (known _ rfl)
      exact removal.vacant_aside (Slot.isName_staging named) cleared
  | rest => exact cleared
  | _ => trivial

theorem Course.cleared (course : Course config ticket update .begun world stage asking)
    (quiet : world.Quiet) :
    (∀ slot, stage.slot? = some slot → slotOf config update = .ok slot) ∧
      Cleared asking.disk stage := by
  induction course with
  | here => exact ⟨nofun, trivial⟩
  | next earlier ih =>
      have move := earlier.move quiet
      exact ⟨move.slot ih.1, move.cleared ih.1 ih.2⟩

/-! ## Streams that are too long -/

/-- The shortest prefix of the chunks that is longer than the limit. -/
structure FirstExcess (limit : Nat) (chunks short : List Bytes) : Prop where
  start : short <+: chunks
  long : limit < short.flatten.length
  least : ∀ other, other <+: chunks → limit < other.flatten.length → short <+: other

/-- The chunk with which a stream becomes too long. -/
theorem exists_excess {chunks : List Bytes} (long : limit < chunks.flatten.length) :
    ∃ before last after, chunks = before ++ last :: after ∧ before.flatten.length ≤ limit ∧
      limit < before.flatten.length + last.length := by
  -- from the back: the last chunk is the one, unless those before it are too long already
  induction chunks using List.reverseRecOn with
  | nil => cases long
  | append_singleton chunks last ih =>
      by_cases sooner : limit < chunks.flatten.length
      · obtain ⟨before, first, after, rfl, fits, exceeds⟩ := ih sooner
        exact ⟨before, first, after ++ [last], by simp, fits, exceeds⟩
      · rw [List.flatten_concat, List.length_append] at long
        exact ⟨chunks, last, [], rfl, Nat.not_lt.mp sooner, long⟩

theorem FirstExcess.of_split {before after : List Bytes} {last : Bytes}
    (fits : before.flatten.length ≤ limit) (exceeds : limit < before.flatten.length + last.length) :
    FirstExcess limit (before ++ last :: after) (before ++ [last]) where
  start := ⟨after, by simp⟩
  long := by rwa [List.flatten_concat, List.length_append]
  least other within long := by
    have start : before ++ [last] <+: before ++ last :: after := ⟨after, by simp⟩
    -- a prefix that does not go beyond the others lacks the last chunk
    rcases List.prefix_or_prefix_of_prefix start within with longer | shorter
    · exact longer
    · rcases List.prefix_concat_iff.mp shorter with rfl | earlier
      · exact List.prefix_refl _
      · exact absurd ((List.IsPrefix.flatten earlier).length_le.trans fits) (Nat.not_le.mpr long)

namespace Ends

/-- The chunks that fit are taken in, and then the stream is refused. -/
theorem exceeded {before : List Bytes} {last : Bytes} {rest : List StreamEvent} {total : Nat}
    {status : Status} (fits : status.downloaded + before.flatten.length ≤ config.limit.toNat)
    (exceeds : config.limit.toNat < status.downloaded + before.flatten.length + last.length)
    (ends : Ends config update answer
      (.streaming slot total status (before.map .chunk ++ .chunk last :: rest)) disk result
      final) :
    result = .error (.failure (.tooLarge
      (status.downloaded + before.flatten.length + last.length) config.limit.toNat)) := by
  induction before generalizing status disk with
  | nil =>
      cases ends with
      | move move onward =>
          cases move with
          | write within => exact absurd within (Nat.not_le.mpr exceeds)
          | overflow long => exact onward.of_failing
  | cons chunk before ih =>
      simp only [List.flatten_cons, List.length_append, ← Nat.add_assoc] at fits exceeds ⊢
      cases ends with
      | move move onward =>
          cases move with
          | write within => exact ih fits exceeds onward
          | overflow long => omega

theorem refused {announced : Nat} {events : List StreamEvent}
    (ends : Ends config update answer (.emptied slot) disk result final) (alone : answer.Alone)
    (replied : answer.reply = .opened (some announced) events)
    (long : config.limit.toNat < announced) :
    result = .error (.failure (.tooLarge announced config.limit.toNat)) ∧ final = disk := by
  cases ends with
  | move move onward =>
      cases move with
      | collapse again => cases replied.symm.trans again
      | unanswered again => cases replied.symm.trans again
      | connect again short =>
          cases replied.symm.trans again
          exact absurd (short _ rfl) (Nat.not_le.mpr long)
      | refuse again _ =>
          cases replied.symm.trans again
          rw [alone.opening] at onward
          exact onward.of_ended

/-- A stream that is opened is refused with the first excess of its chunks. -/
theorem excessive {total : Nat} {chunks : List Bytes} {rest : List StreamEvent}
    {made : Disk.Handle × Disk}
    (ends : Ends config update answer (.opened slot total (chunks.map .chunk ++ rest)) disk result
      final)
    (long : config.limit.toNat < chunks.flatten.length)
    (creatable : disk.createNew slot.staging = .ok made) :
    ∃ excess, FirstExcess config.limit.toNat chunks excess ∧
      result = .error (.failure (.tooLarge excess.flatten.length config.limit.toNat)) := by
  obtain ⟨before, last, after, rfl, fits, exceeds⟩ := exists_excess long
  refine ⟨before ++ [last], .of_split fits exceeds, ?_⟩
  rw [List.map_append, List.map_cons, List.append_assoc, List.cons_append] at ends
  cases ends with
  | move move onward =>
      cases move with
      | uncreated kept => cases creatable.symm.trans kept
      | create _ =>
          have refused := onward.exceeded (by rwa [Nat.zero_add]) (by rwa [Nat.zero_add])
          rwa [Nat.zero_add, ← List.length_append, ← List.flatten_concat] at refused

end Ends

/-! ## Streams that fit -/

/-- What is still to come fits. -/
def Fits (limit : Nat) : Stage → Prop
  | .opened _ _ events => (StreamEvent.delivered events).1.length ≤ limit
  | .streaming _ _ status events =>
    status.downloaded + (StreamEvent.delivered events).1.length ≤ limit
  | .failing _ error => ∀ size bound, error ≠ .tooLarge size bound
  | .ended result => ∀ size bound, result ≠ .error (.failure (.tooLarge size bound))
  | _ => True

theorem Move.fits
    (short : ∀ length events, answer.reply = .opened length events →
      (∀ announced, length = some announced → announced ≤ config.limit.toNat) ∧
        (StreamEvent.delivered events).1.length ≤ config.limit.toNat)
    (fits : Fits config.limit.toNat stage)
    (move : Move config update answer stage disk next after) : Fits config.limit.toNat next := by
  cases move with
  | unnamed refused =>
      rintro size bound ⟨⟩
      rw [Slot.ofVersion] at refused
      split at refused <;> cases refused
  | refuse replied long => exact absurd ((short _ _ replied).1 _ rfl) (Nat.not_le.mpr long)
  | connect replied _ => exact (short _ _ replied).2
  | create => simpa only [Fits, Nat.zero_add] using fits
  | write =>
      simpa only [Fits, StreamEvent.delivered, List.length_append, Nat.add_assoc] using fits
  | overflow long =>
      simp only [Fits, StreamEvent.delivered, List.length_append] at fits
      omega
  | interfere => exact fits
  | discard | leave =>
      rintro size bound ⟨⟩
      exact fits size bound rfl
  | rest => exact fits
  | prepare | clearStaging | clearCommitted | finish | accept => trivial
  | _ => rintro size bound ⟨⟩

theorem Course.fits (course : Course config ticket update .begun world stage asking)
    (quiet : world.Quiet)
    (short : ∀ length events,
      (world.network.stream world.requests update.url).reply = .opened length events →
      (∀ announced, length = some announced → announced ≤ config.limit.toNat) ∧
        (StreamEvent.delivered events).1.length ≤ config.limit.toNat) :
    Fits config.limit.toNat stage := by
  induction course with
  | here => trivial
  | next earlier ih => exact (earlier.move quiet).fits short ih

end Transfer

namespace Downloader

variable {downloader : Downloader} {update : Update} {world : World}

/-- What a transfer brings forth. -/
def outputOf : Except (Halt DownloadError) Artifact → Option (Except DownloadError DownloadOutput)
  | .ok artifact => some (.ok (.fetched artifact))
  | .error (.failure error) => some (.error error)
  | .error .crash => none

/-- What is answered to the one who asked for it. -/
def answerTo (worker : String) :
    Except (Halt DownloadError) Artifact → Except DownloadError DownloadOutput
  | .ok artifact => .ok (.fetched artifact)
  | .error (.failure error) => .error error
  | .error .crash => .error (.worker (.aborted worker))

theorem runJob_output (note : DownloadOutput → Effect Unit) (ticket : Nat) :
    (downloader.runJob note ticket (.fetch update) world).1 =
      outputOf (Transfer.run downloader.config ticket update world).1 := by
  have ran : (downloader.run ticket (.fetch update) world).1 =
      (Transfer.run downloader.config ticket update world).1.map .fetched := by
    rw [run, Failing.map_run]
  rw [outputOf_runJob, Effect.outputOf, Stateful.bind_run]
  simp only [ExceptT.run, ran]
  rcases (Transfer.run downloader.config ticket update world).1 with (error | _) | artifact <;> rfl

/-- A fetch is answered with what its transfer comes to, which starts when the jobs before it have
run. -/
theorem fetch_answer (orderly : downloader.worker.Orderly)
    (accepting : downloader.worker.accepting = true) (note : DownloadOutput → Effect Unit)
    (others : List DownloadJob) (world : World) :
    (downloader.fetch note update others world).1 =
      answerTo downloader.worker.name
        (Transfer.run downloader.config downloader.worker.next update
          (downloader.settle note world).2).1 := by
  have start : (downloader.settle note world).2 =
      (Worker.settle (downloader.runJob note) downloader.worker world).2 := rfl
  rw [fetch_run, Worker.answer?_accepted orderly accepting, runJob_output, start]
  rcases (Transfer.run downloader.config downloader.worker.next update
    (Worker.settle (downloader.runJob note) downloader.worker world).2).1 with
    (error | _) | artifact <;> rfl

/-- What is answered with an error, unless it is one of the worker, the transfer failed with. -/
theorem eq_of_answerTo {worker : String} {result : Except (Halt DownloadError) Artifact}
    {error : DownloadError} (answered : answerTo worker result = .error error)
    (own : ∀ reason, error ≠ .worker reason) : result = .error (.failure error) := by
  rcases result with (other | _) | artifact
  · cases answered
    rfl
  · cases answered
    exact absurd rfl (own _)
  · cases answered

end Downloader

namespace Transfer

/-- The size limit of a download that nobody disturbs, from where the jobs before it have run.
Whatever is advertised and however the stream is cut into chunks, at every moment every file that was
made since is at most as long as the limit. When more is advertised no file is made at all, a file
that was left at the staging path is removed, and the download fails with what was advertised. When
less or nothing is advertised, but the chunks together are longer, it fails with the length of the
shortest prefix of them that is too long, provided that the staging file can be made. When they are
not longer, it does not fail for its size. -/
theorem size_limit (downloader : Downloader) (note : DownloadOutput → Effect Unit)
    (update : Update) (others : List DownloadJob) (world start : World)
    (orderly : downloader.worker.Orderly) (accepting : downloader.worker.accepting = true)
    (before : (downloader.settle note world).2 = start) (quiet : start.Quiet)
    (tree : start.disk.IsTree)
    (alone : (start.network.stream start.requests update.url).Alone) :
    let limit := downloader.config.limit.toNat
    let reply := (start.network.stream start.requests update.url).reply
    let result := (downloader.fetch note update others world).1
    let final := (run downloader.config downloader.worker.next update start).2.disk
    let comes := Course downloader.config downloader.worker.next update .begun start
    (∀ stage moment, comes stage moment → ∀ identity, start.disk.freshIdentity ≤ identity →
        moment.disk.SizeLe identity limit) ∧
      (∀ announced events, reply = .opened (some announced) events → limit < announced →
        (∀ stage moment, comes stage moment → Disk.OldFiles start.disk moment.disk) ∧
          ∀ slot asking, comes (.emptied slot) asking →
            result = .error (.tooLarge announced limit) ∧ final.Vacant slot.staging) ∧
      ∀ length events, reply = .opened length events →
        (∀ announced, length = some announced → announced ≤ limit) →
        (∀ chunks rest, events = chunks.map .chunk ++ rest → limit < chunks.flatten.length →
          ∀ slot asking made, comes (.emptied slot) asking →
            asking.disk.createNew slot.staging = .ok made →
            ∃ excess, FirstExcess limit chunks excess ∧
              result = .error (.tooLarge excess.flatten.length limit)) ∧
          ((StreamEvent.delivered events).1.length ≤ limit →
            ∀ size bound, result ≠ .error (.tooLarge size bound)) := by
  intro limit reply result final comes
  have answer : result = Downloader.answerTo downloader.worker.name
      (run downloader.config downloader.worker.next update start).1 := by
    rw [← before]
    exact Downloader.fetch_answer orderly accepting note others world
  refine ⟨fun stage moment course => (course.bounded quiet tree alone).new, ?_, ?_⟩
  · intro announced events replied long
    refine ⟨fun stage moment course => (course.oldFiles quiet alone replied long).2, ?_⟩
    intro slot asking course
    obtain ⟨failed, same⟩ := (course.onward quiet).refused alone replied long
    refine ⟨answer.trans (congrArg _ failed), ?_⟩
    have disk : final = asking.disk := same
    rw [disk]
    exact (course.cleared quiet).2
  · intro length events replied short
    constructor
    · rintro chunks rest rfl long slot asking made course creatable
      have opened := (course.onward quiet).connected alone.opening replied short
      obtain ⟨excess, first, failed⟩ := opened.excessive long creatable
      exact ⟨excess, first, answer.trans (congrArg _ failed)⟩
    · intro fits size bound failed
      have course := course_run downloader.config downloader.worker.next update quiet
      have ended := course.fits quiet fun other coming again => by
        cases replied.symm.trans again
        exact ⟨short, fits⟩
      exact ended size bound (Downloader.eq_of_answerTo (answer.symm.trans failed) nofun)

/-- An answer that advertises two octets. -/
def twoAdvertised : Answer StreamReply := ⟨[], .opened (some 2) [.chunk [7]]⟩

/-- An answer that advertises nothing and brings three octets, one after another. -/
def threeChunks : Answer StreamReply := ⟨[], .opened none [.chunk [7], .chunk [7], .chunk [7]]⟩

theorem twoAdvertised_alone : twoAdvertised.Alone where
  opening := rfl
  streaming length events replied actions listed := by
    cases replied
    simp at listed

theorem threeChunks_alone : threeChunks.Alone where
  opening := rfl
  streaming length events replied actions listed := by
    cases replied
    simp at listed

theorem slotOf_small : slotOf smallDownloader.config (singleOctet "1" (by decide)) =
    .ok ⟨"updates/a-1.tmp", "updates/a-1"⟩ := by
  decide

theorem bareDisk_asks (answer : Answer StreamReply) :
    ∃ asking, Course smallDownloader.config smallDownloader.worker.next
        (singleOctet "1" (by decide)) .begun (worldOf bareDisk answer)
        (.emptied ⟨"updates/a-1.tmp", "updates/a-1"⟩) asking ∧
      ∃ made, asking.disk.createNew "updates/a-1.tmp" = .ok made := by
  have leads : bareDisk.Leads "updates" ["updates"] :=
    .of_name (by decide) (by decide) rfl (by decide)
  have creatable := Disk.makeDirectories_of_leads isName_kept leads (by decide)
  have staging := Disk.removeFile_join isName_staged (by decide) (by decide) leads
  have committed := Disk.removeFile_join isName_kept (by decide) (by decide) leads
  have made := Disk.createNew_join isName_staged (by decide) (by decide) leads (by decide)
  have quiet : (worldOf bareDisk answer).Quiet := rfl
  obtain ⟨asking, course, same⟩ := Course.to_emptied smallDownloader.worker.next quiet
    slotOf_small creatable (.inr ⟨staging, rfl⟩) (.inr ⟨committed, rfl⟩)
  exact ⟨asking, course, _, by rw [same]; exact made⟩

/-- Two octets are too many when one is the limit, whether they are advertised or come. -/
theorem size_limit_oneOctet :
    (smallDownloader.fetch (fun _ => pure ()) (singleOctet "1" (by decide)) []
        (worldOf bareDisk twoAdvertised)).1 = .error (.tooLarge 2 1) ∧
      (smallDownloader.fetch (fun _ => pure ()) (singleOctet "1" (by decide)) []
        (worldOf bareDisk threeChunks)).1 = .error (.tooLarge 2 1) := by
  constructor
  · obtain ⟨asking, course, -⟩ := bareDisk_asks twoAdvertised
    have limited := size_limit smallDownloader (fun _ => pure ()) (singleOctet "1" (by decide)) []
      (worldOf bareDisk twoAdvertised) _ (.new _) rfl rfl rfl bareDisk_isTree twoAdvertised_alone
    exact ((limited.2.1 2 _ rfl (by decide)).2 _ asking course).1
  · obtain ⟨asking, course, made, creatable⟩ := bareDisk_asks threeChunks
    have limited := size_limit smallDownloader (fun _ => pure ()) (singleOctet "1" (by decide)) []
      (worldOf bareDisk threeChunks) _ (.new _) rfl rfl rfl bareDisk_isTree threeChunks_alone
    obtain ⟨excess, first, refused⟩ := (limited.2.2 none _ rfl nofun).1 [[7], [7], [7]] [] rfl
      (by decide) _ asking made course creatable
    have within := first.least [[7], [7]] ⟨[[7]], rfl⟩ (by decide)
    have two : excess.flatten.length = 2 :=
      Nat.le_antisymm (List.IsPrefix.flatten within).length_le first.long
    rw [two] at refused
    exact refused

/-! ## Slots that cannot be used -/

/-- A transfer fails when what is at the staging path cannot be removed. -/
theorem Ends.obstructed {made : Disk} {error : IoError}
    (ends : Ends config update answer .begun disk result final)
    (own : slotOf config update = .ok slot)
    (creatable : Disk.makeDirectories config.directory disk = (.ok (), made))
    (kept : made.removeFile slot.staging = .error error) (present : error ≠ .notFound) :
    result = .error (.failure (.io .removePrevious slot.staging error)) := by
  cases ends with
  | move move ends =>
  cases move with
  | unnamed absent => cases own.symm.trans absent
  | barred _ barred => cases congrArg Prod.fst (creatable.symm.trans barred)
  | prepare named prepared =>
  obtain rfl := Except.ok.inj (own.symm.trans named)
  obtain rfl := congrArg Prod.snd (creatable.symm.trans prepared)
  cases ends with
  | move move ends =>
  cases move with
  | clearStaging cleared => exact absurd (cleared.not_kept kept) present
  | keepStaging again _ =>
      obtain rfl := Except.error.inj (kept.symm.trans again)
      exact ends.of_ended.1

/-- A directory stands at the staging path. -/
def obstructedUpdates : Disk where
  entries := [(["updates"], .directory Disk.directoryMode),
    (["updates", "a-1.tmp"], .directory Disk.directoryMode)]
  freshIdentity := 0
  workingDirectory := []
  sealedDirectories := []

/-- A download whose stream is too long need not fail for its size: it may not come to open the
stream, or it may not be able to make the staging file. -/
theorem size_limit_thwarted :
    let update := singleOctet "1" (by decide)
    let result := fun disk answer =>
      (smallDownloader.fetch (fun _ => pure ()) update [] (worldOf disk answer)).1
    twoAdvertised.Alone ∧ threeChunks.Alone ∧ obstructedUpdates.IsTree ∧ selfCrossing.IsTree ∧
      smallDownloader.config.limit.toNat = 1 ∧
      result obstructedUpdates twoAdvertised =
        .error (.io .removePrevious "updates/a-1.tmp" .isADirectory) ∧
      result selfCrossing threeChunks =
        .error (.io .createStaging "updates/a-1.tmp" .notFound) := by
  intro update result
  have answered (disk : Disk) (answer : Answer StreamReply) :=
    @Downloader.fetch_answer smallDownloader update (.new _) rfl (fun _ => pure ()) []
      (worldOf disk answer)
  refine ⟨twoAdvertised_alone, threeChunks_alone, .of_entries (by decide) (by decide),
    .of_entries (by decide) (by decide), rfl, ?_, ?_⟩
  · have leads : obstructedUpdates.Leads "updates" ["updates"] :=
      .of_name (by decide) (by decide) rfl (by decide)
    have creatable := Disk.makeDirectories_of_leads isName_kept leads (by decide)
    have kept := Disk.removeFile_join isName_staged (by decide) (by decide) leads
    have quiet : (worldOf obstructedUpdates twoAdvertised).Quiet := rfl
    have ends := Ends.run smallDownloader.config smallDownloader.worker.next update quiet
    have failed := ends.obstructed slotOf_small creatable kept nofun
    exact (answered _ _).trans (congrArg _ failed)
  · have quiet : (worldOf selfCrossing threeChunks).Quiet := rfl
    obtain ⟨asking, course, same⟩ := Course.to_emptied smallDownloader.worker.next quiet
      slotOf_small selfCrossing_creatable (.inl selfCrossing_removed)
      (.inr ⟨selfCrossing_gone, rfl⟩)
    have refused : asking.disk.createNew "updates/a-1.tmp" = .error .notFound := by
      rw [same]
      exact selfCrossing_refused
    have opened := (course.onward quiet).connected rfl rfl nofun
    exact (answered _ _).trans (congrArg _ (opened.blocked refused))

end Transfer

end SelfUpdate
