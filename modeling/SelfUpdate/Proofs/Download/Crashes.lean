import SelfUpdate.Proofs.Download.Remains

/-!
# What a crash leaves

When a stream crashes, nobody discards the staging file. It stays with all that was delivered, while
the same stream, broken off with an error, leaves nothing.
-/

namespace SelfUpdate

namespace Transfer

variable {config : DownloadConfig} {update : Update} {answer : Answer StreamReply} {slot : Slot}
  {disk final : Disk} {result : Except (Halt DownloadError) Artifact}

namespace Ends

/-- The chunks that come before a crash are taken in, when they fit. -/
theorem crashed {chunks : List Bytes} {rest : List StreamEvent} {total : Nat} {status : Status}
    (fits : status.downloaded + chunks.flatten.length ≤ config.limit.toNat)
    (ends : Ends config update answer
      (.streaming slot total status (chunks.map .chunk ++ .crash :: rest)) disk result final) :
    result = .error .crash := by
  induction chunks generalizing status disk with
  | nil =>
      cases ends with
      | move move onward =>
          cases move with
          | crash => exact onward.of_ended.1
  | cons chunk chunks ih =>
      rw [List.flatten_cons, List.length_append, ← Nat.add_assoc] at fits
      cases ends with
      | move move onward =>
          cases move with
          | write within => exact ih fits onward
          | overflow long => omega

theorem crashed_opened {chunks : List Bytes} {rest : List StreamEvent} {total : Nat}
    {made : Disk.Handle × Disk}
    (ends : Ends config update answer
      (.opened slot total (chunks.map .chunk ++ .crash :: rest)) disk result final)
    (fits : chunks.flatten.length ≤ config.limit.toNat)
    (creatable : disk.createNew slot.staging = .ok made) : result = .error .crash := by
  cases ends with
  | move move onward =>
      cases move with
      | uncreated refused => cases creatable.symm.trans refused
      | create => exact onward.crashed (by rwa [Nat.zero_add])

end Ends

end Transfer

namespace Downloader

/-- No transfer fails of itself with the error of a worker. -/
theorem crash_of_aborted {config : DownloadConfig} {ticket : Nat} {update : Update} {start : World}
    {halt : Halt DownloadError} {worker name : String}
    (ran : (Transfer.run config ticket update start).1 = .error halt)
    (answered : (.error (.worker (.aborted worker)) : Except DownloadError DownloadOutput) =
      answerTo name (.error halt)) : halt = .crash := by
  cases halt with
  | crash => rfl
  | failure error =>
      cases answered
      exact absurd (.unworked _) (Transfer.run_avoids update.checked _ _ start _ ran)

/-- What a download leaves whose stream crashes, from where the jobs before it have run and with nobody
else at the disk. Nothing is at the committed path. When the crash comes as the stream is asked for,
nothing is at the staging path either. When it comes later, the staging file stays and holds the chunks
that came before. After an error of the network the slot is empty, wherever the error comes. -/
theorem crashed_fetch_leaves (downloader : Downloader) (note : DownloadOutput → Effect Unit)
    (update : Update) (others : List DownloadJob) (world start : World) (slot : Slot)
    (error : DownloadError) (orderly : downloader.worker.Orderly)
    (before : (downloader.settle note world).2 = start) (quiet : start.Quiet)
    (tree : start.disk.IsTree)
    (alone : (start.network.stream start.requests update.url).Alone)
    (own : Transfer.slotOf downloader.config update = .ok slot)
    (failed : (downloader.fetch note update others world).1 = .error error) :
    let reply := (start.network.stream start.requests update.url).reply
    let after := downloader.diskAnswering update start
    (others = [] → (downloader.fetch note update others world).2.disk = after) ∧
      (∀ worker, error = .worker (.aborted worker) →
        after.node? slot.committed = none ∧
          (reply = .crash ∧ after.node? slot.staging = none ∨
            ∃ (length : Option Nat) (chunks : List Bytes) (rest : List StreamEvent),
              reply = .opened length (chunks.map .chunk ++ .crash :: rest) ∧
                after.content? slot.staging = some chunks.flatten)) ∧
      (∀ broken, error = .transfer broken →
        after.node? slot.committed = none ∧ after.node? slot.staging = none) := by
  intro reply after
  constructor
  · rintro rfl
    exact disk_fetch orderly before quiet failed
  cases accepting : downloader.worker.accepting with
  | false =>
      cases (fetch_refused orderly accepting).symm.trans failed
      exact ⟨nofun, nofun⟩
  | true =>
      obtain ⟨halt, ran, answered, remains⟩ :=
        fetch_remains orderly accepting before quiet tree alone own failed
      constructor
      · rintro worker rfl
        obtain rfl := crash_of_aborted ran answered
        rcases remains with ⟨early, same, -⟩ | remnant
        · cases same
        · cases remnant with
          | unopened replied empty => exact ⟨empty.committed, .inl ⟨replied, empty.staging⟩⟩
          | stranded replied committed staging =>
              exact ⟨committed, .inr ⟨_, _, _, replied, staging⟩⟩
      · rintro broken rfl
        rcases remains with ⟨early, rfl, premature, -⟩ | remnant
        · cases answered
          cases premature
        · cases remnant with
          | discarded late empty => exact ⟨empty.committed, empty.staging⟩
          | unopened | stranded => cases answered

open Transfer (singleOctet worldOf smallDownloader bareDisk slotOf_small)

/-- A stream that delivers a chunk and then crashes. -/
def crashing : Answer StreamReply := ⟨[], .opened none [.chunk [7], .crash]⟩

theorem crashing_alone : crashing.Alone where
  opening := rfl
  streaming length events replied actions listed := by
    cases replied
    simp at listed

theorem crashing_chunks {length : Option Nat} {chunks : List Bytes} {rest : List StreamEvent}
    (replied : crashing.reply = .opened length (chunks.map .chunk ++ .crash :: rest)) :
    chunks.flatten = [7] := by
  rcases chunks with _ | ⟨first, _ | ⟨second, chunks⟩⟩
  · cases replied
  · cases replied
    rfl
  · cases replied

theorem fetch_crashing :
    (smallDownloader.fetch (fun _ => pure ()) (singleOctet "1" (by decide)) []
      (worldOf bareDisk crashing)).1 = .error (.worker (.aborted name)) := by
  obtain ⟨asking, course, made, creatable⟩ := Transfer.bareDisk_asks crashing
  have quiet : (worldOf bareDisk crashing).Quiet := rfl
  have replied : crashing.reply = .opened none ([[7]].map .chunk ++ .crash :: []) := rfl
  have opened := (course.onward quiet).connected rfl replied nofun
  have crashed := opened.crashed_opened (by decide) creatable
  exact (fetch_answer (.new _) rfl _ [] _).trans (congrArg _ crashed)

/-- The chunk stays at the staging path. -/
theorem crashed_fetch_leaves_chunk :
    let fetched := smallDownloader.fetch (fun _ => pure ()) (singleOctet "1" (by decide)) []
      (worldOf bareDisk crashing)
    fetched.1 = .error (.worker (.aborted name)) ∧
      fetched.2.disk.node? "updates/a-1" = none ∧
      fetched.2.disk.content? "updates/a-1.tmp" = some [7] := by
  intro fetched
  obtain ⟨disk, aborted, -⟩ := crashed_fetch_leaves smallDownloader (fun _ => pure ())
    (singleOctet "1" (by decide)) [] (worldOf bareDisk crashing) _ _ _ (.new _) rfl rfl
    Transfer.bareDisk_isTree crashing_alone slotOf_small fetch_crashing
  obtain ⟨committed, left⟩ := aborted _ rfl
  refine ⟨fetch_crashing, (congrArg (Disk.node? · "updates/a-1") (disk rfl)).trans committed, ?_⟩
  rw [show fetched.2.disk = _ from disk rfl]
  rcases left with ⟨replied, -⟩ | ⟨length, chunks, rest, replied, staging⟩
  · cases replied
  · rw [crashing_chunks replied] at staging
    exact staging

/-- A download that was aborted need not leave its slot empty. -/
theorem crashed_fetch_litters :
    let update := singleOctet "1" (by decide)
    let fetched := smallDownloader.fetch (fun _ => pure ()) update [] (worldOf bareDisk crashing)
    Transfer.slotOf smallDownloader.config update = .ok ⟨"updates/a-1.tmp", "updates/a-1"⟩ ∧
      bareDisk.isDirectoryAt ["updates", "a-1.tmp"] = false ∧
      bareDisk.isDirectoryAt ["updates", "a-1"] = false ∧
      fetched.1 = .error (.worker (.aborted name)) ∧
      fetched.2.disk.isFile "updates/a-1.tmp" = true := by
  intro update fetched
  refine ⟨slotOf_small, by decide, by decide, fetch_crashing, ?_⟩
  have quiet : (worldOf bareDisk crashing).Quiet := rfl
  have before : (smallDownloader.settle (fun _ => pure ()) (worldOf bareDisk crashing)).2 =
      worldOf bareDisk crashing := rfl
  obtain ⟨halt, ran, answered, remains⟩ := fetch_remains (.new _) rfl before quiet
    Transfer.bareDisk_isTree crashing_alone slotOf_small fetch_crashing
  obtain rfl := crash_of_aborted ran answered
  rw [show fetched.2.disk = _ from disk_fetch (.new _) before quiet fetch_crashing]
  rcases remains with ⟨early, same, -⟩ | remnant
  · cases same
  · cases remnant with
    | unopened replied => cases replied
    | stranded replied committed staging =>
        obtain ⟨identity, mode, found⟩ := Disk.content?_eq_some_iff.mp staging
        exact Disk.isFile_iff.mpr ⟨identity, mode, _, found⟩

end Downloader

end SelfUpdate
