import Mathlib.Logic.Relation
import SelfUpdate.Proofs.Check.Provenance
import SelfUpdate.Proofs.Download.Requests
import SelfUpdate.Proofs.Manager.Installs
import SelfUpdate.Proofs.Manager.Requests

/-!
# No insecure request is made

A journal of a manager names its checks and what each job asked of the network. Whatever the manager
is asked for, in whatever order, and whatever the servers answer, all that was asked is in the journal
and went to a secure address. A check asks twice at most, the second time for the checksum that a
release publishes beside its artifact.
-/

namespace SelfUpdate

namespace Check

variable {network : Network} {earlier asked : List Request} {now : Int64} {endpoint : String}
  {offer : Except (Halt CheckError) Update}

/-- What a check of an endpoint may ask for, and what it knows when it asks a second time. -/
inductive Inquires (network : Network) (earlier : List Request) (endpoint : String) :
    List Request → Prop where
  | nothing : Inquires network earlier endpoint []
  | document (secure : Url.isSecure endpoint = true) :
      Inquires network earlier endpoint [.text endpoint]
  | checksum {body : String} {release : Release.Hosted} {code : UInt32}
      {artifact asset : Release.Asset} (secure : Url.isSecure endpoint = true)
      (replied : (network.text earlier endpoint).reply = .body body)
      (parsed : Release.Document.parse body = .ok (.hosted release))
      (coded : Release.codeOfVersion release.version = .ok code)
      (artifactSecure : Url.isSecure artifact.url = true)
      (published : release.Publishes artifact asset)
      (assetSecure : Url.isSecure asset.url = true) :
      Inquires network earlier endpoint [.text endpoint, .text asset.url]

theorem Inquires.secure (inquires : Inquires network earlier endpoint asked) :
    ∀ request ∈ asked, Url.isSecure request.url = true := by
  cases inquires with
  | nothing => nofun
  | document secure =>
      intro request listed
      cases List.mem_singleton.mp listed
      exact secure
  | checksum secure _ _ _ _ _ assetSecure =>
      intro request listed
      rcases List.mem_pair.mp listed with rfl | rfl
      · exact secure
      · exact assetSecure

theorem Seeks.asks {release : Release.Hosted} {artifact : Release.Asset}
    {found : Except (Halt CheckError) String}
    (sought : Seeks network earlier release artifact asked found) :
    asked = [] ∨ ∃ asset, release.checksumAsset? artifact = some asset ∧
      Url.isSecure asset.url = true ∧ asked = [.text asset.url] := by
  cases sought with
  | insecure | digest | unpublished => exact .inl rfl
  | unanswered listed secure | unusable listed secure | document listed secure =>
      exact .inr ⟨_, listed, secure, rfl⟩

theorem Hosts.asks {release : Release.Hosted} (hosts : Hosts network earlier now release asked offer) :
    asked = [] ∨ ∃ artifact asset, Eligible release artifact ∧
      release.checksumAsset? artifact = some asset ∧ Url.isSecure asset.url = true ∧
      asked = [.text asset.url] := by
  cases hosts with
  | uncoded | bare | insecure => exact .inl rfl
  | unverifiable eligible sought | verifiable eligible sought =>
      exact sought.asks.imp_right fun ⟨asset, listed⟩ => ⟨_, asset, eligible, listed⟩

theorem Offers.inquires (offers : Offers network earlier now endpoint asked offer) :
    Inquires network earlier endpoint asked := by
  cases offers with
  | insecure => exact .nothing
  | unanswered secure | unreadable secure | native secure => exact .document secure
  | hosted secure replied parsed hosts =>
      rcases hosts.asks with rfl | ⟨artifact, asset, eligible, listed, assetSecure, rfl⟩
      · exact .document secure
      · obtain ⟨code, coded⟩ := eligible.coded
        have published := (Release.Hosted.checksumAsset?_eq_some_iff eligible.first).mp listed
        exact .checksum secure (textOf_eq_ok_iff.mp replied) parsed coded eligible.secure published
          assetSecure

end Check

namespace Manager

/-- A job that a worker of a manager has run. -/
structure Errand where
  ticket : Nat
  job : CheckJob ⊕ DownloadJob
  /-- The world in which the job began. -/
  world : World
  asked : List Request

/-- The number and the endpoint of a check. -/
def Errand.check? (errand : Errand) : Option (Nat × String) :=
  errand.job.getLeft?.map fun job => (errand.ticket, job.endpoint)

/-- What a job may ask for. -/
def Errand.Asks (errand : Errand) : Prop :=
  match errand.job with
  | .inl job => Check.Inquires errand.world.network errand.world.requests job.endpoint errand.asked
  | .inr job => Downloader.Asks job errand.asked

theorem Errand.Asks.secure {errand : Errand} (asks : errand.Asks) :
    ∀ request ∈ errand.asked, Url.isSecure request.url = true := by
  obtain ⟨ticket, job | job, world, asked⟩ := errand
  · exact Check.Inquires.secure asks
  · rcases asks with rfl | ⟨update, rfl, secure, rfl⟩
    · nofun
    · intro request listed
      cases List.mem_singleton.mp listed
      exact secure

/-- A manager, the checks that it began and the jobs that its workers have run, the oldest first. -/
structure Journal where
  manager : Manager
  world : World
  /-- The number of each check, with the address where the manager looked for updates then. -/
  checks : List (Nat × String)
  errands : List Errand

namespace Journal

/-- The journal of a manager that has just started; a cleanup meets the entries of its directory in
some order. -/
def opening (manager : Manager) (arrange : List Path → List Path) (world : World) : Journal :=
  ⟨{ manager with downloader := { manager.downloader with arrange := arrange } }, world, [], []⟩

/-- All that was asked by jobs. -/
def asked (journal : Journal) : List Request := journal.errands.flatMap Errand.asked

/-- The journal once a call was begun. -/
def begin (journal : Journal) (call : Call) : Journal :=
  let ((pending, manager), world) := call.begin journal.manager journal.world
  { journal with
    manager := manager
    world := world
    checks := journal.checks ++
      (pending.check?.map fun ticket => (ticket, journal.manager.effectiveUrl)).toList }

/-- The journal once a job has run that left a world behind. -/
def enter (journal : Journal) (ticket : Nat) (job : CheckJob ⊕ DownloadJob) (manager : Manager)
    (world : World) : Journal :=
  { journal with
    manager := manager
    world := world
    errands := journal.errands ++
      [⟨ticket, job, journal.world, world.requests.drop journal.world.requests.length⟩] }

/-- The journal once the checker has done a job. -/
def check (journal : Journal) (ticket : Nat) (job : CheckJob) : Journal :=
  let (checker, world) := Worker.runSome Checker.runJob 1 journal.manager.checker journal.world
  journal.enter ticket (.inl job) { journal.manager with checker := checker } world

/-- The journal once the downloader has done a job. -/
def download (journal : Journal) (ticket : Nat) (job : DownloadJob) : Journal :=
  let downloader := journal.manager.downloader
  let (worker, world) := Worker.runSome (downloader.runJob noteOutput) 1 downloader.worker
    journal.world
  journal.enter ticket (.inr job)
    { journal.manager with downloader := { downloader with worker := worker } } world

end Journal

/-- What can happen to a manager. Others may change anything but what was asked. -/
inductive Proceeds : Journal → Journal → Prop where
  | call {journal : Journal} (call : Call) : Proceeds journal (journal.begin call)
  | check {journal : Journal} {ticket : Nat} {job : CheckJob} {queue : List (Nat × CheckJob)}
      (queued : journal.manager.checker.queue = (ticket, job) :: queue) :
      Proceeds journal (journal.check ticket job)
  | download {journal : Journal} {ticket : Nat} {job : DownloadJob}
      {queue : List (Nat × DownloadJob)}
      (queued : journal.manager.downloader.worker.queue = (ticket, job) :: queue) :
      Proceeds journal (journal.download ticket job)
  | others {journal : Journal} {world : World} (requests : world.requests = journal.world.requests) :
      Proceeds journal { journal with world := world }

abbrev Proceedings : Journal → Journal → Prop := Relation.ReflTransGen Proceeds

/-! ## What every journal shows -/

/-- Checks run in the order in which they were begun, each at most once, and what was asked is what
the jobs asked. -/
structure Journal.Sound (before : List Request) (journal : Journal) : Prop where
  checker : journal.manager.checker.Orderly
  downloads : journal.manager.downloader.worker.running = none
  numbered : (journal.checks.map Prod.fst).Pairwise (· < ·)
  given : ∀ check ∈ journal.checks, check.1 < journal.manager.checker.next
  sequence : (journal.errands.filterMap Errand.check? ++
    journal.manager.checker.queue.map fun entry => (entry.1, entry.2.endpoint)).Sublist
      journal.checks
  requests : journal.world.requests = before ++ journal.asked
  errands : ∀ errand ∈ journal.errands, errand.Asks

namespace Journal.Sound

variable {before : List Request} {journal : Journal}

theorem begin (sound : journal.Sound before) (call : Call) : (journal.begin call).Sound before := by
  obtain ⟨checker, downloads, numbered, given, sequence, requests, errands⟩ := sound
  have begun := begin_begun call journal.manager journal.world
  have silent := (begin_silent call journal.manager journal.world).trans requests
  rw [Journal.begin]
  generalize call.begin journal.manager journal.world = ran at begun silent ⊢
  obtain ⟨⟨pending, after⟩, world⟩ := ran
  dsimp only at begun silent ⊢
  generalize pending.check? = number at begun ⊢
  cases begun with
  | nothing same worker =>
      rw [Option.map_none, Option.toList_none, List.append_nil]
      exact ⟨same ▸ checker, worker ▸ downloads, numbered, same ▸ given, same ▸ sequence, silent,
        errands⟩
  | job same worker =>
      rw [Option.map_none, Option.toList_none, List.append_nil]
      refine ⟨same ▸ checker, ?_, numbered, same ▸ given, same ▸ sequence, silent, errands⟩
      rw [worker]
      exact (Worker.follows_submit _ _).running.trans downloads
  | closed same worker =>
      rw [Option.map_none, Option.toList_none, List.append_nil]
      refine ⟨same ▸ checker.shutDown, ?_, numbered, ?_, ?_, silent, errands⟩
      · rw [worker]
        exact downloads
      · rw [same]
        exact given
      · rw [same]
        exact sequence
  | check submitted worker =>
      rw [Option.map_some, Option.toList_some]
      refine ⟨submitted ▸ checker.submit _, worker ▸ downloads, ?_, ?_, ?_, silent, errands⟩
      · rw [List.map_append, List.pairwise_append]
        refine ⟨numbered, List.pairwise_singleton _ _, ?_⟩
        rintro number listed _ fresh
        obtain ⟨earlier, known, rfl⟩ := List.mem_map.mp listed
        cases List.mem_singleton.mp fresh
        exact given earlier known
      · rw [submitted, Worker.submit_next]
        intro check listed
        rcases List.mem_append.mp listed with old | new
        · exact Nat.lt_succ_of_lt (given check old)
        · cases List.mem_singleton.mp new
          exact Nat.lt_succ_self _
      · rw [submitted]
        cases accepting : journal.manager.checker.accepting with
        | true =>
            rw [Worker.submit_accepted accepting, List.map_append, ← List.append_assoc]
            exact sequence.append (List.Sublist.refl _)
        | false =>
            rw [Worker.submit_refused accepting]
            exact sequence.trans (List.sublist_append_left _ _)

/-- A job was done, and asked what it may. -/
theorem enter {ticket : Nat} {job : CheckJob ⊕ DownloadJob} {manager : Manager} {world : World}
    {asked : List Request} (sound : journal.Sound before) (checker : manager.checker.Orderly)
    (downloads : manager.downloader.worker.running = none)
    (next : manager.checker.next = journal.manager.checker.next)
    (sequence : (Errand.check? ⟨ticket, job, journal.world, asked⟩).toList ++
        manager.checker.queue.map (fun entry => (entry.1, entry.2.endpoint)) =
      journal.manager.checker.queue.map fun entry => (entry.1, entry.2.endpoint))
    (requests : world.requests = journal.world.requests ++ asked)
    (asks : Errand.Asks ⟨ticket, job, journal.world, asked⟩) :
    (journal.enter ticket job manager world).Sound before := by
  have dropped : world.requests.drop journal.world.requests.length = asked := by
    rw [requests, List.drop_left]
  rw [Journal.enter, dropped]
  refine ⟨checker, downloads, sound.numbered, next ▸ sound.given, ?_, ?_, ?_⟩
  · have same := sound.sequence
    rw [← sequence, ← List.append_assoc] at same
    rw [List.filterMap_append]
    exact same
  · rw [requests, sound.requests]
    simp [Journal.asked]
  · intro errand listed
    rcases List.mem_append.mp listed with old | new
    · exact sound.errands errand old
    · cases List.mem_singleton.mp new
      exact asks

theorem check {ticket : Nat} {job : CheckJob} {queue : List (Nat × CheckJob)}
    (sound : journal.Sound before)
    (queued : journal.manager.checker.queue = (ticket, job) :: queue) :
    (journal.check ticket job).Sound before := by
  have orderly : (Worker.runSome Checker.runJob 1 journal.manager.checker journal.world).1.Orderly :=
    sound.checker.runSome 1 journal.world
  obtain ⟨asked, offer, queried, offers, -⟩ := Check.runJob_offers ticket job journal.world
  rw [Worker.runSome_eq sound.checker.running, queued] at orderly
  rw [Journal.check, Worker.runSome_eq sound.checker.running, queued]
  refine sound.enter orderly sound.downloads rfl ?_ queried.requests offers.inquires
  rw [queued]
  rfl

theorem download {ticket : Nat} {job : DownloadJob} {queue : List (Nat × DownloadJob)}
    (sound : journal.Sound before)
    (queued : journal.manager.downloader.worker.queue = (ticket, job) :: queue) :
    (journal.download ticket job).Sound before := by
  obtain ⟨asked, asks, queried⟩ := Downloader.runJob_asks noteOutput_silent ticket job
    journal.world
  rw [Journal.download, Worker.runSome_eq sound.downloads, queued]
  exact sound.enter sound.checker sound.downloads rfl rfl queried.requests asks

end Journal.Sound

/-- Nothing that can happen makes a journal unsound. -/
theorem Proceeds.sound {before : List Request} {journal next : Journal}
    (proceeds : Proceeds journal next) (sound : journal.Sound before) : next.Sound before := by
  cases proceeds with
  | call call => exact sound.begin call
  | check queued => exact sound.check queued
  | download queued => exact sound.download queued
  | others requests => exact { sound with requests := requests.trans sound.requests }

theorem Proceedings.sound {before : List Request} {journal next : Journal}
    (proceedings : Proceedings journal next) (sound : journal.Sound before) :
    next.Sound before := by
  induction proceedings with
  | refl => exact sound
  | tail _ proceeds ih => exact proceeds.sound ih

/-! ## What a session does is a proceeding -/

theorem checks_proceed (count : Nat) (journal : Journal)
    (rests : journal.manager.checker.running = none) :
    ∃ next, Proceedings journal next ∧
      next.manager = { journal.manager with
        checker := (Worker.runSome Checker.runJob count journal.manager.checker journal.world).1 } ∧
      next.world = (Worker.runSome Checker.runJob count journal.manager.checker journal.world).2 := by
  refine Worker.runSome_induction (P := fun checker later => ∃ next, Proceedings journal next ∧
    next.manager = { journal.manager with checker := checker } ∧ next.world = later) ?_ count rests
    ⟨journal, .refl, rfl, rfl⟩
  rintro checker _ ticket job queue - queued ⟨next, onward, manager, rfl⟩
  obtain rfl : next.manager.checker = checker := congrArg Manager.checker manager
  refine ⟨next.check ticket job, onward.tail (.check queued), ?_, rfl⟩
  exact congrArg (fun before : Manager => { before with
    checker := (Worker.runSome Checker.runJob 1 next.manager.checker next.world).1 }) manager

theorem downloads_proceed (count : Nat) (journal : Journal)
    (rests : journal.manager.downloader.worker.running = none) :
    ∃ next, Proceedings journal next ∧
      next.manager = { journal.manager with
        downloader := { journal.manager.downloader with
          worker := (Worker.runSome (journal.manager.downloader.runJob noteOutput) count
            journal.manager.downloader.worker journal.world).1 } } ∧
      next.world = (Worker.runSome (journal.manager.downloader.runJob noteOutput) count
        journal.manager.downloader.worker journal.world).2 := by
  refine Worker.runSome_induction (P := fun worker later => ∃ next, Proceedings journal next ∧
    next.manager = { journal.manager with
      downloader := { journal.manager.downloader with worker := worker } } ∧
    next.world = later) ?_ count rests ⟨journal, .refl, rfl, rfl⟩
  rintro worker _ ticket job queue - queued ⟨next, onward, manager, rfl⟩
  have same : next.manager.downloader = { journal.manager.downloader with worker := worker } :=
    congrArg Manager.downloader manager
  have busy : next.manager.downloader.worker.queue = (ticket, job) :: queue := by rw [same, queued]
  refine ⟨next.download ticket job, onward.tail (.download busy), ?_, ?_⟩
  · rw [Journal.download, manager]
    rfl
  · rw [Journal.download, manager]
    rfl

theorem begins_proceed (calls : List Call) (journal : Journal) :
    let begun := (calls.mapM Call.begin : Session (List Pending)) journal.manager journal.world
    ∃ next, Proceedings journal next ∧ next.manager = begun.1.2 ∧ next.world = begun.2 := by
  refine begins_induction (P := fun after later => ∃ next, Proceedings journal next ∧
    next.manager = after ∧ next.world = later) ?_ calls ⟨journal, .refl, rfl, rfl⟩
  rintro _ _ call ⟨next, onward, rfl, rfl⟩
  exact ⟨next.begin call, onward.tail (.call call), rfl, rfl⟩

/-- Calls that are started together proceed, with all that their jobs do. -/
theorem together_proceeds {before : List Request} (calls : List Call) {journal : Journal}
    (sound : journal.Sound before) :
    ∃ next, Proceedings journal next ∧
      next.manager = (together calls journal.manager journal.world).1.2 ∧
      next.world = (together calls journal.manager journal.world).2 := by
  obtain ⟨begun, begins, manager, world⟩ := begins_proceed calls journal
  have early := begins.sound sound
  obtain ⟨checked, checks, manager_, world_⟩ :=
    checks_proceed (begun.manager.checker.queue.length + 1) begun early.checker.running
  have late := checks.sound early
  obtain ⟨done, downloads, last, final⟩ :=
    downloads_proceed (checked.manager.downloader.worker.queue.length + 1) checked late.downloads
  refine ⟨done, (begins.trans checks).trans downloads, ?_, ?_⟩
  · rw [last, manager_, world_, manager, world]
    rfl
  · rw [final, manager_, world_, manager, world]
    rfl

section

variable {runtime : Bool} {current : UInt32} {settings : Settings} {directory : Path}
  {store : PolicyStore} {arrange : List Path → List Path} {world later : World} {manager : Manager}
  {journal : Journal}

theorem opening_sound
    (started : start runtime current settings directory store world = (.ok manager, later)) :
    (Journal.opening manager arrange later).Sound world.requests := by
  obtain ⟨checker, worker⟩ := start_new started
  have silent : (start runtime current settings directory store).Silent := start_silent
  have requests := silent.requests world
  rw [started] at requests
  refine ⟨checker ▸ .new _, ?_, List.Pairwise.nil, nofun, ?_, ?_, nofun⟩
  · rw [Journal.opening, worker]
    rfl
  · rw [Journal.opening, checker]
    exact List.Sublist.refl _
  · exact requests.trans (List.append_nil _).symm

/-- No insecure request is made. From whatever policy and settings a manager starts, whatever it is
asked for, and whatever others do and servers answer in the meantime, all that was asked since was
asked by the jobs of its journal, at secure addresses. Checks are made in their order, each once and
for the address where the manager looked for updates when it began. A check asks for no more than the
release there and for the published checksum of its artifact, and for that one only when the version
has a code and the address of the artifact is secure; a download asks for no more than its stream. -/
theorem requests_secure
    (started : start runtime current settings directory store world = (.ok manager, later))
    (proceedings : Proceedings (.opening manager arrange later) journal) :
    journal.world.requests = world.requests ++ journal.asked ∧
      (∀ request ∈ journal.asked, Url.isSecure request.url = true) ∧
      (journal.errands.filterMap Errand.check?).Sublist journal.checks ∧
      (journal.checks.map Prod.fst).Pairwise (· < ·) ∧
      ∀ errand ∈ journal.errands, errand.Asks := by
  have sound := proceedings.sound (opening_sound started)
  refine ⟨sound.requests, ?_, (List.sublist_append_left _ _).trans sound.sequence, sound.numbered,
    sound.errands⟩
  intro request listed
  obtain ⟨errand, entered, asked⟩ := List.mem_flatMap.mp listed
  exact (sound.errands errand entered).secure request asked

end

/-! ## A check in full -/

/-- A manager that looks for updates where a release is announced. -/
def seeker : Manager :=
  { usual with settings := { Settings.default with checkUrl := "https://e" } }

/-- Where its checksum is looked for the connection fails. -/
def seekerWorld : World :=
  { Checker.worldWith (Checker.announcing .crash) with disk := privateDisk }

theorem start_seeker :
    start true 1 seeker.settings "updates" (.memory .default) seekerWorld =
      (.ok seeker, seekerWorld) := by
  have same : seekerWorld.disk = privateDisk := rfl
  rw [start, Effect.preparePrivateDirectory]
  simp only [Stateful.bind_run, Effect.ofSteps_run, same, privateDisk_prepared]
  rfl

/-- The journal once that manager has made a check. -/
def soughtJournal : Journal :=
  ((Journal.opening seeker id seekerWorld).begin .check).check 0 ⟨"https://e", 1⟩

theorem requests_secure_tagged :
    start true 1 seeker.settings "updates" (.memory .default) seekerWorld =
        (.ok seeker, seekerWorld) ∧
      Proceedings (.opening seeker id seekerWorld) soughtJournal ∧
      soughtJournal.asked = [.text "https://e", .text "https://b"] ∧
      soughtJournal.world.requests = seekerWorld.requests ++ soughtJournal.asked ∧
      (∀ request ∈ soughtJournal.asked, Url.isSecure request.url = true) ∧
      (soughtJournal.errands.filterMap Errand.check?).Sublist soughtJournal.checks ∧
      (soughtJournal.checks.map Prod.fst).Pairwise (· < ·) ∧
      ∀ errand ∈ soughtJournal.errands, errand.Asks := by
  have begun : Proceeds (.opening seeker id seekerWorld)
      ((Journal.opening seeker id seekerWorld).begin .check) := .call .check
  have checked : Proceeds ((Journal.opening seeker id seekerWorld).begin .check) soughtJournal :=
    .check rfl
  have proceedings : Proceedings (.opening seeker id seekerWorld) soughtJournal :=
    .tail (.single begun) checked
  have asked : soughtJournal.asked = [.text "https://e", .text "https://b"] := by
    decide +kernel
  exact ⟨start_seeker, proceedings, asked, requests_secure start_seeker proceedings⟩

end Manager

end SelfUpdate
