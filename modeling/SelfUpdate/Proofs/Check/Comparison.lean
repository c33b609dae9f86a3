import SelfUpdate.Proofs.Check.Gates

/-!
# What the running build decides

The code of the running build is compared with that of the release when all else is done. Checks for
different builds ask the same and fail alike, and where they succeed they speak of the same release.
-/

namespace SelfUpdate

/-! ## Dates -/

/-- What an update says, save its date. -/
def Update.undated (update : Update) : Release.Metadata :=
  { update.toMetadata with date := none }

/-- The time at which metadata are read counts for nothing but the date. -/
theorem Update.blind_undated (now later : Int64) : Update.Blind undated now later := by
  intro metadata
  unfold ofMetadata
  dsimp only
  split
  · rfl
  split
  · split
    · rfl
    split
    · rfl
    split <;> rfl
  · rfl

namespace Checker

/-! ## Queues that ask the same -/

/-- Two checkers that differ at most in the codes of the builds that they check for. -/
structure Twins (first second : Checker) : Prop where
  name : Worker.name first = Worker.name second
  accepting : first.accepting = second.accepting
  next : first.next = second.next
  running : first.running = none ∧ second.running = none
  queue : first.queue.map (fun entry => entry.2.endpoint) =
    second.queue.map (fun entry => entry.2.endpoint)

theorem Twins.submit {first second : Checker} (twins : Twins first second) {one two : CheckJob}
    (same : one.endpoint = two.endpoint) : Twins (first.submit one) (second.submit two) := by
  obtain ⟨name, accepting, next, running, queue⟩ := twins
  cases accepts : first.accepting with
  | true =>
      rw [Worker.submit_accepted accepts, Worker.submit_accepted (accepting ▸ accepts)]
      refine ⟨name, accepting, by simp only [next], running, ?_⟩
      simp only [List.map_append, List.map_cons, List.map_nil, queue, same]
  | false =>
      rw [Worker.submit_refused accepts, Worker.submit_refused (accepting ▸ accepts)]
      exact ⟨name, accepting, by simp only [next], running, queue⟩

theorem Twins.foldl_submit {first second : Checker} (twins : Twins first second)
    {others rest : List CheckJob}
    (same : others.map CheckJob.endpoint = rest.map CheckJob.endpoint) :
    Twins (others.foldl Worker.submit first) (rest.foldl Worker.submit second) := by
  induction others generalizing rest first second with
  | nil =>
      cases List.map_eq_nil_iff.mp same.symm
      exact twins
  | cons job others ih =>
      obtain ⟨other, rest, rfl, equal, equals⟩ := List.map_eq_cons_iff.mp same.symm
      exact ih (twins.submit equal.symm) equals.symm

variable {world elsewhere : World}

/-- Jobs for the same endpoints ask the same, one after another. -/
theorem left_agree {queue waiting : List (Nat × CheckJob)}
    (same : queue.map (fun entry => entry.2.endpoint) =
      waiting.map (fun entry => entry.2.endpoint))
    (alike : world.network.TellsAlike world.requests elsewhere.network elsewhere.requests) :
    ∃ asked, world.Queried asked (Worker.left runJob queue world) ∧
      elsewhere.Queried asked (Worker.left runJob waiting elsewhere) := by
  induction queue generalizing waiting world elsewhere with
  | nil =>
      cases List.map_eq_nil_iff.mp same.symm
      exact ⟨[], .refl world, .refl elsewhere⟩
  | cons entry queue ih =>
      obtain ⟨⟨number, twin⟩, waiting, rfl, equal, equals⟩ := List.map_eq_cons_iff.mp same.symm
      obtain ⟨ticket, job⟩ := entry
      obtain ⟨asked, offer, queried, offers, -⟩ := Check.runJob_offers ticket job world
      obtain ⟨wanted, result, reached, provides, -⟩ := Check.runJob_offers number twin elsewhere
      dsimp only at equal
      rw [equal] at provides
      obtain ⟨rfl, -⟩ := offers.agree alike (Update.blind_undated _ _) provides
      have onward := alike.after asked
      rw [← queried.requests, ← reached.requests, ← queried.network, ← reached.network] at onward
      obtain ⟨more, first, second⟩ := ih equals.symm onward
      exact ⟨asked ++ more, queried.trans first, reached.trans second⟩

variable {checker : Checker}

/-- What a check leaves is what the jobs of the queue leave. -/
theorem check_left (rests : checker.running = none) (job : CheckJob) (others : List CheckJob)
    (world : World) :
    (checker.check job others world).2 =
      Worker.left runJob (others.foldl Worker.submit (checker.submit job)).queue world := by
  have follows := (Worker.follows_submit checker job).running.symm ▸
    (Worker.follows_foldl_submit (checker.submit job) others).running
  change (Worker.settle runJob (others.foldl Worker.submit (checker.submit job)) world).2 = _
  rw [Worker.settle_eq (follows.trans rests)]

theorem check_settle (orderly : checker.Orderly) (world : World) :
    (checker.settle world).2 = Worker.left runJob checker.queue world := by
  rw [settle, Worker.settle_eq orderly.running]

/-! ## Answers -/

/-- What a checker answers when an endpoint has offered a release or not. -/
def answerTo (checker : Checker) (current : UInt32) :
    Except (Halt CheckError) Update → Except CheckError CheckOutcome
  | .ok update =>
    .ok (if current < update.code then .updateAvailable update else .noUpdate)
  | .error (.failure error) => .error error
  | .error .crash => .error (.worker (.aborted (Worker.name checker)))

theorem check_refused (orderly : checker.Orderly) (closed : checker.accepting = false)
    (job : CheckJob) (others : List CheckJob) (world : World) :
    (checker.check job others world).1 = .error (.worker (.shutDown (Worker.name checker))) := by
  change result (Worker.settle runJob (others.foldl Worker.submit (checker.submit job)) world).1
    checker.next = _
  rw [result, Worker.answer?_refused orderly closed]

theorem check_accepted (orderly : checker.Orderly) (accepting : checker.accepting = true)
    (job : CheckJob) (others : List CheckJob) (world : World) :
    ∃ asked offer, Check.Offers world.network (checker.settle world).2.requests world.now
        job.endpoint asked offer ∧
      (checker.check job others world).1 = checker.answerTo job.current offer := by
  obtain ⟨before, settled⟩ := left_queried checker.queue world
  obtain ⟨asked, offer, -, offers, output⟩ :=
    Check.runJob_offers checker.next job (checker.settle world).2
  have now : (checker.settle world).2.now = world.now := by
    rw [settle, Worker.settle_eq orderly.running]
    exact settled.now
  rw [settle_network orderly, now] at offers
  refine ⟨asked, offer, offers, ?_⟩
  change result (Worker.settle runJob (others.foldl Worker.submit (checker.submit job)) world).1
    checker.next = _
  rw [result, Worker.answer?_accepted orderly accepting, ← settle, output]
  cases offer with
  | ok update => rfl
  | error halt => cases halt <;> rfl

end Checker

/-! ## Releases without a fit checksum -/

namespace Check

variable {network : Network} {earlier asked : List Request} {now : Int64} {endpoint : String}

/-- An endpoint announces a release without a checksum that is fit to verify it. -/
inductive Unverifiable (network : Network) (earlier : List Request) (endpoint : String) : Prop where
  | absent {body : String} {members : Json.Members}
      (replied : (network.text earlier endpoint).reply = .body body)
      (read : Json.parse body = .ok (.object members)) (untagged : members.has "tag_name" = false)
      (absent : members.get? "sha256Checksum" = none ∨ members.get? "sha256Checksum" = some .null) :
      Unverifiable network earlier endpoint
  | malformed {body : String} {metadata : Release.Metadata}
      (replied : (network.text earlier endpoint).reply = .body body)
      (parsed : Release.Document.parse body = .ok (.native metadata))
      (malformed : Checksum.isHexText (Text.trim metadata.checksum) = false) :
      Unverifiable network earlier endpoint
  | uncertified {body : String} {release : Release.Hosted}
      (replied : (network.text earlier endpoint).reply = .body body)
      (parsed : Release.Document.parse body = .ok (.hosted release))
      (uncertified : ∀ artifact checksum, release.artifact? = some artifact →
        ¬ Certifies network (earlier ++ [.text endpoint]) release artifact checksum) :
      Unverifiable network earlier endpoint

theorem parse_of_absent {body : String} {members : Json.Members}
    (read : Json.parse body = .ok (.object members)) (untagged : members.has "tag_name" = false)
    (absent : members.get? "sha256Checksum" = none ∨ members.get? "sha256Checksum" = some .null) :
    ∃ error, Release.Document.parse body = .error error := by
  have unchecked : Release.Document.hasChecksum members = false := by
    rcases absent with absent | absent <;> rw [Release.Document.hasChecksum, absent]
  rw [Release.Document.parse, read]
  change ∃ error, Release.Document.ofMembers members = .error error
  rw [Release.Document.ofMembers, untagged, if_neg Bool.false_ne_true, unchecked]
  cases Release.Document.requiredFields.find? (fun name => !members.has name) with
  | some name => exact ⟨_, rfl⟩
  | none => exact ⟨_, rfl⟩

/-- An update that is offered was made of metadata, or of a release whose checksum was published. -/
theorem Offers.answered {update : Update}
    (offers : Offers network earlier now endpoint asked (.ok update)) :
    ∃ body, (network.text earlier endpoint).reply = .body body ∧
      ((∃ metadata, Release.Document.parse body = .ok (.native metadata) ∧
          Update.ofMetadata now metadata = .ok update) ∨
        ∃ release artifact checksum, Release.Document.parse body = .ok (.hosted release) ∧
          release.artifact? = some artifact ∧
          Certifies network (earlier ++ [.text endpoint]) release artifact checksum) := by
  generalize offered : Except.ok update = offer at offers
  cases offers with
  | insecure | unanswered | unreadable => cases offered
  | native _ replied parsed =>
      exact ⟨_, textOf_eq_ok_iff.mp replied, .inl ⟨_, parsed, built_eq_ok_iff.mp offered.symm⟩⟩
  | hosted _ replied parsed hosts =>
      cases hosts with
      | uncoded | bare | insecure | unverifiable => cases offered
      | verifiable eligible sought =>
          exact ⟨_, textOf_eq_ok_iff.mp replied,
            .inr ⟨_, _, _, parsed, eligible.first, (sought.certifies eligible.first).1⟩⟩

/-- A release that cannot be verified is not offered. -/
theorem Unverifiable.error {offer : Except (Halt CheckError) Update}
    (unverifiable : Unverifiable network earlier endpoint)
    (offers : Offers network earlier now endpoint asked offer) : ∃ halt, offer = .error halt := by
  cases offer with
  | error halt => exact ⟨halt, rfl⟩
  | ok update =>
      exfalso
      obtain ⟨body, told, ways⟩ := offers.answered
      cases unverifiable with
      | absent replied read untagged absent =>
          cases told.symm.trans replied
          obtain ⟨error, refused⟩ := parse_of_absent read untagged absent
          rcases ways with ⟨_, parsed, -⟩ | ⟨_, _, _, parsed, -⟩ <;> cases parsed.symm.trans refused
      | malformed replied parsed malformed =>
          cases told.symm.trans replied
          rcases ways with ⟨_, again, made⟩ | ⟨_, _, _, again, -⟩
          · cases again.symm.trans parsed
            cases malformed.symm.trans (Update.ofMetadata_eq_ok_iff.mp made).1.checksum
          · cases again.symm.trans parsed
      | uncertified replied parsed uncertified =>
          cases told.symm.trans replied
          rcases ways with ⟨_, again, -⟩ | ⟨_, _, _, again, first, certified⟩
          · cases again.symm.trans parsed
          · cases again.symm.trans parsed
            exact uncertified _ _ first certified

end Check

/-! ## Two checks -/

namespace Checker

variable {checker : Checker} {world elsewhere : World}

theorem map_undated_eq {one other : Except (Halt CheckError) Update}
    (same : one.map Update.undated = other.map Update.undated) :
    (∃ halt, one = .error halt ∧ other = .error halt) ∨
      ∃ update again, one = .ok update ∧ other = .ok again ∧ update.undated = again.undated := by
  cases one with
  | error halt =>
      cases other with
      | error other =>
          cases same
          exact .inl ⟨halt, rfl, rfl⟩
      | ok again => cases same
  | ok update =>
      cases other with
      | error other => cases same
      | ok again => exact .inr ⟨update, again, rfl, rfl, Except.ok.inj same⟩

/-- Two checks of an endpoint end in the same error, or speak of the same release. -/
theorem check_agree (orderly : checker.Orderly) (endpoint : String) (one two : UInt32)
    (others rest : List CheckJob)
    (alike : world.network.TellsAlike world.requests elsewhere.network elsewhere.requests) :
    (∃ error, (checker.check ⟨endpoint, one⟩ others world).1 = .error error ∧
      (checker.check ⟨endpoint, two⟩ rest elsewhere).1 = .error error) ∨
    ∃ update again, update.undated = again.undated ∧
      (world.now = elsewhere.now → update = again) ∧
      (checker.check ⟨endpoint, one⟩ others world).1 =
        .ok (if one < update.code then .updateAvailable update else .noUpdate) ∧
      (checker.check ⟨endpoint, two⟩ rest elsewhere).1 =
        .ok (if two < again.code then .updateAvailable again else .noUpdate) := by
  cases accepting : checker.accepting with
  | false =>
      have refused (current : UInt32) (others : List CheckJob) (world : World) :=
        check_refused orderly accepting ⟨endpoint, current⟩ others world
      exact .inl ⟨_, refused one others world, refused two rest elsewhere⟩
  | true =>
      -- the jobs before the check ask the same, so it finds the same network
      have same : checker.queue.map (fun entry => entry.2.endpoint) =
          checker.queue.map (fun entry => entry.2.endpoint) := rfl
      obtain ⟨before, queried, reached⟩ := left_agree same alike
      have ready := alike.after before
      rw [← queried.requests, ← reached.requests, ← check_settle orderly,
        ← check_settle orderly] at ready
      obtain ⟨asked, offer, offers, first⟩ :=
        check_accepted orderly accepting ⟨endpoint, one⟩ others world
      obtain ⟨wanted, result, provides, second⟩ :=
        check_accepted orderly accepting ⟨endpoint, two⟩ rest elsewhere
      rw [first, second]
      rcases map_undated_eq (offers.agree ready (Update.blind_undated _ _) provides).2 with
        ⟨halt, rfl, rfl⟩ | ⟨update, again, rfl, rfl, undated⟩
      · cases halt with
        | failure error => exact .inl ⟨_, rfl, rfl⟩
        | crash => exact .inl ⟨_, rfl, rfl⟩
      · refine .inr ⟨update, again, undated, fun now => ?_, rfl, rfl⟩
        rw [now] at offers
        exact Except.ok.inj (offers.agree ready (.refl id _) provides).2

/-- The running build only decides the final comparison. Checks of an endpoint for two builds, where
the network tells the same, ask the same. They fail with the same error, or both speak of the same
release, which is an update for exactly the builds that are older. So an update for a build is one for
all before it, and a release that cannot be verified fails the check for every build. -/
theorem check_comparison (orderly : checker.Orderly) (endpoint : String) (one two : UInt32)
    (others rest : List CheckJob)
    (same : others.map CheckJob.endpoint = rest.map CheckJob.endpoint)
    (alike : world.network.TellsAlike world.requests elsewhere.network elsewhere.requests) :
    (∃ asked,
      (checker.check ⟨endpoint, one⟩ others world).2.requests = world.requests ++ asked ∧
      (checker.check ⟨endpoint, two⟩ rest elsewhere).2.requests = elsewhere.requests ++ asked) ∧
    ((∃ error, (checker.check ⟨endpoint, one⟩ others world).1 = .error error ∧
        (checker.check ⟨endpoint, two⟩ rest elsewhere).1 = .error error) ∨
      ∃ update again, update.undated = again.undated ∧
        (world.now = elsewhere.now → update = again) ∧
        (checker.check ⟨endpoint, one⟩ others world).1 =
          .ok (if one < update.code then .updateAvailable update else .noUpdate) ∧
        (checker.check ⟨endpoint, two⟩ rest elsewhere).1 =
          .ok (if two < again.code then .updateAvailable again else .noUpdate)) ∧
    (∀ update, two ≤ one →
      (checker.check ⟨endpoint, one⟩ others world).1 = .ok (.updateAvailable update) →
      ∃ again, update.undated = again.undated ∧ (world.now = elsewhere.now → update = again) ∧
        (checker.check ⟨endpoint, two⟩ rest elsewhere).1 = .ok (.updateAvailable again)) ∧
    (Check.Unverifiable world.network (checker.settle world).2.requests endpoint →
      ∃ error, (checker.check ⟨endpoint, one⟩ others world).1 = .error error ∧
        (checker.check ⟨endpoint, two⟩ rest elsewhere).1 = .error error) := by
  have outcomes := check_agree orderly endpoint one two others rest alike
  refine ⟨?_, outcomes, ?_, ?_⟩
  · have twins : Twins (checker.submit ⟨endpoint, one⟩) (checker.submit ⟨endpoint, two⟩) :=
      Twins.submit ⟨rfl, rfl, rfl, ⟨orderly.running, orderly.running⟩, rfl⟩ rfl
    obtain ⟨asked, first, second⟩ := left_agree (twins.foldl_submit same).queue alike
    rw [check_left orderly.running, check_left orderly.running]
    exact ⟨asked, first.requests, second.requests⟩
  · intro update older available
    rcases outcomes with ⟨error, failed, -⟩ | ⟨found, again, undated, now, first, second⟩
    · cases failed.symm.trans available
    · have told := Except.ok.inj (first.symm.trans available)
      split at told
      · rename_i newer
        cases told
        have code : update.code = again.code := congrArg Release.Metadata.versionCode undated
        rw [if_pos (code ▸ UInt32.lt_of_le_of_lt older newer)] at second
        exact ⟨again, undated, now, second⟩
      · cases told
  · intro unverifiable
    rcases outcomes with failed | ⟨update, again, undated, now, first, second⟩
    · exact failed
    · -- a check that comes to a release was offered one
      cases accepting : checker.accepting with
      | false => cases first.symm.trans (check_refused orderly accepting _ _ _)
      | true =>
          obtain ⟨asked, offer, offers, answer⟩ :=
            check_accepted orderly accepting ⟨endpoint, one⟩ others world
          obtain ⟨halt, rfl⟩ := unverifiable.error offers
          cases halt <;> cases first.symm.trans answer

/-- A release whose checksum is lost on the way cannot be verified. -/
theorem unverifiable_tagged (earlier : List Request) :
    Check.Unverifiable (announcing .crash) earlier "https://e" := by
  refine .uncertified rfl parse_taggedBody fun artifact checksum first certified => ?_
  obtain rfl : ⟨"a", "https://a", 0, none⟩ = artifact := Option.some.inj first
  cases certified with
  | @document asset _ _ published secure replied entry =>
      obtain rfl : ⟨"a.sha256", "https://b", 0, none⟩ = asset :=
        Option.some.inj ((Release.Hosted.checksumAsset?_eq_some_iff rfl).mpr published)
      cases replied
  | digest unpublished =>
      exact unpublished ⟨"a.sha256", "https://b", 0, none⟩ (by simp [taggedRelease]) rfl

/-- An update for a build is one for the build before it, and the check of a build that is newer than
the release fails all the same when the checksum is lost. -/
theorem check_comparison_tagged :
    (∃ update,
      (check idleChecker ⟨"https://e", 1⟩ [] (worldWith (announcing (.body listed)))).1 =
        .ok (.updateAvailable update) ∧
      (check idleChecker ⟨"https://e", 0⟩ [] (worldWith (announcing (.body listed)))).1 =
        .ok (.updateAvailable update)) ∧
    ∃ error, (check idleChecker ⟨"https://e", 7⟩ [] (worldWith (announcing .crash))).1 =
      .error error := by
  constructor
  · obtain ⟨update, available⟩ := reported_tagged
    obtain ⟨again, -, same, older⟩ := (check_comparison (.new name) "https://e" 1 0 [] [] rfl
      (.refl _ _)).2.2.1 update (by decide) available
    exact ⟨update, available, same rfl ▸ older⟩
  · let world := worldWith (announcing .crash)
    obtain ⟨error, failed, -⟩ := (@check_comparison idleChecker world world (.new name) "https://e"
      7 7 [] [] rfl (.refl _ _)).2.2.2 (unverifiable_tagged _)
    exact ⟨error, failed⟩

end Checker

end SelfUpdate
