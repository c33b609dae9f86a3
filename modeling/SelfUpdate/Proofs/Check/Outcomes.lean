import SelfUpdate.Checker
import SelfUpdate.Proofs.Requests

/-!
# How a check goes

A check asks for the release document, for a hosted release perhaps also for the document with its
checksum, and ends in one of a few ways. What it asks and how it ends follow from the answers of the
network alone.
-/

namespace SelfUpdate.Check

variable {network : Network} {earlier asked : List Request} {now : Int64} {url endpoint : String}
  {release : Release.Hosted} {artifact : Release.Asset}

/-- The text that a reply brings, or how a check ends without it. -/
def textOf : TextReply → Except (Halt CheckError) String
  | .body text => .ok text
  | .failure error => .error (.failure (.fetch error))
  | .crash => .error .crash

theorem textOf_eq_ok_iff {reply : TextReply} {text : String} :
    textOf reply = .ok text ↔ reply = .body text := by
  cases reply <;> simp [textOf]

/-- A release that was built, or how a check ends without it. -/
def built (result : Except Release.Error Update) : Except (Halt CheckError) Update :=
  result.mapError fun error => .failure (.parse error)

/-! ## Ways to go -/

/-- The ways in which the checksum of an artifact is found or missed, with what is asked for it. -/
inductive Seeks (network : Network) (earlier : List Request) (release : Release.Hosted)
    (artifact : Release.Asset) : List Request → Except (Halt CheckError) String → Prop where
  | insecure {asset : Release.Asset} (listed : release.checksumAsset? artifact = some asset)
      (insecure : Url.isSecure asset.url = false) :
      Seeks network earlier release artifact []
        (.error (.failure (.checksumMissing release.version
          "checksum asset is not served over https")))
  | unanswered {asset : Release.Asset} {halt : Halt CheckError}
      (listed : release.checksumAsset? artifact = some asset)
      (secure : Url.isSecure asset.url = true)
      (replied : textOf (network.text earlier asset.url).reply = .error halt) :
      Seeks network earlier release artifact [.text asset.url] (.error halt)
  | unusable {asset : Release.Asset} {contents : String}
      (listed : release.checksumAsset? artifact = some asset)
      (secure : Url.isSecure asset.url = true)
      (replied : textOf (network.text earlier asset.url).reply = .ok contents)
      (absent : Checksum.ofDocument? contents artifact.name = none) :
      Seeks network earlier release artifact [.text asset.url]
        (.error (.failure (.checksumMissing release.version
          ("no entry for " ++ artifact.name ++ " in checksum asset"))))
  | document {asset : Release.Asset} {contents checksum : String}
      (listed : release.checksumAsset? artifact = some asset)
      (secure : Url.isSecure asset.url = true)
      (replied : textOf (network.text earlier asset.url).reply = .ok contents)
      (entry : Checksum.ofDocument? contents artifact.name = some checksum) :
      Seeks network earlier release artifact [.text asset.url] (.ok checksum)
  | digest {checksum : String} (unlisted : release.checksumAsset? artifact = none)
      (field : artifact.digest.bind Checksum.ofDigestField? = some checksum) :
      Seeks network earlier release artifact [] (.ok checksum)
  | unpublished (unlisted : release.checksumAsset? artifact = none)
      (field : artifact.digest.bind Checksum.ofDigestField? = none) :
      Seeks network earlier release artifact []
        (.error (.failure (.checksumMissing release.version
          ("no " ++ artifact.name ++ ".sha256 asset"))))

/-- A release whose checksum may be sought: its version has a code, and its artifact a secure
address. -/
structure Eligible (release : Release.Hosted) (artifact : Release.Asset) : Prop where
  coded : ∃ code, Release.codeOfVersion release.version = .ok code
  first : release.artifact? = some artifact
  secure : Url.isSecure artifact.url = true

/-- The ways in which a hosted release becomes an update or not, with what is asked for it. -/
inductive Hosts (network : Network) (earlier : List Request) (now : Int64)
    (release : Release.Hosted) : List Request → Except (Halt CheckError) Update → Prop where
  | uncoded {error : Release.Error} (uncoded : Release.codeOfVersion release.version = .error error) :
      Hosts network earlier now release [] (.error (.failure (.parse error)))
  | bare {code : UInt32} (coded : Release.codeOfVersion release.version = .ok code)
      (bare : release.artifact? = none) :
      Hosts network earlier now release []
        (.error (.failure (.parse (.noAssets release.version))))
  | insecure {code : UInt32} {artifact : Release.Asset}
      (coded : Release.codeOfVersion release.version = .ok code)
      (first : release.artifact? = some artifact) (insecure : Url.isSecure artifact.url = false) :
      Hosts network earlier now release []
        (.error (.failure (.parse (.insecureDownloadUrl release.version artifact.url))))
  | unverifiable {artifact : Release.Asset} {asked : List Request} {halt : Halt CheckError}
      (eligible : Eligible release artifact)
      (sought : Seeks network earlier release artifact asked (.error halt)) :
      Hosts network earlier now release asked (.error halt)
  | verifiable {artifact : Release.Asset} {asked : List Request} {checksum : String}
      (eligible : Eligible release artifact)
      (sought : Seeks network earlier release artifact asked (.ok checksum)) :
      Hosts network earlier now release asked (built (release.toUpdate now checksum))

/-- The ways in which an endpoint offers a release or not, with what is asked of the network. -/
inductive Offers (network : Network) (earlier : List Request) (now : Int64) (endpoint : String) :
    List Request → Except (Halt CheckError) Update → Prop where
  | insecure (insecure : Url.isSecure endpoint = false) :
      Offers network earlier now endpoint [] (.error (.failure (.insecureEndpoint endpoint)))
  | unanswered {halt : Halt CheckError} (secure : Url.isSecure endpoint = true)
      (replied : textOf (network.text earlier endpoint).reply = .error halt) :
      Offers network earlier now endpoint [.text endpoint] (.error halt)
  | unreadable {body : String} {error : Release.Error} (secure : Url.isSecure endpoint = true)
      (replied : textOf (network.text earlier endpoint).reply = .ok body)
      (parsed : Release.Document.parse body = .error error) :
      Offers network earlier now endpoint [.text endpoint] (.error (.failure (.parse error)))
  | native {body : String} {metadata : Release.Metadata} (secure : Url.isSecure endpoint = true)
      (replied : textOf (network.text earlier endpoint).reply = .ok body)
      (parsed : Release.Document.parse body = .ok (.native metadata)) :
      Offers network earlier now endpoint [.text endpoint] (built (Update.ofMetadata now metadata))
  | hosted {body : String} {release : Release.Hosted} {more : List Request}
      {result : Except (Halt CheckError) Update} (secure : Url.isSecure endpoint = true)
      (replied : textOf (network.text earlier endpoint).reply = .ok body)
      (parsed : Release.Document.parse body = .ok (.hosted release))
      (hosts : Hosts network (earlier ++ [.text endpoint]) now release more result) :
      Offers network earlier now endpoint (.text endpoint :: more) result

/-! ## Each check goes one of these ways -/

theorem log_run (level : Log.Level) (text : String) (world : World) :
    log level text world = (.ok (), (Effect.log level .checker text world).2) := (rfl)

theorem log_silent (level : Log.Level) (text : String) : (log level text).Silent :=
  .lift (Effect.log_silent level .checker text)

theorem fetch_run (url : String) (world : World) :
    (fetch url world).1 = textOf (world.network.text world.requests url).reply ∧
      world.Queried [.text url] (fetch url world).2 := by
  simp only [fetch, Failing.bind_run, Failing.lift_run, Effect.getText, Effect.interfere,
    Stateful.bind_run, Stateful.get_run, Stateful.set_run, Stateful.modify_run, Stateful.pure_run]
  cases (world.network.text world.requests url).reply with
  | body text => exact ⟨rfl, rfl, rfl, rfl, rfl, rfl, rfl⟩
  | failure error => exact ⟨rfl, rfl, rfl, rfl, rfl, rfl, rfl⟩
  | crash => exact ⟨rfl, rfl, rfl, rfl, rfl, rfl, rfl⟩

theorem ofExcept_run (result : Except Release.Error Update) (world : World) :
    (Job.ofExcept .parse result : Job CheckError Update) world = (built result, world) := by
  cases result with
  | ok update => rfl
  | error error => rfl

theorem seeks_run (release : Release.Hosted) (artifact : Release.Asset) (world : World) :
    ∃ asked, world.Queried asked (resolveChecksum release artifact world).2 ∧
      Seeks world.network world.requests release artifact asked
        (resolveChecksum release artifact world).1 := by
  rw [resolveChecksum]
  cases listed : release.checksumAsset? artifact with
  | none =>
      cases field : artifact.digest.bind Checksum.ofDigestField? with
      | some checksum =>
          simp only [Failing.bind_run, log_run, Failing.pure_run]
          exact ⟨[], log_silent _ _ world, .digest listed field⟩
      | none =>
          simp only [Failing.bind_run, log_run, Job.fail_run]
          exact ⟨[], log_silent _ _ world, .unpublished listed field⟩
  | some asset =>
      simp only [fetchChecksum]
      cases secure : Url.isSecure asset.url with
      | false =>
          simp only [Bool.not_false, if_true, Failing.bind_run, log_run, Job.fail_bind,
            Job.fail_run]
          exact ⟨[], log_silent _ _ world, .insecure listed secure⟩
      | true =>
          simp only [Bool.not_true, Bool.false_eq_true, if_false, Failing.bind_run]
          obtain ⟨replied, queried⟩ := fetch_run asset.url world
          rw [replied]
          cases text : textOf (world.network.text world.requests asset.url).reply with
          | error halt => exact ⟨_, queried, .unanswered listed secure text⟩
          | ok contents =>
              dsimp only
              cases entry : Checksum.ofDocument? contents artifact.name with
              | some checksum => exact ⟨_, queried, .document listed secure text entry⟩
              | none =>
                  simp only [Failing.bind_run, log_run, Job.fail_run]
                  exact ⟨_, queried.trans (log_silent _ _ _), .unusable listed secure text entry⟩

theorem hosts_run (release : Release.Hosted) (world : World) :
    ∃ asked, world.Queried asked (resolveHosted release world).2 ∧
      Hosts world.network world.requests world.now release asked
        (resolveHosted release world).1 := by
  rw [resolveHosted]
  cases coded : Release.codeOfVersion release.version with
  | error error =>
      simp only [Job.ofExcept_error, Job.fail_bind, Job.fail_run]
      exact ⟨[], .refl world, .uncoded coded⟩
  | ok code =>
      simp only [Job.ofExcept_ok, pure_bind]
      cases first : release.artifact? with
      | none =>
          simp only [Job.fail_run]
          exact ⟨[], .refl world, .bare coded first⟩
      | some artifact =>
          cases secure : Url.isSecure artifact.url with
          | false =>
              simp only [secure, Bool.not_false, if_true, Failing.bind_run, log_run,
                Job.fail_bind, Job.fail_run]
              exact ⟨[], log_silent _ _ world, .insecure coded first secure⟩
          | true =>
              have eligible : Eligible release artifact := ⟨⟨code, coded⟩, first, secure⟩
              obtain ⟨asked, queried, sought⟩ := seeks_run release artifact world
              simp only [secure, Bool.not_true, Bool.false_eq_true, if_false, Failing.bind_run]
              cases found : (resolveChecksum release artifact world).1 with
              | error halt =>
                  rw [found] at sought
                  exact ⟨asked, queried, .unverifiable eligible sought⟩
              | ok checksum =>
                  rw [found] at sought
                  simp only [Failing.get_run, ofExcept_run, queried.now]
                  exact ⟨asked, queried, .verifiable eligible sought⟩

/-- What a check asks, and what comes of it. -/
theorem offers_run (endpoint : String) (world : World) :
    ∃ asked, world.Queried asked (resolve endpoint world).2 ∧
      Offers world.network world.requests world.now endpoint asked (resolve endpoint world).1 := by
  rw [resolve]
  cases secure : Url.isSecure endpoint with
  | false =>
      simp only [Bool.not_false, if_true, Failing.bind_run, log_run, Job.fail_bind, Job.fail_run]
      exact ⟨[], log_silent _ _ world, .insecure secure⟩
  | true =>
      simp only [Bool.not_true, Bool.false_eq_true, if_false, Failing.bind_run, log_run]
      have noted := Effect.log_silent .debug .checker
        ("Fetching release metadata from " ++ endpoint) world
      generalize (Effect.log .debug .checker
        ("Fetching release metadata from " ++ endpoint) world).2 = ready at noted ⊢
      obtain ⟨replied, queried⟩ := fetch_run endpoint ready
      rw [noted.network, noted.requests, List.append_nil] at replied
      have begun := noted.trans queried
      rw [replied]
      cases text : textOf (world.network.text world.requests endpoint).reply with
      | error halt => exact ⟨_, begun, .unanswered secure text⟩
      | ok body =>
          dsimp only
          cases parsed : Release.Document.parse body with
          | error error =>
              simp only [Job.ofExcept_error, Job.fail_run]
              exact ⟨_, begun, .unreadable secure text parsed⟩
          | ok document =>
              simp only [Job.ofExcept_ok, Failing.pure_run]
              cases document with
              | native metadata =>
                  simp only [Failing.bind_run, Failing.get_run, ofExcept_run, begun.now]
                  exact ⟨_, begun, .native secure text parsed⟩
              | hosted release =>
                  obtain ⟨more, onward, hosts⟩ := hosts_run release (fetch endpoint ready).2
                  rw [begun.network, begun.requests, begun.now, List.nil_append] at hosts
                  exact ⟨_, begun.trans onward, .hosted secure text parsed hosts⟩

/-- What a check answers when an endpoint has offered a release or not; nothing when it crashes. -/
def outputOf (current : UInt32) :
    Except (Halt CheckError) Update → Option (Except CheckError CheckOutcome)
  | .ok update => some (.ok (compare current update))
  | .error (.failure error) => some (.error error)
  | .error .crash => none

theorem runJob_offers (ticket : Nat) (job : CheckJob) (world : World) :
    ∃ asked offer, world.Queried asked (Checker.runJob ticket job world).2 ∧
      Offers world.network world.requests world.now job.endpoint asked offer ∧
      (Checker.runJob ticket job world).1 = outputOf job.current offer := by
  obtain ⟨asked, queried, offers⟩ := offers_run job.endpoint world
  -- after the offer there are only records
  suffices ran : (resolve job.endpoint world).2.Queried [] (Checker.runJob ticket job world).2 ∧
      (Checker.runJob ticket job world).1 =
        outputOf job.current (resolve job.endpoint world).1 by
    have silent := queried.trans ran.1
    rw [List.append_nil] at silent
    exact ⟨asked, _, silent, offers, ran.2⟩
  rw [Checker.runJob, Effect.outputOf, Stateful.bind_run]
  rw [show (run job.endpoint job.current).run world = run job.endpoint job.current world from rfl]
  rw [run, Failing.bind_run]
  rcases (resolve job.endpoint world).1 with (error | _) | update
  · exact ⟨.refl _, rfl⟩
  · exact ⟨Effect.log_silent _ _ _ _, rfl⟩
  · dsimp only
    cases outcome : compare job.current update with
    | noUpdate =>
        rw [outputOf, outcome]
        exact ⟨Effect.log_silent _ _ _ _, rfl⟩
    | updateAvailable newer =>
        rw [outputOf, outcome]
        exact ⟨Effect.log_silent _ _ _ _, rfl⟩

end SelfUpdate.Check
