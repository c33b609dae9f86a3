import SelfUpdate.Proofs.Check.Determinacy
import SelfUpdate.Proofs.Release.RoundTrip

/-!
# What a hosted release is refused for

A check tests a hosted release before it seeks the checksum, and an update is tested again when it is
made. The tests of the check imply those of the update, so once there is a checksum nothing fails.
-/

namespace SelfUpdate

/-! ## Tests that imply tests -/

/-- A version that has a code is not blank. -/
theorem Release.trim_ne_of_codeOfVersion {version : String} {code : UInt32}
    (coded : codeOfVersion version = .ok code) : Text.trim version ≠ "" := by
  obtain ⟨part, ⟨first, rest, dotted, -⟩, -⟩ := codeOfVersion_eq_ok_iff.mp coded
  rw [ne_eq, ← Text.isAllBlank_iff, Text.isAllBlank, List.all_eq_true]
  intro blank
  have dot : '.' ∈ version.toList := by simp [dotted]
  exact absurd (blank '.' dot) (by decide)

/-- Metadata that pass the tests become an update. -/
theorem Release.Metadata.Acceptable.update {metadata : Metadata} (acceptable : metadata.Acceptable)
    (now : Int64) : ∃ update, Update.ofMetadata now metadata = .ok update :=
  ⟨{ version := metadata.version
     code := metadata.versionCode
     url := metadata.downloadUrl
     notes := metadata.notes
     fileSize := metadata.fileSize
     checksum := Text.lower (Text.trim metadata.checksum)
     signatureUrl := Update.presentSignature metadata.signatureUrl
     date := metadata.date.getD now
     version_present := by
       rw [← Bool.not_eq_true, Text.isAllBlank_iff]
       exact acceptable.version
     url_secure := acceptable.url
     checksum_canonical := Checksum.isCanonical_lower acceptable.checksum
     signature_present := Update.presentSignature_ne _ },
    Update.ofMetadata_eq_ok_iff.mpr ⟨acceptable, rfl⟩⟩

namespace Check

variable {network : Network} {earlier asked : List Request} {now : Int64} {endpoint : String}
  {release : Release.Hosted} {artifact : Release.Asset} {checksum : String}

/-- An eligible release becomes an update with any checksum that is written as records hold it. -/
theorem Eligible.toUpdate (eligible : Eligible release artifact)
    (canonical : Checksum.isCanonical checksum = true) (now : Int64) :
    ∃ update, release.toUpdate now checksum = .ok update := by
  obtain ⟨code, coded⟩ := eligible.coded
  rw [Release.Hosted.toUpdate, coded, ok_bind, eligible.first]
  dsimp only
  refine Release.Metadata.Acceptable.update ⟨?_, ?_, eligible.secure⟩ now
  · dsimp only
    rw [Checksum.trim_of_isCanonical canonical]
    exact Checksum.isHexText_of_isCanonical canonical
  · exact Release.trim_ne_of_codeOfVersion coded

/-! ## Refusals -/

/-- The ways in which a hosted release is refused, each for a release that passes the tests of those
above it, with what is asked before. -/
inductive Refuses (network : Network) (earlier : List Request) (release : Release.Hosted) :
    List Request → Halt CheckError → Prop where
  | uncoded (uncoded : ¬ ∃ code, Release.codeOfVersion release.version = .ok code) :
      Refuses network earlier release [] (.failure (.parse (.versionCode release.version)))
  | bare {code : UInt32} (coded : Release.codeOfVersion release.version = .ok code)
      (bare : release.assets = []) :
      Refuses network earlier release [] (.failure (.parse (.noAssets release.version)))
  | insecure {code : UInt32} {artifact : Release.Asset} {others : List Release.Asset}
      (coded : Release.codeOfVersion release.version = .ok code)
      (assets : release.assets = artifact :: others) (insecure : Url.isSecure artifact.url = false) :
      Refuses network earlier release []
        (.failure (.parse (.insecureDownloadUrl release.version artifact.url)))
  | unverifiable {artifact : Release.Asset} {asked : List Request} {halt : Halt CheckError}
      (eligible : Eligible release artifact)
      (sought : Seeks network earlier release artifact asked (.error halt)) :
      Refuses network earlier release asked halt

theorem Hosts.refuses {halt : Halt CheckError}
    (hosts : Hosts network earlier now release asked (.error halt)) :
    Refuses network earlier release asked halt := by
  generalize refused : Except.error halt = offer at hosts
  cases hosts with
  | uncoded uncoded =>
      cases refused
      cases Release.codeOfVersion_error uncoded
      refine .uncoded ?_
      rintro ⟨code, coded⟩
      cases uncoded.symm.trans coded
  | bare coded bare =>
      cases refused
      exact .bare coded (List.head?_eq_none_iff.mp bare)
  | insecure coded first insecure =>
      cases refused
      obtain ⟨others, assets⟩ := List.head?_eq_some_iff.mp first
      exact .insecure coded assets insecure
  | unverifiable eligible sought =>
      cases refused
      exact .unverifiable eligible sought
  | verifiable eligible sought =>
      -- the update passes its own tests, so this is no refusal
      obtain ⟨update, made⟩ := eligible.toUpdate (sought.certifies eligible.first).2 now
      rw [made] at refused
      cases refused

theorem Refuses.hosts {halt : Halt CheckError} (refuses : Refuses network earlier release asked halt)
    (now : Int64) : Hosts network earlier now release asked (.error halt) := by
  cases refuses with
  | uncoded uncoded =>
      cases coded : Release.codeOfVersion release.version with
      | ok code => exact absurd ⟨code, coded⟩ uncoded
      | error error =>
          cases Release.codeOfVersion_error coded
          exact .uncoded coded
  | bare coded bare => exact .bare coded (List.head?_eq_none_iff.mpr bare)
  | insecure coded assets insecure =>
      exact .insecure coded (List.head?_eq_some_iff.mpr ⟨_, assets⟩) insecure
  | unverifiable eligible sought => exact .unverifiable eligible sought

/-- A hosted release is offered unless it is refused. -/
theorem Hosts.eq_error_iff {offer : Except (Halt CheckError) Update} {halt : Halt CheckError}
    (hosts : Hosts network earlier now release asked offer) :
    offer = .error halt ↔ Refuses network earlier release asked halt := by
  constructor
  · rintro rfl
    exact hosts.refuses
  · intro refuses
    have same := (hosts.agree (.refl network earlier) (.refl id now) (refuses.hosts now)).2
    cases offer with
    | error other => exact same
    | ok update => cases same

/-- The errors for which a hosted release is refused. -/
theorem Refuses.error {error : CheckError}
    (refuses : Refuses network earlier release asked (.failure error)) :
    error = .parse (.versionCode release.version) ∧ asked = [] ∨
    error = .parse (.noAssets release.version) ∧ asked = [] ∨
    (∃ artifact, release.assets.head? = some artifact ∧ asked = [] ∧
      error = .parse (.insecureDownloadUrl release.version artifact.url)) ∨
    (∃ reason, error = .checksumMissing release.version reason) ∨
    ∃ artifact asset cause, release.Publishes artifact asset ∧ error = .fetch cause ∧
      asked = [.text asset.url] ∧ (network.text earlier asset.url).reply = .failure cause := by
  generalize refused : Halt.failure error = halt at refuses
  cases refuses with
  | uncoded =>
      cases refused
      exact .inl ⟨rfl, rfl⟩
  | bare =>
      cases refused
      exact .inr (.inl ⟨rfl, rfl⟩)
  | insecure _ assets =>
      cases refused
      exact .inr (.inr (.inl ⟨_, by rw [assets]; rfl, rfl, rfl⟩))
  | @unverifiable artifact _ _ eligible sought =>
      subst refused
      refine .inr (.inr (.inr ?_))
      generalize missed : Except.error (Halt.failure error) = found at sought
      cases sought with
      | insecure | unusable | unpublished =>
          cases missed
          exact .inl ⟨_, rfl⟩
      | @unanswered asset _ listed secure replied =>
          cases missed
          refine .inr ⟨artifact, asset, ?_⟩
          cases reply : (network.text earlier asset.url).reply with
          | body text => simp [reply, textOf] at replied
          | crash => simp [reply, textOf] at replied
          | failure cause =>
              rw [reply] at replied
              cases replied
              exact ⟨cause, (Release.Hosted.checksumAsset?_eq_some_iff eligible.first).mp listed,
                rfl, rfl, rfl⟩
      | document | digest => cases missed

/-! ## A check of a hosted release -/

theorem Offers.hosts {body : String} {offer : Except (Halt CheckError) Update}
    (offers : Offers network earlier now endpoint asked offer)
    (secure : Url.isSecure endpoint = true)
    (replied : (network.text earlier endpoint).reply = .body body)
    (parsed : Release.Document.parse body = .ok (.hosted release)) :
    ∃ more, asked = .text endpoint :: more ∧
      Hosts network (earlier ++ [.text endpoint]) now release more offer := by
  have answered := textOf_eq_ok_iff.mpr replied
  cases offers with
  | insecure insecure => cases secure.symm.trans insecure
  | unanswered _ other => cases answered.symm.trans other
  | unreadable _ other read =>
      cases answered.symm.trans other
      cases parsed.symm.trans read
  | native _ other read =>
      cases answered.symm.trans other
      cases parsed.symm.trans read
  | hosted _ other read hosts =>
      cases answered.symm.trans other
      cases parsed.symm.trans read
      exact ⟨_, rfl, hosts⟩

/-- A check compares what the endpoint offers, and behind the offer it only writes records. -/
theorem run_offers (endpoint : String) (current : UInt32) (world : World) :
    ∃ asked offer, world.Queried asked (run endpoint current world).2 ∧
      Offers world.network world.requests world.now endpoint asked offer ∧
      (run endpoint current world).1 = offer.map (compare current) := by
  obtain ⟨asked, queried, offers⟩ := offers_run endpoint world
  suffices ran : (resolve endpoint world).2.Queried [] (run endpoint current world).2 ∧
      (run endpoint current world).1 = (resolve endpoint world).1.map (compare current) by
    have silent := queried.trans ran.1
    rw [List.append_nil] at silent
    exact ⟨asked, _, silent, offers, ran.2⟩
  rw [run, Failing.bind_run]
  cases (resolve endpoint world).1 with
  | error halt => exact ⟨.refl _, rfl⟩
  | ok update =>
      dsimp only
      rw [map_ok]
      cases compare current update with
      | noUpdate => exact ⟨Effect.log_silent _ _ _ _, rfl⟩
      | updateAvailable newer => exact ⟨Effect.log_silent _ _ _ _, rfl⟩

/-- The tests of a check imply those of an update. Once a checksum was found for the artifact of a
hosted release, an update is made of it. So when an endpoint answers with a hosted release, the check
fails exactly when the release is refused: for the code of its version, for the assets that it lacks
or for the address of its artifact before anything more is asked, and else for what comes of seeking
the checksum. -/
theorem hosted_gates (release : Release.Hosted) (world : World) :
    (∀ artifact checksum now, Eligible release artifact →
      (resolveChecksum release artifact world).1 = .ok checksum →
      ∃ update, release.toUpdate now checksum = .ok update) ∧
    ∀ endpoint current body, Url.isSecure endpoint = true →
      (world.network.text world.requests endpoint).reply = .body body →
      Release.Document.parse body = .ok (.hosted release) →
      ∃ asked, (run endpoint current world).2.requests =
          world.requests ++ .text endpoint :: asked ∧
        (∀ halt, (run endpoint current world).1 = .error halt ↔
          Refuses world.network (world.requests ++ [.text endpoint]) release asked halt) ∧
        ∀ error, (run endpoint current world).1 = .error (.failure error) →
          error = .parse (.versionCode release.version) ∧ asked = [] ∨
          error = .parse (.noAssets release.version) ∧ asked = [] ∨
          (∃ artifact, release.assets.head? = some artifact ∧ asked = [] ∧
            error = .parse (.insecureDownloadUrl release.version artifact.url)) ∨
          (∃ reason, error = .checksumMissing release.version reason) ∨
          ∃ artifact asset cause, release.Publishes artifact asset ∧ error = .fetch cause ∧
            asked = [.text asset.url] ∧
            (world.network.text (world.requests ++ [.text endpoint]) asset.url).reply =
              .failure cause := by
  refine ⟨?_, ?_⟩
  · intro artifact checksum now eligible found
    obtain ⟨asked, -, sought⟩ := seeks_run release artifact world
    rw [found] at sought
    exact eligible.toUpdate (sought.certifies eligible.first).2 now
  · intro endpoint current body secure replied parsed
    obtain ⟨asked, offer, queried, offers, compared⟩ := run_offers endpoint current world
    obtain ⟨more, rfl, hosts⟩ := offers.hosts secure replied parsed
    have fails : ∀ halt, (run endpoint current world).1 = .error halt ↔
        Refuses world.network (world.requests ++ [.text endpoint]) release more halt := by
      intro halt
      rw [← hosts.eq_error_iff, compared]
      cases offer with
      | error other => rw [map_error, Except.error.injEq, Except.error.injEq]
      | ok update => simp only [map_ok, reduceCtorEq]
    exact ⟨more, queried.requests, fails, fun error failed => ((fails _).mp failed).error⟩

open Checker (taggedRelease taggedBody parse_taggedBody announcing worldWith listed)

/-- A release becomes an update with the checksum beside its artifact, and the check fails for the
connection when that is lost. -/
theorem hosted_gates_tagged :
    (∃ update, taggedRelease.toUpdate 0 listed = .ok update) ∧
    (run "https://e" 1 (worldWith (announcing (.failure (.clientBuild ""))))).1 =
      .error (.failure (.fetch (.clientBuild ""))) := by
  have eligible : Eligible taggedRelease ⟨"a", "https://a", 0, none⟩ :=
    ⟨⟨2, by decide +kernel⟩, rfl, by decide +kernel⟩
  constructor
  · have found : (resolveChecksum taggedRelease ⟨"a", "https://a", 0, none⟩
        (worldWith (announcing (.body listed)))).1.toOption = some listed := by decide +kernel
    refine (hosted_gates taggedRelease (worldWith (announcing (.body listed)))).1 _ listed 0
      eligible ?_
    generalize (resolveChecksum taggedRelease ⟨"a", "https://a", 0, none⟩
      (worldWith (announcing (.body listed)))).1 = result at found ⊢
    cases result with
    | error halt => cases found
    | ok checksum => rw [Option.some.inj found]
  · obtain ⟨asked, requests, fails, -⟩ :=
      (hosted_gates taggedRelease (worldWith (announcing (.failure (.clientBuild ""))))).2
        "https://e" 1 taggedBody (by decide +kernel) rfl parse_taggedBody
    have asks : (run "https://e" 1
        (worldWith (announcing (.failure (.clientBuild ""))))).2.requests =
          [.text "https://e", .text "https://b"] := by decide +kernel
    cases asks.symm.trans requests
    have published : taggedRelease.checksumAsset? ⟨"a", "https://a", 0, none⟩ =
        some ⟨"a.sha256", "https://b", 0, none⟩ := rfl
    have secure : Url.isSecure "https://b" = true := by decide +kernel
    exact (fails _).mpr (.unverifiable eligible (.unanswered published secure rfl))

end Check

end SelfUpdate
