import SelfUpdate.Proofs.Check.Outcomes
import SelfUpdate.Proofs.Release.Hosted
import SelfUpdate.Proofs.Worker

/-!
# Where a reported update comes from

An update that a check reports is newer than the running build, and every field that matters for its
safety was read from the document at a secure endpoint. Its checksum comes from the document that the
release publishes beside the artifact whenever there is one, be it usable or not.
-/

namespace SelfUpdate

namespace Check

variable {network : Network} {earlier asked : List Request} {now : Int64} {endpoint : String}
  {release : Release.Hosted} {artifact asset : Release.Asset} {checksum : String} {update : Update}
  {current : UInt32}

/-- The asset can be asked securely, and what it answers has an entry for the artifact. -/
def Usable (network : Network) (earlier : List Request) (artifact asset : Release.Asset) : Prop :=
  Url.isSecure asset.url = true ∧ ∃ contents checksum,
    (network.text earlier asset.url).reply = .body contents ∧
      Checksum.ofDocument? contents artifact.name = some checksum

/-- What a checksum was published for an artifact in. -/
inductive Certifies (network : Network) (earlier : List Request) (release : Release.Hosted)
    (artifact : Release.Asset) : String → Prop where
  | document {asset : Release.Asset} {contents checksum : String}
      (published : release.Publishes artifact asset) (secure : Url.isSecure asset.url = true)
      (replied : (network.text earlier asset.url).reply = .body contents)
      (entry : Checksum.ofDocument? contents artifact.name = some checksum) :
      Certifies network earlier release artifact checksum
  /-- The digest field counts only if no asset is named like a checksum of the artifact. -/
  | digest {algorithm hash : String}
      (unpublished : ∀ asset ∈ release.assets, asset.name ≠ artifact.name ++ ".sha256")
      (field : artifact.digest = some (algorithm ++ ":" ++ hash))
      (sha256 : Text.lower algorithm = "sha256") (hex : Checksum.isHexText hash = true) :
      Certifies network earlier release artifact (Text.lower hash)

/-- What an update was announced in. -/
inductive Announces (network : Network) (earlier : List Request) (endpoint : String)
    (update : Update) : Prop where
  | native {body : String} {metadata : Release.Metadata}
      (replied : (network.text earlier endpoint).reply = .body body)
      (parsed : Release.Document.parse body = .ok (.native metadata))
      (version : update.version = metadata.version) (code : update.code = metadata.versionCode)
      (url : update.url = metadata.downloadUrl)
      (checksum : update.checksum = Text.lower (Text.trim metadata.checksum))
  | hosted {body : String} {release : Release.Hosted} {artifact : Release.Asset}
      {others : List Release.Asset} {part : List Char}
      (replied : (network.text earlier endpoint).reply = .body body)
      (parsed : Release.Document.parse body = .ok (.hosted release))
      (tag : release.tag = "v" ++ update.version ∨
        release.tag = update.version ∧ release.tag.toList.head? ≠ some 'v')
      (second : Release.SecondPart update.version.toList part)
      (code : Release.Numeral part update.code.toNat)
      (assets : release.assets = artifact :: others) (url : update.url = artifact.url)
      (size : update.fileSize = artifact.size)
      (checksum : Certifies network (earlier ++ [.text endpoint]) release artifact update.checksum)

theorem built_eq_ok_iff {result : Except Release.Error Update} :
    built result = .ok update ↔ result = .ok update := by
  cases result <;> simp [built]

/-- A checksum that was found was published, and is written as records hold it. -/
theorem Seeks.certifies (first : release.artifact? = some artifact)
    (sought : Seeks network earlier release artifact asked (.ok checksum)) :
    Certifies network earlier release artifact checksum ∧
      Checksum.isCanonical checksum = true := by
  cases sought with
  | document listed secure replied entry =>
      have published := (Release.Hosted.checksumAsset?_eq_some_iff first).mp listed
      exact ⟨.document published secure (textOf_eq_ok_iff.mp replied) entry,
        Checksum.isCanonical_of_ofDocument? entry⟩
  | digest unlisted found =>
      obtain ⟨field, given, found⟩ := Option.bind_eq_some_iff.mp found
      have canonical := Checksum.isCanonical_of_ofDigestField? found
      obtain ⟨algorithm, hash, rfl, sha256, hex, rfl⟩ :=
        Checksum.ofDigestField?_eq_some_iff.mp found
      have unpublished := (Release.Hosted.checksumAsset?_eq_none_iff first).mp unlisted
      exact ⟨.digest unpublished given sha256 hex, canonical⟩

/-- An update that is offered was announced at a secure endpoint. -/
theorem Offers.announces (offers : Offers network earlier now endpoint asked (.ok update)) :
    Url.isSecure endpoint = true ∧ Announces network earlier endpoint update := by
  generalize offered : Except.ok update = offer at offers
  cases offers with
  | insecure | unanswered | unreadable => cases offered
  | native secure replied parsed =>
      have told := Update.ofMetadata_eq_ok (built_eq_ok_iff.mp offered.symm)
      exact ⟨secure, .native (textOf_eq_ok_iff.mp replied) parsed
        (congrArg Release.Metadata.version told) (congrArg Release.Metadata.versionCode told)
        (congrArg Release.Metadata.downloadUrl told) (congrArg Release.Metadata.checksum told)⟩
  | hosted secure replied parsed hosts =>
      cases hosts with
      | uncoded | bare | insecure | unverifiable => cases offered
      | verifiable eligible sought =>
          obtain ⟨certified, canonical⟩ := sought.certifies eligible.first
          obtain ⟨artifact, first, version, coded, url, size, rfl⟩ :=
            Release.Hosted.toUpdate_eq_ok canonical (built_eq_ok_iff.mp offered.symm)
          cases first.symm.trans eligible.first
          obtain ⟨others, assets⟩ := List.head?_eq_some_iff.mp first
          rw [← version] at coded
          obtain ⟨part, second, numeral⟩ := Release.codeOfVersion_eq_ok_iff.mp coded
          exact ⟨secure, .hosted (textOf_eq_ok_iff.mp replied) parsed
            (version ▸ Release.Hosted.tag_eq _) second numeral assets url size certified⟩

theorem artifact?_of_publishes (published : release.Publishes artifact asset) :
    release.artifact? = some artifact := by
  obtain ⟨before, after, assets, -⟩ := published
  rw [Release.Hosted.artifact?, assets, List.head?_cons]

/-- No checksum is found when the published one is not usable. -/
theorem Seeks.refuses {found : Except (Halt CheckError) String}
    (sought : Seeks network earlier release artifact asked found)
    (published : release.Publishes artifact asset)
    (unusable : ¬ Usable network earlier artifact asset) : ∃ halt, found = .error halt := by
  have only := (Release.Hosted.checksumAsset?_eq_some_iff
    (artifact?_of_publishes published)).mpr published
  cases sought with
  | insecure | unanswered | unusable | unpublished => exact ⟨_, rfl⟩
  | document listed secure replied entry =>
      cases listed.symm.trans only
      exact absurd ⟨secure, _, _, textOf_eq_ok_iff.mp replied, entry⟩ unusable
  | digest unlisted => cases unlisted.symm.trans only

/-- A release is not offered when the checksum that it publishes is not usable. -/
theorem Offers.refuses {body : String} {offer : Except (Halt CheckError) Update}
    (offers : Offers network earlier now endpoint asked offer)
    (replied : (network.text earlier endpoint).reply = .body body)
    (parsed : Release.Document.parse body = .ok (.hosted release))
    (published : release.Publishes artifact asset)
    (unusable : ¬ Usable network (earlier ++ [.text endpoint]) artifact asset) :
    ∃ halt, offer = .error halt := by
  have answered := textOf_eq_ok_iff.mpr replied
  cases offers with
  | insecure | unanswered | unreadable => exact ⟨_, rfl⟩
  | native _ other parsed_ =>
      cases answered.symm.trans other
      cases parsed.symm.trans parsed_
  | hosted _ other parsed_ hosts =>
      cases answered.symm.trans other
      cases parsed.symm.trans parsed_
      cases hosts with
      | uncoded | bare | insecure | unverifiable => exact ⟨_, rfl⟩
      | verifiable eligible sought =>
          cases (artifact?_of_publishes published).symm.trans eligible.first
          obtain ⟨halt, missed⟩ := sought.refuses published unusable
          cases missed

end Check

/-! ## Checks by a checker -/

namespace Checker

variable {checker : Checker} {world : World}

/-- Has a checker check an endpoint, while others have it check more. -/
def check (checker : Checker) (job : CheckJob) (others : List CheckJob) :
    Effect (Except CheckError CheckOutcome) := do
  let settled ← settle (others.foldl Worker.submit (checker.submit job))
  return settled.result checker.next

theorem left_queried (queue : List (Nat × CheckJob)) (world : World) :
    ∃ asked, world.Queried asked (Worker.left runJob queue world) := by
  induction queue generalizing world with
  | nil => exact ⟨[], .refl world⟩
  | cons entry queue ih =>
      obtain ⟨ticket, job⟩ := entry
      obtain ⟨first, -, queried, -⟩ := Check.runJob_offers ticket job world
      obtain ⟨more, onward⟩ := ih (runJob ticket job world).2
      exact ⟨first ++ more, queried.trans onward⟩

theorem settle_network (orderly : checker.Orderly) (world : World) :
    (checker.settle world).2.network = world.network := by
  obtain ⟨asked, queried⟩ := left_queried checker.queue world
  rw [settle, Worker.settle_eq orderly.running]
  exact queried.network

/-- A check has no result of its own when the checker was shut down or the check crashed, and else
its result is what the endpoint offers once the checks before it are done. -/
theorem check_run (orderly : checker.Orderly) (job : CheckJob) (others : List CheckJob)
    (world : World) :
    (∃ error, (checker.check job others world).1 = .error (.worker error)) ∨
      ∃ asked offer, Check.Offers world.network (checker.settle world).2.requests
          (checker.settle world).2.now job.endpoint asked offer ∧
        Check.outputOf job.current offer = some (checker.check job others world).1 := by
  have waited : (checker.check job others world).1 =
      result (Worker.settle runJob (others.foldl Worker.submit (checker.submit job)) world).1
        checker.next := rfl
  rw [waited, result]
  cases accepting : checker.accepting with
  | false =>
      rw [Worker.answer?_refused orderly accepting]
      exact .inl ⟨_, rfl⟩
  | true =>
      rw [Worker.answer?_accepted orderly accepting, ← settle]
      obtain ⟨asked, offer, -, offers, output⟩ :=
        Check.runJob_offers checker.next job (checker.settle world).2
      rw [settle_network orderly] at offers
      cases ran : (runJob checker.next job (checker.settle world).2).1 with
      | none => exact .inl ⟨_, rfl⟩
      | some result => exact .inr ⟨asked, offer, offers, output.symm.trans ran⟩

/-- A reported update is sound. Whatever the network answers, and whatever else the checker is asked,
an update that a check reports is newer than the running build and was announced at a secure
endpoint. When the release lists an asset for the checksum of its artifact which cannot be asked
securely, does not answer or has no entry for it, the check fails. -/
theorem check_sound (orderly : checker.Orderly) (endpoint : String) (current : UInt32)
    (others : List CheckJob) (world : World) :
    (∀ update, (checker.check ⟨endpoint, current⟩ others world).1 = .ok (.updateAvailable update) →
      Url.isSecure endpoint = true ∧ current < update.code ∧
        Check.Announces world.network (checker.settle world).2.requests endpoint update) ∧
    (∀ body release artifact asset,
      (world.network.text (checker.settle world).2.requests endpoint).reply = .body body →
      Release.Document.parse body = .ok (.hosted release) → release.Publishes artifact asset →
      ¬ Check.Usable world.network ((checker.settle world).2.requests ++ [.text endpoint]) artifact
        asset →
      ∃ error, (checker.check ⟨endpoint, current⟩ others world).1 = .error error) := by
  rcases check_run orderly ⟨endpoint, current⟩ others world with
    ⟨error, failed⟩ | ⟨asked, offer, offers, output⟩
  · rw [failed]
    exact ⟨nofun, fun _ _ _ _ _ _ _ _ => ⟨_, rfl⟩⟩
  constructor
  · intro update reported
    rw [reported] at output
    cases offer with
    | error halt => cases halt <;> cases output
    | ok offered =>
        rw [Check.outputOf, Option.some.injEq, Except.ok.injEq, Check.compare] at output
        split at output
        · rename_i newer
          cases output
          obtain ⟨secure, announced⟩ := offers.announces
          exact ⟨secure, newer, announced⟩
        · cases output
  · intro body release artifact asset replied parsed published unusable
    obtain ⟨halt, rfl⟩ := offers.refuses replied parsed published unusable
    cases halt with
    | failure error => exact ⟨error, (Option.some.inj output).symm⟩
    | crash => cases output

/-! ## A check in full -/

deriving instance DecidableEq for Release.Document

/-- A document of a release that has a checksum beside its artifact. -/
def taggedBody : String :=
  "\x7b\"tag_name\":\"v0.2\",\"assets\":[\x7b\"name\":\"a\",\"browser_download_url\":\"https://a\"\x7d," ++
    "\x7b\"name\":\"a.sha256\",\"browser_download_url\":\"https://b\"\x7d]\x7d"

def taggedRelease : Release.Hosted :=
  ⟨"v0.2", none, none, [⟨"a", "https://a", 0, none⟩, ⟨"a.sha256", "https://b", 0, none⟩]⟩

/-- A network in which the release is announced; `reply` comes from the asset beside the artifact. -/
def announcing (reply : TextReply) : Network where
  text _ url := if url = "https://e" then ⟨[], .body taggedBody⟩ else ⟨[], reply⟩
  stream _ _ := ⟨[], .crash⟩

def worldWith (network : Network) : World where
  disk := ⟨[], 0, [], []⟩
  network := network
  requests := []
  records := []
  leastLevel := none
  sink := .unset
  progress := []
  now := 0
  clock := 0
  installer := .willing
  handedOver := []

def idleChecker : Checker := .new name

/-- The digest that the asset beside the artifact gives. -/
def listed : String := Sha256.hexDigest []

theorem parse_taggedBody :
    Release.Document.parse taggedBody = .ok (.hosted taggedRelease) := by
  decide +kernel

theorem reported_tagged : ∃ update,
    (check idleChecker ⟨"https://e", 1⟩ [] (worldWith (announcing (.body listed)))).1 =
      .ok (.updateAvailable update) := by
  have reported : (check idleChecker ⟨"https://e", 1⟩ []
      (worldWith (announcing (.body listed)))).1.toOption.any (· != .noUpdate) = true := by
    decide +kernel
  generalize (check idleChecker ⟨"https://e", 1⟩ [] (worldWith (announcing (.body listed)))).1 =
    result at reported ⊢
  rcases result with error | (_ | update)
  · cases reported
  · cases reported
  · exact ⟨update, rfl⟩

/-- An update is reported when its checksum is there, and none is when the connection fails. -/
theorem check_sound_tagged :
    (∃ update, (check idleChecker ⟨"https://e", 1⟩ []
          (worldWith (announcing (.body listed)))).1 = .ok (.updateAvailable update) ∧
      Url.isSecure "https://e" = true ∧ 1 < update.code ∧
      Check.Announces (announcing (.body listed)) [] "https://e" update) ∧
    ∃ error, (check idleChecker ⟨"https://e", 1⟩ [] (worldWith (announcing .crash))).1 =
      .error error := by
  constructor
  · obtain ⟨update, reported⟩ := reported_tagged
    exact ⟨update, reported, (check_sound (.new name) "https://e" 1 []
      (worldWith (announcing (.body listed)))).1 update reported⟩
  · refine (check_sound (.new name) "https://e" 1 [] (worldWith (announcing .crash))).2
      taggedBody taggedRelease ⟨"a", "https://a", 0, none⟩ ⟨"a.sha256", "https://b", 0, none⟩ rfl
      parse_taggedBody ⟨[], [], rfl, rfl, nofun⟩ ?_
    rintro ⟨-, contents, checksum, replied, -⟩
    cases replied

end Checker

end SelfUpdate
