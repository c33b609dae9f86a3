import SelfUpdate.CommandLine.Run
import SelfUpdate.Proofs.Check.Provenance
import SelfUpdate.Proofs.Text.Trim

/-!
# Where updates come from

However an update comes about, it is made from metadata that pass the same tests. So what the tests
demand holds of every update there is.
-/

namespace SelfUpdate

namespace Url

/-- A scheme is split off at the first mark behind it. -/
theorem splitScheme_eq_some {text scheme rest : List Char}
    (split : splitScheme text = some (scheme, rest)) : text = scheme ++ "://".toList ++ rest := by
  induction text generalizing scheme with
  | nil => cases split
  | cons c text ih =>
      rw [splitScheme.eq_def] at split
      dsimp only at split
      split at split
      · cases split
      · rename_i same
        cases same
        cases split
        rfl
      · rename_i first _ same
        cases same
        obtain ⟨⟨inner, rest⟩, found, same⟩ := Option.map_eq_some_iff.mp split
        cases same
        rw [ih found]
        rfl

/-- A secure address has something behind the scheme `https`. -/
theorem isSecure_eq_true {url : String} (secure : isSecure url = true) :
    ∃ scheme rest, url = scheme ++ "://" ++ rest ∧ Text.lower scheme = "https" ∧ rest ≠ "" := by
  unfold isSecure at secure
  split at secure
  · cases secure
  · rename_i scheme rest split
    rw [Bool.and_eq_true, beq_iff_eq, Bool.not_eq_true', List.isEmpty_eq_false_iff] at secure
    refine ⟨String.ofList scheme, String.ofList rest, ?_, ?_, ?_⟩
    · rw [← String.toList_inj, splitScheme_eq_some split]
      simp
    · rw [Text.lower, String.toList_ofList, secure.1]
    · rw [ne_eq, String.ofList_eq_empty_iff]
      exact secure.2

/-- A secure address is not blank. -/
theorem isAllBlank_of_isSecure {url : String} (secure : isSecure url = true) :
    Text.isAllBlank url = false := by
  obtain ⟨scheme, rest, rfl, -⟩ := isSecure_eq_true secure
  rw [Text.isAllBlank, List.all_eq_false]
  exact ⟨':', by simp, by decide⟩

end Url

namespace Checksum

theorem isLowerHexDigit_iff {c : Char} :
    isLowerHexDigit c = true ↔ c ∈ "0123456789abcdef".toList := by
  constructor
  · intro digit
    have bounds := isLowerHexDigit_iff_toNat.mp digit
    have small : ∀ n < 103, 48 ≤ n ∧ n ≤ 57 ∨ 97 ≤ n ∧ n ≤ 102 →
        Char.ofNat n ∈ "0123456789abcdef".toList := by decide
    have listed := small c.toNat (by omega) bounds
    rwa [Char.ofNat_toNat] at listed
  · intro listed
    have digits : "0123456789abcdef".toList.all isLowerHexDigit = true := by decide
    exact List.all_eq_true.mp digits c listed

/-- A canonical checksum has sixty-four digits. -/
theorem isCanonical_iff {checksum : String} :
    isCanonical checksum = true ↔
      checksum.length = 64 ∧ ∀ c ∈ checksum.toList, c ∈ "0123456789abcdef".toList := by
  simp only [isCanonical, hexLength, Bool.and_eq_true, beq_iff_eq, List.all_eq_true,
    isLowerHexDigit_iff, String.length_toList]

end Checksum

/-! ## The tests -/

/-- Metadata that pass the tests. -/
structure Release.Metadata.Acceptable (metadata : Metadata) : Prop where
  checksum : Checksum.isHexText (Text.trim metadata.checksum) = true
  version : Text.trim metadata.version ≠ ""
  url : Url.isSecure metadata.downloadUrl = true

namespace Update

variable {now : Int64} {metadata : Release.Metadata} {update : Update}

theorem toMetadata_inj {one other : Update} :
    one.toMetadata = other.toMetadata ↔ one = other := by
  constructor
  · intro same
    cases one
    cases other
    simp only [toMetadata, Release.Metadata.mk.injEq, Option.some.injEq] at same
    obtain ⟨rfl, rfl, rfl, rfl, rfl, rfl, rfl, rfl⟩ := same
    rfl
  · rintro rfl
    rfl

/-- Metadata become an update exactly when they pass the tests. The update says what they say, save
that its checksum is in lowercase and has no blanks around it, that an empty address of a signature
is left out, and that it has a date. -/
theorem ofMetadata_eq_ok_iff :
    ofMetadata now metadata = .ok update ↔ metadata.Acceptable ∧
      update.toMetadata =
        { metadata with
          checksum := Text.lower (Text.trim metadata.checksum)
          signatureUrl := presentSignature metadata.signatureUrl
          date := some (metadata.date.getD now) } := by
  constructor
  · intro made
    refine ⟨?_, ofMetadata_eq_ok made⟩
    unfold ofMetadata at made
    dsimp only at made
    split at made
    · cases made
    split at made
    · rename_i hex
      split at made
      · cases made
      rename_i present
      split at made
      · cases made
      split at made
      · rename_i secure
        exact ⟨hex, mt Text.isAllBlank_iff.mpr present, secure⟩
      · cases made
    · cases made
  · rintro ⟨⟨hex, present, secure⟩, told⟩
    have some_ : (Text.trim metadata.checksum).isEmpty = false := by
      rw [Bool.eq_false_iff, ne_eq, String.isEmpty_iff]
      intro nothing
      rw [nothing] at hex
      cases hex
    have blank : ¬ Text.isAllBlank metadata.version = true := mt Text.isAllBlank_iff.mp present
    unfold ofMetadata
    dsimp only
    rw [if_neg (by simp [some_]), dif_pos hex, dif_neg blank,
      if_neg (by simp [Url.isAllBlank_of_isSecure secure]), dif_pos secure]
    rw [Except.ok.injEq, ← toMetadata_inj, told]
    rfl

/-! ## Where they are made -/

/-- The ways to get an update. -/
inductive Obtained (update : Update) : Prop where
  | metadata {now : Int64} {metadata : Release.Metadata}
      (made : ofMetadata now metadata = .ok update) : Obtained update
  | hosted {now : Int64} {release : Release.Hosted} {checksum : String}
      (made : release.toUpdate now checksum = .ok update) : Obtained update
  | text {now : Int64} {text : String} (read : parse now text = .ok update) : Obtained update
  | value {now : Int64} {value : Json.Value} (read : decode now value = .ok update) :
      Obtained update
  | recorded {file : Path} {world : World}
      (loaded : (CommandLine.loadRelease file world).1 = some update) : Obtained update
  | reported {checker : Checker} {job : CheckJob} {others : List CheckJob} {world : World}
      (orderly : checker.Orderly)
      (outcome : (checker.check job others world).1 = .ok (.updateAvailable update)) :
      Obtained update

theorem ofMetadata_of_toUpdate {release : Release.Hosted} {checksum : String}
    (made : release.toUpdate now checksum = .ok update) :
    ∃ metadata, ofMetadata now metadata = .ok update := by
  rw [Release.Hosted.toUpdate] at made
  obtain ⟨code, -, made⟩ := bind_eq_ok_iff.mp made
  split at made
  · cases made
  · exact ⟨_, made⟩

theorem ofMetadata_of_parse {text : String} (read : parse now text = .ok update) :
    ∃ metadata, ofMetadata now metadata = .ok update := by
  rw [parse, Json.Shape.parse] at read
  split at read
  · cases read
  rename_i metadata rest _
  cases made : ofMetadata now metadata with
  | error error =>
      rw [made] at read
      cases read
  | ok other =>
      rw [made] at read
      rw [mapError_ok] at read
      dsimp only at read
      split at read
      · cases read
      · cases read
        exact ⟨metadata, made⟩

theorem ofMetadata_of_decode {value : Json.Value} (read : decode now value = .ok update) :
    ∃ metadata, ofMetadata now metadata = .ok update := by
  obtain ⟨metadata, -, made⟩ := bind_eq_ok_iff.mp read
  refine ⟨metadata, ?_⟩
  cases result : ofMetadata now metadata with
  | error error =>
      rw [result] at made
      cases made
  | ok other =>
      rw [result] at made
      cases made
      rfl

theorem parse_of_loadRelease {file : Path} {world : World}
    (loaded : (CommandLine.loadRelease file world).1 = some update) :
    ∃ text, world.disk.readText file = .ok text ∧ parse world.now text = .ok update := by
  rw [CommandLine.loadRelease, Stateful.bind_run, Stateful.get_run] at loaded
  cases content : world.disk.readText file with
  | error error =>
      rw [content] at loaded
      cases loaded
  | ok text =>
      rw [content] at loaded
      refine ⟨text, rfl, ?_⟩
      cases read : parse world.now text with
      | error error =>
          simp only [read] at loaded
          cases loaded
      | ok other =>
          simp only [read] at loaded
          cases loaded
          rfl

end Update

/-- An update that is offered was made from metadata. -/
theorem Check.Offers.made {network : Network} {earlier asked : List Request} {now : Int64}
    {endpoint : String} {update : Update}
    (offers : Offers network earlier now endpoint asked (.ok update)) :
    ∃ metadata, Update.ofMetadata now metadata = .ok update := by
  generalize offered : Except.ok update = offer at offers
  cases offers with
  | insecure | unanswered | unreadable => cases offered
  | native => exact ⟨_, built_eq_ok_iff.mp offered.symm⟩
  | hosted _ _ _ hosts =>
      cases hosts with
      | uncoded | bare | insecure | unverifiable => cases offered
      | verifiable => exact Update.ofMetadata_of_toUpdate (built_eq_ok_iff.mp offered.symm)

namespace Update

variable {update : Update}

/-- Every update is made from metadata that pass the tests. -/
theorem Obtained.origin (obtained : update.Obtained) :
    ∃ now metadata, ofMetadata now metadata = .ok update := by
  cases obtained with
  | metadata made => exact ⟨_, _, made⟩
  | hosted made => exact ⟨_, ofMetadata_of_toUpdate made⟩
  | text read => exact ⟨_, ofMetadata_of_parse read⟩
  | value read => exact ⟨_, ofMetadata_of_decode read⟩
  | recorded loaded =>
      obtain ⟨text, -, read⟩ := parse_of_loadRelease loaded
      exact ⟨_, ofMetadata_of_parse read⟩
  | @reported checker job others world orderly outcome =>
      rcases checker.check_run orderly job others world with
        ⟨error, failed⟩ | ⟨asked, offer, offers, output⟩
      · cases failed.symm.trans outcome
      rw [outcome] at output
      cases offer with
      | error halt => cases halt <;> cases output
      | ok offered =>
          rw [Check.outputOf, Option.some.injEq, Except.ok.injEq, Check.compare] at output
          split at output
          · cases output
            exact ⟨_, offers.made⟩
          · cases output

/-- What an update has been checked for. -/
structure Checked (update : Update) : Prop where
  checksum_length : update.checksum.length = 64
  checksum_digits : ∀ c ∈ update.checksum.toList, c ∈ "0123456789abcdef".toList
  url : Url.isSecure update.url = true
  version : Text.trim update.version ≠ ""
  signature : ∀ url, update.signatureUrl = some url → url ≠ ""

/-- What an update carries is what it has been checked for. -/
theorem checked (update : Update) : update.Checked := by
  obtain ⟨length, digits⟩ := Checksum.isCanonical_iff.mp update.checksum_canonical
  refine ⟨length, digits, update.url_secure, ?_, ?_⟩
  · intro blank
    have present := update.version_present
    rw [Text.isAllBlank_iff.mpr blank] at present
    cases present
  · rintro url given rfl
    exact update.signature_present given

theorem Obtained.checked (obtained : update.Obtained) : update.Checked := by
  obtain ⟨now, metadata, made⟩ := obtained.origin
  obtain ⟨⟨hex, present, secure⟩, told⟩ := ofMetadata_eq_ok_iff.mp made
  have checksum : update.checksum = Text.lower (Text.trim metadata.checksum) :=
    congrArg Release.Metadata.checksum told
  have url : update.url = metadata.downloadUrl := congrArg Release.Metadata.downloadUrl told
  have version : update.version = metadata.version := congrArg Release.Metadata.version told
  have signature : update.signatureUrl = presentSignature metadata.signatureUrl :=
    congrArg Release.Metadata.signatureUrl told
  obtain ⟨length, digits⟩ := Checksum.isCanonical_iff.mp (Checksum.isCanonical_lower hex)
  refine ⟨checksum ▸ length, checksum ▸ digits, url ▸ secure, version ▸ present, ?_⟩
  rintro url given rfl
  exact presentSignature_ne _ (signature.symm.trans given)

end Update

end SelfUpdate
