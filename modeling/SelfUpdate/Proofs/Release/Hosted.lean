import Mathlib.Data.List.TakeWhile
import SelfUpdate.Proofs.Computation
import SelfUpdate.Proofs.Digest
import SelfUpdate.Release.Hosted

/-!
# What a release says of its update

An update takes all it says from the document that announced it: its code is a number in the version,
its address and size are those of the artifact, and its checksum is one that was published for the
artifact.
-/

namespace SelfUpdate

/-! ## Codes of versions -/

namespace Release

/-- The part of a text before its first dot, or the whole. -/
def FirstPart (text part : List Char) : Prop :=
  ∃ rest, text = part ++ rest ∧ '.' ∉ part ∧ (rest = [] ∨ ∃ more, rest = '.' :: more)

/-- The part of a text between its first two dots, or behind the only one. -/
def SecondPart (text part : List Char) : Prop :=
  ∃ first rest, text = first ++ '.' :: rest ∧ '.' ∉ first ∧ FirstPart rest part

/-- Decimal digits, at least one, and the number that they stand for. -/
def Digits (text : List Char) (n : Nat) : Prop :=
  text ≠ [] ∧ (∀ c ∈ text, c.isDigit = true) ∧ Nat.ofDigitChars 10 text 0 = n

/-- A number in decimal digits, which one plus sign may precede. -/
def Numeral (text : List Char) (n : Nat) : Prop :=
  Digits text n ∨ ∃ digits, text = '+' :: digits ∧ Digits digits n

theorem decimalValue?_eq_some_iff {text : List Char} {n : Nat} :
    decimalValue? text = some n ↔ Digits text n := by
  have value : Nat.ofDigitChars 10 text 0 =
      text.foldl (fun n d => n * 10 + (d.toNat - '0'.toNat)) 0 := by
    simp only [Nat.ofDigitChars_eq_foldl, Nat.mul_comm]
  rw [decimalValue?, Digits, value]
  by_cases digital : text.all Char.isDigit = true
  · rw [digital]
    rw [List.all_eq_true] at digital
    cases text with
    | nil => simp
    | cons c text => simp only [List.isEmpty_cons, Bool.not_true, Bool.or_false,
        Bool.false_eq_true, if_false, Option.some.injEq, ne_eq, reduceCtorEq, not_false_eq_true,
        true_and, iff_true_intro digital]
  · have other : ¬ ∀ c ∈ text, c.isDigit = true := by rwa [List.all_eq_true] at digital
    simp only [digital, Bool.not_false, Bool.or_true, if_true, reduceCtorEq, other, false_and,
      and_false]

/-- A number of 32 bits. -/
theorem code_eq_some_iff {text : List Char} {code : UInt32} :
    (do
      let n ← decimalValue? text
      if n < UInt32.size then return UInt32.ofNat n
      none) = some code ↔ Digits text code.toNat := by
  rw [Option.bind_eq_bind, Option.bind_eq_some_iff, ← decimalValue?_eq_some_iff]
  constructor
  · rintro ⟨n, value, same⟩
    split at same
    · rename_i small
      cases same
      rw [UInt32.toNat_ofNat_of_lt' small]
      exact value
    · cases same
  · intro value
    refine ⟨code.toNat, value, ?_⟩
    rw [if_pos code.toNat_lt, UInt32.ofNat_toNat]
    rfl

theorem codeOfSegment?_eq_some_iff {segment : List Char} {code : UInt32} :
    codeOfSegment? segment = some code ↔ Numeral segment code.toNat := by
  unfold codeOfSegment?
  rw [code_eq_some_iff, Numeral]
  split
  · rename_i rest
    constructor
    · exact fun digits => .inr ⟨rest, rfl, digits⟩
    · rintro (⟨-, digital, -⟩ | ⟨_, same, digits⟩)
      · exact absurd (digital '+' List.mem_cons_self) (by decide)
      · cases same
        exact digits
  · rename_i unsigned
    constructor
    · exact .inl
    · rintro (digits | ⟨rest, same, -⟩)
      · exact digits
      · exact absurd same (unsigned rest)

theorem getElem?_zero_splitOn_iff {text part : List Char} :
    (text.splitOn '.')[0]? = some part ↔ FirstPart text part := by
  constructor
  · intro first
    by_cases dotted : '.' ∈ text
    · obtain ⟨front, back, rfl, plain⟩ := List.eq_append_cons_of_mem dotted
      rw [List.splitOn_append_cons_self_of_not_mem plain] at first
      cases first
      exact ⟨_, rfl, plain, .inr ⟨back, rfl⟩⟩
    · rw [List.splitOn_eq_singleton dotted] at first
      cases first
      exact ⟨[], (List.append_nil _).symm, dotted, .inl rfl⟩
  · rintro ⟨rest, rfl, plain, rfl | ⟨more, rfl⟩⟩
    · rw [List.append_nil, List.splitOn_eq_singleton plain]
      rfl
    · rw [List.splitOn_append_cons_self_of_not_mem plain]
      rfl

theorem getElem?_one_splitOn_iff {text part : List Char} :
    (text.splitOn '.')[1]? = some part ↔ SecondPart text part := by
  constructor
  · intro second
    by_cases dotted : '.' ∈ text
    · obtain ⟨front, back, rfl, plain⟩ := List.eq_append_cons_of_mem dotted
      rw [List.splitOn_append_cons_self_of_not_mem plain, List.getElem?_cons_succ] at second
      exact ⟨front, back, rfl, plain, getElem?_zero_splitOn_iff.mp second⟩
    · rw [List.splitOn_eq_singleton dotted] at second
      cases second
  · rintro ⟨first, rest, rfl, plain, part⟩
    rw [List.splitOn_append_cons_self_of_not_mem plain, List.getElem?_cons_succ]
    exact getElem?_zero_splitOn_iff.mpr part

/-- The code of a version is the number that is its second part. -/
theorem codeOfVersion_eq_ok_iff {version : String} {code : UInt32} :
    codeOfVersion version = .ok code ↔
      ∃ part, SecondPart version.toList part ∧ Numeral part code.toNat := by
  rw [codeOfVersion]
  cases found : (version.toList.splitOn '.')[1]?.bind codeOfSegment? with
  | none =>
      simp only [reduceCtorEq, false_iff, not_exists, not_and]
      intro part second numeral
      rw [getElem?_one_splitOn_iff.mpr second] at found
      cases found.symm.trans (codeOfSegment?_eq_some_iff.mpr numeral)
  | some number =>
      obtain ⟨part, second, value⟩ := Option.bind_eq_some_iff.mp found
      constructor
      · rintro ⟨⟩
        exact ⟨part, getElem?_one_splitOn_iff.mp second, codeOfSegment?_eq_some_iff.mp value⟩
      · rintro ⟨other, otherwise, numeral⟩
        cases second.symm.trans (getElem?_one_splitOn_iff.mpr otherwise)
        cases value.symm.trans (codeOfSegment?_eq_some_iff.mpr numeral)
        rfl

theorem codeOfVersion_error {version : String} {error : Error}
    (uncoded : codeOfVersion version = .error error) : error = .versionCode version := by
  rw [codeOfVersion] at uncoded
  split at uncoded
  · cases uncoded
  · exact (Except.error.inj uncoded).symm

namespace Hosted

variable {release : Hosted} {artifact asset : Asset}

/-- The version is the tag, save one `v` at its front. -/
theorem tag_eq (release : Hosted) :
    release.tag = "v" ++ release.version ∨
      release.tag = release.version ∧ release.tag.toList.head? ≠ some 'v' := by
  unfold version
  split
  · rename_i rest marked
    refine .inl (String.toList_inj.mp ?_)
    simp [marked]
  · rename_i unmarked
    refine .inr ⟨rfl, fun first => ?_⟩
    obtain ⟨rest, marked⟩ := List.head?_eq_some_iff.mp first
    exact unmarked rest marked

/-! ## Assets -/

/-- A release publishes a checksum for its artifact in an asset: the first one behind the artifact
that is named like it, with `.sha256` at the end. -/
def Publishes (release : Hosted) (artifact asset : Asset) : Prop :=
  ∃ before after, release.assets = artifact :: (before ++ asset :: after) ∧
    asset.name = artifact.name ++ ".sha256" ∧
    ∀ other ∈ before, other.name ≠ artifact.name ++ ".sha256"

theorem checksumAsset?_eq_some_iff (first : release.artifact? = some artifact) :
    release.checksumAsset? artifact = some asset ↔ release.Publishes artifact asset := by
  obtain ⟨others, assets⟩ := List.head?_eq_some_iff.mp first
  rw [checksumAsset?, Publishes, assets, List.tail_cons, List.find?_eq_some_iff_append]
  simp only [checksumName, beq_iff_eq, Bool.not_eq_true', beq_eq_false_iff_ne, List.cons.injEq,
    true_and]
  constructor
  · rintro ⟨named, before, after, others, differ⟩
    exact ⟨before, after, others, named, differ⟩
  · rintro ⟨before, after, others, named, differ⟩
    exact ⟨named, before, after, others, differ⟩

theorem checksumAsset?_eq_none_iff (first : release.artifact? = some artifact) :
    release.checksumAsset? artifact = none ↔
      ∀ asset ∈ release.assets, asset.name ≠ artifact.name ++ ".sha256" := by
  obtain ⟨others, assets⟩ := List.head?_eq_some_iff.mp first
  -- no name is longer than itself
  have self : artifact.name ≠ artifact.name ++ ".sha256" := by
    intro same
    simpa using congrArg String.length same
  rw [checksumAsset?, assets, List.tail_cons, List.find?_eq_none]
  simp [checksumName, self]

end Hosted

end Release

/-! ## Digest fields -/

namespace Checksum

theorem splitColon?_append {front : List Char} (plain : ':' ∉ front) (back : List Char) :
    splitColon? (front ++ ':' :: back) = some (front, back) := by
  have other : ∀ c ∈ front, (c != ':') = true := by
    intro c listed
    rw [bne_iff_ne]
    exact fun same => plain (same ▸ listed)
  rw [splitColon?, List.dropWhile_append_of_pos other, List.takeWhile_append_of_pos other]
  simp

theorem splitColon?_eq_some_iff {text front back : List Char} :
    splitColon? text = some (front, back) ↔ text = front ++ ':' :: back ∧ ':' ∉ front := by
  constructor
  · intro split
    by_cases marked : ':' ∈ text
    · obtain ⟨first, rest, rfl, plain⟩ := List.eq_append_cons_of_mem marked
      cases (splitColon?_append plain rest).symm.trans split
      exact ⟨rfl, plain⟩
    · have whole : text.dropWhile (· != ':') = [] := by
        apply List.dropWhile_eq_nil_iff.mpr
        intro c listed
        rw [bne_iff_ne]
        exact fun same => marked (same ▸ listed)
      rw [splitColon?, whole] at split
      cases split
  · rintro ⟨rfl, plain⟩
    exact splitColon?_append plain back

/-- A digest field holds the name of its algorithm and, behind a colon, a digest in hexadecimal. -/
theorem ofDigestField?_eq_some_iff {field checksum : String} :
    ofDigestField? field = some checksum ↔
      ∃ algorithm hash, field = algorithm ++ ":" ++ hash ∧ Text.lower algorithm = "sha256" ∧
        isHexText hash = true ∧ checksum = Text.lower hash := by
  have named : "sha256".toList = ['s', 'h', 'a', '2', '5', '6'] := rfl
  have colon : ":".toList = [':'] := rfl
  rw [ofDigestField?, Option.bind_eq_bind, Option.bind_eq_some_iff]
  constructor
  · rintro ⟨⟨algorithm, hash⟩, parts, same⟩
    obtain ⟨text, -⟩ := splitColon?_eq_some_iff.mp parts
    dsimp only at same
    split at same
    · rename_i good
      rw [Bool.and_eq_true, beq_iff_eq] at good
      cases same
      refine ⟨String.ofList algorithm, String.ofList hash, ?_, ?_, ?_, rfl⟩
      · rw [← String.toList_inj, text]
        simp [colon]
      · rw [Text.lower, String.toList_ofList, good.1, ← named, String.ofList_toList]
      · rw [isHexText, String.toList_ofList]
        exact good.2
    · cases same
  · rintro ⟨algorithm, hash, rfl, lower, hex, rfl⟩
    have letters : algorithm.toList.map Char.toLower = ['s', 'h', 'a', '2', '5', '6'] := by
      rw [← named, ← lower, Text.lower, String.toList_ofList]
    have plain : ':' ∉ algorithm.toList := by
      intro listed
      have lowered := List.mem_map_of_mem (f := Char.toLower) listed
      rw [letters] at lowered
      exact absurd lowered (by decide)
    refine ⟨(algorithm.toList, hash.toList), splitColon?_eq_some_iff.mpr ⟨by simp [colon], plain⟩, ?_⟩
    rw [isHexText] at hex
    simp [letters, hex]

theorem isCanonical_of_ofDigestField? {field checksum : String}
    (found : ofDigestField? field = some checksum) : isCanonical checksum = true := by
  obtain ⟨algorithm, hash, -, -, hex, rfl⟩ := ofDigestField?_eq_some_iff.mp found
  exact isCanonical_lower hex

theorem isHex_of_inLine? {artifact line hash : List Char}
    (found : inLine? artifact line = some hash) : isHex hash = true := by
  unfold inLine? at found
  split at found
  · split at found
    · rename_i good
      cases found
      exact good.2
    · cases found
  · cases found

theorem isCanonical_of_ofDocument? {contents artifact checksum : String}
    (found : ofDocument? contents artifact = some checksum) : isCanonical checksum = true := by
  have lowered {hash : List Char} (hex : isHex hash = true) :
      isCanonical (Text.lower (String.ofList hash)) = true :=
    isCanonical_lower (by rwa [isHexText, String.toList_ofList])
  unfold ofDocument? at found
  obtain ⟨hash, chosen, rfl⟩ := Option.map_eq_some_iff.mp found
  apply lowered
  split at chosen
  · rename_i only
    cases chosen
    split at only
    · split at only
      · rename_i hex
        cases only
        exact hex
      · cases only
    · cases only
  · obtain ⟨line, -, entry⟩ := List.exists_of_findSome?_eq_some chosen
    exact isHex_of_inLine? entry

theorem lower_trim_of_isCanonical {checksum : String} (canonical : isCanonical checksum = true) :
    Text.lower (Text.trim checksum) = checksum := by
  rw [trim_of_isCanonical canonical, Text.lower, map_toLower (digits_of_isCanonical canonical),
    String.ofList_toList]

end Checksum

/-! ## Updates -/

/-- An update says what the metadata say, with the checksum in lowercase and without blanks around
it. -/
theorem Update.ofMetadata_eq_ok {now : Int64} {metadata : Release.Metadata} {update : Update}
    (made : Update.ofMetadata now metadata = .ok update) :
    update.toMetadata =
      { metadata with
        checksum := Text.lower (Text.trim metadata.checksum)
        signatureUrl := presentSignature metadata.signatureUrl
        date := some (metadata.date.getD now) } := by
  unfold ofMetadata at made
  dsimp only at made
  split at made
  · cases made
  split at made
  · split at made
    · cases made
    split at made
    · cases made
    split at made
    · cases made
      rfl
    · cases made
  · cases made

/-- The update of a hosted release has its version and the code of that, the address and size of its
artifact, and the checksum that was found. -/
theorem Release.Hosted.toUpdate_eq_ok {now : Int64} {release : Hosted} {checksum : String}
    {update : Update} (canonical : Checksum.isCanonical checksum = true)
    (made : release.toUpdate now checksum = .ok update) :
    ∃ artifact, release.artifact? = some artifact ∧ update.version = release.version ∧
      Release.codeOfVersion release.version = .ok update.code ∧ update.url = artifact.url ∧
      update.fileSize = artifact.size ∧ update.checksum = checksum := by
  rw [toUpdate] at made
  obtain ⟨code, coded, made⟩ := bind_eq_ok_iff.mp made
  cases first : release.artifact? with
  | none =>
      rw [first] at made
      cases made
  | some artifact =>
      rw [first] at made
      have told := Update.ofMetadata_eq_ok made
      have code_eq : update.code = code := congrArg Metadata.versionCode told
      refine ⟨artifact, rfl, congrArg Metadata.version told, code_eq ▸ coded,
        congrArg Metadata.downloadUrl told, congrArg Metadata.fileSize told, ?_⟩
      rw [← Checksum.lower_trim_of_isCanonical canonical]
      exact congrArg Metadata.checksum told

end SelfUpdate
