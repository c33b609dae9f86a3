import Mathlib.Algebra.Group.Nat.Defs
import SelfUpdate.Proofs.Json.Numerals
import SelfUpdate.Proofs.Release.Hosted

/-!
# The codes by which releases are ordered

The code of a version is the number in its second part. The number may be written with a plus sign and
with zeros in front, and when 32 bits do not hold it there is no code. A `v` in front of a tag changes
no part but the first.
-/

namespace SelfUpdate.Release

variable {text part : List Char} {n : Nat} {version : String} {code : UInt32}

/-! ## Numerals -/

/-- Zeros in front do not count. -/
theorem ofDigitChars_zeros (zeros : Nat) (digits : List Char) :
    Nat.ofDigitChars 10 (List.replicate zeros '0' ++ digits) 0 = Nat.ofDigitChars 10 digits 0 := by
  induction zeros with
  | zero => rfl
  | succ zeros ih =>
      rw [List.replicate_succ, List.cons_append, Nat.ofDigitChars_cons]
      exact ih

/-- Digits are those in which their number is written, behind any zeros. -/
theorem digits_iff :
    Digits text n ↔ ∃ zeros, text = List.replicate zeros '0' ++ Nat.toDigits 10 n := by
  constructor
  · rintro ⟨some, digital, rfl⟩
    induction text with
    | nil => exact absurd rfl some
    | cons d text ih =>
        by_cases lead : d = '0' ∧ text ≠ []
        · obtain ⟨rfl, more⟩ := lead
          obtain ⟨zeros, written⟩ := ih more fun c listed => digital c (List.mem_cons_of_mem _ listed)
          have value := ofDigitChars_zeros 1 text
          rw [List.replicate_one, List.singleton_append] at value
          exact ⟨zeros + 1, by rw [value, List.replicate_succ, List.cons_append, ← written]⟩
        · have whole : Json.Whole (d :: text) := by
            refine ⟨⟨some, digital⟩, fun zero => ?_⟩
            obtain rfl := Option.some.inj zero
            rw [not_and_not_right.mp lead rfl]
          exact ⟨0, (Json.toDigits_ofDigitChars whole).symm⟩
  · rintro ⟨zeros, rfl⟩
    refine ⟨by simp, fun c listed => ?_, ?_⟩
    · rcases List.mem_append.mp listed with zero | digit
      · rw [List.eq_of_mem_replicate zero]
        rfl
      · exact Nat.isDigit_of_mem_toDigits (by decide) (by decide) digit
    · rw [ofDigitChars_zeros, Nat.ofDigitChars_ten_toDigits]

/-- The ways to write a number: a plus sign or none, any zeros, and its own digits. -/
def Spelling (text : List Char) (n : Nat) : Prop :=
  ∃ sign zeros, (sign = [] ∨ sign = ['+']) ∧
    text = sign ++ (List.replicate zeros '0' ++ Nat.toDigits 10 n)

theorem numeral_iff : Numeral text n ↔ Spelling text n := by
  simp only [Numeral, digits_iff]
  constructor
  · rintro (⟨zeros, rfl⟩ | ⟨_, rfl, zeros, rfl⟩)
    · exact ⟨[], zeros, .inl rfl, rfl⟩
    · exact ⟨['+'], zeros, .inr rfl, rfl⟩
  · rintro ⟨_, zeros, rfl | rfl, rfl⟩
    · exact .inl ⟨zeros, rfl⟩
    · exact .inr ⟨_, rfl, zeros, rfl⟩

/-- A text is a numeral of one number at most. -/
theorem Numeral.unique {m : Nat} (numeral : Numeral text n) (other : Numeral text m) : n = m := by
  rcases numeral with ⟨-, digital, value⟩ | ⟨digits, rfl, -, -, value⟩ <;>
    rcases other with ⟨-, otherDigital, otherValue⟩ | ⟨_, same, -, -, otherValue⟩
  · rw [← value, otherValue]
  · subst same
    exact absurd (digital '+' List.mem_cons_self) (by decide)
  · exact absurd (otherDigital '+' List.mem_cons_self) (by decide)
  · cases same
    rw [← value, otherValue]

theorem SecondPart.unique {other : List Char} (second : SecondPart text part)
    (again : SecondPart text other) : part = other := by
  rw [← getElem?_one_splitOn_iff] at second again
  exact Option.some.inj (second.symm.trans again)

/-- What is put in front of a text goes to its first part, unless there is a dot in it. -/
theorem secondPart_append {front : List Char} (plain : '.' ∉ front) :
    SecondPart (front ++ text) part ↔ SecondPart text part := by
  rw [← getElem?_one_splitOn_iff, ← getElem?_one_splitOn_iff]
  by_cases dotted : '.' ∈ text
  · obtain ⟨first, rest, rfl, undotted⟩ := List.eq_append_cons_of_mem dotted
    have joined : '.' ∉ front ++ first := by simp [plain, undotted]
    rw [← List.append_assoc, List.splitOn_append_cons_self_of_not_mem joined,
      List.splitOn_append_cons_self_of_not_mem undotted]
    rfl
  · have undotted : '.' ∉ front ++ text := by simp [plain, dotted]
    rw [List.splitOn_eq_singleton dotted, List.splitOn_eq_singleton undotted]
    rfl

/-! ## Codes -/

/-- A number in the second part is the code when 32 bits hold it, and otherwise there is none. -/
theorem codeOfVersion_of_numeral (second : SecondPart version.toList part)
    (numeral : Numeral part n) :
    codeOfVersion version =
      if n < 2 ^ 32 then .ok (.ofNat n) else .error (.versionCode version) := by
  split
  · rename_i small
    refine codeOfVersion_eq_ok_iff.mpr ⟨part, second, ?_⟩
    rwa [UInt32.toNat_ofNat_of_lt' small]
  · rename_i large
    cases coded : codeOfVersion version with
    | error error => rw [codeOfVersion_error coded]
    | ok code =>
        obtain ⟨other, again, value⟩ := codeOfVersion_eq_ok_iff.mp coded
        obtain rfl := second.unique again
        rw [numeral.unique value] at large
        exact absurd code.toNat_lt large

/-- A version without a code is the one that the error names. -/
theorem codeOfVersion_eq_error_iff {error : Error} :
    codeOfVersion version = .error error ↔
      error = .versionCode version ∧
        ¬ ∃ part n, SecondPart version.toList part ∧ Numeral part n ∧ n ≤ 2 ^ 32 - 1 := by
  constructor
  · intro uncoded
    refine ⟨codeOfVersion_error uncoded, ?_⟩
    rintro ⟨part, n, second, numeral, bound⟩
    rw [codeOfVersion_of_numeral second numeral, if_pos (by omega)] at uncoded
    cases uncoded
  · rintro ⟨rfl, unnumbered⟩
    cases coded : codeOfVersion version with
    | error error => rw [codeOfVersion_error coded]
    | ok code =>
        obtain ⟨part, second, numeral⟩ := codeOfVersion_eq_ok_iff.mp coded
        exact absurd ⟨part, _, second, numeral, Nat.le_pred_of_lt code.toNat_lt⟩ unnumbered

/-- No code has room for more than 32 bits, so the least number beyond them has none. -/
example : codeOfVersion "0.+4294967295.9" = .ok 4294967295 ∧
    codeOfVersion "0.4294967296.9" = .error (.versionCode "0.4294967296.9") := by
  decide

/-- What a text's second part is does not depend on a `v` in front of it. -/
theorem secondPart_marked (text : String) :
    SecondPart ("v" ++ text).toList part ↔ SecondPart text.toList part := by
  rw [String.toList_append]
  exact secondPart_append (by decide)

/-- The version of a hosted release has the second part of its tag. -/
theorem Hosted.secondPart_version (release : Hosted) :
    SecondPart release.version.toList part ↔ SecondPart release.tag.toList part := by
  rcases release.tag_eq with marked | ⟨same, -⟩
  · rw [marked, secondPart_marked]
  · rw [same]

/-- The code of a hosted release is the number in the second part of its tag. -/
theorem Hosted.codeOfVersion_version_iff (release : Hosted) :
    codeOfVersion release.version = .ok code ↔
      ∃ part, SecondPart release.tag.toList part ∧ Numeral part code.toNat := by
  simp only [codeOfVersion_eq_ok_iff, release.secondPart_version]

/-- A version has a code exactly when its second part is a numeral of 32 bits, in any of the ways in
which one writes it, and the code is its number, which never wraps around. A hosted release has the
code that the second part of its tag tells, whatever surrounds that part and with a `v` at the front
or without it. -/
theorem versions_coded (version : String) (release : Hosted) :
    (∀ code, codeOfVersion version = .ok code ↔
      ∃ part, SecondPart version.toList part ∧ Numeral part code.toNat) ∧
    (∀ code, codeOfVersion version = .ok code ↔
      ∃ part, SecondPart version.toList part ∧ Spelling part code.toNat) ∧
    (∀ error, codeOfVersion version = .error error ↔
      error = .versionCode version ∧
        ¬ ∃ part n, SecondPart version.toList part ∧ Numeral part n ∧ n ≤ 2 ^ 32 - 1) ∧
    (∀ part n, SecondPart version.toList part → Numeral part n →
      codeOfVersion version =
        if n < 2 ^ 32 then .ok (.ofNat n) else .error (.versionCode version)) ∧
    (∀ code, codeOfVersion release.version = .ok code ↔
      ∃ part, SecondPart release.tag.toList part ∧ Numeral part code.toNat) ∧
    (∀ other : Hosted,
      (∀ part, SecondPart release.tag.toList part ↔ SecondPart other.tag.toList part) →
        ∀ code, codeOfVersion release.version = .ok code ↔ codeOfVersion other.version = .ok code) ∧
    ∀ marked : Hosted, marked.tag = "v" ++ release.tag →
      ∀ code, codeOfVersion release.version = .ok code ↔ codeOfVersion marked.version = .ok code := by
  -- what two tags have in common is asked of their second parts alone
  have alike : ∀ other : Hosted,
      (∀ part, SecondPart release.tag.toList part ↔ SecondPart other.tag.toList part) →
        ∀ code, codeOfVersion release.version = .ok code ↔
          codeOfVersion other.version = .ok code := by
    intro other same code
    simp only [Hosted.codeOfVersion_version_iff, same]
  refine ⟨fun _ => codeOfVersion_eq_ok_iff, fun _ => ?_, fun _ => codeOfVersion_eq_error_iff,
    fun _ _ => codeOfVersion_of_numeral, fun _ => release.codeOfVersion_version_iff, alike, ?_⟩
  · simp only [codeOfVersion_eq_ok_iff, numeral_iff]
  · intro marked tag
    refine alike marked fun part => ?_
    rw [tag, secondPart_marked]

/-- The second part of this tag has a sign, zeros and more behind it. -/
def numbered : Hosted :=
  { tag := "0.+00119.0-rc", body := none, publishedAt := none, assets := [] }

theorem secondPart_numbered : SecondPart numbered.tag.toList "+00119".toList :=
  ⟨"0".toList, "+00119.0-rc".toList, rfl, by decide, ".0-rc".toList, rfl, by decide,
    .inr ⟨"0-rc".toList, rfl⟩⟩

theorem numeral_numbered : Numeral "+00119".toList 119 :=
  .inr ⟨['0', '0', '1', '1', '9'], rfl, by simp, by simp, rfl⟩

theorem versions_coded_numbered :
    codeOfVersion numbered.tag = .ok 119 ∧
      codeOfVersion { numbered with tag := "v" ++ numbered.tag : Hosted }.version = .ok 119 := by
  obtain ⟨-, -, -, coded, hosted, -, marked⟩ := versions_coded numbered.tag numbered
  exact ⟨coded _ 119 secondPart_numbered numeral_numbered,
    (marked _ rfl 119).mp ((hosted 119).mpr ⟨_, secondPart_numbered, numeral_numbered⟩)⟩

end SelfUpdate.Release
