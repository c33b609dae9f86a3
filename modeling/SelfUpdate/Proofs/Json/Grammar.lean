import SelfUpdate.Proofs.Json.Numerals

/-!
# Values as they may stand in a text

A value may be nested to any depth, with blanks around its parts. The grammar is told without a
reader.
-/

namespace SelfUpdate.Json

variable {text rest start lead : List Char} {c : Char}

/-! ## The grammar -/

/-- What stands in front of an item: blanks, and from the second item on a comma. -/
inductive Between : Bool → List Char → List Char → Prop where
  | first {text rest : List Char} (gap : Gap text rest) : Between true text rest
  | further {text behind rest : List Char} (gap : Gap text (',' :: behind))
      (blank : Gap behind rest) : Between false text rest

/-- A key of an object with its colon, in front of a value. -/
inductive Keyed (escaped : List Char → Char → List Char → Prop) (first : Bool)
    (text chars start : List Char) : Prop where
  | key {quoted colon behind : List Char} (between : Between first text ('"' :: quoted))
      (told : Quoted escaped quoted chars colon) (gap : Gap colon (':' :: behind))
      (blank : Gap behind start)

/-- A value without brackets. -/
inductive Atom : List Char → List Char → Prop where
  | null {rest : List Char} : Atom ('n' :: 'u' :: 'l' :: 'l' :: rest) rest
  | yes {rest : List Char} : Atom ('t' :: 'r' :: 'u' :: 'e' :: rest) rest
  | no {rest : List Char} : Atom ('f' :: 'a' :: 'l' :: 's' :: 'e' :: rest) rest
  | number {text rest : List Char} (numeral : Numeral text rest) : Atom text rest
  | negative {text rest : List Char} (numeral : Numeral text rest) : Atom ('-' :: text) rest
  | string {text chars rest : List Char} (told : Quoted Masked text chars rest) :
      Atom ('"' :: text) rest

/-- What the grammar derives: a value, and the items of a list or the members of an object up to the
closing bracket, all of them or those behind the first. -/
inductive Phrase where
  | value
  | items (first : Bool)
  | members (first : Bool)

inductive Derives : Phrase → List Char → List Char → Prop where
  | atom {text rest : List Char} (atom : Atom text rest) : Derives .value text rest
  | list {text rest : List Char} (items : Derives (.items true) text rest) :
      Derives .value ('[' :: text) rest
  | object {text rest : List Char} (members : Derives (.members true) text rest) :
      Derives .value ('\x7b' :: text) rest
  | noItem {first : Bool} {text rest : List Char} (gap : Gap text (']' :: rest)) :
      Derives (.items first) text rest
  | item {first : Bool} {text start behind rest : List Char} (between : Between first text start)
      (value : Derives .value start behind) (more : Derives (.items false) behind rest) :
      Derives (.items first) text rest
  | noMember {first : Bool} {text rest : List Char} (gap : Gap text ('\x7d' :: rest)) :
      Derives (.members first) text rest
  | member {first : Bool} {text chars start behind rest : List Char}
      (keyed : Keyed Masked first text chars start) (value : Derives .value start behind)
      (more : Derives (.members false) behind rest) : Derives (.members first) text rest

/-! ## Where things begin and end -/

/-- A character that is no blank, no bracket and no comma. -/
def Solid (c : Char) : Prop :=
  isSpace c = false ∧ c ≠ '[' ∧ c ≠ ']' ∧ c ≠ '\x7b' ∧ c ≠ '\x7d' ∧ c ≠ ','

instance (c : Char) : Decidable (Solid c) := inferInstanceAs (Decidable (_ ∧ _))

theorem solid_of_isDigit (digit : c.isDigit = true) : Solid c := by
  obtain ⟨low, high⟩ := Char.isDigit_iff_toNat.mp digit
  have apart (other : Char) (outside : other.toNat < '0'.toNat ∨ '9'.toNat < other.toNat) :
      c ≠ other := by
    rintro rfl
    omega
  refine ⟨?_, apart _ (by decide), apart _ (by decide), apart _ (by decide), apart _ (by decide),
    apart _ (by decide)⟩
  simp only [isSpace, Bool.or_eq_false_iff, beq_eq_false_iff_ne]
  exact ⟨⟨⟨apart _ (by decide), apart _ (by decide)⟩, apart _ (by decide)⟩, apart _ (by decide)⟩

theorem Between.gap {first : Bool} (between : Between first text rest) (gap : Gap rest start) :
    Between first text start := by
  cases between with
  | first front => exact .first (front.trans gap)
  | further front blank => exact .further front (blank.trans gap)

theorem Between.length_le {first : Bool} (between : Between first text rest) :
    rest.length ≤ text.length := by
  cases between with
  | first gap => exact gap.length_le
  | further gap blank =>
      have front := gap.length_le
      have back := blank.length_le
      rw [List.length_cons] at front
      omega

theorem Keyed.length_lt {escaped : List Char → Char → List Char → Prop} {first : Bool}
    {chars : List Char}
    (shrinks : ∀ text char rest, escaped text char rest → rest.length < text.length)
    (keyed : Keyed escaped first text chars start) : start.length < text.length := by
  obtain ⟨between, told, colon, blank⟩ := keyed
  have front := between.length_le
  have quoted := told.length_lt shrinks
  have behind := colon.length_le
  have back := blank.length_le
  rw [List.length_cons] at front behind
  omega

theorem Numeral.eq_cons (numeral : Numeral text rest) :
    ∃ d more, text = d :: more ∧ d.isDigit = true := by
  obtain ⟨whole, fraction, exponent, ⟨⟨some, digital⟩, -⟩, -, -, rfl⟩ := numeral
  cases whole with
  | nil => exact absurd rfl some
  | cons d digits => exact ⟨d, _, rfl, digital d List.mem_cons_self⟩

theorem Atom.eq_cons (atom : Atom text rest) : ∃ c more, text = c :: more ∧ Solid c := by
  cases atom with
  | null => exact ⟨'n', _, rfl, by decide⟩
  | yes => exact ⟨'t', _, rfl, by decide⟩
  | no => exact ⟨'f', _, rfl, by decide⟩
  | number numeral =>
      obtain ⟨d, more, same, digit⟩ := numeral.eq_cons
      exact ⟨d, more, same, solid_of_isDigit digit⟩
  | negative numeral => exact ⟨'-', _, rfl, by decide⟩
  | string told => exact ⟨'"', _, rfl, by decide⟩

theorem Numeral.length_lt (numeral : Numeral text rest) : rest.length < text.length := by
  obtain ⟨whole, fraction, exponent, ⟨⟨some, -⟩, -⟩, -, -, rfl⟩ := numeral
  have positive := List.length_pos_iff.mpr some
  simp only [List.length_append]
  omega

theorem Atom.length_lt (atom : Atom text rest) : rest.length < text.length := by
  cases atom with
  | null => simp only [List.length_cons]; omega
  | yes => simp only [List.length_cons]; omega
  | no => simp only [List.length_cons]; omega
  | number numeral => exact numeral.length_lt
  | negative numeral => exact Nat.lt_succ_of_lt numeral.length_lt
  | string told => exact Nat.lt_succ_of_lt (told.length_lt fun _ _ _ => Masked.length_lt)

/-- A value begins with a character that is no blank and closes nothing. -/
theorem Derives.eq_cons (value : Derives .value text rest) :
    ∃ c more, text = c :: more ∧ isSpace c = false ∧ c ≠ ']' ∧ c ≠ '\x7d' := by
  cases value with
  | atom atom =>
      obtain ⟨c, more, same, solid⟩ := atom.eq_cons
      exact ⟨c, more, same, solid.1, solid.2.2.1, solid.2.2.2.2.1⟩
  | list items => exact ⟨'[', _, rfl, by decide⟩
  | object members => exact ⟨'\x7b', _, rfl, by decide⟩

theorem Between.ends (between : Between false text rest) : Ends text := by
  cases between with
  | further gap blank => exact gap.ends (ends_cons (by decide))

/-- A number ends in front of what stands behind an item of a list. -/
theorem Derives.ends_items (items : Derives (.items false) text rest) : Ends text := by
  cases items with
  | noItem gap => exact gap.ends (ends_cons (by decide))
  | item between value more => exact between.ends

theorem Derives.ends_members (members : Derives (.members false) text rest) : Ends text := by
  cases members with
  | noMember gap => exact gap.ends (ends_cons (by decide))
  | member keyed value more =>
      obtain ⟨between, -, -, -⟩ := keyed
      exact between.ends

end SelfUpdate.Json
