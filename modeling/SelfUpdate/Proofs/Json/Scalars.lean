import SelfUpdate.Json.Printer
import SelfUpdate.Json.Reader
import SelfUpdate.Proofs.Computation

/-!
# Scalars in JSON text

The text of a scalar is read back as that scalar: the escapes of a string are undone one by one, and
the digits of an integer give the integer again as long as it fits 64 bits.
-/

namespace SelfUpdate.Json

variable {c : Char} {rest : List Char} {n : Nat}

/-! ## Strings -/

theorem hexValue?_hexDigit (n : Nat) : Text.hexValue? (hexDigit n) = some (n % 16) := by
  have small : ∀ m < 16, Text.hexValue? (hexDigit m) = some m := by decide
  have digit : hexDigit n = hexDigit (n % 16) := by rw [hexDigit, hexDigit, Nat.mod_mod]
  rw [digit]
  exact small _ (Nat.mod_lt _ (by decide))

/-- A control character comes back from its escape of four hexadecimal digits. -/
theorem readEscape_control (control : c < ' ') :
    readEscape ('u' :: '0' :: '0' :: hexDigit (c.toNat / 16) :: hexDigit c.toNat :: rest) =
      .ok (c, rest) := by
  have small : c.toNat < 32 := control
  have zero : Text.hexValue? '0' = some 0 := by decide
  have value : ((0 * 16 + 0) * 16 + c.toNat / 16 % 16) * 16 + c.toNat % 16 = c.toNat := by omega
  have alone : isTrailingSurrogate c.toNat = false ∧ isLeadingSurrogate c.toNat = false := by
    simp only [isTrailingSurrogate, isLeadingSurrogate, Bool.and_eq_false_iff,
      decide_eq_false_iff_not]
    omega
  simp only [readEscape, readUnicodeEscape, readHex4, zero, hexValue?_hexDigit, value, ok_bind,
    alone.1, alone.2, Bool.false_eq_true, if_false, Bool.not_false, if_true, Char.ofNat_toNat]
  rfl

/-- A character is read from its escape, or from itself, in one step. -/
theorem readCharsFrom_escapeChar (fuel : Nat) (read : List Char) :
    readCharsFrom (fuel + 1) read (escapeChar c ++ rest) = readCharsFrom fuel (c :: read) rest := by
  unfold escapeChar
  by_cases control : c < ' '
  · by_cases letter : c = '\x08' ∨ c = '\x0c' ∨ c = '\n' ∨ c = '\r' ∨ c = '\t'
    · rcases letter with rfl | rfl | rfl | rfl | rfl <;> rfl
    · simp only [not_or] at letter
      obtain ⟨b, f, n, r, t⟩ := letter
      have quote : c ≠ '"' := by rintro rfl; exact absurd control (by decide)
      have slash : c ≠ '\\' := by rintro rfl; exact absurd control (by decide)
      simp only [quote, slash, b, f, n, r, t, control, if_false, if_true, List.cons_append,
        List.nil_append, readCharsFrom, Char.reduceEq, readEscape_control control, ok_bind]
  · by_cases quote : c = '"'
    · subst quote
      rfl
    · by_cases slash : c = '\\'
      · subst slash
        rfl
      · have plain : c ≠ '\x08' ∧ c ≠ '\x0c' ∧ c ≠ '\n' ∧ c ≠ '\r' ∧ c ≠ '\t' := by
          refine ⟨?_, ?_, ?_, ?_, ?_⟩ <;> (rintro rfl; exact control (by decide))
        obtain ⟨b, f, n, r, t⟩ := plain
        simp only [quote, slash, b, f, n, r, t, control, if_false, List.cons_append,
          List.nil_append, readCharsFrom]

theorem readCharsFrom_escaped (chars : List Char) (fuel : Nat) (read : List Char)
    (enough : chars.length < fuel) :
    readCharsFrom fuel read (chars.flatMap escapeChar ++ '"' :: rest) =
      .ok (read.reverse ++ chars, rest) := by
  induction chars generalizing fuel read with
  | nil =>
      obtain ⟨fuel, rfl⟩ := Nat.exists_eq_succ_of_ne_zero (Nat.ne_of_gt enough)
      simp [readCharsFrom]
  | cons c chars ih =>
      obtain ⟨fuel, rfl⟩ := Nat.exists_eq_succ_of_ne_zero (Nat.ne_of_gt (Nat.zero_lt_of_lt enough))
      rw [List.flatMap_cons, List.append_assoc, readCharsFrom_escapeChar,
        ih fuel (c :: read) (Nat.lt_of_succ_lt_succ enough), List.reverse_cons, List.append_assoc]
      rfl

theorem length_pos_escapeChar (c : Char) : 0 < (escapeChar c).length := by
  unfold escapeChar
  repeat' split
  all_goals exact Nat.zero_lt_succ _

theorem length_le_escaped (chars : List Char) :
    chars.length ≤ (chars.flatMap escapeChar).length := by
  induction chars with
  | nil => exact Nat.le_refl _
  | cons c chars ih =>
      have grows := length_pos_escapeChar c
      rw [List.flatMap_cons, List.length_append, List.length_cons]
      omega

/-- The text of a string, after its opening quote, is read as the string. -/
theorem readString_escaped (s : String) :
    readString (s.toList.flatMap escapeChar ++ '"' :: rest) = .ok (s, rest) := by
  have enough : s.toList.length <
      (s.toList.flatMap escapeChar ++ '"' :: rest).length + 1 := by
    have long := length_le_escaped s.toList
    rw [List.length_append]
    omega
  rw [readString, readCharsFrom_escaped _ _ _ enough]
  simp

/-! ## Integers -/

theorem ofDigitChars_le (digits : List Char) (m : Nat) : m ≤ Nat.ofDigitChars 10 digits m := by
  induction digits generalizing m with
  | nil => exact Nat.le_refl _
  | cons d digits ih =>
      rw [Nat.ofDigitChars_cons]
      exact Nat.le_trans (by omega) (ih _)

/-- Digits are taken in to the last one as long as their value fits 64 bits. -/
theorem takeDigits_fit (digits : List Char) (m : Nat) (exponent : Int)
    (fits : Nat.ofDigitChars 10 digits m ≤ greatestNatural) :
    Scaled.takeDigits ⟨m, exponent⟩ 0 digits = (⟨Nat.ofDigitChars 10 digits m, exponent⟩, []) := by
  induction digits generalizing m with
  | nil => rfl
  | cons d digits ih =>
      rw [Nat.ofDigitChars_cons, Nat.mul_comm] at fits ⊢
      have within : ¬ m * 10 + digitValue d > greatestNatural :=
        Nat.not_lt.mpr (Nat.le_trans (ofDigitChars_le digits _) fits)
      rw [Scaled.takeDigits, if_neg within, Int.add_zero]
      exact ih _ fits

theorem takeInteger_toDigits (fits : n ≤ greatestNatural) :
    Scaled.takeInteger (Nat.toDigits 10 n) = (⟨n, 0⟩, true) := by
  have value := Nat.ofDigitChars_ten_toDigits (n := n)
  rw [Scaled.takeInteger, takeDigits_fit _ _ _ (by rwa [value]), value]
  rfl

/-- A decimal number has no leading zero. -/
theorem head?_toDigits_ne_zero (positive : n ≠ 0) : (Nat.toDigits 10 n).head? ≠ some '0' := by
  induction n using Nat.strongRecOn with
  | ind n ih =>
      rw [Nat.toDigits_eq_if (by decide)]
      by_cases small : n < 10
      · have digit : ∀ m < 10, m ≠ 0 → Nat.digitChar m ≠ '0' := by decide
        rw [if_pos small, List.head?_cons, ne_eq, Option.some.injEq]
        exact digit n small positive
      · have smaller := ih (n / 10) (by omega) (by omega)
        rw [if_neg small]
        cases digits : Nat.toDigits 10 (n / 10) with
        | nil => exact absurd digits Nat.toDigits_ne_nil
        | cons d more => rwa [digits] at smaller

/-- What stands behind a number does not carry it on. -/
def Ends (rest : List Char) : Prop :=
  ∀ c ∈ rest.head?, c.isDigit = false ∧ c ≠ '.' ∧ c ≠ 'e' ∧ c ≠ 'E'

theorem takeWhile_toDigits (ends : Ends rest) :
    (Nat.toDigits 10 n ++ rest).takeWhile Char.isDigit = Nat.toDigits 10 n ∧
      (Nat.toDigits 10 n ++ rest).dropWhile Char.isDigit = rest := by
  have digits : ∀ c ∈ Nat.toDigits 10 n, c.isDigit = true := fun c =>
    Nat.isDigit_of_mem_toDigits (by decide) (by decide)
  rw [List.takeWhile_append_of_pos digits, List.dropWhile_append_of_pos digits]
  cases rest with
  | nil => simp
  | cons c rest => simp [ends c rfl]

/-- The decimal digits of an integer that fits 64 bits are read as the integer. -/
theorem readNumber_toDigits (negative : Bool) {number : Number} (ends : Ends rest)
    (fits : n ≤ greatestNatural) (whole : integerOf negative n = some number) :
    readNumber negative (Nat.toDigits 10 n ++ rest) = .ok (number, rest) := by
  obtain ⟨front, back⟩ := takeWhile_toDigits (n := n) ends
  have taken := takeInteger_toDigits fits
  unfold readNumber
  rw [front, back]
  generalize digital : Nat.toDigits 10 n = digits at taken
  simp only
  split
  · exact absurd digital Nat.toDigits_ne_nil
  · exact absurd digital Nat.toDigits_ne_nil
  · rename_i d more _
    have zero : n = 0 := Classical.byContradiction fun positive =>
      head?_toDigits_ne_zero positive (by rw [digital]; rfl)
    subst zero
    cases digital
  · rw [taken]
    simp only [if_true, whole]
    split
    · exact absurd rfl (ends _ rfl).2.1
    · exact absurd rfl (ends _ rfl).2.2.1
    · exact absurd rfl (ends _ rfl).2.2.2
    · rfl

/-! ## Scalars -/

/-- The scalars that a text can tell exactly: the integers among them fit 64 bits. -/
inductive Value.Exact : Value → Prop
  | null : Exact .null
  | boolean (b : Bool) : Exact (.boolean b)
  | natural {n : Nat} (fits : n ≤ greatestNatural) : Exact (.number (.natural n))
  | negative {n : Nat} (fits : n < 1 <<< 63) : Exact (.number (.negative n))
  | string (s : String) : Exact (.string s)

theorem toDigits_eq_cons (n : Nat) :
    ∃ d more, Nat.toDigits 10 n = d :: more ∧ d.isDigit = true := by
  have digital : ∀ c ∈ Nat.toDigits 10 n, c.isDigit = true := fun c =>
    Nat.isDigit_of_mem_toDigits (by decide) (by decide)
  cases digits : Nat.toDigits 10 n with
  | nil => exact absurd digits Nat.toDigits_ne_nil
  | cons d more =>
      rw [digits] at digital
      exact ⟨d, more, rfl, digital d List.mem_cons_self⟩

theorem readScalar_digit {d : Char} (digit : d.isDigit = true) (text : List Char) :
    readScalar (d :: text) =
      (readNumber false (d :: text)).map fun (n, rest) => (.number n, rest) := by
  unfold readScalar
  split <;> rename_i same
  · cases same
  all_goals first
    | (cases same; exact absurd digit (by decide))
    | skip
  cases same
  rw [if_pos digit]

theorem readScalar_scalarText {value : Value} (exact : value.Exact) (ends : Ends rest) :
    readScalar (value.scalarText ++ rest) = .ok (value, rest) := by
  cases exact with
  | null => rfl
  | boolean b => cases b <;> rfl
  | natural fits =>
      rename_i n
      obtain ⟨d, more, digits, digit⟩ := toDigits_eq_cons n
      have read := readNumber_toDigits false ends fits rfl
      rw [digits] at read
      rw [Value.scalarText, Number.text, digits, List.cons_append, readScalar_digit digit,
        ← List.cons_append, read, map_ok]
  | negative fits =>
      rename_i n
      have whole : integerOf true (n + 1) = some (.negative n) := by
        rw [integerOf, if_neg (by decide), if_pos ⟨Nat.zero_lt_succ n, fits⟩, Nat.add_sub_cancel]
      have read := readNumber_toDigits true ends
        (Nat.le_trans fits (by decide : 1 <<< 63 ≤ greatestNatural)) whole
      rw [Value.scalarText, Number.text, List.cons_append, readScalar, read, map_ok]
  | string s =>
      rw [Value.scalarText, stringText, List.append_assoc, List.cons_append, readScalar,
        List.singleton_append, readString_escaped, map_ok]

/-- No scalar begins with a blank or a bracket. -/
theorem scalarText_eq_cons {value : Value} (exact : value.Exact) :
    ∃ c more, value.scalarText = c :: more ∧ isSpace c = false ∧ c ≠ '[' ∧ c ≠ '\x7b' := by
  cases exact with
  | null => exact ⟨'n', _, rfl, by decide, by decide, by decide⟩
  | boolean b =>
      cases b with
      | true => exact ⟨'t', _, rfl, by decide, by decide, by decide⟩
      | false => exact ⟨'f', _, rfl, by decide, by decide, by decide⟩
  | natural fits =>
      rename_i n
      obtain ⟨d, more, digits, digit⟩ := toDigits_eq_cons n
      refine ⟨d, more, digits, ?_, ?_, ?_⟩
      · have digital : 48 ≤ d.toNat := (Char.isDigit_iff_toNat.mp digit).1
        simp only [isSpace, Bool.or_eq_false_iff, beq_eq_false_iff_ne]
        refine ⟨⟨⟨?_, ?_⟩, ?_⟩, ?_⟩ <;> (rintro rfl; exact absurd digital (by decide))
      · rintro rfl
        exact absurd digit (by decide)
      · rintro rfl
        exact absurd digit (by decide)
  | negative fits => exact ⟨'-', _, rfl, by decide, by decide, by decide⟩
  | string s => exact ⟨'"', _, rfl, by decide, by decide, by decide⟩

end SelfUpdate.Json
