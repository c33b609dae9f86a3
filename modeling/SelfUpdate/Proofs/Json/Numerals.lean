import Mathlib.Data.List.Induction
import SelfUpdate.Proofs.Json.Tokens

/-!
# Numbers as they may stand in a text

A number is passed over whatever its size. It is told exactly when it is an integer that fits 64
bits. Either way it ends where what stands behind it does not carry it on.
-/

namespace SelfUpdate.Json

variable {text rest digits : List Char} {c : Char} {n : Nat}

/-! ## Digits -/

/-- One digit or more. -/
def Run (digits : List Char) : Prop := digits ≠ [] ∧ ∀ d ∈ digits, d.isDigit = true

/-- The digits of an integer. A zero in front stands alone. -/
def Whole (digits : List Char) : Prop := Run digits ∧ (digits.head? = some '0' → digits = ['0'])

/-- Nothing, or a point with digits behind it. -/
inductive Fraction : List Char → Prop where
  | none : Fraction []
  | point {digits : List Char} (run : Run digits) : Fraction ('.' :: digits)

/-- Nothing, or the letter of an exponent, its sign and its digits. -/
inductive Exponent : List Char → Prop where
  | none : Exponent []
  | letter {c : Char} {sign digits : List Char} (letter : isExponentLetter c = true)
      (signed : sign = [] ∨ sign = ['+'] ∨ sign = ['-']) (run : Run digits) :
      Exponent (c :: (sign ++ digits))

/-- A number behind its sign. -/
def Numeral (text rest : List Char) : Prop :=
  ∃ whole fraction exponent, Whole whole ∧ Fraction fraction ∧ Exponent exponent ∧
    text = whole ++ (fraction ++ (exponent ++ rest))

theorem run_cons (digit : c.isDigit = true) (text : List Char) :
    Run (c :: text.takeWhile Char.isDigit) :=
  ⟨nofun, List.forall_mem_cons.mpr ⟨digit, List.all_eq_true.mp List.all_takeWhile⟩⟩

theorem whole_of_unlike (some : digits ≠ []) (digital : ∀ d ∈ digits, d.isDigit = true)
    (lone : ∀ d more, digits ≠ '0' :: d :: more) : Whole digits := by
  refine ⟨⟨some, digital⟩, fun zero => ?_⟩
  cases digits with
  | nil => cases zero
  | cons d more =>
      cases zero
      cases more with
      | nil => rfl
      | cons second more => exact absurd rfl (lone second more)

/-- Digits are taken up to where something else stands. -/
theorem span_digits (digital : ∀ d ∈ digits, d.isDigit = true)
    (stops : ∀ c ∈ rest.head?, c.isDigit = false) :
    (digits ++ rest).takeWhile Char.isDigit = digits ∧
      (digits ++ rest).dropWhile Char.isDigit = rest := by
  rw [List.takeWhile_append_of_pos digital, List.dropWhile_append_of_pos digital]
  cases rest with
  | nil => simp
  | cons c rest => simp [stops c rfl]

theorem Ends.stops (ends : Ends rest) : ∀ c ∈ rest.head?, c.isDigit = false :=
  fun c head => (ends c head).1

/-! ## Passing over -/

theorem skipExponent_eq_ok_iff :
    skipExponent text = .ok rest ↔ ∃ sign d more, (sign = [] ∨ sign = ['+'] ∨ sign = ['-']) ∧
      text = sign ++ d :: more ∧ d.isDigit = true ∧ rest = more.dropWhile Char.isDigit := by
  constructor
  · intro done
    have digits {fault : Fault} {d : Char} {more : List Char}
        (ended : (if d.isDigit then .ok (more.dropWhile Char.isDigit) else .error fault) =
          (.ok rest : Except Fault (List Char))) :
        d.isDigit = true ∧ rest = more.dropWhile Char.isDigit := by
      split at ended
      · rename_i digit
        cases ended
        exact ⟨digit, rfl⟩
      · cases ended
    unfold skipExponent at done
    split at done
    · rename_i unsigned
      cases unsigned with
      | nil => cases done
      | cons d more => exact ⟨['+'], d, more, .inr (.inl rfl), rfl, digits done⟩
    · rename_i unsigned
      cases unsigned with
      | nil => cases done
      | cons d more => exact ⟨['-'], d, more, .inr (.inr rfl), rfl, digits done⟩
    · cases text with
      | nil => cases done
      | cons d more => exact ⟨[], d, more, .inl rfl, rfl, digits done⟩
  · rintro ⟨sign, d, more, rfl | rfl | rfl, rfl, digit, rfl⟩
    · unfold skipExponent
      split
      · rename_i same
        cases same
        exact absurd digit (by decide)
      · rename_i same
        cases same
        exact absurd digit (by decide)
      · exact if_pos digit
    · exact if_pos digit
    · exact if_pos digit

/-- What stands behind the integer part and the fraction of a number that was passed over. -/
theorem exponent_of_skipExponent (letter : isExponentLetter c = true)
    (done : skipExponent text = .ok rest) :
    ∃ exponent, Exponent exponent ∧ c :: text = exponent ++ rest := by
  obtain ⟨sign, d, more, signed, rfl, digit, rfl⟩ := skipExponent_eq_ok_iff.mp done
  refine ⟨_, .letter letter signed (run_cons digit more), ?_⟩
  rw [List.cons_append, List.append_assoc, List.cons_append, List.takeWhile_append_dropWhile]

/-- What `skipNumber` does behind the integer part. -/
def skipScale (text : List Char) : Except Fault (List Char) :=
  match text with
  | '.' :: more => do
    let after := more.dropWhile Char.isDigit
    if after.length = more.length then throw (.next .invalidNumber more)
    match after with
    | c :: rest => if isExponentLetter c then skipExponent rest else return after
    | [] => return []
  | 'e' :: more => skipExponent more
  | 'E' :: more => skipExponent more
  | _ => return text

/-- A number is passed over by its integer part and then by what stands behind that. -/
theorem skipNumber_eq_ok_iff :
    skipNumber text = .ok rest ↔ ∃ whole more, text = whole ++ more ∧ Whole whole ∧
      (∀ c ∈ more.head?, c.isDigit = false) ∧ skipScale more = .ok rest := by
  constructor
  · intro done
    have digital : ∀ d ∈ text.takeWhile Char.isDigit, d.isDigit = true :=
      List.all_eq_true.mp List.all_takeWhile
    have stops : ∀ c ∈ (text.dropWhile Char.isDigit).head?, c.isDigit = false := by
      intro c head
      have other := List.head?_dropWhile_not Char.isDigit text
      rw [Option.mem_def.mp head] at other
      simpa using other
    refine ⟨text.takeWhile Char.isDigit, text.dropWhile Char.isDigit,
      List.takeWhile_append_dropWhile.symm, ?_⟩
    unfold skipNumber at done
    generalize text.takeWhile Char.isDigit = digits at digital done ⊢
    simp only at done
    split at done
    · cases done
    · cases done
    · cases done
    · rename_i some several _
      exact ⟨whole_of_unlike some digital several, stops, done⟩
  · rintro ⟨whole, more, rfl, ⟨⟨some, digital⟩, lone⟩, stops, done⟩
    obtain ⟨front, back⟩ := span_digits digital stops
    unfold skipNumber
    rw [front, back]
    simp only
    split
    · exact absurd rfl some
    · exact absurd rfl some
    · cases lone rfl
    · exact done

theorem scale_of_skipScale (done : skipScale text = .ok rest) :
    ∃ fraction exponent, Fraction fraction ∧ Exponent exponent ∧
      text = fraction ++ (exponent ++ rest) := by
  unfold skipScale at done
  split at done
  · rename_i more
    dsimp only at done
    split at done
    · cases done
    · rename_i some
      have run : Run (more.takeWhile Char.isDigit) := by
        refine ⟨fun none => some ?_, List.all_eq_true.mp List.all_takeWhile⟩
        have whole := List.takeWhile_append_dropWhile (p := Char.isDigit) (l := more)
        rw [none, List.nil_append] at whole
        rw [whole]
      have parts := List.takeWhile_append_dropWhile (p := Char.isDigit) (l := more)
      split at done
      · rename_i c behind follows
        rw [follows] at parts done
        split at done
        · rename_i letter
          obtain ⟨exponent, scale, same⟩ := exponent_of_skipExponent letter done
          exact ⟨_, exponent, .point run, scale, by rw [List.cons_append, ← same, parts]⟩
        · cases done
          exact ⟨_, [], .point run, .none, by rw [List.cons_append, List.nil_append, parts]⟩
      · rename_i follows
        rw [follows] at parts
        cases done
        exact ⟨_, [], .point run, .none, by rw [List.cons_append, List.nil_append, parts]⟩
  · rename_i more
    obtain ⟨exponent, scale, same⟩ := exponent_of_skipExponent (c := 'e') rfl done
    exact ⟨[], exponent, .none, scale, same⟩
  · rename_i more
    obtain ⟨exponent, scale, same⟩ := exponent_of_skipExponent (c := 'E') rfl done
    exact ⟨[], exponent, .none, scale, same⟩
  · cases done
    exact ⟨[], [], .none, .none, rfl⟩

theorem Exponent.stops {exponent : List Char} (scale : Exponent exponent) (ends : Ends rest) :
    ∀ c ∈ (exponent ++ rest).head?, c.isDigit = false := by
  cases scale with
  | none => exact ends.stops
  | @letter e _ _ letter =>
      rintro c ⟨⟩
      rw [isExponentLetter, Bool.or_eq_true, beq_iff_eq, beq_iff_eq] at letter
      rcases letter with rfl | rfl <;> rfl

theorem skipExponent_of_run {sign : List Char}
    (signed : sign = [] ∨ sign = ['+'] ∨ sign = ['-']) (run : Run digits) (ends : Ends rest) :
    skipExponent (sign ++ (digits ++ rest)) = .ok rest := by
  obtain ⟨some, digital⟩ := run
  cases digits with
  | nil => exact absurd rfl some
  | cons d digits =>
      obtain ⟨digit, digital⟩ := List.forall_mem_cons.mp digital
      exact skipExponent_eq_ok_iff.mpr
        ⟨sign, d, digits ++ rest, signed, rfl, digit, (span_digits digital ends.stops).2.symm⟩

theorem skipScale_of_scale {fraction exponent : List Char} (fractional : Fraction fraction)
    (scale : Exponent exponent) (ends : Ends rest) :
    skipScale (fraction ++ (exponent ++ rest)) = .ok rest := by
  cases fractional with
  | none =>
      cases scale with
      | none =>
          rw [List.nil_append, List.nil_append]
          unfold skipScale
          split
          · exact absurd rfl (ends _ rfl).2.1
          · exact absurd rfl (ends _ rfl).2.2.1
          · exact absurd rfl (ends _ rfl).2.2.2
          · rfl
      | @letter e sign digits letter signed run =>
          have done := skipExponent_of_run signed run ends
          rw [← List.append_assoc] at done
          rw [isExponentLetter, Bool.or_eq_true, beq_iff_eq, beq_iff_eq] at letter
          rcases letter with rfl | rfl
          · exact done
          · exact done
  | @point digits run =>
      obtain ⟨-, back⟩ := span_digits run.2 (scale.stops ends)
      have shorter : (exponent ++ rest).length ≠ (digits ++ (exponent ++ rest)).length := by
        have some := List.length_pos_iff.mpr run.1
        simp only [List.length_append]
        omega
      rw [List.cons_append]
      unfold skipScale
      simp only [back, if_neg shorter]
      cases scale with
      | none =>
          rw [List.nil_append]
          cases rest with
          | nil => rfl
          | cons c rest =>
              have other : isExponentLetter c = false := by
                rw [isExponentLetter, Bool.or_eq_false_iff, beq_eq_false_iff_ne,
                  beq_eq_false_iff_ne]
                exact (ends c rfl).2.2
              simp only [other, Bool.false_eq_true, if_false, pure_eq_ok]
      | @letter e sign digits letter signed run =>
          have done := skipExponent_of_run signed run ends
          simp only [List.cons_append, List.append_assoc, letter, if_true, done]

theorem numeral_of_skipNumber (done : skipNumber text = .ok rest) : Numeral text rest := by
  obtain ⟨whole, more, rfl, integral, -, scaled⟩ := skipNumber_eq_ok_iff.mp done
  obtain ⟨fraction, exponent, fractional, scale, rfl⟩ := scale_of_skipScale scaled
  exact ⟨whole, fraction, exponent, integral, fractional, scale, rfl⟩

theorem skipNumber_of_numeral (numeral : Numeral text rest) (ends : Ends rest) :
    skipNumber text = .ok rest := by
  obtain ⟨whole, fraction, exponent, integral, fractional, scale, rfl⟩ := numeral
  refine skipNumber_eq_ok_iff.mpr ⟨whole, _, rfl, integral, ?_,
    skipScale_of_scale fractional scale ends⟩
  cases fractional with
  | none => exact scale.stops ends
  | point run =>
      rintro c ⟨⟩
      rfl

/-! ## Exact integers -/

theorem digitChar_sub {d : Char} (digit : d.isDigit = true) :
    d.toNat - '0'.toNat < 10 ∧ Nat.digitChar (d.toNat - '0'.toNat) = d := by
  obtain ⟨low, high⟩ := Char.isDigit_iff_toNat.mp digit
  have all : ∀ k < 10, Nat.digitChar k = Char.ofNat (48 + k) := by decide
  have zero : '0'.toNat = 48 := rfl
  have nine : '9'.toNat = 57 := rfl
  have small : d.toNat - 48 < 10 := by omega
  have back : 48 + (d.toNat - 48) = d.toNat := by omega
  rw [zero]
  exact ⟨small, by rw [all _ small, back, Char.ofNat_toNat]⟩

/-- The digits of an integer are those of its value. -/
theorem toDigits_ofDigitChars (whole : Whole digits) :
    Nat.toDigits 10 (Nat.ofDigitChars 10 digits 0) = digits := by
  induction digits using List.reverseRecOn with
  | nil => exact absurd rfl whole.1.1
  | append_singleton front d ih =>
      obtain ⟨⟨-, digital⟩, lone⟩ := whole
      obtain ⟨small, same⟩ := digitChar_sub (digital d (by simp))
      rw [Nat.ofDigitChars_append, Nat.ofDigitChars_cons, Nat.ofDigitChars_nil]
      generalize d.toNat - '0'.toNat = k at small same
      by_cases first : front = []
      · subst first
        rw [Nat.ofDigitChars_nil, Nat.mul_zero, Nat.zero_add, Nat.toDigits_of_lt_base small, same,
          List.nil_append]
      · have head : front.head? ≠ some '0' := by
          intro zero
          have alone := lone (by rw [List.head?_append, zero, Option.some_or])
          have short := congrArg List.length alone
          rw [List.length_append, List.length_singleton, List.length_singleton] at short
          exact first (List.eq_nil_of_length_eq_zero (by omega))
        have value := ih ⟨⟨first, fun c among => digital c (List.mem_append_left _ among)⟩,
          fun zero => absurd zero head⟩
        have positive : Nat.ofDigitChars 10 front 0 ≠ 0 := by
          intro zero
          rw [zero] at value
          exact head (value ▸ rfl)
        generalize Nat.ofDigitChars 10 front 0 = m at value positive
        have large : ¬ 10 * m + k < 10 := by omega
        have quotient : (10 * m + k) / 10 = m := by omega
        have remainder : (10 * m + k) % 10 = k := by omega
        rw [Nat.toDigits_eq_if (by decide), if_neg large, quotient, remainder, value, same]

variable {x y : Scaled} {negative : Bool} {number : Number} {m : Nat} {exponent : Int}

/-- Digits that are taken in to the last one have a value that fits 64 bits. -/
theorem takeDigits_eq_nil (taken : Scaled.takeDigits ⟨m, exponent⟩ 0 digits = (y, []))
    (fits : m ≤ greatestNatural) :
    y.significand = Nat.ofDigitChars 10 digits m ∧ y.significand ≤ greatestNatural := by
  induction digits generalizing m exponent with
  | nil =>
      cases taken
      exact ⟨rfl, fits⟩
  | cons d digits ih =>
      rw [Scaled.takeDigits] at taken
      split at taken
      · cases taken
      · rename_i within
        rw [Nat.ofDigitChars_cons, Nat.mul_comm]
        exact ih taken (Nat.not_lt.mp within)

theorem floating_of_finish (read : x.finish negative text = .ok (number, rest)) :
    ∃ z, number = .floating z := by
  rw [Scaled.finish] at read
  split at read
  · cases read
    exact ⟨_, rfl⟩
  · cases read

theorem floating_of_readExponent (read : readExponent x negative text = .ok (number, rest)) :
    ∃ z, number = .floating z := by
  unfold readExponent at read
  dsimp only at read
  split at read
  · cases read
  · split at read
    · cases read
    · split at read
      · exact floating_of_finish read
      · -- the digits go beyond every exponent, whatever the sign
        split at read
        all_goals
          split at read
          · cases read
          · cases read
            exact ⟨_, rfl⟩

theorem floating_of_readFraction (read : readFraction x negative text = .ok (number, rest)) :
    ∃ z, number = .floating z := by
  unfold readFraction at read
  dsimp only at read
  split at read
  · cases read
  · split at read
    · split at read
      · exact floating_of_readExponent read
      · exact floating_of_finish read
    · exact floating_of_finish read

/-- A number that was not read as a floating point number is an integer in its decimal digits. -/
theorem toDigits_of_readNumber (read : readNumber negative text = .ok (number, rest))
    (exact : ∀ z, number ≠ .floating z) :
    ∃ n, text = Nat.toDigits 10 n ++ rest ∧ n ≤ greatestNatural ∧
      integerOf negative n = some number := by
  have parts := List.takeWhile_append_dropWhile (p := Char.isDigit) (l := text)
  have digital : ∀ d ∈ text.takeWhile Char.isDigit, d.isDigit = true :=
    List.all_eq_true.mp List.all_takeWhile
  unfold readNumber at read
  generalize text.takeWhile Char.isDigit = digits at parts digital read
  generalize text.dropWhile Char.isDigit = behind at parts read
  dsimp only at read
  split at read
  · cases read
  · cases read
  · cases read
  · rename_i some several _
    have whole := whole_of_unlike some digital several
    split at read
    · obtain ⟨z, same⟩ := floating_of_readFraction read
      exact absurd same (exact z)
    · obtain ⟨z, same⟩ := floating_of_readExponent read
      exact absurd same (exact z)
    · obtain ⟨z, same⟩ := floating_of_readExponent read
      exact absurd same (exact z)
    · rw [Scaled.takeInteger] at read
      cases taken : Scaled.takeDigits ⟨0, 0⟩ 0 digits with
      | mk y left =>
          rw [taken] at read
          cases left with
          | cons d left =>
              obtain ⟨z, same⟩ := floating_of_finish read
              exact absurd same (exact z)
          | nil =>
              obtain ⟨value, fits⟩ := takeDigits_eq_nil taken (Nat.zero_le _)
              dsimp only [List.isEmpty_nil] at read
              split at read
              · rename_i found integral
                cases read
                refine ⟨y.significand, ?_, fits, integral⟩
                rw [value, toDigits_ofDigitChars whole, parts]
              · obtain ⟨z, same⟩ := floating_of_finish read
                exact absurd same (exact z)

end SelfUpdate.Json
