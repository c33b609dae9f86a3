import SelfUpdate.Proofs.Json.Layouts

/-!
# Tokens as they may stand in a text

Blanks, words and strings, told without a reader: each is a relation between a text and what is left
of it behind the token. A reader accepts these and nothing else.
-/

namespace SelfUpdate.Json

variable {text rest more : List Char} {c char : Char} {n : Nat}

/-! ## Blanks -/

/-- Blanks, possibly none, in front of the rest. -/
def Gap (text rest : List Char) : Prop :=
  ∃ gap, (∀ c ∈ gap, isSpace c = true) ∧ text = gap ++ rest

theorem Gap.refl (text : List Char) : Gap text text := ⟨[], List.forall_mem_nil _, rfl⟩

theorem gap_skipSpace (text : List Char) : Gap text (skipSpace text) := by
  refine ⟨text.takeWhile isSpace, List.all_eq_true.mp List.all_takeWhile, ?_⟩
  rw [skipSpace, List.takeWhile_append_dropWhile]

theorem Gap.skipSpace_eq (gap : Gap text rest) : skipSpace text = skipSpace rest := by
  obtain ⟨blanks, blank, rfl⟩ := gap
  rw [skipSpace, List.dropWhile_append_of_pos blank, skipSpace]

theorem Gap.trans (gap : Gap text rest) (further : Gap rest more) : Gap text more := by
  obtain ⟨blanks, blank, rfl⟩ := gap
  obtain ⟨others, also, rfl⟩ := further
  refine ⟨blanks ++ others, fun c listed => ?_, (List.append_assoc _ _ _).symm⟩
  rcases List.mem_append.mp listed with listed | listed
  · exact blank c listed
  · exact also c listed

theorem Gap.length_le (gap : Gap text rest) : rest.length ≤ text.length := by
  obtain ⟨blanks, -, rfl⟩ := gap
  rw [List.length_append]
  omega

theorem skipSpace_solid (solid : isSpace c = false) : skipSpace (c :: rest) = c :: rest := by
  rw [skipSpace, List.dropWhile_cons, if_neg (by simp [solid])]

theorem skipSpace_eq_cons_iff :
    skipSpace text = c :: rest ↔ Gap text (c :: rest) ∧ isSpace c = false := by
  constructor
  · intro skipped
    refine ⟨skipped ▸ gap_skipSpace text, ?_⟩
    have stops := List.head?_dropWhile_not isSpace text
    rw [← skipSpace, skipped] at stops
    simpa using stops
  · rintro ⟨gap, solid⟩
    rw [gap.skipSpace_eq, skipSpace_solid solid]

theorem skipSpace_eq_nil_iff : skipSpace text = [] ↔ Gap text [] := by
  constructor
  · intro skipped
    exact skipped ▸ gap_skipSpace text
  · intro gap
    rw [gap.skipSpace_eq]
    rfl

theorem Gap.cons_inj {d : Char} (gap : Gap (c :: text) (d :: rest)) (front : isSpace c = false)
    (back : isSpace d = false) : c = d ∧ text = rest := by
  have skipped := skipSpace_eq_cons_iff.mpr ⟨gap, back⟩
  rw [skipSpace_solid front] at skipped
  exact List.cons.inj skipped

/-- A number ends in front of blanks when it ends in front of what follows them. -/
theorem Gap.ends (gap : Gap text rest) (ends : Ends rest) : Ends text := by
  obtain ⟨blanks, blank, rfl⟩ := gap
  cases blanks with
  | nil => exact ends
  | cons c blanks => exact ends_of_isSpace (blank c List.mem_cons_self)

theorem ends_cons (stop : c.isDigit = false ∧ c ≠ '.' ∧ c ≠ 'e' ∧ c ≠ 'E') : Ends (c :: rest) := by
  intro other head
  cases head
  exact stop

/-! ## Words -/

theorem readWord_eq_ok_iff {word : List Char} {done : Unit} :
    readWord word text = .ok (done, rest) ↔ text = word ++ rest := by
  induction word generalizing text with
  | nil =>
      rw [readWord, List.nil_append]
      exact ⟨fun same => congrArg Prod.snd (Except.ok.inj same), fun same => same ▸ rfl⟩
  | cons w word ih =>
      cases text with
      | nil => exact ⟨nofun, nofun⟩
      | cons c text =>
          rw [readWord, List.cons_append, List.cons.injEq]
          split
          · rename_i same
            rw [ih, and_iff_right same.symm]
          · rename_i other
            exact ⟨nofun, fun same => absurd same.1.symm other⟩

/-! ## Strings -/

/-- Four hexadecimal digits and the number they tell. -/
inductive Hex4 : List Char → Nat → List Char → Prop where
  | digits {a b c d : Char} {i j k l : Nat} {rest : List Char}
      (first : Text.hexValue? a = some i) (second : Text.hexValue? b = some j)
      (third : Text.hexValue? c = some k) (fourth : Text.hexValue? d = some l) :
      Hex4 (a :: b :: c :: d :: rest) (((i * 16 + j) * 16 + k) * 16 + l) rest

/-- What stands behind the backslash of an escape, and the character it stands for: a letter, a
number that is a character of its own, or two numbers that make one together. -/
inductive Escaped : List Char → Char → List Char → Prop where
  | letter {c char : Char} {rest : List Char} (known : escapedChar? c = some char) :
      Escaped (c :: rest) char rest
  | alone {text rest : List Char} {unit : Nat} (digits : Hex4 text unit rest)
      (leads : isLeadingSurrogate unit = false) (trails : isTrailingSurrogate unit = false) :
      Escaped ('u' :: text) (Char.ofNat unit) rest
  | pair {text more rest : List Char} {leading trailing : Nat}
      (digits : Hex4 text leading ('\\' :: 'u' :: more))
      (leads : isLeadingSurrogate leading = true)
      (further : Hex4 more trailing rest) (trails : isTrailingSurrogate trailing = true) :
      Escaped ('u' :: text) (pairedChar leading trailing) rest

/-- The escapes of a string that is passed over. A number need not be a character. -/
inductive Masked : List Char → Char → List Char → Prop where
  | letter {c char : Char} {rest : List Char} (known : escapedChar? c = some char) :
      Masked (c :: rest) char rest
  | unit {text rest : List Char} {unit : Nat} (digits : Hex4 text unit rest) :
      Masked ('u' :: text) (Char.ofNat unit) rest

/-- A string behind its opening quote, the characters it tells, and what follows its closing quote.
Quotes, backslashes and control characters stand in it as escapes only. -/
inductive Quoted (escaped : List Char → Char → List Char → Prop) :
    List Char → List Char → List Char → Prop where
  | quote {rest : List Char} : Quoted escaped ('"' :: rest) [] rest
  | plain {c : Char} {text chars rest : List Char} (bare : c ≠ '"' ∧ c ≠ '\\' ∧ ¬ c < ' ')
      (more : Quoted escaped text chars rest) : Quoted escaped (c :: text) (c :: chars) rest
  | escape {char : Char} {text between chars rest : List Char}
      (behind : escaped text char between) (more : Quoted escaped between chars rest) :
      Quoted escaped ('\\' :: text) (char :: chars) rest

theorem Hex4.length_lt (digits : Hex4 text n rest) : rest.length < text.length := by
  cases digits
  simp only [List.length_cons]
  omega

theorem Escaped.length_lt (escaped : Escaped text char rest) : rest.length < text.length := by
  cases escaped with
  | letter known => exact Nat.lt_succ_self _
  | alone digits leads trails => exact Nat.lt_succ_of_lt digits.length_lt
  | pair digits leads further trails =>
      have front := digits.length_lt
      have back := further.length_lt
      simp only [List.length_cons] at front ⊢
      omega

theorem Masked.length_lt (masked : Masked text char rest) : rest.length < text.length := by
  cases masked with
  | letter known => exact Nat.lt_succ_self _
  | unit digits => exact Nat.lt_succ_of_lt digits.length_lt

theorem Quoted.length_lt {escaped : List Char → Char → List Char → Prop} {chars : List Char}
    (shrinks : ∀ text char rest, escaped text char rest → rest.length < text.length)
    (quoted : Quoted escaped text chars rest) : rest.length < text.length := by
  induction quoted with
  | quote => exact Nat.lt_succ_self _
  | plain bare more ih => exact Nat.lt_succ_of_lt ih
  | escape behind more ih => exact Nat.lt_succ_of_lt (Nat.lt_trans ih (shrinks _ _ _ behind))

theorem readHex4_eq_ok_iff : readHex4 text = .ok (n, rest) ↔ Hex4 text n rest := by
  constructor
  · intro read
    unfold readHex4 at read
    split at read
    · split at read
      · cases read
        exact .digits ‹_› ‹_› ‹_› ‹_›
      · cases read
    · split at read <;> cases read
  · rintro ⟨first, second, third, fourth⟩
    simp only [readHex4, first, second, third, fourth]

theorem expectInEscape_eq_ok_iff : expectInEscape c text = .ok rest ↔ text = c :: rest := by
  cases text with
  | nil => exact ⟨nofun, nofun⟩
  | cons d text =>
      rw [expectInEscape, List.cons.injEq]
      split
      · rename_i same
        rw [Except.ok.injEq, and_iff_right same]
      · rename_i other
        exact ⟨nofun, fun same => absurd same.1 other⟩

theorem readEscape_letter (other : c ≠ 'u') :
    readEscape (c :: rest) =
      match escapedChar? c with
      | some char => .ok (char, rest)
      | none => .error (.next .invalidEscape (c :: rest)) :=
  readEscape.eq_3 c rest other

theorem skipEscape_letter (other : c ≠ 'u') :
    skipEscape (c :: rest) =
      if (escapedChar? c).isSome then .ok rest else .error (.next .invalidEscape (c :: rest)) :=
  skipEscape.eq_3 c rest other

/-- A letter with an escape of its own is no `u`. -/
theorem ne_u_of_escapedChar? (known : escapedChar? c = some char) : c ≠ 'u' := by
  rintro rfl
  cases known

theorem escaped_of_readUnicodeEscape (read : readUnicodeEscape text = .ok (char, rest)) :
    Escaped ('u' :: text) char rest := by
  rw [readUnicodeEscape] at read
  obtain ⟨⟨unit, between⟩, digits, read⟩ := bind_eq_ok_iff.mp read
  rw [readHex4_eq_ok_iff] at digits
  cases trails : isTrailingSurrogate unit with
  | true =>
      simp only [trails, if_true, throw_eq_error, error_bind] at read
      cases read
  | false =>
      cases leads : isLeadingSurrogate unit with
      | false =>
          simp only [trails, leads, Bool.false_eq_true, if_false, Bool.not_false, if_true] at read
          cases read
          exact .alone digits leads trails
      | true =>
          simp only [trails, leads, Bool.false_eq_true, if_false, Bool.not_true] at read
          obtain ⟨marked, slash, second⟩ := bind_eq_ok_iff.mp read
          obtain ⟨more, letter, second⟩ := bind_eq_ok_iff.mp second
          obtain ⟨⟨trailing, behind⟩, further, done⟩ := bind_eq_ok_iff.mp second
          rw [expectInEscape_eq_ok_iff] at slash letter
          subst slash letter
          cases follows : isTrailingSurrogate trailing with
          | true =>
              simp only [follows, if_true, pure_eq_ok, Except.ok.injEq, Prod.mk.injEq] at done
              obtain ⟨rfl, rfl⟩ := done
              exact .pair digits leads (readHex4_eq_ok_iff.mp further) follows
          | false =>
              simp only [follows, Bool.false_eq_true, if_false] at done
              cases done

/-- No number is both halves of a pair. -/
theorem not_trailing_of_leading (leads : isLeadingSurrogate n = true) :
    isTrailingSurrogate n = false := by
  have range : 0xD800 ≤ n ∧ n ≤ 0xDBFF := by simpa [isLeadingSurrogate] using leads
  rw [isTrailingSurrogate, Bool.and_eq_false_iff, decide_eq_false_iff_not]
  exact .inl (by omega)

theorem readEscape_eq_ok_iff : readEscape text = .ok (char, rest) ↔ Escaped text char rest := by
  constructor
  · intro read
    cases text with
    | nil => cases read
    | cons c text =>
        by_cases unicode : c = 'u'
        · subst unicode
          exact escaped_of_readUnicodeEscape read
        · rw [readEscape_letter unicode] at read
          split at read
          · cases read
            exact .letter ‹_›
          · cases read
  · intro escaped
    cases escaped with
    | letter known => rw [readEscape_letter (ne_u_of_escapedChar? known), known]
    | alone digits leads trails =>
        rw [readEscape, readUnicodeEscape, readHex4_eq_ok_iff.mpr digits, ok_bind]
        simp [leads, trails]
    | pair digits leads further trails =>
        rw [readEscape, readUnicodeEscape, readHex4_eq_ok_iff.mpr digits, ok_bind]
        simp [not_trailing_of_leading leads, leads, trails, expectInEscape,
          readHex4_eq_ok_iff.mpr further]

theorem skipEscape_eq_ok_iff : skipEscape text = .ok rest ↔ ∃ char, Masked text char rest := by
  constructor
  · intro read
    cases text with
    | nil => cases read
    | cons c text =>
        by_cases unicode : c = 'u'
        · subst unicode
          obtain ⟨⟨unit, between⟩, digits, rfl⟩ := map_eq_ok_iff.mp read
          exact ⟨_, .unit (readHex4_eq_ok_iff.mp digits)⟩
        · rw [skipEscape_letter unicode] at read
          split at read
          · rename_i known
            cases read
            obtain ⟨char, known⟩ := Option.isSome_iff_exists.mp known
            exact ⟨char, .letter known⟩
          · cases read
  · rintro ⟨char, masked⟩
    cases masked with
    | letter known => rw [skipEscape_letter (ne_u_of_escapedChar? known), known]; rfl
    | unit digits => rw [skipEscape, readHex4_eq_ok_iff.mpr digits, map_ok]

theorem quoted_of_readCharsFrom {fuel : Nat} {read all : List Char}
    (done : readCharsFrom fuel read text = .ok (all, rest)) :
    ∃ chars, all = read.reverse ++ chars ∧ Quoted Escaped text chars rest := by
  induction fuel generalizing read text with
  | zero => cases done
  | succ fuel ih =>
      cases text with
      | nil => cases done
      | cons c text =>
          rw [readCharsFrom] at done
          split at done
          · rename_i quote
            subst quote
            cases done
            exact ⟨[], (List.append_nil _).symm, .quote⟩
          · split at done
            · rename_i slash
              subst slash
              obtain ⟨⟨char, between⟩, escaped, done⟩ := bind_eq_ok_iff.mp done
              obtain ⟨chars, rfl, more⟩ := ih done
              refine ⟨char :: chars, ?_, .escape (readEscape_eq_ok_iff.mp escaped) more⟩
              rw [List.reverse_cons, List.append_assoc, List.singleton_append]
            · split at done
              · cases done
              · rename_i quote slash control
                obtain ⟨chars, rfl, more⟩ := ih done
                refine ⟨c :: chars, ?_, .plain ⟨quote, slash, control⟩ more⟩
                rw [List.reverse_cons, List.append_assoc, List.singleton_append]

theorem readCharsFrom_of_quoted {fuel : Nat} {read chars : List Char}
    (quoted : Quoted Escaped text chars rest) (enough : text.length < fuel) :
    readCharsFrom fuel read text = .ok (read.reverse ++ chars, rest) := by
  induction quoted generalizing fuel read with
  | quote =>
      obtain ⟨fuel, rfl⟩ := Nat.exists_eq_succ_of_ne_zero (Nat.ne_zero_of_lt enough)
      rw [readCharsFrom, if_pos rfl, List.append_nil]
  | plain bare more ih =>
      obtain ⟨fuel, rfl⟩ := Nat.exists_eq_succ_of_ne_zero (Nat.ne_zero_of_lt enough)
      rw [readCharsFrom, if_neg bare.1, if_neg bare.2.1, if_neg bare.2.2,
        ih (Nat.lt_of_succ_lt_succ enough), List.reverse_cons, List.append_assoc,
        List.singleton_append]
  | escape behind more ih =>
      obtain ⟨fuel, rfl⟩ := Nat.exists_eq_succ_of_ne_zero (Nat.ne_zero_of_lt enough)
      have shorter := Nat.lt_trans behind.length_lt (Nat.lt_of_succ_lt_succ enough)
      rw [readCharsFrom, if_neg (by decide), if_pos rfl, readEscape_eq_ok_iff.mpr behind, ok_bind]
      dsimp only
      rw [ih shorter, List.reverse_cons, List.append_assoc, List.singleton_append]

/-- A string is read as the characters it tells. -/
theorem readString_eq_ok_iff {s : String} :
    readString text = .ok (s, rest) ↔
      ∃ chars, Quoted Escaped text chars rest ∧ s = String.ofList chars := by
  rw [readString, bind_eq_ok_iff]
  constructor
  · rintro ⟨⟨all, behind⟩, done, same⟩
    obtain ⟨chars, told, quoted⟩ := quoted_of_readCharsFrom done
    cases same
    exact ⟨chars, quoted, congrArg String.ofList told⟩
  · rintro ⟨chars, quoted, rfl⟩
    exact ⟨_, readCharsFrom_of_quoted quoted (Nat.lt_succ_self _), rfl⟩

theorem quoted_of_skipCharsFrom {fuel : Nat} (done : skipCharsFrom fuel text = .ok rest) :
    ∃ chars : List Char, Quoted Masked text chars rest := by
  induction fuel generalizing text with
  | zero => cases done
  | succ fuel ih =>
      cases text with
      | nil => cases done
      | cons c text =>
          rw [skipCharsFrom] at done
          split at done
          · rename_i quote
            subst quote
            cases done
            exact ⟨[], .quote⟩
          · split at done
            · rename_i slash
              subst slash
              obtain ⟨between, skipped, done⟩ := bind_eq_ok_iff.mp done
              obtain ⟨char, masked⟩ := skipEscape_eq_ok_iff.mp skipped
              obtain ⟨chars, more⟩ := ih done
              exact ⟨char :: chars, .escape masked more⟩
            · split at done
              · cases done
              · rename_i quote slash control
                obtain ⟨chars, more⟩ := ih done
                exact ⟨c :: chars, .plain ⟨quote, slash, control⟩ more⟩

theorem skipCharsFrom_of_quoted {fuel : Nat} {chars : List Char}
    (quoted : Quoted Masked text chars rest) (enough : text.length < fuel) :
    skipCharsFrom fuel text = .ok rest := by
  induction quoted generalizing fuel with
  | quote =>
      obtain ⟨fuel, rfl⟩ := Nat.exists_eq_succ_of_ne_zero (Nat.ne_zero_of_lt enough)
      rw [skipCharsFrom, if_pos rfl]
  | plain bare more ih =>
      obtain ⟨fuel, rfl⟩ := Nat.exists_eq_succ_of_ne_zero (Nat.ne_zero_of_lt enough)
      rw [skipCharsFrom, if_neg bare.1, if_neg bare.2.1, if_neg bare.2.2,
        ih (Nat.lt_of_succ_lt_succ enough)]
  | escape behind more ih =>
      obtain ⟨fuel, rfl⟩ := Nat.exists_eq_succ_of_ne_zero (Nat.ne_zero_of_lt enough)
      have shorter := Nat.lt_trans behind.length_lt (Nat.lt_of_succ_lt_succ enough)
      rw [skipCharsFrom, if_neg (by decide), if_pos rfl,
        skipEscape_eq_ok_iff.mpr ⟨_, behind⟩, ok_bind, ih shorter]

theorem skipString_eq_ok_iff :
    skipString text = .ok rest ↔ ∃ chars, Quoted Masked text chars rest := by
  constructor
  · exact quoted_of_skipCharsFrom
  · rintro ⟨chars, quoted⟩
    exact skipCharsFrom_of_quoted quoted (Nat.lt_succ_self _)

end SelfUpdate.Json
