import SelfUpdate.Proofs.Json.Grammar

/-!
# Passing over values

A value is passed over exactly when it is a value of the grammar, of whatever depth.
-/

namespace SelfUpdate.Json

variable {text rest start lead brackets outer : List Char} {c : Char} {fuel : Nat}

/-! ## Parts that are passed over -/

theorem readColon_eq_ok_iff : readColon text = .ok rest ↔ Gap text (':' :: rest) := by
  constructor
  · intro done
    rw [readColon] at done
    split at done
    · cases done
    · rename_i skipped
      cases done
      exact (skipSpace_eq_cons_iff.mp skipped).1
    · cases done
  · intro gap
    rw [readColon, skipSpace_eq_cons_iff.mpr ⟨gap, by decide⟩]
    rfl

theorem skipKey_eq_ok_iff :
    skipKey text = .ok rest ↔ ∃ quoted chars colon, Gap text ('"' :: quoted) ∧
      Quoted Masked quoted chars colon ∧ Gap colon (':' :: rest) := by
  constructor
  · intro done
    rw [skipKey] at done
    split at done
    · cases done
    · rename_i quoted skipped
      obtain ⟨colon, told, done⟩ := bind_eq_ok_iff.mp done
      obtain ⟨chars, told⟩ := skipString_eq_ok_iff.mp told
      exact ⟨quoted, chars, colon, (skipSpace_eq_cons_iff.mp skipped).1, told,
        readColon_eq_ok_iff.mp done⟩
    · cases done
  · rintro ⟨quoted, chars, colon, gap, told, behind⟩
    rw [skipKey, skipSpace_eq_cons_iff.mpr ⟨gap, by decide⟩]
    change (skipString quoted >>= readColon) = _
    rw [skipString_eq_ok_iff.mpr ⟨chars, told⟩, ok_bind, readColon_eq_ok_iff.mpr behind]

theorem skipScalar_digit {d : Char} (digit : d.isDigit = true) (text : List Char) :
    skipScalar (d :: text) = skipNumber (d :: text) := by
  unfold skipScalar
  split <;> rename_i same
  · cases same
  all_goals first
    | (cases same; exact absurd digit (by decide))
    | skip
  cases same
  rw [if_pos digit]

theorem atom_of_skipScalar (done : skipScalar text = .ok rest) : Atom text rest := by
  unfold skipScalar at done
  split at done
  · cases done
  · obtain ⟨⟨⟨⟩, behind⟩, word, rfl⟩ := map_eq_ok_iff.mp done
    rw [readWord_eq_ok_iff] at word
    exact word ▸ .null
  · obtain ⟨⟨⟨⟩, behind⟩, word, rfl⟩ := map_eq_ok_iff.mp done
    rw [readWord_eq_ok_iff] at word
    exact word ▸ .yes
  · obtain ⟨⟨⟨⟩, behind⟩, word, rfl⟩ := map_eq_ok_iff.mp done
    rw [readWord_eq_ok_iff] at word
    exact word ▸ .no
  · exact .negative (numeral_of_skipNumber done)
  · obtain ⟨chars, told⟩ := skipString_eq_ok_iff.mp done
    exact .string told
  · split at done
    · exact .number (numeral_of_skipNumber done)
    · cases done

theorem skipScalar_of_atom (atom : Atom text rest) (ends : Ends rest) :
    skipScalar text = .ok rest := by
  cases atom with
  | null => rfl
  | yes => rfl
  | no => rfl
  | number numeral =>
      obtain ⟨d, more, rfl, digit⟩ := numeral.eq_cons
      rw [skipScalar_digit digit]
      exact skipNumber_of_numeral numeral ends
  | negative numeral => exact skipNumber_of_numeral numeral ends
  | string told => exact skipString_eq_ok_iff.mpr ⟨_, told⟩

/-! ## Only values are passed over -/

/-- What stands behind an item whose list or object is opened by a bracket. -/
def further (bracket : Char) : Phrase :=
  if bracket = '[' then .items false else .members false

/-- What is still open gets closed, the innermost bracket first. -/
def Closes : List Char → List Char → List Char → Prop
  | [], text, rest => text = rest
  | bracket :: outer, text, rest =>
    ∃ behind, Derives (further bracket) text behind ∧ Closes outer behind rest

/-- What lies ahead of a reader with open brackets, before or behind an item of the innermost. -/
def Ahead (brackets : List Char) : Bool → List Char → List Char → Prop
  | true, text, rest => Closes brackets text rest
  | false, text, rest => ∃ start behind, Gap text start ∧ Derives .value start behind ∧
      Closes brackets behind rest

section

variable (onward : ∀ {brackets : List Char} {complete : Bool} {text : List Char},
  skipWithin fuel brackets complete text = .ok rest → Ahead brackets complete text rest)
include onward

/-- Behind an item its list or object goes on or ends. -/
theorem closes_of_skipBehind (done : skipWithin (fuel + 1) brackets true text = .ok rest) :
    Closes brackets text rest := by
  cases brackets with
  | nil =>
      cases done
      exact rfl
  | cons bracket outer =>
      rw [skipWithin] at done
      split at done
      · cases done
      · rename_i c behind skipped
        have gap := (skipSpace_eq_cons_iff.mp skipped).1
        split at done
        · rename_i comma
          subst comma
          by_cases list : bracket = '['
          · subst list
            obtain ⟨start, after, blank, value, last, more, closes⟩ := onward done
            exact ⟨last, .item (.further gap blank) value more, closes⟩
          · rw [if_neg list] at done
            obtain ⟨item, key, done⟩ := bind_eq_ok_iff.mp done
            obtain ⟨start, after, blank, value, last, more, closes⟩ := onward done
            obtain ⟨quoted, chars, colon, quote, told, between⟩ := skipKey_eq_ok_iff.mp key
            rw [further, if_neg list] at more
            refine ⟨last, ?_, closes⟩
            rw [further, if_neg list]
            exact .member ⟨.further gap quote, told, between, blank⟩ value more
        · split at done
          · rename_i closing
            have closes := onward done
            rcases closing with ⟨rfl, rfl⟩ | ⟨rfl, rfl⟩
            · exact ⟨behind, .noItem gap, closes⟩
            · exact ⟨behind, .noMember gap, closes⟩
          · cases done

/-- Where an item is due one comes, which may open a list or an object of its own. -/
theorem ahead_of_skipItem (done : skipWithin (fuel + 1) brackets false text = .ok rest) :
    Ahead brackets false text rest := by
  rw [skipWithin] at done
  have gap := gap_skipSpace text
  split at done
  · rename_i behind skipped
    rw [skipped] at gap
    have blank := gap_skipSpace behind
    split at done
    · cases done
    · rename_i after closed
      exact ⟨_, after, gap, .list (.noItem (closed ▸ blank)), onward done⟩
    · obtain ⟨start, after, lead, value, last, more, closes⟩ := onward done
      exact ⟨_, last, gap, .list (.item (.first (blank.trans lead)) value more), closes⟩
  · rename_i behind skipped
    rw [skipped] at gap
    have blank := gap_skipSpace behind
    split at done
    · cases done
    · rename_i after closed
      exact ⟨_, after, gap, .object (.noMember (closed ▸ blank)), onward done⟩
    · obtain ⟨item, key, done⟩ := bind_eq_ok_iff.mp done
      obtain ⟨start, after, lead, value, last, more, closes⟩ := onward done
      obtain ⟨quoted, chars, colon, quote, told, between⟩ := skipKey_eq_ok_iff.mp key
      exact ⟨_, last, gap, .object (.member
        ⟨.first (blank.trans quote), told, between, lead⟩ value more), closes⟩
  · obtain ⟨behind, scalar, done⟩ := bind_eq_ok_iff.mp done
    exact ⟨_, behind, gap, .atom (atom_of_skipScalar scalar), onward done⟩

end

theorem ahead_of_skipWithin {complete : Bool}
    (done : skipWithin fuel brackets complete text = .ok rest) :
    Ahead brackets complete text rest := by
  induction fuel generalizing brackets complete text with
  | zero => cases done
  | succ fuel ih =>
      cases complete with
      | true => exact closes_of_skipBehind ih done
      | false => exact ahead_of_skipItem ih done

/-! ## Every value is passed over -/

theorem skipWithin_atom (gap : Gap lead text) (atom : Atom text rest) (ends : Ends rest) :
    skipWithin (fuel + 1) brackets false lead = skipWithin fuel brackets true rest := by
  obtain ⟨c, more, same, solid⟩ := atom.eq_cons
  have skipped : skipSpace lead = c :: more := skipSpace_eq_cons_iff.mpr ⟨same ▸ gap, solid.1⟩
  rw [skipWithin, skipped]
  split
  · rename_i same
    cases same
    exact absurd rfl solid.2.1
  · rename_i same
    cases same
    exact absurd rfl solid.2.2.2.1
  · rw [← same, skipScalar_of_atom atom ends, ok_bind]

theorem skipWithin_list (gap : Gap lead ('[' :: text)) :
    skipWithin (fuel + 1) brackets false lead =
      match skipSpace text with
      | [] => .error (.next .endInList [])
      | ']' :: rest => skipWithin fuel brackets true rest
      | rest => skipWithin fuel ('[' :: brackets) false rest := by
  rw [skipWithin, skipSpace_eq_cons_iff.mpr ⟨gap, by decide⟩]
  rfl

theorem skipWithin_object (gap : Gap lead ('\x7b' :: text)) :
    skipWithin (fuel + 1) brackets false lead =
      match skipSpace text with
      | [] => .error (.next .endInObject [])
      | '\x7d' :: rest => skipWithin fuel brackets true rest
      | rest => skipKey rest >>= skipWithin fuel ('\x7b' :: brackets) false := by
  rw [skipWithin, skipSpace_eq_cons_iff.mpr ⟨gap, by decide⟩]
  rfl

theorem skipWithin_noItem (gap : Gap lead ('[' :: text)) (blank : Gap text (']' :: rest)) :
    skipWithin (fuel + 1) brackets false lead = skipWithin fuel brackets true rest := by
  rw [skipWithin_list gap, skipSpace_eq_cons_iff.mpr ⟨blank, by decide⟩]
  rfl

theorem skipWithin_item (gap : Gap lead ('[' :: text)) (blank : Gap text (c :: start))
    (solid : isSpace c = false) (other : c ≠ ']') :
    skipWithin (fuel + 1) brackets false lead =
      skipWithin fuel ('[' :: brackets) false (c :: start) := by
  rw [skipWithin_list gap, skipSpace_eq_cons_iff.mpr ⟨blank, solid⟩]
  split
  · rename_i same
    cases same
  · rename_i same
    cases same
    exact absurd rfl other
  · rfl

theorem skipWithin_noMember (gap : Gap lead ('\x7b' :: text)) (blank : Gap text ('\x7d' :: rest)) :
    skipWithin (fuel + 1) brackets false lead = skipWithin fuel brackets true rest := by
  rw [skipWithin_object gap, skipSpace_eq_cons_iff.mpr ⟨blank, by decide⟩]
  rfl

theorem skipWithin_member {quoted : List Char} (gap : Gap lead ('\x7b' :: text))
    (blank : Gap text ('"' :: quoted)) (key : skipKey ('"' :: quoted) = .ok rest) :
    skipWithin (fuel + 1) brackets false lead = skipWithin fuel ('\x7b' :: brackets) false rest := by
  rw [skipWithin_object gap, skipSpace_eq_cons_iff.mpr ⟨blank, by decide⟩]
  change (skipKey ('"' :: quoted) >>= _) = _
  rw [key, ok_bind]

/-- A comma in a list, or a comma and a key in an object. -/
theorem skipWithin_further {bracket : Char} {behind : List Char} (gap : Gap text (',' :: behind))
    (key : (if bracket = '[' then pure behind else skipKey behind) = .ok rest) :
    skipWithin (fuel + 1) (bracket :: outer) true text =
      skipWithin fuel (bracket :: outer) false rest := by
  rw [skipWithin, skipSpace_eq_cons_iff.mpr ⟨gap, by decide⟩]
  dsimp only
  rw [if_pos rfl]
  split at key
  · rename_i list
    cases key
    rw [if_pos list]
    rfl
  · rename_i object
    rw [if_neg object, key, ok_bind]

theorem skipWithin_close {bracket closing : Char} (gap : Gap text (closing :: rest))
    (closes : (closing = ']' ∧ bracket = '[') ∨ (closing = '\x7d' ∧ bracket = '\x7b')) :
    skipWithin (fuel + 1) (bracket :: outer) true text = skipWithin fuel outer true rest := by
  have solid : isSpace closing = false ∧ closing ≠ ',' := by
    rcases closes with ⟨rfl, -⟩ | ⟨rfl, -⟩ <;> decide
  rw [skipWithin, skipSpace_eq_cons_iff.mpr ⟨gap, solid.1⟩]
  dsimp only
  rw [if_neg solid.2, if_pos closes]

/-- A phrase is passed over in so many steps, whatever else is open. A list and an object are entered
by their bracket. -/
def Skips : Phrase → List Char → List Char → Prop
  | .value, text, rest => Ends rest → ∃ cost, cost + rest.length ≤ text.length ∧
      ∀ lead, Gap lead text → ∀ fuel brackets,
        skipWithin (fuel + cost) brackets false lead = skipWithin fuel brackets true rest
  | .items true, text, rest => ∃ cost, cost + rest.length ≤ text.length ∧
      ∀ lead, Gap lead ('[' :: text) → ∀ fuel brackets,
        skipWithin (fuel + cost + 1) brackets false lead = skipWithin fuel brackets true rest
  | .members true, text, rest => ∃ cost, cost + rest.length ≤ text.length ∧
      ∀ lead, Gap lead ('\x7b' :: text) → ∀ fuel brackets,
        skipWithin (fuel + cost + 1) brackets false lead = skipWithin fuel brackets true rest
  | .items false, text, rest => ∃ cost, cost + rest.length ≤ text.length ∧ ∀ fuel outer,
      skipWithin (fuel + cost) ('[' :: outer) true text = skipWithin fuel outer true rest
  | .members false, text, rest => ∃ cost, cost + rest.length ≤ text.length ∧ ∀ fuel outer,
      skipWithin (fuel + cost) ('\x7b' :: outer) true text = skipWithin fuel outer true rest

theorem Skips.noItem {first : Bool} (gap : Gap text (']' :: rest)) :
    Skips (.items first) text rest := by
  have long := gap.length_le
  rw [List.length_cons] at long
  cases first with
  | true => exact ⟨0, by omega, fun lead entry fuel brackets => skipWithin_noItem entry gap⟩
  | false => exact ⟨1, by omega, fun fuel outer => skipWithin_close gap (.inl ⟨rfl, rfl⟩)⟩

theorem Skips.item {first : Bool} {start behind : List Char} (between : Between first text start)
    (value : Derives .value start behind) (ends : Ends behind) (inner : Skips .value start behind)
    (others : Skips (.items false) behind rest) : Skips (.items first) text rest := by
  obtain ⟨cost, bound, skips⟩ := inner ends
  obtain ⟨onward, limit, passes⟩ := others
  obtain ⟨c, inside, rfl, solid, closing, -⟩ := value.eq_cons
  cases between with
  | first gap =>
      have long := gap.length_le
      refine ⟨onward + cost, by omega, fun lead entry fuel brackets => ?_⟩
      rw [skipWithin_item entry gap solid closing, ← Nat.add_assoc, skips _ (.refl _), passes]
  | further gap blank =>
      have long := gap.length_le
      have short := blank.length_le
      rw [List.length_cons] at long
      refine ⟨onward + cost + 1, by omega, fun fuel outer => ?_⟩
      rw [← Nat.add_assoc, skipWithin_further gap rfl, ← Nat.add_assoc, skips _ blank, passes]

theorem Skips.noMember {first : Bool} (gap : Gap text ('\x7d' :: rest)) :
    Skips (.members first) text rest := by
  have long := gap.length_le
  rw [List.length_cons] at long
  cases first with
  | true => exact ⟨0, by omega, fun lead entry fuel brackets => skipWithin_noMember entry gap⟩
  | false => exact ⟨1, by omega, fun fuel outer => skipWithin_close gap (.inr ⟨rfl, rfl⟩)⟩

theorem Skips.member {first : Bool} {chars start behind : List Char}
    (keyed : Keyed Masked first text chars start) (ends : Ends behind)
    (inner : Skips .value start behind) (others : Skips (.members false) behind rest) :
    Skips (.members first) text rest := by
  obtain ⟨cost, bound, skips⟩ := inner ends
  obtain ⟨onward, limit, passes⟩ := others
  obtain ⟨between, told, colon, blank⟩ := keyed
  have shrinks := told.length_lt fun _ _ _ => Masked.length_lt
  have outer := colon.length_le
  have short := blank.length_le
  rw [List.length_cons] at outer
  cases between with
  | first gap =>
      have long := gap.length_le
      rw [List.length_cons] at long
      have key := skipKey_eq_ok_iff.mpr ⟨_, _, _, .refl _, told, colon⟩
      refine ⟨onward + cost, by omega, fun lead entry fuel brackets => ?_⟩
      rw [skipWithin_member entry gap key, ← Nat.add_assoc, skips _ blank, passes]
  | further gap lead =>
      have long := gap.length_le
      have next := lead.length_le
      rw [List.length_cons] at long next
      have key := skipKey_eq_ok_iff.mpr ⟨_, _, _, lead, told, colon⟩
      refine ⟨onward + cost + 1, by omega, fun fuel outer => ?_⟩
      rw [← Nat.add_assoc, skipWithin_further gap ((if_neg (by decide)).trans key),
        ← Nat.add_assoc, skips _ blank, passes]

theorem skips_of_derives {phrase : Phrase} (derives : Derives phrase text rest) :
    Skips phrase text rest := by
  induction derives with
  | atom atom =>
      exact fun ends => ⟨1, by have := atom.length_lt; omega,
        fun lead gap fuel brackets => skipWithin_atom gap atom ends⟩
  | list items ih =>
      obtain ⟨cost, bound, skips⟩ := ih
      exact fun _ => ⟨cost + 1, by rw [List.length_cons]; omega,
        fun lead gap fuel brackets => skips lead gap fuel brackets⟩
  | object members ih =>
      obtain ⟨cost, bound, skips⟩ := ih
      exact fun _ => ⟨cost + 1, by rw [List.length_cons]; omega,
        fun lead gap fuel brackets => skips lead gap fuel brackets⟩
  | noItem gap => exact .noItem gap
  | item between value more inner others => exact .item between value more.ends_items inner others
  | noMember gap => exact .noMember gap
  | member keyed value more inner others => exact .member keyed more.ends_members inner others

theorem Derives.length_le (value : Derives .value text rest) (ends : Ends rest) :
    rest.length ≤ text.length := by
  obtain ⟨cost, bound, -⟩ := skips_of_derives value ends
  omega

/-! ## Both ways -/

theorem derives_of_skipValue (done : skipValue text = .ok rest) :
    ∃ start, Gap text start ∧ Derives .value start rest := by
  obtain ⟨start, behind, gap, value, rfl⟩ := ahead_of_skipWithin done
  exact ⟨start, gap, value⟩

theorem skipValue_of_derives (gap : Gap text start) (value : Derives .value start rest)
    (ends : Ends rest) : skipValue text = .ok rest := by
  obtain ⟨cost, bound, skips⟩ := skips_of_derives value ends
  have long := gap.length_le
  have enough : 2 * text.length + 2 = (2 * text.length + 1 - cost) + 1 + cost := by omega
  rw [skipValue, enough, skips text gap]
  rfl

end SelfUpdate.Json
