import SelfUpdate.Text.Blank
import SelfUpdate.Text.Lines

/-!
# Parts of a text

How a text is split at certain characters, and so in words and in lines. A blank parts the words before
it from those after it, and a line feed the line before it from the lines after it: everything else about
the two follows from these equations.
-/

namespace SelfUpdate.Text

variable {text front back lead gap word tail first line : List Char} {rest : List (List Char)}
  {c : Char} {p : Char → Bool}

/-! ## Parts -/

/-- No part has a character that separates. -/
theorem not_mem_of_mem_splitOnP : ∀ part ∈ text.splitOnP p, ∀ c ∈ part, p c = false := by
  induction text with
  | nil => simp
  | cons c rest ih =>
      rw [List.splitOnP_cons_eq_if_modifyHead]
      split
      · rw [List.forall_mem_cons]
        exact ⟨by simp, ih⟩
      · rename_i differs
        cases split : rest.splitOnP p with
        | nil => simp
        | cons first others =>
            rw [split, List.forall_mem_cons] at ih
            rw [List.modifyHead_cons, List.forall_mem_cons, List.forall_mem_cons]
            exact ⟨⟨Bool.eq_false_iff.mpr differs, ih.1⟩, ih.2⟩

/-- Every other character is in some part. -/
theorem exists_part (listed : c ∈ text) (inside : p c = false) :
    ∃ part ∈ text.splitOnP p, c ∈ part := by
  induction text with
  | nil => cases listed
  | cons d rest ih =>
      rw [List.splitOnP_cons_eq_if_modifyHead]
      split
      · rename_i separates
        have later : c ∈ rest := by
          rcases List.mem_cons.mp listed with rfl | later
          · cases inside.symm.trans separates
          · exact later
        obtain ⟨part, among, holds⟩ := ih later
        exact ⟨part, List.mem_cons_of_mem _ among, holds⟩
      · cases split : rest.splitOnP p with
        | nil => exact absurd split (List.splitOnP_ne_nil p rest)
        | cons first others =>
            rw [List.modifyHead_cons]
            rcases List.mem_cons.mp listed with rfl | later
            · exact ⟨_, List.mem_cons_self, List.mem_cons_self⟩
            · obtain ⟨part, among, holds⟩ := ih later
              rw [split] at among
              rcases List.mem_cons.mp among with rfl | among
              · exact ⟨_, List.mem_cons_self, List.mem_cons_of_mem _ holds⟩
              · exact ⟨part, List.mem_cons_of_mem _ among, holds⟩

/-! ## Words -/

/-- A text of blanks only. -/
def Blank (text : List Char) : Prop := ∀ c ∈ text, isBlank c = true

-- By the instance for lists: the one for all characters, where it is there, goes through all of them.
instance : Decidable (Blank text) := List.decidableBAll _ text

/-- A text without blanks that is not empty. -/
structure IsWord (text : List Char) : Prop where
  some : text ≠ []
  solid : ∀ c ∈ text, isBlank c = false

instance : Decidable (IsWord text) :=
  decidable_of_iff (text ≠ [] ∧ text.all (!isBlank ·) = true)
    ⟨fun word => ⟨word.1, by simpa using word.2⟩, fun word => ⟨word.some, by simpa using word.solid⟩⟩

/-- Where a word ends: the text is over, or a blank follows. -/
def Parted (tail : List Char) : Prop := ∀ c, tail.head? = some c → isBlank c = true

/-- The visible characters of ASCII are no blanks. -/
theorem isBlank_of_visible (low : 33 ≤ c.toNat) (high : c.toNat < 127) : isBlank c = false := by
  have points : '\t'.val.toNat = 9 ∧ '\r'.val.toNat = 13 ∧ '\u2000'.val.toNat = 0x2000 ∧
      '\u200a'.val.toNat = 0x200a := by decide
  rw [Bool.eq_false_iff]
  intro blank
  simp only [isBlank, Bool.or_eq_true, Bool.and_eq_true, decide_eq_true_eq, beq_iff_eq,
    Char.le_def, UInt32.le_iff_toNat_le] at blank
  rcases blank with (((((((((range | rfl) | rfl) | rfl) | rfl) | range) | rfl) | rfl) | rfl) |
    rfl) | rfl
  · simp only [Char.toNat] at low
    omega
  · exact absurd low (by decide)
  · exact absurd high (by decide)
  · exact absurd high (by decide)
  · exact absurd high (by decide)
  · simp only [Char.toNat] at high
    omega
  all_goals exact absurd high (by decide)

@[simp] theorem words_nil : words [] = [] := rfl

/-- A blank parts words. -/
theorem words_append_cons (blank : isBlank c = true) (front back : List Char) :
    words (front ++ c :: back) = words front ++ words back := by
  simp only [words, List.splitOnP_append_cons front back blank, List.filter_append]

theorem words_cons (blank : isBlank c = true) (text : List Char) :
    words (c :: text) = words text := by
  simpa using words_append_cons blank [] text

theorem words_append_of_blank (blank : Blank lead) (text : List Char) :
    words (lead ++ text) = words text := by
  induction lead with
  | nil => rfl
  | cons c lead ih =>
      rw [List.cons_append, words_cons (blank c List.mem_cons_self)]
      exact ih fun d listed => blank d (List.mem_cons_of_mem _ listed)

theorem words_of_isWord (isWord : IsWord word) : words word = [word] := by
  simp [words, List.splitOnP_eq_singleton isWord.solid, isWord.some]

theorem Parted.of_blank (blank : Blank gap) (some_ : gap ≠ []) (text : List Char) :
    Parted (gap ++ text) := by
  intro c first
  obtain ⟨d, blanks, begins⟩ := List.exists_cons_of_ne_nil some_
  rw [begins] at first
  obtain rfl := Option.some.inj first
  exact blank d (begins ▸ List.mem_cons_self)

/-- Blanks go on up to the first word. -/
theorem takeWhile_append_isWord (blank : Blank lead) (isWord : IsWord word) :
    (lead ++ (word ++ tail)).takeWhile isBlank = lead := by
  obtain ⟨c, solid, begins⟩ := List.exists_cons_of_ne_nil isWord.some
  have first := isWord.solid c (begins ▸ List.mem_cons_self)
  rw [List.takeWhile_append_of_pos blank, begins, List.cons_append,
    List.takeWhile_cons_of_neg (by simp [first]), List.append_nil]

theorem words_append_parted (isWord : IsWord word) (parted : Parted tail) :
    words (word ++ tail) = word :: words tail := by
  cases tail with
  | nil => rw [List.append_nil, words_of_isWord isWord, words_nil]
  | cons c tail =>
      have blank := parted c rfl
      rw [words_append_cons blank, words_of_isWord isWord, words_cons blank, List.singleton_append]

/-- The first word stands behind blanks and before what holds the other words. -/
theorem words_eq_cons_iff :
    words text = first :: rest ↔
      ∃ lead tail, text = lead ++ first ++ tail ∧ Blank lead ∧ IsWord first ∧ Parted tail ∧
        words tail = rest := by
  constructor
  · intro parts
    have blank : Blank (text.takeWhile isBlank) := by
      intro c listed
      exact List.all_eq_true.mp List.all_takeWhile c listed
    have whole := List.takeWhile_append_dropWhile (p := isBlank) (l := text)
    have begins := List.head?_dropWhile_not isBlank text
    generalize text.takeWhile isBlank = lead at blank whole
    generalize text.dropWhile isBlank = body at begins whole
    subst whole
    rw [words_append_of_blank blank] at parts
    -- the word goes on up to the first blank, and it has at least the character it begins with
    have solid : ∀ c ∈ body.takeWhile (!isBlank ·), isBlank c = false := by
      intro c listed
      simpa using List.all_eq_true.mp List.all_takeWhile c listed
    have ends : Parted (body.dropWhile (!isBlank ·)) := by
      intro c next
      have stops := List.head?_dropWhile_not (!isBlank ·) body
      rw [next] at stops
      simpa using stops
    have parted := List.takeWhile_append_dropWhile (p := (!isBlank ·)) (l := body)
    have some_ : body.takeWhile (!isBlank ·) ≠ [] := by
      cases body with
      | nil => cases parts
      | cons c body =>
          rw [List.takeWhile_cons_of_pos (by simpa using begins)]
          exact List.cons_ne_nil _ _
    have same := words_append_parted ⟨some_, solid⟩ ends
    rw [parted, parts] at same
    obtain ⟨rfl, rfl⟩ := List.cons.inj same
    refine ⟨lead, _, ?_, blank, ⟨some_, solid⟩, ends, rfl⟩
    rw [List.append_assoc, parted]
  · rintro ⟨lead, tail, rfl, blank, isWord, parted, rfl⟩
    rw [List.append_assoc, words_append_of_blank blank, words_append_parted isWord parted]

/-! ## Lines -/

@[simp] theorem lines_nil : lines [] = [] := rfl

/-- A line feed ends a line. -/
theorem lines_append_feed (flat : '\n' ∉ line) (text : List Char) :
    lines (line ++ '\n' :: text) = dropReturn line :: lines text := by
  rw [lines, List.splitOn_append_cons_self, List.splitOn_eq_singleton flat, List.singleton_append,
    List.reverse_cons, lines]
  cases split : (text.splitOn '\n').reverse with
  | nil => exact absurd (List.reverse_eq_nil_iff.mp split) (List.splitOn_ne_nil _ _)
  | cons last ended => cases last <;> simp

/-- The last line needs no line feed. -/
theorem lines_of_flat (flat : '\n' ∉ line) (some_ : line ≠ []) : lines line = [line] := by
  rw [lines, List.splitOn_eq_singleton flat]
  cases line with
  | nil => exact absurd rfl some_
  | cons c line => rfl

/-- The carriage return at the end of a line belongs to no word. -/
theorem words_dropReturn (line : List Char) : words (dropReturn line) = words line := by
  rw [dropReturn]
  split
  · rename_i ends
    obtain ⟨front, rfl⟩ := List.getLast?_eq_some_iff.mp ends
    rw [List.dropLast_concat, words_append_cons (by decide), words_nil, List.append_nil]
  · rfl

end SelfUpdate.Text
