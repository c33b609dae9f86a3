import Mathlib.Data.List.DropRight
import SelfUpdate.Proofs.Text.Words

/-!
# Trimmed texts

Trimming a text leaves an inner part of it that neither begins nor ends with a blank, and a text of that
kind is left as it is. What goes are the blanks around that part.
-/

namespace SelfUpdate.Text

variable {text lead body tail : List Char}

/-- A text that neither begins nor ends with a blank. -/
structure Trimmed (text : List Char) : Prop where
  front : ∀ c, text.head? = some c → isBlank c = false
  back : ∀ c, text.getLast? = some c → isBlank c = false

theorem Trimmed.of_solid (solid : ∀ c ∈ text, isBlank c = false) : Trimmed text :=
  ⟨fun c first => solid c (List.mem_of_head? first), fun c last => solid c (List.mem_of_getLast? last)⟩

/-- The blanks at the front go first, then those at the back. -/
theorem trimBlanks_eq (text : List Char) :
    trimBlanks text = (text.dropWhile isBlank).rdropWhile isBlank := rfl

theorem trimBlanks_infix (text : List Char) : trimBlanks text <:+: text := by
  rw [trimBlanks_eq]
  exact (List.rdropWhile_prefix isBlank _).isInfix.trans (List.dropWhile_suffix isBlank).isInfix

theorem trimmed_trimBlanks (text : List Char) : Trimmed (trimBlanks text) := by
  rw [trimBlanks_eq]
  constructor
  · intro c first
    obtain ⟨rest, whole⟩ := List.rdropWhile_prefix isBlank (text.dropWhile isBlank)
    have begins := List.head?_dropWhile_not isBlank text
    rw [← whole, List.head?_append, first] at begins
    simpa using begins
  · intro c last
    have some_ : (text.dropWhile isBlank).rdropWhile isBlank ≠ [] := by
      intro empty
      rw [empty] at last
      cases last
    rw [List.getLast?_eq_some_getLast some_] at last
    rw [← Option.some.inj last, Bool.eq_false_iff]
    exact List.rdropWhile_last_not isBlank _ some_

theorem trimBlanks_of_trimmed (trimmed : Trimmed text) : trimBlanks text = text := by
  have front : text.dropWhile isBlank = text := by
    cases text with
    | nil => rfl
    | cons c rest => exact List.dropWhile_cons_of_neg (by simp [trimmed.front c rfl])
  rw [trimBlanks_eq, front, List.rdropWhile_eq_self_iff]
  intro some_ blank
  rw [trimmed.back _ (List.getLast?_eq_some_getLast some_)] at blank
  cases blank

/-- Blanks around a trimmed text are what trimming takes away. -/
theorem trimBlanks_append (before : Blank lead) (behind : Blank tail) (trimmed : Trimmed body) :
    trimBlanks (lead ++ (body ++ tail)) = body := by
  rw [trimBlanks_eq, List.dropWhile_append_of_pos before]
  cases body with
  | nil =>
      rw [List.nil_append, List.dropWhile_eq_nil_iff.mpr behind]
      rfl
  | cons c body =>
      have first : ¬ isBlank c = true := by simp [trimmed.front c rfl]
      have whole := trimBlanks_of_trimmed trimmed
      rw [trimBlanks_eq, List.dropWhile_cons_of_neg first, List.rdropWhile] at whole
      rw [List.cons_append, List.dropWhile_cons_of_neg first, ← List.cons_append, List.rdropWhile,
        List.reverse_append,
        List.dropWhile_append_of_pos fun d listed => behind d (List.mem_reverse.mp listed)]
      exact whole

/-- Trimming leaves the trimmed text that stands between blanks. -/
theorem trimBlanks_eq_iff (trimmed : Trimmed body) :
    trimBlanks text = body ↔
      ∃ lead tail, text = lead ++ (body ++ tail) ∧ Blank lead ∧ Blank tail := by
  constructor
  · rintro rfl
    have front : text.takeWhile isBlank ++ text.dropWhile isBlank = text :=
      List.takeWhile_append_dropWhile
    have back : (text.dropWhile isBlank).rdropWhile isBlank ++
        (text.dropWhile isBlank).rtakeWhile isBlank = text.dropWhile isBlank :=
      List.rdropWhile_append_rtakeWhile
    refine ⟨text.takeWhile isBlank, (text.dropWhile isBlank).rtakeWhile isBlank, ?_, ?_, ?_⟩
    · rw [trimBlanks_eq, back, front]
    · exact List.all_eq_true.mp List.all_takeWhile
    · exact fun c listed => List.mem_rtakeWhile_imp listed
  · rintro ⟨lead, tail, rfl, before, behind⟩
    exact trimBlanks_append before behind trimmed

theorem trimBlanks_eq_nil_iff :
    trimBlanks text = [] ↔ ∀ c ∈ text, isBlank c = true := by
  rw [trimBlanks, List.reverse_eq_nil_iff, List.dropWhile_eq_nil_iff]
  constructor
  · intro blank
    have front : text.dropWhile isBlank = [] := by
      by_contra some_
      -- what is left of the text begins with a character that is not blank
      have first := List.head_dropWhile_not isBlank some_
      rw [blank _ (List.mem_reverse.mpr (List.head_mem some_))] at first
      cases first
    exact List.dropWhile_eq_nil_iff.mp front
  · intro blank c listed
    rw [List.dropWhile_eq_nil_iff.mpr blank] at listed
    cases listed

/-- A text is blank when trimming leaves nothing of it. -/
theorem isAllBlank_iff {text : String} : isAllBlank text = true ↔ trim text = "" := by
  rw [isAllBlank, List.all_eq_true, ← trimBlanks_eq_nil_iff, trim, String.ofList_eq_empty_iff]

theorem trimmed_trim (text : String) : Trimmed (trim text).toList := by
  rw [trim, String.toList_ofList]
  exact trimmed_trimBlanks _

/-- A trimmed text is not blank, unless it is empty. -/
theorem isAllBlank_of_trimmed {text : String} (trimmed : Trimmed text.toList) (filled : text ≠ "") :
    isAllBlank text = false := by
  rw [Bool.eq_false_iff, ne_eq, isAllBlank_iff, trim, trimBlanks_of_trimmed trimmed,
    String.ofList_toList]
  exact filled

end SelfUpdate.Text
