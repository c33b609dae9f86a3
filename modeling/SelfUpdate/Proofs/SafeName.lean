import SelfUpdate.SafeName
import SelfUpdate.Proofs.Text.Trim
import SelfUpdate.Proofs.Text.Words

/-!
# What makes a name safe

A safe name has no separator, no pair of dots, and no blank at its ends. Every text is made into one, and
one is left as it is. Taking out pairs of dots brings no others about, and trimming takes an inner part.
-/

namespace SelfUpdate

variable {text raw front back : List Char} {c : Char} {p : Char → Bool}

/-- What a safe name has to be. It may still be empty or a single dot. -/
structure IsSafe (text : List Char) : Prop where
  slash : '/' ∉ text
  backslash : '\\' ∉ text
  noPair : ¬ ['.', '.'] <:+: text
  trimmed : Text.Trimmed text

/-! ## Pairs of dots -/

theorem dropDotPairs_sublist (text : List Char) : (dropDotPairs text).Sublist text := by
  fun_induction dropDotPairs text with
  | case1 rest ih => exact (ih.cons '.').cons '.'
  | case2 c rest other ih => exact ih.cons_cons c
  | case3 => exact .slnil

/-- A dot that is no part of a pair is followed by none. -/
theorem noPair_dropDotPairs (text : List Char) : ¬ ['.', '.'] <:+: dropDotPairs text := by
  fun_induction dropDotPairs text with
  | case1 rest ih => exact ih
  | case2 c rest other ih =>
      rw [List.infix_cons_iff, not_or]
      refine ⟨?_, ih⟩
      rw [List.cons_prefix_cons, not_and]
      rintro rfl
      cases rest with
      | nil => simp [dropDotPairs]
      | cons d rest =>
          have differs : d ≠ '.' := by
            rintro rfl
            exact other rest rfl rfl
          rw [dropDotPairs]
          · simp [differs.symm]
          · exact fun _ same => absurd same differs
  | case3 => simp

theorem dropDotPairs_of_noPair (noPair : ¬ ['.', '.'] <:+: text) : dropDotPairs text = text := by
  fun_induction dropDotPairs text with
  | case1 rest ih => exact absurd ⟨[], rest, rfl⟩ noPair
  | case2 c rest other ih =>
      rw [ih fun inside => noPair (inside.trans (List.suffix_cons c rest).isInfix)]
  | case3 => rfl

/-- Nothing but dots is taken out. -/
theorem mem_dropDotPairs (listed : c ∈ text) (noDot : c ≠ '.') : c ∈ dropDotPairs text := by
  fun_induction dropDotPairs text with
  | case1 rest ih => exact ih (by simpa [noDot] using listed)
  | case2 d rest other ih =>
      rcases List.mem_cons.mp listed with rfl | later
      · exact List.mem_cons_self
      · exact List.mem_cons_of_mem _ (ih later)
  | case3 => cases listed

/-! ## Segments -/

theorem safeSegment_subset (segment : List Char) : safeSegment segment ⊆ segment := by
  intro c listed
  exact (dropDotPairs_sublist segment).subset ((Text.trimBlanks_infix _).subset listed)

/-- A text without separators is made safe. -/
theorem isSafe_safeSegment (whole : ∀ c ∈ text, isSeparator c = false) :
    IsSafe (safeSegment text) where
  slash listed := absurd (whole _ (safeSegment_subset text listed)) (by decide)
  backslash listed := absurd (whole _ (safeSegment_subset text listed)) (by decide)
  noPair inside := noPair_dropDotPairs text (inside.trans (Text.trimBlanks_infix _))
  trimmed := Text.trimmed_trimBlanks _

theorem safeSegment_of_isSafe (safe : IsSafe text) : safeSegment text = text := by
  rw [safeSegment, dropDotPairs_of_noPair safe.noPair, Text.trimBlanks_of_trimmed safe.trimmed]

/-- A segment with a character that is neither a dot nor blank leaves something. -/
theorem safeSegment_ne_nil (listed : c ∈ text) (noDot : c ≠ '.') (solid : Text.isBlank c = false) :
    safeSegment text ≠ [] := by
  intro empty
  have blank := Text.trimBlanks_eq_nil_iff.mp empty c (mem_dropDotPairs listed noDot)
  cases solid.symm.trans blank

/-! ## Names -/

/-- A name comes from one of the segments, and it is empty when they all leave nothing. -/
theorem safeNameChars_cases (raw : List Char) :
    (safeNameChars raw = [] ∧ ∀ segment ∈ raw.splitOnP isSeparator, safeSegment segment = []) ∨
      ∃ segment ∈ raw.splitOnP isSeparator, safeSegment segment ≠ [] ∧
        safeNameChars raw = safeSegment segment := by
  rw [safeNameChars]
  cases found : ((raw.splitOnP isSeparator).reverse.map safeSegment).find?
      (fun segment => !segment.isEmpty) with
  | none =>
      refine .inl ⟨rfl, fun segment listed => ?_⟩
      have empty := List.find?_eq_none.mp found (safeSegment segment)
        (List.mem_map_of_mem (List.mem_reverse.mpr listed))
      simpa using empty
  | some name =>
      have some_ := List.find?_some found
      obtain ⟨segment, listed, rfl⟩ := List.mem_map.mp (List.mem_of_find?_eq_some found)
      exact .inr ⟨segment, List.mem_reverse.mp listed, by simpa using some_, rfl⟩

theorem isSafe_nil : IsSafe [] := ⟨nofun, nofun, by simp, nofun, nofun⟩

theorem isSafe_safeNameChars (raw : List Char) : IsSafe (safeNameChars raw) := by
  rcases safeNameChars_cases raw with ⟨empty, -⟩ | ⟨segment, listed, -, same⟩
  · exact empty ▸ isSafe_nil
  · exact same ▸ isSafe_safeSegment (Text.not_mem_of_mem_splitOnP segment listed)

/-- A safe name is its own only segment. -/
theorem safeNameChars_of_isSafe (safe : IsSafe text) : safeNameChars text = text := by
  have whole : ∀ c ∈ text, isSeparator c = false := by
    intro c listed
    rw [isSeparator, Bool.or_eq_false_iff, beq_eq_false_iff_ne, beq_eq_false_iff_ne]
    exact ⟨fun same => safe.slash (same ▸ listed), fun same => safe.backslash (same ▸ listed)⟩
  rw [safeNameChars, List.splitOnP_eq_singleton whole, List.reverse_singleton, List.map_singleton,
    safeSegment_of_isSafe safe]
  cases text <;> rfl

theorem isSafe_safeName (raw : String) : IsSafe (safeName raw).toList := by
  rw [safeName, String.toList_ofList]
  exact isSafe_safeNameChars raw.toList

theorem safeName_of_isSafe {name : String} (safe : IsSafe name.toList) : safeName name = name := by
  rw [safeName, safeNameChars_of_isSafe safe, String.ofList_toList]

/-- Where there is a character that is no dot, no blank and no separator, something is left. -/
theorem safeName_ne_empty {name : String} (listed : c ∈ name.toList) (noDot : c ≠ '.')
    (solid : Text.isBlank c = false) (inside : isSeparator c = false) : safeName name ≠ "" := by
  rw [safeName, ne_eq, String.ofList_eq_empty_iff]
  rcases safeNameChars_cases name.toList with ⟨-, nothing⟩ | ⟨segment, -, some_, same⟩
  · obtain ⟨segment, among, holds⟩ := Text.exists_part listed inside
    exact absurd (nothing segment among) (safeSegment_ne_nil holds noDot solid)
  · exact same ▸ some_

end SelfUpdate
