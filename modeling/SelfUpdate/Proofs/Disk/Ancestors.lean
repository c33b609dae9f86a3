import SelfUpdate.Proofs.Disk.Locations

/-!
# What lies above a path

The parents of a path are made of its first pieces. When the directories of a path are made, where
there are no links, the new entries are those to which these parents lead.
-/

namespace SelfUpdate

namespace Path

variable {path parent : Path}

/-- An absolute path begins with an empty piece before others. -/
theorem isAbsolute_iff : isAbsolute path = true ↔ ∃ next rest, pieces path = "" :: next :: rest := by
  constructor
  · intro absolute
    rw [isAbsolute, beq_iff_eq, List.head?_eq_some_iff] at absolute
    obtain ⟨back, slashed⟩ := absolute
    have whole : path = "" ++ "/" ++ String.ofList back := by
      apply String.toList_inj.mp
      simp [slashed]
    rw [whole, pieces_append_slash]
    cases tail : pieces (String.ofList back) with
    | nil => exact absurd tail (pieces_ne_nil _)
    | cons next rest => exact ⟨next, rest, rfl⟩
  · rintro ⟨next, rest, begins⟩
    have text := congrArg (List.intercalate ['/']) (congrArg (List.map String.toList) begins)
    simp [pieces, List.intercalate_splitOn] at text
    rw [isAbsolute, text]
    rfl

theorem pieces_intercalate {kept : List String} (some_ : kept ≠ [])
    (plain : ∀ piece ∈ kept, '/' ∉ piece.toList) : pieces ("/".intercalate kept) = kept := by
  induction kept with
  | nil => exact absurd rfl some_
  | cons piece rest ih =>
      rw [List.forall_mem_cons] at plain
      have single : pieces piece = [piece] := by
        simp [pieces, List.splitOn_eq_singleton plain.1]
      cases rest with
      | nil => simpa using single
      | cons next rest =>
          rw [String.intercalate_cons_cons, pieces_append_slash, single, ih (by simp) plain.2]
          rfl

theorem dropIdle_suffix (absolute : Bool) (reversed : List String) :
    dropIdle absolute reversed <:+ reversed := by
  induction reversed with
  | nil => exact List.suffix_refl []
  | cons piece before ih =>
      rw [dropIdle]
      split
      · exact ih.trans (List.suffix_cons piece before)
      · exact List.suffix_refl _

theorem body_subset (path : Path) : body path ⊆ pieces path := by
  rw [body]
  split
  · exact fun _ listed => List.mem_of_mem_tail listed
  · exact List.Subset.refl _

/-- A path made of the first pieces of another one has these pieces. -/
theorem body_ofReversed {kept : List String} (inside : kept <+: body path)
    (same : parent = ofReversed (isAbsolute path) kept.reverse) (some_ : parent ≠ "") :
    isAbsolute parent = isAbsolute path ∧
      (body parent = kept ∨ kept = [] ∧ body parent = [""]) := by
  have plain : ∀ piece ∈ kept, '/' ∉ piece.toList := fun piece listed =>
    slash_not_mem_of_piece (body_subset path (inside.subset listed))
  rw [ofReversed, List.reverse_reverse] at same
  cases absolute : isAbsolute path with
  | true =>
      rw [if_pos absolute] at same
      cases kept with
      | nil =>
          obtain rfl : parent = "/" := same
          exact ⟨rfl, .inr ⟨rfl, rfl⟩⟩
      | cons first rest =>
          have all : pieces parent = "" :: first :: rest := by
            have slashed := pieces_append_slash "" ("/".intercalate (first :: rest))
            rw [pieces_intercalate (by simp) plain, String.empty_append, ← same] at slashed
            exact slashed
          have begins := isAbsolute_iff.mpr ⟨first, rest, all⟩
          refine ⟨begins, .inl ?_⟩
          rw [body, if_pos begins, all, List.tail_cons]
  | false =>
      rw [absolute, if_neg (by decide), String.empty_append] at same
      have notNil : kept ≠ [] := by
        rintro rfl
        exact some_ same
      have all : pieces parent = kept := by
        rw [same, pieces_intercalate notNil plain]
      have relative : isAbsolute parent = false := by
        rw [← Bool.not_eq_true, isAbsolute_iff, all]
        rintro ⟨next, rest, rfl⟩
        -- then the other path would begin in the same way
        rw [body, absolute, if_neg (by decide)] at inside
        obtain ⟨more, begins⟩ := inside
        have slashed := isAbsolute_iff.mpr ⟨next, rest ++ more, begins.symm⟩
        cases absolute.symm.trans slashed
      refine ⟨relative, .inl ?_⟩
      rw [body, relative, if_neg (by decide), all]

end Path

namespace Disk

variable {disk : Disk} {location : Location} {node : Node}

theorem destination_eq_placeOf (base : Location) (directory : Path) :
    destination base directory = placeOf base directory := by
  by_cases empty : directory = ""
  · subst empty
    rfl
  · rcases Path.pieces_eq_stem empty with same | slashed
    · rw [destination, placeOf, same]
    · rw [destination, placeOf, slashed, follow_append]
      rfl

/-- Every new entry is a directory to which one of the paths leads. -/
theorem makeDirectoriesUpTo_new (linkFree : disk.LinkFree) (paths : List Path)
    (found : (makeDirectoriesUpTo paths disk).2.get? location = some node) :
    disk.get? location = some node ∨
      ∃ path ∈ paths, path ≠ "" ∧ location = destination disk.workingDirectory path := by
  rcases makeDirectoriesUpTo_dug paths disk location with same | ⟨-, -, path, listed, located⟩
  · exact .inl (same.symm.trans found)
  · have changes := (makeDirectoriesUpTo_digs paths disk).changes
    have led := locate_eq_destination (changes.linkFree linkFree) located
    rw [changes.workingDirectory] at led
    exact .inr ⟨path, listed, (checkText_eq_ok_iff.mp (locate_eq_ok_iff.mp located).1).2.1, led⟩

end Disk

end SelfUpdate
