import SelfUpdate.Proofs.Disk.Ancestors
import SelfUpdate.Proofs.Disk.Canonical

/-!
# Lengths of paths

Where there are no links, the canonical path of what an absolute path leads to is not longer than that
path, and so it can be read just as well.
-/

namespace SelfUpdate

namespace Path

/-- The octets of some pieces and of a slash for each. -/
def span : List String → Nat
  | [] => 0
  | piece :: rest => piece.utf8ByteSize + 1 + span rest

theorem span_cons (piece : String) (rest : List String) :
    span (piece :: rest) = piece.utf8ByteSize + 1 + span rest := rfl

theorem span_append (before after : List String) :
    span (before ++ after) = span before + span after := by
  induction before with
  | nil => simp [span]
  | cons piece rest ih =>
      rw [List.cons_append, span_cons, span_cons, ih]
      omega

theorem intercalate_pieces (path : Path) : "/".intercalate (pieces path) = path := by
  apply String.toList_inj.mp
  have slash : "/".toList = ['/'] := rfl
  rw [String.toList_intercalate, slash, pieces, List.map_map]
  simp [Function.comp_def, List.intercalate_splitOn]

theorem span_eq_intercalate {pieces : List String} (some_ : pieces ≠ []) :
    span pieces = ("/".intercalate pieces).utf8ByteSize + 1 := by
  have slash : "/".utf8ByteSize = 1 := by decide
  induction pieces with
  | nil => exact absurd rfl some_
  | cons piece rest ih =>
      cases rest with
      | nil => simp [span]
      | cons next rest =>
          rw [span_cons, ih (by simp), String.intercalate_cons_cons, String.utf8ByteSize_append,
            String.utf8ByteSize_append, slash]
          omega

theorem span_pieces (path : Path) : span (pieces path) = path.utf8ByteSize + 1 := by
  rw [span_eq_intercalate (pieces_ne_nil path), intercalate_pieces]

theorem mem_intercalate {pieces : List String} {piece : String} {c : Char}
    (member : piece ∈ pieces) (inside : c ∈ piece.toList) :
    c ∈ ("/".intercalate pieces).toList := by
  induction pieces with
  | nil => cases member
  | cons first rest ih =>
      cases rest with
      | nil =>
          rw [List.mem_singleton.mp member] at inside
          simpa using inside
      | cons next rest =>
          rw [String.intercalate_cons_cons, String.toList_append, List.mem_append]
          rcases List.mem_cons.mp member with rfl | later
          · exact .inl (by simp [String.toList_append, inside])
          · exact .inr (ih later)

/-- A piece has no characters but those of its path. -/
theorem mem_of_mem_piece {path : Path} {piece : String} {c : Char} (member : piece ∈ pieces path)
    (inside : c ∈ piece.toList) : c ∈ path.toList := by
  rw [← intercalate_pieces path]
  exact mem_intercalate member inside

end Path

namespace Disk

variable {disk : Disk} {location other : Location} {path : Path} {links left : Nat}
  {pieces : List String}

/-! ## The path of a location -/

theorem utf8ByteSize_pathOf (named : location ≠ []) :
    (pathOf location).utf8ByteSize = Path.span location := by
  have slash : "/".utf8ByteSize = 1 := by decide
  rw [pathOf, if_neg (by simpa using named)]
  clear named
  induction location with
  | nil => rfl
  | cons name rest ih =>
      rw [List.map_cons, String.join_cons, String.utf8ByteSize_append,
        String.utf8ByteSize_append, ih, slash, Path.span_cons]
      omega

theorem mem_pathOf {c : Char} (inside : c ∈ (pathOf location).toList) :
    c = '/' ∨ ∃ name ∈ location, c ∈ name.toList := by
  have slash : "/".toList = ['/'] := rfl
  rw [pathOf] at inside
  split at inside
  · rw [slash, List.mem_singleton] at inside
    exact .inl inside
  · induction location with
    | nil => cases inside
    | cons name rest ih =>
        rw [List.map_cons, String.join_cons, String.toList_append, String.toList_append, slash,
          List.mem_append, List.mem_append, List.mem_singleton] at inside
        rcases inside with (here | there) | later
        · exact .inl here
        · exact .inr ⟨name, List.mem_cons_self, there⟩
        · cases rest with
          | nil => cases later
          | cons next rest =>
              rcases ih (by simp) later with here | ⟨other, listed, there⟩
              · exact .inl here
              · exact .inr ⟨other, List.mem_cons_of_mem _ listed, there⟩

/-! ## What is left of a path -/

theorem span_dropLast_le (location : Location) :
    Path.span location.dropLast ≤ Path.span location := by
  cases location using List.reverseRecOn with
  | nil => exact Nat.le_refl _
  | append_singleton above name =>
      rw [List.dropLast_concat, Path.span_append]
      exact Nat.le_add_right _ _

theorem span_follow_le (location : Location) (pieces : List String) :
    Path.span (follow location pieces) ≤ Path.span location + Path.span pieces := by
  induction pieces generalizing location with
  | nil => exact Nat.le_add_right _ _
  | cons piece rest ih =>
      rw [follow, Path.span_cons]
      split
      · have onward := ih location
        omega
      · split
        · have onward := ih location.dropLast
          have shorter := span_dropLast_le location
          omega
        · have onward := ih (location ++ [piece])
          rw [Path.span_append, Path.span_cons] at onward
          simp only [Path.span] at onward ⊢
          omega

theorem mem_follow {name : String} (member : name ∈ follow location pieces) :
    name ∈ location ∨ name ∈ pieces := by
  induction pieces generalizing location with
  | nil => exact .inl member
  | cons piece rest ih =>
      rw [follow] at member
      split at member
      · exact (ih member).imp_right (List.mem_cons_of_mem piece)
      · split at member
        · exact (ih member).imp (List.dropLast_subset location ·) (List.mem_cons_of_mem piece)
        · rcases ih member with early | late
          · rcases List.mem_append.mp early with there | here
            · exact .inl there
            · exact .inr (List.mem_singleton.mp here ▸ List.mem_cons_self)
          · exact .inr (List.mem_cons_of_mem piece late)

/-- An absolute path that can be read has a canonical path that can be read, if no link is on it. -/
theorem checkText_pathOf_destination (base : Location) (absolute : Path.isAbsolute path = true)
    (text : checkText path = .ok ()) : checkText (pathOf (destination base path)) = .ok () := by
  obtain ⟨nul, -, length⟩ := checkText_eq_ok_iff.mp text
  have whole : destination base path = follow [] (Path.pieces path) := by
    rw [destination, origin, if_pos absolute]
  have legal (name : String) (member : name ∈ destination base path) : '\x00' ∉ name.toList := by
    intro inside
    rw [whole] at member
    exact nul (Path.mem_of_mem_piece ((mem_follow member).resolve_left (by simp)) inside)
  refine checkText_eq_ok_iff.mpr ⟨?_, ?_, ?_⟩
  · intro inside
    rcases mem_pathOf inside with slash | ⟨name, member, there⟩
    · cases slash
    · exact legal name member there
  · intro empty
    have absolute := isAbsolute_pathOf (destination base path)
    rw [empty] at absolute
    cases absolute
  · by_cases root : destination base path = []
    · rw [root]
      decide
    · rw [utf8ByteSize_pathOf root, whole]
      -- the empty piece before the leading slash is not left
      obtain ⟨next, rest, split_⟩ := Path.isAbsolute_iff.mp absolute
      have size := Path.span_pieces path
      have shorter := span_follow_le [] (next :: rest)
      rw [split_, follow, if_pos (.inl rfl)]
      rw [split_, Path.span_cons] at size
      simp only [Path.span, String.utf8ByteSize_empty] at size shorter ⊢
      omega

/-! ## Short names -/

theorem Reaches.isShort (start : ∀ part ∈ location, isTooLong part = false)
    (reached : Reaches disk links location pieces left other) :
    ∀ part ∈ other, isTooLong part = false := by
  induction reached with
  | here => exact start
  | idle inside nothing onward ih => exact ih start
  | up inside onward ih => exact ih fun part listed => start part (List.dropLast_subset _ listed)
  | through inside named short found onward ih =>
      refine ih fun part listed => ?_
      rw [origin] at listed
      split at listed
      · cases listed
      · exact start part listed
  | into inside named short found solid onward ih =>
      refine ih fun part listed => ?_
      rcases List.mem_append.mp listed with early | last
      · exact start part early
      · exact List.mem_singleton.mp last ▸ short

theorem isShort_of_locate (base : ∀ part ∈ disk.workingDirectory, isTooLong part = false)
    (located : disk.locate path = .ok location) : ∀ part ∈ location, isTooLong part = false := by
  obtain ⟨-, left, reached⟩ := locate_eq_ok_iff.mp located
  refine reached.isShort fun part listed => ?_
  rw [origin] at listed
  split at listed
  · cases listed
  · exact base part listed

end Disk

end SelfUpdate
