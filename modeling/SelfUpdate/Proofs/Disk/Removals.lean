import SelfUpdate.Proofs.Disk.DeadEnds

/-!
# What is found once entries are gone

A walk that fails after several entries were removed fails already after one of them is. An entry
that leads to a file is missed only by names that lead to that file over it.
-/

namespace SelfUpdate.Disk

variable {disk before after : Disk} {location home place end_ : Location} {directory path : Path}
  {name other : String} {links left middle : Nat} {pieces : List String}

/-- Links are only used up on the way. -/
theorem Reaches.left_le (reached : Reaches disk links location pieces left end_) : left ≤ links := by
  induction reached with
  | here => exact Nat.le_refl _
  | idle _ _ _ ih | up _ _ ih | into _ _ _ _ _ _ ih => exact ih
  | through _ _ _ _ _ ih => exact Nat.le_succ_of_le ih

/-- An entry that walks pass without each of some entries is none of them, and is still there without
all of them. -/
theorem get?_of_each {gone : List Location} {piece : String} {rest : List String}
    (tree : before.IsTree)
    (solid : ∀ place ∈ gone, place ≠ [] ∧ before.isDirectoryAt place = false)
    (lookups : ∀ other, after.get? other = if other ∈ gone then none else before.get? other)
    (named : piece ≠ "" ∧ piece ≠ "." ∧ piece ≠ "..")
    (each : ∀ place ∈ gone, ∃ more right far,
      Reaches (before.erase place) more location (piece :: rest) right far) :
    (∀ place ∈ gone, (before.erase place).get? (location ++ [piece]) =
      before.get? (location ++ [piece])) ∧
      after.get? (location ++ [piece]) = before.get? (location ++ [piece]) := by
  have met : ∀ place ∈ gone, location ++ [piece] ≠ place := by
    intro place listed same
    obtain ⟨more, right, far, way⟩ := each place listed
    have present := way.isSome_piece named
    rw [tree.get?_erase_solid (solid place listed).1 (solid place listed).2, if_pos same] at present
    cases present
  have kept : location ++ [piece] ∉ gone := fun listed => met _ listed rfl
  refine ⟨fun place listed => ?_, by rw [lookups, if_neg kept]⟩
  rw [tree.get?_erase_solid (solid place listed).1 (solid place listed).2, if_neg (met place listed)]

/-- A walk that survives the removal of each of some entries survives that of all of them. -/
theorem Reaches.of_each {gone : List Location} (tree : before.IsTree)
    (solid : ∀ place ∈ gone, place ≠ [] ∧ before.isDirectoryAt place = false)
    (lookups : ∀ other, after.get? other = if other ∈ gone then none else before.get? other)
    (reached : Reaches before links location pieces left end_)
    (each : ∀ place ∈ gone, ∃ more right far,
      Reaches (before.erase place) more location pieces right far) :
    Reaches after links location pieces left end_ := by
  have stays {location : Location} (held : before.isDirectoryAt location = true) :
      after.isDirectoryAt location = true := by
    have kept : location ∉ gone := fun listed => by
      cases (solid location listed).2.symm.trans held
    rw [isDirectoryAt, lookups, if_neg kept]
    exact held
  induction reached with
  | here => exact .here _ _
  | idle inside nothing onward ih =>
      refine .idle (stays inside) nothing (ih fun place listed => ?_)
      obtain ⟨more, right, far, way⟩ := each place listed
      exact ⟨more, right, far, (way.of_idle nothing).2⟩
  | @up links left location end_ rest inside onward ih =>
      refine .up (stays inside) (ih fun place listed => ?_)
      obtain ⟨more, right, far, way⟩ := each place listed
      cases way with
      | idle _ nothing => simp at nothing
      | up _ onward => exact ⟨_, _, _, onward⟩
      | through _ named => exact absurd rfl named.2.2
      | into _ named => exact absurd rfl named.2.2
  | through inside named short found onward ih =>
      obtain ⟨erased, kept⟩ := get?_of_each tree solid lookups named each
      refine .through (stays inside) named short (kept.trans found) (ih fun place listed => ?_)
      obtain ⟨more, right, far, way⟩ := each place listed
      obtain ⟨fewer, onward⟩ := way.of_through named ((erased place listed).trans found)
      exact ⟨fewer, right, far, onward⟩
  | into inside named short found noLink onward ih =>
      obtain ⟨erased, kept⟩ := get?_of_each tree solid lookups named each
      refine .into (stays inside) named short (kept.trans found) noLink (ih fun place listed => ?_)
      obtain ⟨more, right, far, way⟩ := each place listed
      exact ⟨more, right, far, way.of_into named ((erased place listed).trans found) noLink⟩

/-- What leads to a file is still found when an entry is removed that does not lead there. -/
theorem Reaches.erase_stray {links left : Nat} (tree : disk.IsTree)
    (dead : disk.DeadEnd (home ++ [name])) (proper : Path.isName name = true)
    (reached : Reaches disk links location pieces left end_)
    (solid : disk.isDirectoryAt end_ = false) (within : links ≤ middle)
    (stray : ∀ more, ¬ Reaches disk middle home [name] more end_) :
    Reaches (disk.erase (home ++ [name])) links location pieces left end_ := by
  have some_ : home ++ [name] ≠ [] := by simp
  have stays {location : Location} (held : disk.isDirectoryAt location = true) :
      (disk.erase (home ++ [name])).isDirectoryAt location = true :=
    isDirectoryAt_erase tree some_ dead.solid held
  -- a walk that came over the entry would end where the entry leads
  have missed {links left : Nat} {location : Location} {piece : String}
      (found : Reaches disk links location [piece] left end_) (within : links ≤ middle) :
      location ++ [piece] ≠ home ++ [name] := by
    intro same
    obtain ⟨rfl, last⟩ := List.append_inj' same rfl
    obtain rfl := (List.cons.inj last).1
    have more := found.with_more (middle - links)
    rw [Nat.add_sub_cancel' within] at more
    exact stray _ more
  induction reached with
  | here => exact .here _ _
  | idle inside nothing onward ih => exact .idle (stays inside) nothing (ih solid within stray missed)
  | up inside onward ih => exact .up (stays inside) (ih solid within stray missed)
  | @through links left location end_ piece rest target inside named short found onward ih =>
      have aside : location ++ [piece] ≠ home ++ [name] := by
        intro same
        cases rest with
        | nil => exact missed (.through inside named short found onward) within same
        | cons next rest =>
            obtain ⟨rfl, last⟩ := List.append_inj' same rfl
            obtain rfl := (List.cons.inj last).1
            obtain ⟨_, at_, first, second⟩ := onward.split
            have opened : (location ++ [piece]).dropLast = location := List.dropLast_concat
            rw [← opened] at first
            cases (dead.stray target found _ _ _ first).symm.trans second.inside
      refine .through (stays inside) named short ?_
        (ih solid (Nat.le_of_succ_le within) stray missed)
      rw [tree.get?_erase_solid some_ dead.solid, if_neg aside, found]
  | @into links left location end_ piece rest node inside named short found noLink onward ih =>
      have aside : location ++ [piece] ≠ home ++ [name] := by
        intro same
        cases rest with
        | nil => exact missed (.into inside named short found noLink onward) within same
        | cons next rest =>
            rw [same] at onward
            cases dead.solid.symm.trans onward.inside
      refine .into (stays inside) named short ?_ noLink (ih solid within stray missed)
      rw [tree.get?_erase_solid some_ dead.solid, if_neg aside, found]

/-! ## Names that lead to files -/

theorem isFile_iff_reaches :
    disk.isFile path = true ↔ checkText path = .ok () ∧ ∃ left end_ identity mode bytes,
      Reaches disk greatestLinkCount (origin disk.workingDirectory path) (Path.pieces path) left
        end_ ∧ disk.get? end_ = some (.file identity mode bytes) := by
  rw [isFile_iff_readFile]
  simp only [readFile_eq_ok_iff, locate_eq_ok_iff]
  constructor
  · rintro ⟨bytes, end_, identity, mode, ⟨text, left, reached⟩, found⟩
    exact ⟨text, left, end_, identity, mode, bytes, reached, found⟩
  · rintro ⟨text, left, end_, identity, mode, bytes, reached, found⟩
    exact ⟨bytes, end_, identity, mode, ⟨text, left, reached⟩, found⟩

/-- An entry that is a file, or a link that leads to one. -/
def LeadsToFile (disk : Disk) (home : Location) (name : String) : Prop :=
  ∃ left end_ identity mode bytes, Reaches disk greatestLinkCount home [name] left end_ ∧
    disk.get? end_ = some (.file identity mode bytes)

/-- The path of the directory may use up links that the entry by itself does not. -/
theorem LeadsToFile.of_isFile_join (leads : disk.Leads directory home)
    (proper : Path.isName name = true) (file : disk.isFile (Path.join directory name) = true) :
    disk.LeadsToFile home name := by
  obtain ⟨-, left, end_, identity, mode, bytes, reached, found⟩ := isFile_iff_reaches.mp file
  rw [Path.pieces_join directory proper, origin_join _ _ proper] at reached
  obtain ⟨middle, there, first, second⟩ := reached.split
  obtain ⟨⟨_, way⟩, -⟩ := leads
  obtain rfl := first.eq_of_reaches way
  have more := second.with_more (greatestLinkCount - middle)
  rw [Nat.add_sub_cancel' first.left_le] at more
  exact ⟨_, end_, identity, mode, bytes, more, found⟩

/-- What leads to a file without any one of some entries leads there without all of them. -/
theorem isFile_of_each {gone : List Location} (tree : before.IsTree)
    (solid : ∀ place ∈ gone, place ≠ [] ∧ before.isDirectoryAt place = false)
    (lookups : ∀ other, after.get? other = if other ∈ gone then none else before.get? other)
    (base : after.workingDirectory = before.workingDirectory) (file : before.isFile path = true)
    (each : ∀ place ∈ gone, (before.erase place).isFile path = true) :
    after.isFile path = true := by
  obtain ⟨text, left, end_, identity, mode, bytes, reached, found⟩ := isFile_iff_reaches.mp file
  have single : ∀ place ∈ gone, end_ ≠ place ∧ ∃ more right far,
      Reaches (before.erase place) more (origin before.workingDirectory path) (Path.pieces path)
        right far := by
    intro place listed
    obtain ⟨-, right, far, i, m, b, way, there⟩ := isFile_iff_reaches.mp (each place listed)
    have old := get?_of_erase (solid place listed).1 there
    obtain rfl := (way.mono (.of_erase before (solid place listed).1) ⟨_, old, nofun⟩).unique reached
    refine ⟨?_, _, _, _, way⟩
    rintro rfl
    rw [get?_erase _ _ (solid far listed).1, if_pos (List.prefix_refl _)] at there
    cases there
  have kept : end_ ∉ gone := fun listed => (single end_ listed).1 rfl
  refine isFile_iff_reaches.mpr ⟨text, left, end_, identity, mode, bytes, ?_, ?_⟩
  · rw [base]
    exact reached.of_each tree solid lookups fun place listed => (single place listed).2
  · rw [lookups, if_neg kept, found]

/-- Names of one directory lead to files without an entry that leads to none itself. -/
theorem isFile_erase_stray (tree : disk.IsTree) (leads : disk.Leads directory home)
    (proper : Path.isName name = true) (otherProper : Path.isName other = true)
    (short : isTooLong other = false) (text : checkText (Path.join directory other) = .ok ())
    (dead : disk.DeadEnd (home ++ [other]))
    (file : disk.isFile (Path.join directory name) = true)
    (astray : disk.isFile (Path.join directory other) = false) :
    (disk.erase (home ++ [other])).isFile (Path.join directory name) = true := by
  have some_ : home ++ [other] ≠ [] := by simp
  obtain ⟨nameText, left, end_, identity, mode, bytes, reached, found⟩ := isFile_iff_reaches.mp file
  have solid : disk.isDirectoryAt end_ = false := by
    rw [isDirectoryAt, found]
    rfl
  rw [Path.pieces_join directory proper, origin_join _ _ proper] at reached
  obtain ⟨middle, there, first, second⟩ := reached.split
  obtain ⟨⟨_, way⟩, inside⟩ := leads
  obtain rfl := first.eq_of_reaches way
  have stray (more : Nat) : ¬ Reaches disk middle there [other] more end_ := by
    intro led
    have again : disk.isFile (Path.join directory other) = true := by
      refine isFile_iff_reaches.mpr ⟨text, more, end_, identity, mode, bytes, ?_, found⟩
      rw [Path.pieces_join directory otherProper, origin_join _ _ otherProper]
      exact first.append led
    cases astray.symm.trans again
  have aside : end_ ≠ there ++ [other] := by
    rintro rfl
    exact stray middle (.into inside ⟨Path.ne_empty otherProper, Path.ne_dot otherProper,
      Path.ne_dots otherProper⟩ short found (by simp) (.here _ _))
  refine isFile_iff_reaches.mpr ⟨nameText, left, end_, identity, mode, bytes, ?_, ?_⟩
  · rw [Path.pieces_join directory proper, origin_join _ _ proper]
    exact (first.erase_deadEnd tree some_ dead inside).append
      (second.erase_stray tree dead otherProper solid (Nat.le_refl _) stray)
  · rw [tree.get?_erase_solid some_ dead.solid, if_neg aside, found]

/-- A dead end stays one when entries are removed. -/
theorem DeadEnd.of_lookups (dead : before.DeadEnd place)
    (earlier : ∀ other node, after.get? other = some node → before.get? other = some node) :
    after.DeadEnd place := by
  have still {location : Location} (inside : after.isDirectoryAt location = true) :
      before.isDirectoryAt location = true := by
    obtain ⟨mode, found⟩ := isDirectoryAt_iff.mp inside
    exact isDirectoryAt_iff.mpr ⟨mode, earlier _ _ found⟩
  refine ⟨?_, fun target found links left far reached => ?_⟩
  · by_contra inside
    cases dead.solid.symm.trans (still (by simpa using inside))
  · by_contra inside
    have ways : KeepsWays after before := .of_lookups fun other node there _ => earlier other node there
    obtain ⟨mode, there⟩ := isDirectoryAt_iff.mp (show after.isDirectoryAt far = true by
      simpa using inside)
    have before_ := dead.stray target (earlier _ _ found) _ _ _
      (reached.mono ways ⟨_, earlier _ _ there, nofun⟩)
    cases before_.symm.trans (still (by simpa using inside))

end SelfUpdate.Disk
