import SelfUpdate.Proofs.Disk.Lengths

/-!
# The parent of a path

The parent of a path that ends in a name is what comes before the name, without what is idle at its
end. So it leads to the directory in which the name is looked up.
-/

namespace SelfUpdate

namespace Path

variable {path parent name other : String}

theorem eq_intercalate_body (path : Path) :
    path = (if isAbsolute path then "/" else "") ++ "/".intercalate (body path) := by
  have whole := intercalate_pieces path
  rw [body]
  split
  · rename_i absolute
    obtain ⟨next, rest, begins⟩ := isAbsolute_iff.mp absolute
    rw [begins, String.intercalate_cons_cons, String.empty_append] at whole
    rw [begins, List.tail_cons, whole]
  · rw [whole, String.empty_append]

theorem ne_empty_of_dropIdle {absolute : Bool} {reversed before : List String} {last : String}
    (trimmed : dropIdle absolute reversed = last :: before) : last ≠ "" := by
  induction reversed with
  | nil => cases trimmed
  | cons piece earlier ih =>
      rw [dropIdle] at trimmed
      split at trimmed
      · exact ih trimmed
      · rename_i proper
        obtain ⟨rfl, -⟩ := List.cons.inj trimmed
        rintro rfl
        exact proper rfl

/-- What is dropped names nothing. -/
theorem dropIdle_split (absolute : Bool) (reversed : List String) :
    ∃ idle, reversed = idle ++ dropIdle absolute reversed ∧
      ∀ piece ∈ idle, piece = "" ∨ piece = "." := by
  induction reversed with
  | nil => exact ⟨[], rfl, fun _ listed => absurd listed List.not_mem_nil⟩
  | cons piece before ih =>
      rw [dropIdle]
      split
      · rename_i nothing
        obtain ⟨idle, whole, dropped⟩ := ih
        have idles : piece = "" ∨ piece = "." := by
          simp only [isIdle, Bool.or_eq_true, Bool.and_eq_true, String.isEmpty_iff, beq_iff_eq]
            at nothing
          exact nothing.imp_right And.left
        exact ⟨piece :: idle, congrArg (piece :: ·) whole, List.forall_mem_cons.mpr ⟨idles, dropped⟩⟩
      · exact ⟨[], rfl, fun _ listed => absurd listed List.not_mem_nil⟩

/-- A path begins with its parent. -/
theorem parent_append (above : parent? path = some parent) :
    ∃ rest, rest ≠ "" ∧ path = parent ++ rest := by
  rw [parent?] at above
  split at above
  · cases above
  · rename_i last before trimmed
    have some_ := ne_empty_of_dropIdle trimmed
    obtain ⟨early, keeps⟩ := dropIdle_suffix (isAbsolute path) before
    obtain ⟨idle, whole⟩ := dropIdle_suffix (isAbsolute path) (body path).reverse
    -- the body is what the parent keeps, and more with the last component in it
    generalize dropIdle (isAbsolute path) before = kept at keeps above
    rw [trimmed, ← keeps] at whole
    let more := early.reverse ++ last :: idle.reverse
    have parts : body path = kept.reverse ++ more := by
      rw [← List.reverse_reverse (body path), ← whole]
      simp [more]
    have moreSome : "/".intercalate more ≠ "" := by
      intro empty
      obtain ⟨c, first⟩ := List.exists_mem_of_ne_nil last.toList
        (mt (fun none => String.toList_inj.mp none) some_)
      have listed := mem_intercalate (by simp [more] : last ∈ more) first
      rw [empty] at listed
      cases listed
    have text := eq_intercalate_body path
    obtain rfl : ofReversed (isAbsolute path) kept = parent := Option.some.inj above
    rw [ofReversed]
    cases begins : kept.reverse with
    | nil =>
        rw [parts, begins, List.nil_append] at text
        exact ⟨_, moreSome, by simpa using text⟩
    | cons piece rest =>
        rw [parts, begins, String.intercalate_append_of_ne_nil (by simp) (by simp [more])] at text
        refine ⟨"/" ++ "/".intercalate more, by simp, text.trans ?_⟩
        simp only [String.append_assoc]

/-- A parent is shorter. -/
theorem length_parent (above : parent? path = some parent) : parent.length < path.length := by
  obtain ⟨rest, some_, rfl⟩ := parent_append above
  have longer : rest.length ≠ 0 := by simpa using some_
  rw [String.length_append]
  omega

/-- Only a relative path has an empty parent. -/
theorem isAbsolute_of_parent {path parent : Path} (above : parent? path = some parent)
    (empty : parent = "") : isAbsolute path = false := by
  cases absolute : isAbsolute path with
  | false => rfl
  | true =>
      rw [parent?, absolute] at above
      split at above
      · cases above
      · have text := (Option.some.inj above).trans empty
        have short := congrArg (fun text => text.toList.length) text
        simp [ofReversed] at short

/-- The pieces of a directory's path that come after its leading slash and before a name in it. -/
def trunk (directory : Path) : List String :=
  if isAbsolute directory then (stem directory).tail else stem directory

/-- An absolute path has an empty piece before its trunk. -/
theorem stem_of_absolute {directory : Path} (absolute : isAbsolute directory = true) :
    stem directory = "" :: trunk directory := by
  obtain ⟨next, rest, begins⟩ := isAbsolute_iff.mp absolute
  have some_ : directory.isEmpty = false := by
    rw [Bool.eq_false_iff, ne_eq, String.isEmpty_iff]
    rintro rfl
    cases absolute
  have starts : ∃ more, stem directory = "" :: more := by
    rw [stem, some_, if_neg (by decide), begins]
    split
    · exact ⟨_, List.dropLast_cons_cons⟩
    · exact ⟨_, rfl⟩
  obtain ⟨more, early⟩ := starts
  rw [trunk, if_pos absolute, early, List.tail_cons]

theorem body_join (directory : Path) (named : isName name = true) :
    body (join directory name) = trunk directory ++ [name] := by
  rw [body, isAbsolute_join directory named, pieces_join directory named]
  split
  · rename_i absolute
    rw [stem_of_absolute absolute, List.cons_append, List.tail_cons]
  · rename_i relative
    rw [trunk, if_neg relative]

/-- The parent of a name is the directory without what is idle at its end. -/
theorem parent?_join (directory : Path) (named : isName name = true) :
    parent? (join directory name) = some (ofReversed (isAbsolute directory)
      (dropIdle (isAbsolute directory) (trunk directory).reverse)) := by
  rw [parent?, isAbsolute_join directory named, body_join directory named, List.reverse_concat,
    dropIdle_name _ named]

/-- All names in a directory have the same parent. -/
theorem parent?_join_congr (directory : Path) (named : isName name = true)
    (otherNamed : isName other = true) :
    parent? (join directory name) = parent? (join directory other) := by
  rw [parent?_join directory named, parent?_join directory otherNamed]

/-- A relative path of which nothing is left had nothing but idle pieces. -/
theorem dropIdle_eq_nil_of_empty {reversed : List String} {absolute : Bool}
    (plain : ∀ piece ∈ reversed, '/' ∉ piece.toList)
    (empty : ofReversed absolute (dropIdle absolute reversed) = "") :
    absolute = false ∧ dropIdle absolute reversed = [] := by
  cases absolute with
  | true =>
      have some_ := congrArg String.toList empty
      rw [ofReversed, if_pos rfl, String.toList_append] at some_
      cases some_
  | false =>
      refine ⟨rfl, ?_⟩
      cases trimmed : dropIdle false reversed with
      | nil => rfl
      | cons last before =>
          -- the last piece would be an empty one
          have inside : last :: before ⊆ reversed :=
            trimmed ▸ (dropIdle_suffix false reversed).subset
          have all : pieces ("/".intercalate (last :: before).reverse) = (last :: before).reverse :=
            pieces_intercalate (by simp) fun piece listed =>
              plain piece (inside (List.mem_reverse.mp listed))
          rw [trimmed, ofReversed, if_neg (by decide), String.empty_append] at empty
          rw [empty] at all
          have single : last :: before = [""] := by
            rw [← List.reverse_reverse (last :: before), ← all]
            rfl
          exact absurd (List.cons.inj single).1 (ne_empty_of_dropIdle trimmed)

end Path

namespace Disk

variable {disk : Disk} {directory path parent : Path} {home location end_ : Location} {name : String}

theorem checkText_parent (above : Path.parent? path = some parent) (some_ : parent ≠ "")
    (text : checkText path = .ok ()) : checkText parent = .ok () := by
  obtain ⟨rest, -, rfl⟩ := Path.parent_append above
  obtain ⟨nul, -, length⟩ := checkText_eq_ok_iff.mp text
  rw [String.toList_append, List.mem_append, not_or] at nul
  rw [String.utf8ByteSize_append] at length
  exact checkText_eq_ok_iff.mpr ⟨nul.1, some_, by omega⟩

/-- Pieces that name nothing lead nowhere else. -/
theorem Reaches.of_idles {links left : Nat} {pieces : List String}
    (reached : Reaches disk links location pieces left end_)
    (idle : ∀ piece ∈ pieces, piece = "" ∨ piece = ".") : end_ = location := by
  induction pieces with
  | nil =>
      cases reached
      rfl
  | cons piece rest ih =>
      rw [List.forall_mem_cons] at idle
      exact ih (reached.of_idle idle.1).2 idle.2

/-- What is idle at the end of a directory's path is not needed to get there. -/
theorem Leads.kept (leads : disk.Leads directory home) :
    ∃ left, Reaches disk greatestLinkCount (origin disk.workingDirectory directory)
      (Path.dropIdle (Path.isAbsolute directory) (Path.trunk directory).reverse).reverse left
      home := by
  obtain ⟨⟨left, reached⟩, -⟩ := leads
  have after : Reaches disk greatestLinkCount (origin disk.workingDirectory directory)
      (Path.trunk directory) left home := by
    cases absolute : Path.isAbsolute directory with
    | true =>
        rw [Path.stem_of_absolute absolute] at reached
        exact (reached.of_idle (.inl rfl)).2
    | false => rwa [Path.trunk, absolute, if_neg (by decide)]
  obtain ⟨idle, whole, dropped⟩ :=
    Path.dropIdle_split (Path.isAbsolute directory) (Path.trunk directory).reverse
  have parts := congrArg List.reverse whole
  rw [List.reverse_reverse, List.reverse_append] at parts
  rw [parts] at after
  obtain ⟨middle, at_, first, second⟩ := after.split
  obtain rfl := second.of_idles fun piece listed => dropped piece (List.mem_reverse.mp listed)
  exact ⟨middle, first⟩

/-- A name that stands alone is looked up in the working directory. -/
theorem Leads.eq_of_parent_empty (leads : disk.Leads directory home)
    (named : Path.isName name = true) (above : Path.parent? (Path.join directory name) = some "") :
    home = disk.workingDirectory := by
  obtain ⟨left, reached⟩ := leads.kept
  rw [Path.parent?_join directory named, Option.some.injEq] at above
  have plain : ∀ piece ∈ (Path.trunk directory).reverse, '/' ∉ piece.toList := fun piece listed =>
    Path.slash_not_mem_of_piece (Path.body_subset _ (by
      rw [Path.body_join directory named]
      exact List.mem_append_left _ (List.mem_reverse.mp listed)))
  obtain ⟨relative, nothing⟩ := Path.dropIdle_eq_nil_of_empty plain above
  rw [nothing, origin, if_neg (by simp [relative])] at reached
  cases reached
  rfl

/-- The parent of a name leads to the directory in which the name is looked up. -/
theorem Leads.locate_parent (leads : disk.Leads directory home) (named : Path.isName name = true)
    (above : Path.parent? (Path.join directory name) = some parent) (some_ : parent ≠ "")
    (text : checkText (Path.join directory name) = .ok ()) : disk.locate parent = .ok home := by
  obtain ⟨left, reached⟩ := leads.kept
  have made := above
  rw [Path.parent?_join directory named, Option.some.injEq] at made
  generalize kept_ : (Path.dropIdle (Path.isAbsolute directory) (Path.trunk directory).reverse).reverse
    = kept at reached
  have inside : kept <+: Path.body (Path.join directory name) := by
    have early : kept <+: Path.trunk directory := by
      rw [← kept_, ← List.reverse_suffix, List.reverse_reverse]
      exact Path.dropIdle_suffix _ _
    rw [Path.body_join directory named]
    exact early.trans (List.prefix_append _ _)
  have same : parent = Path.ofReversed (Path.isAbsolute (Path.join directory name)) kept.reverse := by
    rw [Path.isAbsolute_join directory named, ← kept_, List.reverse_reverse, made]
  obtain ⟨begins, body⟩ := Path.body_ofReversed inside same some_
  rw [Path.isAbsolute_join directory named] at begins
  have way : Reaches disk greatestLinkCount (origin disk.workingDirectory directory)
      (Path.body parent) left home := by
    rcases body with body | ⟨rfl, body⟩
    · rwa [body]
    · rw [body]
      cases reached
      exact .idle leads.2 (.inl rfl) (.here _ _)
  refine locate_eq_ok_iff.mpr ⟨checkText_parent above some_ text, left, ?_⟩
  rw [origin, begins, ← origin]
  cases absolute : Path.isAbsolute parent with
  | true =>
      obtain ⟨next, rest, pieces⟩ := Path.isAbsolute_iff.mp absolute
      have start : origin disk.workingDirectory directory = [] := by
        rw [origin, ← begins, if_pos absolute]
      rw [Path.body, if_pos absolute, pieces, List.tail_cons] at way
      rw [pieces]
      rw [start] at way ⊢
      exact .idle rfl (.inl rfl) way
  | false => rwa [Path.body, absolute, if_neg (by decide)] at way

end Disk

end SelfUpdate
