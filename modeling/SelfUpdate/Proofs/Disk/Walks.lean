import SelfUpdate.Proofs.Disk.Entries
import SelfUpdate.Proofs.Text.Words

/-!
# Where paths lead

A path below a directory leads to the directory first. The way to the directory is walked in the same
manner whatever name follows, so all names below one directory lie at one place.
-/

namespace SelfUpdate

namespace Path

/-- The pieces of a directory's path that come before a name in it. -/
def stem (path : Path) : List String :=
  if path.isEmpty then []
  else if path.toList.getLast? = some '/' then (pieces path).dropLast
  else pieces path

section Join

variable {directory name : String}

theorem slash_not_mem (named : isName name = true) : '/' ∉ name.toList := by
  simp only [isName, Bool.and_eq_true, Bool.not_eq_true', List.contains_eq_mem,
    decide_eq_false_iff_not] at named
  exact named.2

theorem ne_dot (named : isName name = true) : name ≠ "." := by
  simp only [isName, Bool.and_eq_true, bne_iff_ne] at named
  exact named.1.1.2

theorem ne_dots (named : isName name = true) : name ≠ ".." := by
  simp only [isName, Bool.and_eq_true, bne_iff_ne] at named
  exact named.1.2

theorem ne_empty (named : isName name = true) : name ≠ "" := by
  simp only [isName, Bool.and_eq_true, Bool.not_eq_true', String.isEmpty_eq_false_iff] at named
  exact named.1.1.1

theorem isAbsolute_name (named : isName name = true) : isAbsolute name = false := by
  rw [isAbsolute, beq_eq_false_iff_ne]
  intro first
  exact slash_not_mem named (List.mem_of_mem_head? first)

theorem pieces_name (named : isName name = true) : pieces name = [name] := by
  simp [pieces, List.splitOn_eq_singleton (slash_not_mem named)]

theorem stem_name (named : isName name = true) : stem name = [name] := by
  have notEmpty : name.isEmpty = false := by
    rw [Bool.eq_false_iff, ne_eq, String.isEmpty_iff]
    exact ne_empty named
  rw [stem, notEmpty, if_neg (by decide), if_neg]
  · exact pieces_name named
  · intro ends
    exact slash_not_mem named (List.mem_of_getLast? ends)

theorem pieces_append_slash (front back : String) :
    pieces (front ++ "/" ++ back) = pieces front ++ pieces back := by
  have slash : "/".toList = ['/'] := rfl
  simp [pieces, slash, List.splitOn_append_cons_self]

theorem pieces_ne_nil (path : Path) : pieces path ≠ [] := by
  simp [pieces, List.splitOn_ne_nil]

/-- A path that ends in a slash is the path before it and that slash. -/
theorem eq_append_slash (ends : directory.toList.getLast? = some '/') :
    directory = String.ofList directory.toList.dropLast ++ "/" := by
  have named : directory.toList ≠ [] := by
    intro empty
    simp [empty] at ends
  have last : directory.toList.getLast named = '/' := by
    rw [List.getLast?_eq_some_getLast named] at ends
    exact Option.some.inj ends
  apply String.toList_inj.mp
  rw [String.toList_append, String.toList_ofList, ← List.dropLast_concat_getLast named, last]
  simp

theorem join_eq (directory : Path) (named : isName name = true) :
    join directory name =
      if directory.isEmpty ∨ directory.toList.getLast? = some '/' then directory ++ name
      else directory ++ "/" ++ name := by
  simp [join, isAbsolute_name named]

/-- A slash at the end leaves an empty last piece. -/
theorem pieces_of_slash (ends : directory.toList.getLast? = some '/') :
    pieces directory = pieces (String.ofList directory.toList.dropLast) ++ [""] := by
  conv => lhs; rw [eq_append_slash ends, ← String.append_empty (s := _ ++ "/"), pieces_append_slash]
  rfl

/-- Nothing but a slash can come after the stem. -/
theorem pieces_eq_stem (some_ : directory ≠ "") :
    pieces directory = stem directory ∨ pieces directory = stem directory ++ [""] := by
  have notEmpty : directory.isEmpty = false := by
    rwa [Bool.eq_false_iff, ne_eq, String.isEmpty_iff]
  rw [stem, notEmpty, if_neg (by decide)]
  split
  · rename_i ends
    rw [pieces_of_slash ends, List.dropLast_concat]
    exact .inr rfl
  · exact .inl rfl

theorem pieces_join (directory : Path) (named : isName name = true) :
    pieces (join directory name) = stem directory ++ [name] := by
  rw [join_eq directory named, stem]
  by_cases empty : directory.isEmpty
  · have nothing : directory = "" := String.isEmpty_iff.mp empty
    simp [nothing, pieces_name named]
  · by_cases ends : directory.toList.getLast? = some '/'
    · simp only [empty, ends, or_true, if_true, pieces_of_slash ends, List.dropLast_concat]
      conv => lhs; rw [eq_append_slash ends, pieces_append_slash, pieces_name named]
      rfl
    · simp [empty, ends, pieces_append_slash, pieces_name named]

theorem isAbsolute_append (front back : String) (some_ : front ≠ "") :
    isAbsolute (front ++ back) = isAbsolute front := by
  have named : front.toList ≠ [] := by
    intro nothing
    exact some_ (String.toList_inj.mp nothing)
  rw [isAbsolute, isAbsolute, String.toList_append, List.head?_append,
    List.head?_eq_some_head named]
  rfl

theorem isAbsolute_join (directory : Path) (named : isName name = true) :
    isAbsolute (join directory name) = isAbsolute directory := by
  rw [join_eq directory named]
  by_cases nothing : directory = ""
  · simp [nothing, isAbsolute_name named]
    rfl
  · split
    · exact isAbsolute_append _ _ nothing
    · rw [String.append_assoc, isAbsolute_append _ _ nothing]

/-- Different names stand for different paths. -/
theorem join_inj {other : String} (named : isName name = true) (otherNamed : isName other = true) :
    join directory name = join directory other ↔ name = other := by
  constructor
  · intro same
    have split_ := congrArg pieces same
    rw [pieces_join directory named, pieces_join directory otherNamed] at split_
    simpa using split_
  · rintro rfl
    rfl

theorem getLast?_join (directory : Path) (named : isName name = true) :
    (join directory name).toList.getLast? ≠ some '/' := by
  intro ends
  have present : name.toList ≠ [] := by
    intro nothing
    exact ne_empty named (String.toList_inj.mp nothing)
  have last : name.toList.getLast? = some '/' := by
    rw [join_eq directory named] at ends
    rw [List.getLast?_eq_some_getLast present]
    split at ends
    · rwa [String.toList_append, List.getLast?_append,
        List.getLast?_eq_some_getLast present, Option.some_or] at ends
    · rwa [String.toList_append, List.getLast?_append,
        List.getLast?_eq_some_getLast present, Option.some_or] at ends
  exact slash_not_mem named (List.mem_of_getLast? last)

end Join

/-- A piece is a name, or it is empty or made of dots. -/
theorem slash_not_mem_of_piece {path : Path} {piece : String} (member : piece ∈ pieces path) :
    '/' ∉ piece.toList := by
  obtain ⟨part, listed, rfl⟩ := List.mem_map.mp member
  intro slash
  rw [String.toList_ofList] at slash
  have differs := Text.not_mem_of_mem_splitOnP part listed _ slash
  simp at differs

theorem isName_of_piece {path : Path} {piece : String} (member : piece ∈ pieces path)
    (notEmpty : piece ≠ "") (noDot : piece ≠ ".") (noDots : piece ≠ "..") :
    isName piece = true := by
  simp [isName, notEmpty, noDot, noDots, slash_not_mem_of_piece member]

end Path

namespace Disk

variable {disk : Disk} {location other home : Location} {directory path : Path} {name : String}

/-! ## Walks as derivations -/

/-- Pieces lead from one location to another, and so many more links may be followed there. -/
inductive Reaches (disk : Disk) : Nat → Location → List String → Nat → Location → Prop where
  | here (links : Nat) (location : Location) : Reaches disk links location [] links location
  | idle {links left : Nat} {location reached : Location} {piece : String} {rest : List String}
      (inside : disk.isDirectoryAt location = true) (nothing : piece = "" ∨ piece = ".")
      (onward : Reaches disk links location rest left reached) :
      Reaches disk links location (piece :: rest) left reached
  | up {links left : Nat} {location reached : Location} {rest : List String}
      (inside : disk.isDirectoryAt location = true)
      (onward : Reaches disk links location.dropLast rest left reached) :
      Reaches disk links location (".." :: rest) left reached
  | through {links left : Nat} {location reached : Location} {piece : String}
      {rest : List String} {target : Path}
      (inside : disk.isDirectoryAt location = true) (named : piece ≠ "" ∧ piece ≠ "." ∧ piece ≠ "..")
      (short : isTooLong piece = false)
      (found : disk.get? (location ++ [piece]) = some (.link target))
      (onward : Reaches disk links (origin location target) (Path.pieces target ++ rest) left
        reached) :
      Reaches disk (links + 1) location (piece :: rest) left reached
  | into {links left : Nat} {location reached : Location} {piece : String} {rest : List String}
      {node : Node}
      (inside : disk.isDirectoryAt location = true) (named : piece ≠ "" ∧ piece ≠ "." ∧ piece ≠ "..")
      (short : isTooLong piece = false)
      (found : disk.get? (location ++ [piece]) = some node)
      (solid : ∀ target, node ≠ .link target)
      (onward : Reaches disk links (location ++ [piece]) rest left reached) :
      Reaches disk links location (piece :: rest) left reached

theorem Reaches.of_walk {links : Nat} {pieces : List String}
    (walked : disk.walk .target links location pieces = .ok (.occupied other)) :
    ∃ left, Reaches disk links location pieces left other := by
  fun_induction walk disk .target links location pieces with
  | case1 =>
      cases walked
      exact ⟨_, .here _ _⟩
  | case3 links location piece rest inside nothing ih =>
      obtain ⟨left, onward⟩ := ih walked
      exact ⟨left, .idle (by simpa using inside) nothing onward⟩
  | case4 links location rest inside _ ih =>
      obtain ⟨left, onward⟩ := ih walked
      exact ⟨left, .up (by simpa using inside) onward⟩
  | case11 location piece rest inside nothing notUp _ short target found _ links ih =>
      obtain ⟨left, onward⟩ := ih walked
      exact ⟨left, .through (by simpa using inside) (by simp_all) (by simpa using short) found
        onward⟩
  | case12 links location piece rest inside nothing notUp _ short node solid found ih =>
      obtain ⟨left, onward⟩ := ih walked
      exact ⟨left, .into (by simpa using inside) (by simp_all) (by simpa using short) found
        (fun target same => solid target same) onward⟩
  | case2 | case5 | case6 | case7 | case8 | case10 => cases walked
  | case9 _ _ _ _ _ _ _ _ _ _ _ last => simp at last

namespace Reaches

variable {links left middle : Nat} {before after : List String}

theorem append (first : Reaches disk links location before middle home)
    (second : Reaches disk middle home after left other) :
    Reaches disk links location (before ++ after) left other := by
  induction first with
  | here => exact second
  | idle inside nothing _ ih => exact .idle inside nothing (ih second)
  | up inside _ ih => exact .up inside (ih second)
  | through inside named short found _ ih =>
      exact .through inside named short found (by simpa using ih second)
  | into inside named short found solid _ ih => exact .into inside named short found solid (ih second)

/-- A walk over two parts passes the end of the first. -/
theorem split (whole : Reaches disk links location (before ++ after) left other) :
    ∃ middle home, Reaches disk links location before middle home ∧
      Reaches disk middle home after left other := by
  generalize joined : before ++ after = pieces at whole
  induction whole generalizing before with
  | here links location =>
      obtain ⟨rfl, rfl⟩ := List.append_eq_nil_iff.mp joined
      exact ⟨_, _, .here _ _, .here _ _⟩
  | idle inside nothing onward ih =>
      rcases List.append_eq_cons_iff.mp joined with ⟨rfl, rfl⟩ | ⟨more, rfl, rfl⟩
      · exact ⟨_, _, .here _ _, .idle inside nothing onward⟩
      · obtain ⟨middle, home, first, second⟩ := ih rfl
        exact ⟨middle, home, .idle inside nothing first, second⟩
  | up inside onward ih =>
      rcases List.append_eq_cons_iff.mp joined with ⟨rfl, rfl⟩ | ⟨more, rfl, rfl⟩
      · exact ⟨_, _, .here _ _, .up inside onward⟩
      · obtain ⟨middle, home, first, second⟩ := ih rfl
        exact ⟨middle, home, .up inside first, second⟩
  | through inside named short found onward ih =>
      rcases List.append_eq_cons_iff.mp joined with ⟨rfl, rfl⟩ | ⟨more, rfl, rfl⟩
      · exact ⟨_, _, .here _ _, .through inside named short found onward⟩
      · obtain ⟨middle, home, first, second⟩ := ih (List.append_assoc _ _ _)
        exact ⟨middle, home, .through inside named short found first, second⟩
  | into inside named short found solid onward ih =>
      rcases List.append_eq_cons_iff.mp joined with ⟨rfl, rfl⟩ | ⟨more, rfl, rfl⟩
      · exact ⟨_, _, .here _ _, .into inside named short found solid onward⟩
      · obtain ⟨middle, home, first, second⟩ := ih rfl
        exact ⟨middle, home, .into inside named short found solid first, second⟩

/-- A piece that names nothing leads nowhere else. -/
theorem of_idle {piece : String} {rest : List String} (nothing : piece = "" ∨ piece = ".")
    (reached : Reaches disk links location (piece :: rest) left other) :
    disk.isDirectoryAt location = true ∧ Reaches disk links location rest left other := by
  cases reached with
  | idle inside _ onward => exact ⟨inside, onward⟩
  | up => simp at nothing
  | through inside named => simp [named] at nothing
  | into inside named => simp [named] at nothing

/-- The name of a directory like all others leads into it. -/
theorem folder {piece : String} {rest : List String}
    (inside : disk.isDirectoryAt location = true) (named : piece ≠ "" ∧ piece ≠ "." ∧ piece ≠ "..")
    (short : isTooLong piece = false)
    (found : disk.get? (location ++ [piece]) = some (.directory directoryMode))
    (onward : Reaches disk links (location ++ [piece]) rest left other) :
    Reaches disk links location (piece :: rest) left other :=
  .into inside named short found nofun onward

/-- Behind a slash at the end there is a directory. -/
theorem isDirectoryAt_of_slash {pieces rest : List String}
    (reached : Reaches disk links location (pieces ++ rest) left other)
    (slash : endsInSlash rest = true) : disk.isDirectoryAt other = true := by
  rw [endsInSlash, Bool.and_eq_true, List.all_eq_true] at slash
  obtain ⟨some_, empty⟩ := slash
  obtain ⟨others, last, rfl⟩ := (List.eq_nil_or_concat rest).resolve_left (by simpa using some_)
  obtain rfl := String.isEmpty_iff.mp (empty last (by simp))
  rw [List.concat_eq_append, ← List.append_assoc] at reached
  obtain ⟨middle, home, -, onward⟩ := reached.split
  obtain ⟨inside, onward⟩ := onward.of_idle (.inl rfl)
  cases onward with
  | here => exact inside

/-- Where a derivation leads a walk leads too, unless a file is to be made where it finds a
directory. -/
theorem walk_of_follows {pieces : List String} {purpose : Purpose}
    (reached : Reaches disk links location pieces left other) (follows : purpose ≠ .entry)
    (fits : purpose = .creation → disk.isDirectoryAt other = false) :
    disk.walk purpose links location pieces = .ok (.occupied other) := by
  have slashes {links left : Nat} {start other : Location} {pieces rest : List String}
      (reached : Reaches disk links start (pieces ++ rest) left other)
      (fits : purpose = .creation → disk.isDirectoryAt other = false) :
      ¬ (decide (purpose = .creation) && endsInSlash rest) = true := by
    rw [Bool.and_eq_true, decide_eq_true_eq]
    rintro ⟨makes, slash⟩
    cases (fits makes).symm.trans (reached.isDirectoryAt_of_slash slash)
  induction reached with
  | here links location => rw [Disk.walk]
  | idle inside nothing onward ih =>
      rw [Disk.walk, if_neg (by simp [inside]), if_pos nothing, ih fits]
  | up inside onward ih =>
      rw [Disk.walk, if_neg (by simp [inside]), if_neg (by simp), if_pos rfl, ih fits]
  | through inside named short found onward ih =>
      rw [Disk.walk, if_neg (by simp [inside]), if_neg (by simp [named]), if_neg named.2.2,
        if_neg (slashes onward fits), if_neg (by simp [short])]
      simp [found, follows, ih fits]
  | @into links left location reached piece rest node inside named short found solid onward ih =>
      have behind : Reaches disk links (location ++ [piece]) ([] ++ rest) left reached := onward
      rw [Disk.walk, if_neg (by simp [inside]), if_neg (by simp [named]), if_neg named.2.2,
        if_neg (slashes behind fits), if_neg (by simp [short])]
      cases node with
      | directory mode => simp [found, ih fits]
      | file identity mode bytes => simp [found, ih fits]
      | link target => exact absurd rfl (solid target)

theorem walk {pieces : List String} (reached : Reaches disk links location pieces left other) :
    disk.walk .target links location pieces = .ok (.occupied other) :=
  reached.walk_of_follows (by decide) fun makes => absurd makes (by decide)

section

variable {piece : String} {rest : List String} {node : Node} {target : Path}

/-- A walk along a name passes an entry. -/
theorem isSome_piece (reached : Reaches disk links location (piece :: rest) left other)
    (named : piece ≠ "" ∧ piece ≠ "." ∧ piece ≠ "..") :
    (disk.get? (location ++ [piece])).isSome = true := by
  cases reached with
  | idle _ nothing => simp [named] at nothing
  | up => simp at named
  | through _ _ _ found | into _ _ _ found => exact Option.isSome_of_mem found

theorem of_through (reached : Reaches disk links location (piece :: rest) left other)
    (named : piece ≠ "" ∧ piece ≠ "." ∧ piece ≠ "..")
    (found : disk.get? (location ++ [piece]) = some (.link target)) :
    ∃ fewer, Reaches disk fewer (origin location target) (Path.pieces target ++ rest) left other := by
  cases reached with
  | idle _ nothing => simp [named] at nothing
  | up => simp at named
  | through _ _ _ again onward =>
      cases found.symm.trans again
      exact ⟨_, onward⟩
  | into _ _ _ again solid =>
      cases found.symm.trans again
      exact absurd rfl (solid target)

theorem of_into (reached : Reaches disk links location (piece :: rest) left other)
    (named : piece ≠ "" ∧ piece ≠ "." ∧ piece ≠ "..")
    (found : disk.get? (location ++ [piece]) = some node) (solid : ∀ target, node ≠ .link target) :
    Reaches disk links (location ++ [piece]) rest left other := by
  cases reached with
  | idle _ nothing => simp [named] at nothing
  | up => simp at named
  | through _ _ _ again =>
      cases found.symm.trans again
      exact absurd rfl (solid _)
  | into _ _ _ _ _ onward => exact onward

end

/-- Pieces are followed from a directory only. -/
theorem inside {piece : String} {rest : List String}
    (reached : Reaches disk links location (piece :: rest) left other) :
    disk.isDirectoryAt location = true := by
  cases reached <;> assumption

/-- A name is looked up in the directory that was reached before it. -/
theorem single (reached : Reaches disk links location [name] left other)
    (named : Path.isName name = true) :
    disk.isDirectoryAt location = true ∧ (disk.get? (location ++ [name])).isSome ∧
      ((∀ target, disk.get? (location ++ [name]) ≠ some (.link target)) →
        other = location ++ [name]) := by
  cases reached with
  | idle inside nothing onward =>
      rcases nothing with same | same
      · exact absurd same (Path.ne_empty named)
      · exact absurd same (Path.ne_dot named)
  | up inside onward => simp [Path.isName] at named
  | through inside _ short found onward =>
      exact ⟨inside, by simp [found], fun solid => absurd found (solid _)⟩
  | into inside _ short found solid onward =>
      cases onward
      exact ⟨inside, by simp [found], fun _ => rfl⟩

theorem eq_of_reaches {links : Nat} {pieces : List String} {left right : Nat}
    (first : Reaches disk links location pieces left home)
    (second : Reaches disk links location pieces right other) : home = other := by
  have same := first.walk.symm.trans second.walk
  simpa using same

end Reaches

theorem walk_eq_occupied_iff {links : Nat} {pieces : List String} :
    disk.walk .target links location pieces = .ok (.occupied other) ↔
      ∃ left, Reaches disk links location pieces left other :=
  ⟨Reaches.of_walk, fun ⟨_, reached⟩ => reached.walk⟩

/-! ## Walks on a changed disk -/

/-- All directories and links are still where they were. -/
structure KeepsWays (before after : Disk) : Prop where
  directory : ∀ location, before.isDirectoryAt location = true →
    after.isDirectoryAt location = true
  link : ∀ location target, before.get? location = some (.link target) →
    after.get? location = some (.link target)

namespace KeepsWays

variable {first second third : Disk}

theorem refl (disk : Disk) : KeepsWays disk disk := ⟨fun _ held => held, fun _ _ held => held⟩

theorem trans (early : KeepsWays first second) (late : KeepsWays second third) :
    KeepsWays first third :=
  ⟨fun location held => late.directory location (early.directory location held),
    fun location target held => late.link location target (early.link location target held)⟩

end KeepsWays

/-- What a walk passes are directories and links; only its end may be a file. -/
theorem Reaches.mono {after : Disk} {links left : Nat} {pieces : List String}
    (kept : KeepsWays disk after)
    (solid : ∃ node, after.get? other = some node ∧ ∀ target, node ≠ .link target)
    (reached : Reaches disk links location pieces left other) :
    Reaches after links location pieces left other := by
  induction reached with
  | here => exact .here _ _
  | idle inside nothing onward ih => exact .idle (kept.directory _ inside) nothing (ih solid)
  | up inside onward ih => exact .up (kept.directory _ inside) (ih solid)
  | through inside named short found onward ih =>
      exact .through (kept.directory _ inside) named short (kept.link _ _ found) (ih solid)
  | @into links left location reached piece rest node inside named short found solid_ onward ih =>
      obtain ⟨there, arrived, noLink⟩ : ∃ node, after.get? (location ++ [piece]) = some node ∧
          ∀ target, node ≠ .link target := by
        by_cases directory : disk.isDirectoryAt (location ++ [piece]) = true
        · obtain ⟨mode, held⟩ := isDirectoryAt_iff.mp (kept.directory _ directory)
          exact ⟨_, held, fun _ same => by cases same⟩
        · -- nothing is walked below a file, so the walk ends here
          cases onward with
          | here => exact solid
          | idle inside_ => exact absurd inside_ directory
          | up inside_ => exact absurd inside_ directory
          | through inside_ => exact absurd inside_ directory
          | into inside_ => exact absurd inside_ directory
      exact .into (kept.directory _ inside) named short arrived noLink (ih solid)

/-! ## The place of a directory -/

/-- The path of a directory leads to the directory at a location. -/
def Leads (disk : Disk) (directory : Path) (home : Location) : Prop :=
  (∃ left, Reaches disk greatestLinkCount (origin disk.workingDirectory directory)
    (Path.stem directory) left home) ∧ disk.isDirectoryAt home = true

namespace Leads

/-- A name leads into the working directory. -/
theorem of_name (named : Path.isName name = true) (short : isTooLong name = false)
    (base : disk.isDirectoryAt disk.workingDirectory = true)
    (inside : disk.isDirectoryAt (disk.workingDirectory ++ [name]) = true) :
    disk.Leads name (disk.workingDirectory ++ [name]) := by
  obtain ⟨mode, found⟩ := isDirectoryAt_iff.mp inside
  refine ⟨⟨greatestLinkCount, ?_⟩, inside⟩
  rw [Path.stem_name named, origin, Path.isAbsolute_name named]
  exact .into base ⟨Path.ne_empty named, Path.ne_dot named, Path.ne_dots named⟩ short found nofun
    (.here _ _)

theorem eq (first : disk.Leads directory home) (second : disk.Leads directory other) :
    home = other := by
  obtain ⟨⟨_, reached⟩, _⟩ := first
  obtain ⟨⟨_, again⟩, _⟩ := second
  exact reached.eq_of_reaches again

theorem mono {after : Disk} (leads : disk.Leads directory home) (kept : KeepsWays disk after)
    (same : after.workingDirectory = disk.workingDirectory) : after.Leads directory home := by
  obtain ⟨⟨left, reached⟩, inside⟩ := leads
  have still := kept.directory home inside
  obtain ⟨mode, held⟩ := isDirectoryAt_iff.mp still
  refine ⟨⟨left, ?_⟩, still⟩
  rw [same]
  exact reached.mono kept ⟨_, held, fun _ same => by cases same⟩

end Leads

theorem origin_join (base : Location) (directory : Path) (named : Path.isName name = true) :
    origin base (Path.join directory name) = origin base directory := by
  simp [origin, Path.isAbsolute_join directory named]

end Disk

end SelfUpdate
