import SelfUpdate.Proofs.Computation
import SelfUpdate.Proofs.Disk.Walks

/-!
# What operations do to the entries

Every operation that succeeds makes one elementary change, at the location that its path names. For
a name in a directory to which a path leads, the outcome is known from the entry alone.
-/

namespace SelfUpdate.Disk

variable {disk after : Disk} {location home : Location} {directory path : Path} {name : String}

/-! ## Places -/

theorem checkText_eq_ok_iff :
    checkText path = .ok () ↔
      '\x00' ∉ path.toList ∧ path ≠ "" ∧ path.utf8ByteSize ≤ greatestPathLength := by
  simp only [checkText, checkNul, List.contains_eq_mem, decide_eq_true_eq]
  by_cases nul : '\x00' ∈ path.toList
  · simp [nul]
  · by_cases empty : path = ""
    · simp [empty]
    · by_cases long : path.utf8ByteSize > greatestPathLength
      · simp [nul, empty, long]
      · simp [nul, empty, long, Nat.not_lt.mp long]

/-- A directory with a legal name in it has a legal path, unless that is empty. -/
theorem checkText_directory (named : Path.isName name = true) (some_ : directory ≠ "")
    (text : checkText (Path.join directory name) = .ok ()) : checkText directory = .ok () := by
  rw [Path.join_eq directory named, checkText_eq_ok_iff] at text
  obtain ⟨nul, -, length⟩ := text
  refine checkText_eq_ok_iff.mpr ⟨?_, some_, ?_⟩
  · intro member
    split at nul <;> exact nul (by simp [String.toList_append, member])
  · split at length
    · rw [String.utf8ByteSize_append] at length
      omega
    · rw [String.utf8ByteSize_append, String.utf8ByteSize_append] at length
      omega

/-- What a path leads to is known from its text and its pieces. -/
theorem locate_eq_ok_iff :
    disk.locate path = .ok location ↔
      checkText path = .ok () ∧ ∃ left, Reaches disk greatestLinkCount
        (origin disk.workingDirectory path) (Path.pieces path) left location := by
  rw [← walk_eq_occupied_iff, locate, Disk.spot]
  cases checkText path with
  | error error => simp
  | ok _ =>
      cases disk.walk .target greatestLinkCount (origin disk.workingDirectory path)
          (Path.pieces path) with
      | error error => simp
      | ok spot => cases spot <;> simp

/-- A name below the path of a directory has its place in that directory. -/
theorem place_join_eq_ok_iff {spot : Place} (named : Path.isName name = true) :
    disk.place (Path.join directory name) = .ok spot ↔
      checkText (Path.join directory name) = .ok () ∧
        ∃ home, disk.Leads directory home ∧ spot = ⟨home, .name name, false⟩ := by
  have pieces : (Path.pieces (Path.join directory name)).reverse.dropWhile String.isEmpty =
      name :: (Path.stem directory).reverse := by
    rw [Path.pieces_join directory named, List.reverse_concat, List.dropWhile_cons_of_neg]
    simpa using Path.ne_empty named
  have unslashed : ((Path.join directory name).toList.getLast? == some '/') = false := by
    simpa using Path.getLast?_join directory named
  rw [place, pieces, unslashed, origin_join _ _ named]
  simp only [Leads, ← walk_eq_occupied_iff, List.reverse_reverse]
  cases checkText (Path.join directory name) with
  | error error => simp
  | ok _ =>
      cases walked : disk.walk .target greatestLinkCount (origin disk.workingDirectory directory)
          (Path.stem directory) with
      | error error => simp
      | ok spot =>
          cases spot with
          | vacant at_ name => simp
          | occupied at_ =>
              cases inside : disk.isDirectoryAt at_ with
              | false => simp [inside]
              | true =>
                  simp only [ok_bind, inside, Bool.not_true, Bool.false_eq_true, if_false,
                    Path.ne_dot named, Path.ne_dots named, or_self, pure_eq_ok, Except.ok.injEq,
                    Spot.occupied.injEq, true_and]
                  constructor
                  · rintro rfl
                    exact ⟨at_, ⟨rfl, inside⟩, rfl⟩
                  · rintro ⟨_, ⟨rfl, _⟩, rfl⟩
                    rfl

/-- A path gives a place to the entry at a location, whether or not it is there. -/
def Names (disk : Disk) (path : Path) (location : Location) : Prop :=
  ∃ spot text, disk.place path = .ok spot ∧ spot.last = .name text ∧ isTooLong text = false ∧
    location = spot.directory ++ [text]

theorem Names.ne_nil (names : disk.Names path location) : location ≠ [] := by
  obtain ⟨spot, text, -, -, -, rfl⟩ := names
  simp

theorem Names.join (names : disk.Names (Path.join directory name) location)
    (named : Path.isName name = true) :
    ∃ home, disk.Leads directory home ∧ checkText (Path.join directory name) = .ok () ∧
      isTooLong name = false ∧ location = home ++ [name] := by
  obtain ⟨spot, text, placed, last, short, rfl⟩ := names
  obtain ⟨checked, home, leads, rfl⟩ := (place_join_eq_ok_iff named).mp placed
  cases last
  exact ⟨home, leads, checked, short, rfl⟩

theorem Names.checkText (names : disk.Names path location) : checkText path = .ok () := by
  obtain ⟨spot, text, placed, -, -, -⟩ := names
  rw [place] at placed
  obtain ⟨_, legal, -⟩ := bind_eq_ok_iff.mp placed
  exact legal

theorem Names.short (names : disk.Names path (home ++ [name])) : isTooLong name = false := by
  obtain ⟨spot, text, -, -, short, same⟩ := names
  obtain ⟨-, last⟩ := List.append_inj' same rfl
  cases last
  exact short

/-- The last piece that is not empty. -/
theorem reverse_dropWhile_eq {pieces before : List String} {last : String}
    (trimmed : pieces.reverse.dropWhile String.isEmpty = last :: before) :
    last ≠ "" ∧ ∃ after, pieces = before.reverse ++ last :: after ∧
      ∀ piece ∈ after, piece = "" := by
  have parts := List.takeWhile_append_dropWhile (p := String.isEmpty) (l := pieces.reverse)
  have head := List.head?_dropWhile_not String.isEmpty pieces.reverse
  rw [trimmed] at parts head
  refine ⟨?_, (pieces.reverse.takeWhile String.isEmpty).reverse, ?_, ?_⟩
  · rintro rfl
    simp at head
  · simpa using (congrArg List.reverse parts).symm
  · intro piece listed
    exact String.isEmpty_iff.mp
      (List.all_eq_true.mp List.all_takeWhile _ (List.mem_reverse.mp listed))

/-- How a path gives a place: what comes before the last name leads to its directory, and nothing
but slashes comes after. -/
theorem Names.reaches (names : disk.Names path location) :
    ∃ home name before after, location = home ++ [name] ∧ Path.isName name = true ∧
      disk.isDirectoryAt home = true ∧ Path.pieces path = before ++ name :: after ∧
      (∀ piece ∈ after, piece = "") ∧
      ∃ left, Reaches disk greatestLinkCount (origin disk.workingDirectory path) before left
        home := by
  obtain ⟨spot, text, placed, last, -, rfl⟩ := names
  rw [Disk.place] at placed
  obtain ⟨_, -, placed⟩ := bind_eq_ok_iff.mp placed
  split at placed
  · cases placed
    cases last
  · rename_i final earlier trimmed
    obtain ⟨some_, after, pieces, empty⟩ := reverse_dropWhile_eq trimmed
    have member : final ∈ Path.pieces path := by
      rw [pieces]
      simp
    obtain ⟨walked, reached, placed⟩ := bind_eq_ok_iff.mp placed
    cases walked with
    | vacant at_ name => cases placed
    | occupied at_ =>
        cases inside : disk.isDirectoryAt at_ with
        | false => simp [inside] at placed
        | true =>
            simp only [inside, Bool.not_true, Bool.false_eq_true, if_false] at placed
            split at placed
            · cases placed
              cases last
            · rename_i proper
              rw [not_or] at proper
              cases placed
              cases last
              exact ⟨at_, text, _, _, rfl, Path.isName_of_piece member some_ proper.1 proper.2,
                inside, pieces, empty, walk_eq_occupied_iff.mp reached⟩

/-- The directory of a place is there. -/
theorem Names.isDirectoryAt (names : disk.Names path location) :
    disk.isDirectoryAt location.dropLast = true := by
  obtain ⟨home, name, -, -, rfl, -, inside, -⟩ := names.reaches
  rwa [List.dropLast_concat]

theorem locate_place_eq_ok_iff {spot : Place} {unnamed : IoError} :
    spot.locate unnamed = .ok location ↔
      ∃ text, spot.last = .name text ∧ isTooLong text = false ∧
        location = spot.directory ++ [text] := by
  rw [Place.locate]
  cases spot.last with
  | root => simp
  | dots => simp
  | name text =>
      cases long : isTooLong text with
      | true => simp [long]
      | false =>
          simp only [long, Bool.false_eq_true, if_false, Except.ok.injEq, Last.name.injEq]
          constructor
          · rintro rfl
            exact ⟨text, rfl, long, rfl⟩
          · rintro ⟨_, rfl, _, rfl⟩
            rfl

/-! ## Removing -/

theorem removeFile_eq_ok (done : disk.removeFile path = .ok after) :
    ∃ location node, disk.Names path location ∧ disk.get? location = some node ∧
      node.isDirectory = false ∧ after = disk.erase location := by
  rw [removeFile] at done
  obtain ⟨spot, placed, done⟩ := bind_eq_ok_iff.mp done
  obtain ⟨location, located, done⟩ := bind_eq_ok_iff.mp done
  obtain ⟨text, last, short, rfl⟩ := locate_place_eq_ok_iff.mp located
  cases found : disk.get? (spot.directory ++ [text]) with
  | none => simp [found] at done
  | some node =>
      cases folder : node.isDirectory with
      | true =>
          simp only [found, folder, if_true] at done
          split at done <;> [skip; split at done] <;> cases done
      | false =>
          simp only [found, folder] at done
          split at done <;> [skip; split at done] <;> cases done
          exact ⟨_, node, ⟨spot, text, placed, last, short, rfl⟩, found, folder, rfl⟩

/-- Removing what is at a name of a directory. -/
theorem removeFile_join (named : Path.isName name = true) (short : isTooLong name = false)
    (text : checkText (Path.join directory name) = .ok ())
    (leads : disk.Leads directory home) :
    disk.removeFile (Path.join directory name) =
      match disk.get? (home ++ [name]) with
      | none => .error .notFound
      | some node =>
        if disk.isSealed home then .error .permissionDenied
        else if node.isDirectory then .error .isADirectory
        else .ok (disk.erase (home ++ [name])) := by
  have placed := (place_join_eq_ok_iff named).mpr ⟨text, home, leads, rfl⟩
  rw [removeFile, placed, ok_bind, Place.locate]
  simp only [short, Bool.false_eq_true, if_false, ok_bind]
  cases disk.get? (home ++ [name]) with
  | none => rfl
  | some node =>
      simp only []
      split
      · rfl
      · split <;> rfl

/-! ## Making files -/

theorem createNew_eq_ok {handle : Handle} (done : disk.createNew path = .ok (handle, after)) :
    ∃ location, disk.Names path location ∧ disk.get? location = none ∧
      handle = ⟨disk.freshIdentity, 0⟩ ∧ after = disk.putNewFile location fileMode [] := by
  rw [createNew] at done
  obtain ⟨spot, placed, done⟩ := bind_eq_ok_iff.mp done
  cases slash : spot.slash with
  | true => simp [slash] at done
  | false =>
      simp only [slash, Bool.false_eq_true, if_false] at done
      obtain ⟨location, located, done⟩ := bind_eq_ok_iff.mp done
      obtain ⟨text, last, short, rfl⟩ := locate_place_eq_ok_iff.mp located
      cases found : disk.get? (spot.directory ++ [text]) with
      | some node => simp [found] at done
      | none =>
          cases locked : disk.isSealed spot.directory with
          | true => simp [found, locked] at done
          | false =>
              simp only [found, locked, Option.isSome_none, Bool.false_eq_true, if_false,
                pure_eq_ok, Except.ok.injEq, Prod.mk.injEq] at done
              exact ⟨_, ⟨spot, text, placed, last, short, rfl⟩, found, done.1.symm, done.2.symm⟩

/-- Making a file at a name of a directory. -/
theorem createNew_join (named : Path.isName name = true) (short : isTooLong name = false)
    (text : checkText (Path.join directory name) = .ok ())
    (leads : disk.Leads directory home) (vacant : disk.get? (home ++ [name]) = none) :
    disk.createNew (Path.join directory name) =
      if disk.isSealed home then .error .permissionDenied
      else .ok (⟨disk.freshIdentity, 0⟩, disk.putNewFile (home ++ [name]) fileMode []) := by
  have placed := (place_join_eq_ok_iff named).mpr ⟨text, home, leads, rfl⟩
  rw [createNew, placed, ok_bind, Place.locate]
  simp only [short, vacant, Bool.false_eq_true, if_false, ok_bind, Option.isSome_none]
  cases disk.isSealed home <;> rfl

/-! ## Renaming -/

theorem renameFrom_eq_ok {source : Location} (done : disk.renameFrom source path = .ok after) :
    ∃ target node, disk.Names path target ∧ disk.get? source = some node ∧
      (source = target ∧ after = disk ∨
        ¬ source <+: target ∧ ¬ target <+: source ∧ disk.replaceError? node target = none ∧
          after = (disk.erase target).move source target) := by
  rw [renameFrom] at done
  obtain ⟨spot, placed, done⟩ := bind_eq_ok_iff.mp done
  obtain ⟨target, located, done⟩ := bind_eq_ok_iff.mp done
  obtain ⟨text, last, short, rfl⟩ := locate_place_eq_ok_iff.mp located
  cases found : disk.get? source with
  | none => simp [found] at done
  | some node =>
      refine ⟨_, node, ⟨spot, text, placed, last, short, rfl⟩, rfl, ?_⟩
      by_cases slashed : (spot.slash && !node.isDirectory) = true
      · simp [found, slashed] at done
      by_cases same : source = spot.directory ++ [text]
      · simp only [found, if_neg slashed, if_pos same] at done
        cases done
        exact .inl ⟨same, rfl⟩
      by_cases inside : source.isPrefixOf (spot.directory ++ [text]) = true
      · simp [found, slashed, same, inside] at done
      by_cases around : (spot.directory ++ [text]).isPrefixOf source = true
      · simp [found, slashed, same, inside, around] at done
      by_cases locked : (disk.isSealed spot.directory || disk.isSealed source.dropLast) = true
      · simp [found, slashed, same, inside, around, locked] at done
      simp only [found, if_neg slashed, if_neg same, if_neg inside, if_neg around,
        if_neg locked] at done
      rw [List.isPrefixOf_iff_prefix] at inside around
      cases refused : disk.replaceError? node (spot.directory ++ [text]) with
      | some error => simp [refused] at done
      | none =>
          simp only [refused] at done
          cases done
          exact .inr ⟨inside, around, rfl, rfl⟩

/-- What is no directory takes the place of no directory. -/
theorem replaceError?_eq_none {node : Node} (solid : node.isDirectory = false)
    (free : disk.replaceError? node location = none) : disk.isDirectoryAt location = false := by
  rw [replaceError?] at free
  rw [isDirectoryAt]
  cases old : disk.get? location with
  | none => rfl
  | some other =>
      cases folder : other.isDirectory with
      | false => simp [folder]
      | true => simp [old, solid, folder] at free

theorem rename_eq_ok {source : Path} (done : disk.rename source path = .ok after) :
    ∃ location, disk.Names source location ∧ disk.renameFrom location path = .ok after := by
  rw [rename] at done
  obtain ⟨_, -, done⟩ := bind_eq_ok_iff.mp done
  obtain ⟨_, -, done⟩ := bind_eq_ok_iff.mp done
  obtain ⟨old, placed, done⟩ := bind_eq_ok_iff.mp done
  obtain ⟨new, -, done⟩ := bind_eq_ok_iff.mp done
  cases named : new.isNamed with
  | false => simp [named] at done
  | true =>
      simp only [named, Bool.not_true, Bool.false_eq_true, if_false] at done
      obtain ⟨location, located, done⟩ := bind_eq_ok_iff.mp done
      obtain ⟨text, last, short, rfl⟩ := locate_place_eq_ok_iff.mp located
      refine ⟨_, ⟨old, text, placed, last, short, rfl⟩, ?_⟩
      cases found : disk.get? (old.directory ++ [text]) with
      | none => simp [found] at done
      | some node =>
          by_cases slashed : (old.slash && !node.isDirectory) = true
          · simp [found, slashed] at done
          · simpa only [found, if_neg slashed] using done

/-- Renaming within a directory. -/
theorem rename_join_eq_ok {source : String} (sourceNamed : Path.isName source = true)
    (named : Path.isName name = true) (differ : source ≠ name)
    (done : disk.rename (Path.join directory source) (Path.join directory name) = .ok after) :
    ∃ home node, disk.Leads directory home ∧ checkText (Path.join directory name) = .ok () ∧
      isTooLong name = false ∧ disk.get? (home ++ [source]) = some node ∧
      disk.replaceError? node (home ++ [name]) = none ∧
      after = (disk.erase (home ++ [name])).move (home ++ [source]) (home ++ [name]) := by
  obtain ⟨location, names, moved⟩ := rename_eq_ok done
  obtain ⟨home, leads, -, -, rfl⟩ := names.join sourceNamed
  obtain ⟨target, node, targetNames, found, ⟨same, -⟩ | ⟨-, -, free, rfl⟩⟩ := renameFrom_eq_ok moved
  · obtain ⟨other, otherLeads, -, -, rfl⟩ := targetNames.join named
    simp [differ] at same
  · obtain ⟨other, otherLeads, text, short, rfl⟩ := targetNames.join named
    obtain rfl := leads.eq otherLeads
    exact ⟨home, node, leads, text, short, found, free, rfl⟩

theorem checkNul_of_checkText (text : checkText path = .ok ()) : checkNul path = .ok () := by
  rw [checkText_eq_ok_iff] at text
  simp [checkNul, text.1]

/-- A file takes the place of what is no directory. -/
theorem renameFrom_join {source : String} {node : Node} (named : Path.isName name = true)
    (short : isTooLong name = false) (text : checkText (Path.join directory name) = .ok ())
    (leads : disk.Leads directory home) (differ : source ≠ name)
    (unsealed : disk.isSealed home = false) (found : disk.get? (home ++ [source]) = some node)
    (solid : node.isDirectory = false) (free : disk.isDirectoryAt (home ++ [name]) = false) :
    disk.renameFrom (home ++ [source]) (Path.join directory name) =
      .ok ((disk.erase (home ++ [name])).move (home ++ [source]) (home ++ [name])) := by
  have placed := (place_join_eq_ok_iff named).mpr ⟨text, home, leads, rfl⟩
  have refused : disk.replaceError? node (home ++ [name]) = none := by
    rw [replaceError?]
    rw [isDirectoryAt] at free
    cases old : disk.get? (home ++ [name]) with
    | none => rfl
    | some other =>
        rw [old, Option.any_some] at free
        simp only [solid, free]
  rw [renameFrom, placed, ok_bind, Place.locate]
  simp [short, found, differ, differ.symm, unsealed, refused]

theorem rename_join {source : String} {node : Node} (sourceNamed : Path.isName source = true)
    (named : Path.isName name = true) (sourceShort : isTooLong source = false)
    (short : isTooLong name = false)
    (sourceText : checkText (Path.join directory source) = .ok ())
    (text : checkText (Path.join directory name) = .ok ()) (leads : disk.Leads directory home)
    (differ : source ≠ name) (unsealed : disk.isSealed home = false)
    (found : disk.get? (home ++ [source]) = some node) (solid : node.isDirectory = false)
    (free : disk.isDirectoryAt (home ++ [name]) = false) :
    disk.rename (Path.join directory source) (Path.join directory name) =
      .ok ((disk.erase (home ++ [name])).move (home ++ [source]) (home ++ [name])) := by
  have sourcePlaced := (place_join_eq_ok_iff sourceNamed).mpr ⟨sourceText, home, leads, rfl⟩
  have placed := (place_join_eq_ok_iff named).mpr ⟨text, home, leads, rfl⟩
  have moved := renameFrom_join named short text leads differ unsealed found solid free
  rw [rename, checkNul_of_checkText sourceText, checkNul_of_checkText text, ok_bind, ok_bind,
    sourcePlaced, ok_bind, placed, ok_bind, Place.locate]
  simp [sourceShort, found, Place.isNamed, moved]

/-! ## Looking at a name -/

/-- The path of a directory names that directory. -/
theorem locate_of_leads (leads : disk.Leads directory home)
    (located : disk.locate directory = .ok location) : location = home := by
  obtain ⟨text, left, reached⟩ := locate_eq_ok_iff.mp located
  obtain ⟨⟨other, first⟩, -⟩ := leads
  rw [checkText_eq_ok_iff] at text
  rcases Path.pieces_eq_stem text.2.1 with same | slashed
  · rw [same] at reached
    exact reached.eq_of_reaches first
  · rw [slashed] at reached
    obtain ⟨middle, between, early, late⟩ := reached.split
    obtain rfl := early.eq_of_reaches first
    cases (late.of_idle (.inl rfl)).2
    rfl

theorem locate_directory (leads : disk.Leads directory home)
    (text : checkText directory = .ok ()) : disk.locate directory = .ok home := by
  obtain ⟨⟨left, reached⟩, inside⟩ := leads
  refine locate_eq_ok_iff.mpr ⟨text, left, ?_⟩
  rcases Path.pieces_eq_stem (checkText_eq_ok_iff.mp text).2.1 with same | slashed
  · rw [same]
    exact reached
  · rw [slashed]
    exact reached.append (.idle inside (.inl rfl) (.here _ _))

/-- A path that names a directory leads there. -/
theorem Leads.of_locate (located : disk.locate directory = .ok home)
    (inside : disk.isDirectoryAt home = true) : disk.Leads directory home := by
  obtain ⟨text, left, reached⟩ := locate_eq_ok_iff.mp located
  rcases Path.pieces_eq_stem (checkText_eq_ok_iff.mp text).2.1 with same | slashed
  · rw [same] at reached
    exact ⟨⟨left, reached⟩, inside⟩
  · rw [slashed] at reached
    obtain ⟨middle, between, early, late⟩ := reached.split
    cases (late.of_idle (.inl rfl)).2
    exact ⟨⟨_, early⟩, inside⟩

/-- A name leads to its entry in the directory, unless that is a link. -/
theorem locate_join_eq_ok (named : Path.isName name = true) (leads : disk.Leads directory home)
    (solid : ∀ target, disk.get? (home ++ [name]) ≠ some (.link target))
    (located : disk.locate (Path.join directory name) = .ok location) :
    location = home ++ [name] ∧ (disk.get? (home ++ [name])).isSome := by
  obtain ⟨-, left, reached⟩ := locate_eq_ok_iff.mp located
  rw [Path.pieces_join directory named, origin_join _ _ named] at reached
  obtain ⟨middle, other, first, second⟩ := reached.split
  obtain ⟨⟨_, again⟩, -⟩ := leads
  obtain rfl := first.eq_of_reaches again
  obtain ⟨-, present, ends⟩ := second.single named
  exact ⟨ends solid, present⟩

/-- A name that leads anywhere is looked up in a directory. -/
theorem Leads.of_locate_join (named : Path.isName name = true)
    (located : disk.locate (Path.join directory name) = .ok location) :
    ∃ home, disk.Leads directory home := by
  obtain ⟨-, left, reached⟩ := locate_eq_ok_iff.mp located
  rw [Path.pieces_join directory named, origin_join _ _ named] at reached
  obtain ⟨middle, home, first, second⟩ := reached.split
  exact ⟨home, ⟨middle, first⟩, second.inside⟩

theorem locate_join (named : Path.isName name = true) (short : isTooLong name = false)
    (text : checkText (Path.join directory name) = .ok ()) (leads : disk.Leads directory home)
    (present : (disk.get? (home ++ [name])).isSome)
    (solid : ∀ target, disk.get? (home ++ [name]) ≠ some (.link target)) :
    disk.locate (Path.join directory name) = .ok (home ++ [name]) := by
  obtain ⟨⟨left, reached⟩, inside⟩ := leads
  obtain ⟨node, found⟩ := Option.isSome_iff_exists.mp present
  refine locate_eq_ok_iff.mpr ⟨text, left, ?_⟩
  rw [Path.pieces_join directory named, origin_join _ _ named]
  refine reached.append (.into inside ⟨Path.ne_empty named, Path.ne_dot named, Path.ne_dots named⟩
    short found ?_ (.here _ _))
  rintro target rfl
  exact solid target found

/-- A name of a directory leads on into a directory. -/
theorem Leads.join {mode : Nat} (leads : disk.Leads directory home)
    (named : Path.isName name = true) (short : isTooLong name = false)
    (text : checkText (Path.join directory name) = .ok ())
    (found : disk.get? (home ++ [name]) = some (.directory mode)) :
    disk.Leads (Path.join directory name) (home ++ [name]) := by
  have located := locate_join named short text leads (by rw [found]; rfl) (by rw [found]; nofun)
  exact .of_locate located (isDirectoryAt_iff.mpr ⟨mode, found⟩)

/-- What is at a name of a directory, unless it is a link. -/
theorem node?_join (named : Path.isName name = true) (short : isTooLong name = false)
    (text : checkText (Path.join directory name) = .ok ()) (leads : disk.Leads directory home)
    (solid : ∀ target, disk.get? (home ++ [name]) ≠ some (.link target)) :
    disk.node? (Path.join directory name) = disk.get? (home ++ [name]) := by
  rw [node?]
  cases located : disk.locate (Path.join directory name) with
  | ok location =>
      obtain ⟨rfl, -⟩ := locate_join_eq_ok named leads solid located
      rfl
  | error error =>
      cases found : disk.get? (home ++ [name]) with
      | none => rfl
      | some node =>
          have whole := locate_join named short text leads (by rw [found]; rfl) solid
          rw [whole] at located
          cases located

/-- A name of a directory that has no entry. -/
theorem node?_join_of_vacant (named : Path.isName name = true) (leads : disk.Leads directory home)
    (vacant : disk.get? (home ++ [name]) = none) :
    disk.node? (Path.join directory name) = none := by
  rw [node?]
  cases located : disk.locate (Path.join directory name) with
  | error error => rfl
  | ok location =>
      obtain ⟨rfl, -⟩ := locate_join_eq_ok named leads (by simp [vacant]) located
      exact vacant

theorem get?_of_node?_join (named : Path.isName name = true) (leads : disk.Leads directory home)
    (solid : ∀ target, disk.get? (home ++ [name]) ≠ some (.link target)) {node : Node}
    (found : disk.node? (Path.join directory name) = some node) :
    disk.get? (home ++ [name]) = some node := by
  rw [node?] at found
  cases located : disk.locate (Path.join directory name) with
  | error error => simp [located, Except.toOption] at found
  | ok location =>
      obtain ⟨rfl, -⟩ := locate_join_eq_ok named leads solid located
      simpa [located, Except.toOption] using found

theorem content?_eq_some_iff {bytes : Bytes} :
    disk.content? path = some bytes ↔
      ∃ identity mode, disk.node? path = some (.file identity mode bytes) := by
  rw [content?, readFile, node?]
  cases disk.locate path with
  | error error => simp [Except.toOption]
  | ok location =>
      simp only [Except.toOption, Option.bind_some]
      cases disk.get? location with
      | none => simp
      | some node => cases node <;> simp

theorem isFile_iff :
    disk.isFile path = true ↔
      ∃ identity mode bytes, disk.node? path = some (.file identity mode bytes) := by
  rw [isFile]
  cases disk.node? path with
  | none => simp
  | some node => cases node <;> simp [Node.isFile]

end SelfUpdate.Disk
