import SelfUpdate.Proofs.Disk.Rereading

/-!
# Replacing a file is all or nothing

Either the place of the path holds a file with the whole content, or every entry is what it was.
Whatever the outcome, nothing else differs but the directories that were made above the path, and the
file that was made first is in its place or gone.
-/

namespace SelfUpdate

/-- The directories above a path, from the parent up. -/
def Path.above (path : Path) : List Path :=
  match parent? path with
  | none => []
  | some parent => ancestors parent

namespace Disk

variable {disk before after : Disk} {directory place other : Location} {path : Path}
  {bytes : Bytes} {temporary : String}

/-! ## What is left -/

/-- An entry is what it was, or it is a new directory to which a path above leads. -/
def KeptOrMade (path : Path) (before after : Disk) (other : Location) : Prop :=
  after.get? other = before.get? other ∨
    before.get? other = none ∧ after.get? other = some (.directory directoryMode) ∧
      ∃ upper ∈ path.above, (before.prepared path).locate upper = .ok other

/-- The place that a path has once its directories are made holds a new file with the whole content,
whatever was there. The path leads to it unless its way passed a link in that place. -/
structure Holds (path : Path) (bytes : Bytes) (before after : Disk) (place : Location) : Prop where
  names : (before.prepared path).Names path place
  solid : (before.prepared path).isDirectoryAt place = false
  file : ∃ identity mode, before.freshIdentity ≤ identity ∧
    after.get? place = some (.file identity mode bytes)
  leads : (before.prepared path).Straight path → after.locate path = .ok place

/-- What replacing a file leaves, when it succeeds and when it fails. -/
def AllOrNothing (path : Path) (bytes : Bytes) (before : Disk) : Except IoError Unit × Disk → Prop
  | (.ok _, after) => ∃ place, Holds path bytes before after place ∧
      ∀ other, other ≠ place → KeptOrMade path before after other
  | (.error _, after) => ∀ other, KeptOrMade path before after other

/-- Picks names that no entry has. -/
def PicksUnused (pick : Disk → Location → String) : Prop :=
  ∀ (disk : Disk) directory, disk.get? (directory ++ [pick disk directory]) = none

/-! ## The steps -/

/-- Making the directories above a path touches nothing else. -/
theorem prepared_dug (disk : Disk) (path : Path) (other : Location) :
    Dug path.above disk (disk.prepared path) other := by
  rw [prepared, Path.above]
  cases Path.parent? path with
  | none => exact .inl rfl
  | some parent => exact makeDirectoriesUpTo_dug (Path.ancestors parent) disk other

theorem keptOrMade_of_same (same : after.get? other = (disk.prepared path).get? other) :
    KeptOrMade path disk after other := by
  rcases prepared_dug disk path other with kept | ⟨vacant, made, upper, listed, led⟩
  · exact .inl (same.trans kept)
  · exact .inr ⟨vacant, same.trans made, upper, listed, led⟩

/-- The new file, whatever its name is, takes the place of the path or is removed again. -/
theorem exchangeAs_allOrNothing (tree : (disk.prepared path).IsTree)
    (later : disk.freshIdentity ≤ (disk.prepared path).freshIdentity)
    (vacant : (disk.prepared path).get? (directory ++ [temporary]) = none) :
    AllOrNothing path bytes disk
      (exchangeAs temporary directory path bytes (disk.prepared path) (disk.prepared path)) := by
  have named : directory ++ [temporary] ≠ [] := by simp
  rcases exchangeAs_cases temporary directory path bytes (disk.prepared path) with
    ⟨error, same⟩ | ⟨error, removed⟩ | ⟨after, moved, renamed⟩
  · rw [same]
    exact fun other => keptOrMade_of_same rfl
  · rw [removed]
    exact fun other => keptOrMade_of_same (get?_erase_putNewFile tree named vacant _ _ other)
  · rw [moved]
    obtain ⟨place, names, solid, file, elsewhere, leads⟩ :=
      locate_of_renameFrom tree named vacant renamed
    exact ⟨place, ⟨names, solid, ⟨_, _, later, file⟩, leads⟩,
      fun other differ => keptOrMade_of_same (elsewhere other differ)⟩

theorem replaceFileAs_allOrNothing (tree : disk.IsTree) {pick : Disk → Location → String}
    (unused : PicksUnused pick) (path : Path) (bytes : Bytes) :
    AllOrNothing path bytes disk (replaceFileAs pick path bytes disk) := by
  have changes := (prepared_digs disk path).changes
  rcases replaceFileAs_cases pick disk path bytes with ⟨error, early⟩ | ⟨directory, -, exchanged⟩
  · rw [early]
    exact fun other => keptOrMade_of_same rfl
  · rw [exchanged]
    exact exchangeAs_allOrNothing (changes.isTree tree) changes.freshIdentity_le
      (unused (disk.prepared path) directory)

/-- On any disk, with any path and content, a file is replaced as a whole or not at all, and no file
is left beside it. That does not depend on the name that the new file has at first. -/
theorem replaceFile_allOrNothing (tree : disk.IsTree) (path : Path) (bytes : Bytes) :
    AllOrNothing path bytes disk (replaceFile path bytes disk) ∧
      ∀ pick, PicksUnused pick →
        AllOrNothing path bytes disk (replaceFileAs pick path bytes disk) := by
  refine ⟨?_, fun pick unused => replaceFileAs_allOrNothing tree unused path bytes⟩
  rw [replaceFile_eq_as]
  exact replaceFileAs_allOrNothing tree get?_unusedName path bytes

/-- A link beside the file to which it leads. -/
def pointed : Disk where
  entries := [(["kept"], .file 0 fileMode [1]), (["pointer"], .link "kept")]
  freshIdentity := 1
  workingDirectory := []
  sealedDirectories := []

/-- A link is replaced, and the file to which it led is kept. -/
theorem replaceFile_link : pointed.IsTree ∧ ∃ after,
    replaceFile "pointer" [120] pointed = (.ok (), after) ∧
      after.get? ["kept"] = some (.file 0 fileMode [1]) := by
  have tree : pointed.IsTree := .of_entries (by decide) (by decide)
  have leads : pointed.Leads "" [] := ⟨⟨greatestLinkCount, .here _ _⟩, rfl⟩
  have joined : Path.join "" "pointer" = "pointer" := by decide
  have replaced := replaceFile_join (by decide : Path.isName "pointer" = true) (by decide)
    (by decide) leads (by decide) (by decide) (by decide) [120]
  have whole := (replaceFile_allOrNothing tree "pointer" [120]).1
  rw [joined] at replaced
  rw [replaced] at whole
  obtain ⟨place, held, elsewhere⟩ := whole
  refine ⟨tree, _, replaced, ?_⟩
  have names : (pointed.prepared "pointer").Names (Path.join "" "pointer") place := held.names
  have differ : ["kept"] ≠ place := by
    obtain ⟨home, -, -, -, rfl⟩ := names.join (by decide)
    intro same
    have last := congrArg List.getLast? same
    simp at last
  rcases elsewhere _ differ with same | ⟨vacant, -⟩
  · exact same
  · cases vacant

/-! ## Paths that pass their own place -/

/-- The root once the path's own directories were made. -/
def detoured : Disk := ⟨[(["a"], .directory directoryMode)], 0, [], []⟩

theorem makeDirectories_detoured : makeDirectories "a/.." empty = (.ok (), detoured) := by
  have ancestors : Path.ancestors "a/.." = ["a/..", "a", ""] := by decide
  have pieces : Path.pieces "a/.." = ["a", ".."] ∧ Path.pieces "a" = ["a"] := by decide
  have texts : checkText "a/.." = .ok () ∧ checkText "a" = .ok () := by decide
  have starts : origin [] "a/.." = [] ∧ origin [] "a" = [] := by decide
  have bases : empty.workingDirectory = [] ∧ detoured.workingDirectory = [] := ⟨rfl, rfl⟩
  have short : isTooLong "a" = false := by decide
  have vacant : empty.get? ["a"] = none := rfl
  have unlocked : empty.isSealed [] = false := rfl
  have found : detoured.get? ["a"] = some (.directory directoryMode) := rfl
  have missing : empty.makeDirectory "a/.." = .error .notFound := by
    simp [makeDirectory, place, walk, pieces, texts, starts, bases, short, vacant]
  have first : empty.makeDirectory "a" = .ok detoured := by
    simp [makeDirectory, place, walk, Place.locate, pieces, texts, starts, bases, short, vacant,
      unlocked]
    rfl
  have present : empty.makeDirectory "a" ≠ .error .notFound := by simp [first]
  have last : detoured.makeDirectory "a/.." = .error .alreadyExists := by
    simp [makeDirectory, place, walk, Place.locate, isDirectoryAt, Node.isDirectory, pieces, texts,
      starts, bases, short, found]
  have there : detoured.isDirectory "a/.." = true := by
    simp [isDirectory, node?, locate, spot, walk, isDirectoryAt, Node.isDirectory, Except.toOption,
      pieces, texts, starts, bases, short, found]
  rw [makeDirectories, ancestors, makeDirectoriesUpTo_of_missing rfl missing,
    makeDirectoriesUpTo_of_parent rfl present]
  simp [makeLast, first, last, settleFor, there]

/-- The configuration directory is reached over a link in the place of the settings file. -/
def looped : Disk where
  entries := [(["cache"], .directory directoryMode), (["data"], .directory directoryMode),
    (["real"], .directory directoryMode), (["real", "settings.json"], .link "/real"),
    (["config"], .link "/real/settings.json/../real")]
  freshIdentity := 0
  workingDirectory := []
  sealedDirectories := []

/-- The disk once that link was replaced by a file. -/
def unlooped (bytes : Bytes) : Disk where
  entries := [(["cache"], .directory directoryMode), (["data"], .directory directoryMode),
    (["real"], .directory directoryMode), (["config"], .link "/real/settings.json/../real"),
    (["real", "settings.json"], .file 0 privateFileMode bytes)]
  freshIdentity := 1
  workingDirectory := []
  sealedDirectories := []

theorem pieces_loop :
    Path.pieces "/real/settings.json/../real" = ["", "real", "settings.json", "..", "real"] := by
  decide

theorem looped_leads : looped.Leads "config" ["real"] := by
  have stem : Path.stem "config" = ["config"] := by decide
  have straight : Path.pieces "/real" = ["", "real"] := by decide
  have config : looped.get? ["config"] = some (.link "/real/settings.json/../real") := rfl
  have real : looped.get? ["real"] = some (.directory directoryMode) := rfl
  have settings : looped.get? ["real", "settings.json"] = some (.link "/real") := rfl
  refine ⟨⟨38, ?_⟩, rfl⟩
  rw [stem]
  refine .through rfl (by decide) (by decide) config ?_
  rw [pieces_loop]
  refine .idle rfl (.inl rfl) (.into rfl (by decide) (by decide) real nofun ?_)
  refine .through rfl (by decide) (by decide) settings ?_
  rw [straight]
  refine .idle rfl (.inl rfl) (.into rfl (by decide) (by decide) real nofun ?_)
  exact .up rfl (.into rfl (by decide) (by decide) real nofun (.here _ _))

theorem replaceFile_looped (bytes : Bytes) :
    replaceFile "config/settings.json" bytes looped = (.ok (), unlooped bytes) := by
  have joined : Path.join "config" "settings.json" = "config/settings.json" := by decide
  have fresh : looped.unusedName ["real"] = ".tmp0" := by decide
  have replaced := replaceFile_join (by decide : Path.isName "settings.json" = true)
    (by decide) (by decide) looped_leads (by decide) (by decide) (by decide) bytes
  rw [joined, fresh] at replaced
  rw [replaced]
  rfl

theorem unlooped_astray (bytes : Bytes) :
    (unlooped bytes).locate "config/settings.json" = .error .notADirectory := by
  have pieces : Path.pieces "config/settings.json" = ["config", "settings.json"] := by decide
  have starts : origin [] "config/settings.json" = [] ∧
      origin [] "/real/settings.json/../real" = [] := by
    decide
  have base : (unlooped bytes).workingDirectory = [] := rfl
  have text : checkText "config/settings.json" = .ok () := by decide
  have short : isTooLong "config" = false ∧ isTooLong "real" = false ∧
      isTooLong "settings.json" = false := by
    decide
  have detour : (unlooped bytes).get? ["config"] = some (.link "/real/settings.json/../real") := rfl
  have real : (unlooped bytes).get? ["real"] = some (.directory directoryMode) := rfl
  have file : (unlooped bytes).get? ["real", "settings.json"] =
      some (.file 0 privateFileMode bytes) :=
    rfl
  simp [locate, spot, walk, greatestLinkCount, isDirectoryAt, Node.isDirectory, pieces, pieces_loop,
    starts, base, text, short, detour, real, file]

theorem locate_detoured : detoured.locate "a/.." = .ok [] := by
  have pieces : Path.pieces "a/.." = ["a", ".."] := by decide
  have text : checkText "a/.." = .ok () := by decide
  have start : origin [] "a/.." = [] := by decide
  have base : detoured.workingDirectory = [] := rfl
  have short : isTooLong "a" = false := by decide
  have found : detoured.get? ["a"] = some (.directory directoryMode) := rfl
  simp [locate, spot, walk, isDirectoryAt, Node.isDirectory, pieces, text, start, base, short,
    found]

/-- The new file cannot take the place of the directory, and is removed again. -/
theorem exchange_detoured : exchange [] "a/../a" [120] detoured detoured =
    (.error .isADirectory, (detoured.putNewFile [".tmp0"] privateFileMode [120]).erase [".tmp0"]) := by
  let full := detoured.putNewFile [".tmp0"] privateFileMode [120]
  have refused : full.renameFrom [".tmp0"] "a/../a" = .error .isADirectory := by
    have pieces : Path.pieces "a/../a" = ["a", "..", "a"] := by decide
    have text : checkText "a/../a" = .ok () := by decide
    have start : origin [] "a/../a" = [] := by decide
    have base : full.workingDirectory = [] := rfl
    have short : isTooLong "a" = false := by decide
    have unlocked : full.isSealed [] = false := rfl
    have there : full.get? ["a"] = some (.directory directoryMode) := rfl
    have staged : full.get? [".tmp0"] = some (.file 0 privateFileMode [120]) := rfl
    simp [renameFrom, place, walk, Place.locate, replaceError?, isDirectoryAt, Node.isDirectory,
      pieces, text, start, base, short, unlocked, there, staged]
  have fresh : detoured.unusedName [] = ".tmp0" := by decide
  have unlocked : detoured.isSealed [] = false := rfl
  have clean : "a/../a".toList.contains '\x00' = false := by decide
  rw [exchange]
  simp only [unlocked, fresh, clean, List.nil_append, Bool.false_eq_true, if_false]
  rw [refused]
  rfl

/-- The path leads over the directory that is made in its own place. -/
theorem replaceFile_detoured :
    ∃ after, replaceFile "a/../a" [120] empty = (.error .isADirectory, after) ∧
      empty.get? ["a"] = none ∧ after.get? ["a"] = some (.directory directoryMode) ∧
      after.locate "a/../a" = .ok ["a"] := by
  let last := (detoured.putNewFile [".tmp0"] privateFileMode [120]).erase [".tmp0"]
  have run : replaceFile "a/../a" [120] empty = (.error .isADirectory, last) := by
    have parent : Path.parent? "a/../a" = some "a/.." := by decide
    have some_ : "a/..".isEmpty = false := by decide
    rw [replaceFile_eq, parent]
    simp only [Failing.bind_run, Failing.get_run, makeDirectories_detoured, some_, locate_detoured]
    exact exchange_detoured
  have pieces : Path.pieces "a/../a" = ["a", "..", "a"] := by decide
  have text : checkText "a/../a" = .ok () := by decide
  have start : origin [] "a/../a" = [] := by decide
  have base : last.workingDirectory = [] := rfl
  have short : isTooLong "a" = false := by decide
  have there : last.get? ["a"] = some (.directory directoryMode) := rfl
  refine ⟨last, run, rfl, rfl, ?_⟩
  simp [locate, spot, walk, isDirectoryAt, Node.isDirectory, pieces, text, start, base, short,
    there]

/-- A path whose own directories pass its place leaves a directory there when it fails, and one that
passed a link in its place does not lead to the new file. -/
theorem replaceFile_astray :
    (∃ error after, replaceFile "a/../a" [120] empty = (.error error, after) ∧
      empty.get? ["a"] = none ∧ after.get? ["a"] = some (.directory directoryMode) ∧
      after.locate "a/../a" = .ok ["a"]) ∧
    ∃ after, replaceFile "config/settings.json" [120] looped = (.ok (), after) ∧
      looped.IsTree ∧ ∀ location, after.locate "config/settings.json" ≠ .ok location := by
  refine ⟨⟨_, replaceFile_detoured⟩, _, replaceFile_looped [120],
    .of_entries (by decide) (by decide), fun location => ?_⟩
  rw [unlooped_astray]
  nofun

end Disk

end SelfUpdate
