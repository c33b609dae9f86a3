import Mathlib.Data.List.TakeWhile
import SelfUpdate.Log.Start
import SelfUpdate.Proofs.Disk.Rereading
import SelfUpdate.Proofs.World

/-!
# What trimming keeps of a log

A log above its limit loses its older half, and with it the line that the cut would split: what is
kept starts after the first line feed of the newer half. Only a newer half without a line feed is
kept as it is.
-/

namespace SelfUpdate

namespace Log

variable {content kept front before after line text rest : Bytes} {start feed : Nat}

/-! ## Lines -/

/-- A line with its line feed, or what is left of a content after the last line feed. -/
def IsLine (line after : Bytes) : Prop :=
  (∃ text, line = text ++ [lineFeed] ∧ lineFeed ∉ text) ∨
    (line ≠ [] ∧ lineFeed ∉ line ∧ after = [])

/-- At this place of a content a line starts. -/
def LineAt (content : Bytes) (start : Nat) (line : Bytes) : Prop :=
  ∃ before after, content = before ++ line ++ after ∧ before.length = start ∧
    (before = [] ∨ before.getLast? = some lineFeed) ∧ IsLine line after

theorem IsLine.lineFeed_not_mem_dropLast (whole : IsLine line after) :
    lineFeed ∉ line.dropLast := by
  rcases whole with ⟨text, rfl, none_⟩ | ⟨-, none_, -⟩
  · rwa [List.dropLast_concat]
  · exact fun member => none_ (List.dropLast_subset line member)

/-- A line that starts before a line feed reaches at most to it. -/
theorem LineAt.end_le (found : LineAt (front ++ lineFeed :: rest) start line)
    (older : start ≤ front.length) : start + line.length ≤ front.length + 1 := by
  obtain ⟨before, after, split_, rfl, -, whole⟩ := found
  by_contra beyond
  -- otherwise the line feed would stand inside the line
  have there : (front ++ lineFeed :: rest)[front.length]? = some lineFeed := by simp
  have inside : front.length - before.length < line.length - 1 := by omega
  rw [split_, List.append_assoc, List.getElem?_append_right older,
    List.getElem?_append_left (by omega)] at there
  have dropped : line.dropLast[front.length - before.length]? = some lineFeed := by
    rw [List.getElem?_dropLast, if_pos inside, there]
  exact whole.lineFeed_not_mem_dropLast (List.mem_of_getElem? dropped)

/-- Behind a line feed the lines are those of the rest. -/
theorem lineAt_rest_iff :
    LineAt rest start line ↔ LineAt (front ++ lineFeed :: rest) (front.length + 1 + start) line := by
  constructor
  · rintro ⟨before, after, rfl, rfl, begins, whole⟩
    refine ⟨front ++ lineFeed :: before, after, by simp, ?_, .inr ?_, whole⟩
    · rw [List.length_append, List.length_cons]
      omega
    · rcases begins with rfl | ends
      · simp
      · rw [List.getLast?_append, List.getLast?_cons, ends]
        rfl
  · rintro ⟨before, after, split_, length, begins, whole⟩
    rw [List.append_assoc] at split_
    rcases List.append_eq_append_iff.mp split_ with ⟨middle, rfl, later⟩ | ⟨middle, rfl, -⟩
    · cases middle with
      | nil =>
          rw [List.append_nil] at length
          omega
      | cons octet others =>
          obtain ⟨rfl, rfl⟩ := List.cons.inj later
          refine ⟨others, after, (List.append_assoc _ _ _).symm, ?_, ?_, whole⟩
          · rw [List.length_append, List.length_cons] at length
            omega
          · cases others with
            | nil => exact .inl rfl
            | cons next others =>
                rcases begins with nothing | ends
                · simp at nothing
                · exact .inr (by simpa [List.getLast?_append, List.getLast?_cons] using ends)
    · rw [List.length_append] at length
      omega

/-! ## The newer part -/

/-- The first line feed of the newer half. -/
structure FirstFeed (content : Bytes) (feed : Nat) : Prop where
  newer : content.length / 2 ≤ feed
  found : content[feed]? = some lineFeed
  first : ∀ place, content.length / 2 ≤ place → place < feed → content[place]? ≠ some lineFeed

/-- What is kept of a content: its newest lines, or its newer half where that is one line. -/
structure Newest (content kept : Bytes) : Prop where
  suffix : kept <:+ content
  half : kept.length ≤ (content.length + 1) / 2
  /-- The lines after the first line feed of the newer half are there, and nothing of the others. -/
  lines : lineFeed ∈ content.drop (content.length / 2) → ∃ feed, FirstFeed content feed ∧
    kept = content.drop (feed + 1) ∧
    (∀ start line, LineAt content start line → start ≤ feed → start + line.length ≤ feed + 1) ∧
    ∀ start line, LineAt kept start line ↔ LineAt content (feed + 1 + start) line
  unbroken : lineFeed ∉ content.drop (content.length / 2) →
    kept = content.drop (content.length / 2)

/-- A half with a line feed, cut at the first one. -/
theorem cut_newerPart (within : lineFeed ∈ content.drop (content.length / 2)) :
    ∃ text, content.drop (content.length / 2) = text ++ lineFeed :: newerPart content ∧
      lineFeed ∉ text := by
  rw [newerPart]
  generalize content.drop (content.length / 2) = half at within
  have cut := (List.takeWhile_append_dropWhile (p := (· != lineFeed)) (l := half)).symm
  have clear : lineFeed ∉ half.takeWhile (· != lineFeed) := fun member => by
    simpa using List.mem_takeWhile_imp member
  have stops := List.head?_dropWhile_not (· != lineFeed) half
  cases later : half.dropWhile (· != lineFeed) with
  | nil =>
      rw [later, List.append_nil] at cut
      rw [cut] at within
      exact absurd within clear
  | cons octet rest =>
      simp only [later, List.head?_cons, bne_eq_false_iff_eq] at stops
      rw [later, stops] at cut
      exact ⟨_, cut, clear⟩

theorem newerPart_of_unbroken (unbroken : lineFeed ∉ content.drop (content.length / 2)) :
    newerPart content = content.drop (content.length / 2) := by
  have nothing : (content.drop (content.length / 2)).dropWhile (· != lineFeed) = [] := by
    refine List.dropWhile_eq_nil_iff.mpr fun octet member => bne_iff_ne.mpr ?_
    rintro rfl
    exact unbroken member
  rw [newerPart]
  simp only [nothing]

/-- A line feed of the newer half splits a content into what is dropped and what is kept. -/
theorem split_newerPart (within : lineFeed ∈ content.drop (content.length / 2)) :
    ∃ front, content = front ++ lineFeed :: newerPart content ∧
      FirstFeed content front.length := by
  obtain ⟨text, cut, clear⟩ := cut_newerPart within
  have older : (content.take (content.length / 2)).length = content.length / 2 := by
    rw [List.length_take]
    omega
  have whole : content =
      content.take (content.length / 2) ++ text ++ lineFeed :: newerPart content := by
    rw [List.append_assoc, ← cut, List.take_append_drop]
  generalize content.take (content.length / 2) = early at older whole
  refine ⟨early ++ text, whole, ?_, ?_, fun place newer earlier found => ?_⟩
  · rw [List.length_append]
    omega
  · rw [whole]
    simp
  · rw [List.length_append] at earlier
    rw [whole, List.append_assoc, List.getElem?_append_right (by omega),
      List.getElem?_append_left (by omega)] at found
    exact clear (List.mem_of_getElem? found)

theorem newerPart_newest (content : Bytes) : Newest content (newerPart content) := by
  by_cases within : lineFeed ∈ content.drop (content.length / 2)
  · obtain ⟨front, whole, feed⟩ := split_newerPart within
    generalize newerPart content = kept at whole
    have newer := feed.newer
    have length := congrArg List.length whole
    rw [List.length_append, List.length_cons] at length
    refine ⟨⟨front ++ [lineFeed], by simp [whole]⟩, by omega,
      fun _ => ⟨front.length, feed, by simp [whole], fun start line found older => ?_,
        fun start line => ?_⟩, fun absent => absurd within absent⟩
    · rw [whole] at found
      exact found.end_le older
    · rw [whole]
      exact lineAt_rest_iff
  · rw [newerPart_of_unbroken within]
    refine ⟨List.drop_suffix _ _, ?_, fun found => absurd found within, fun _ => rfl⟩
    rw [List.length_drop]
    omega

end Log

/-! ## Trimming the file -/

namespace Disk

variable {disk : Disk} {path : Path} {content bytes : Bytes} {location : Location}

/-- What can be read can be written in its place, and is then read back. -/
theorem writeFile_of_readFile (read : disk.readFile path = .ok content) (bytes : Bytes) :
    ∃ after, disk.writeFile path bytes = .ok after ∧ after.readFile path = .ok bytes := by
  obtain ⟨location, identity, mode, located, found⟩ := readFile_eq_ok_iff.mp read
  obtain ⟨text, left, reached⟩ := locate_eq_ok_iff.mp located
  have solid : disk.isDirectoryAt location = false := by
    rw [isDirectoryAt, found]
    rfl
  have spotted : disk.spot .creation path = .ok (.occupied location) := by
    rw [spot, text]
    exact reached.walk_of_follows (by decide) fun _ => solid
  have opened : disk.openForWriting path = .ok (identity, disk) := by
    rw [openForWriting, spotted]
    simp [found]
  have put : (disk.modifyFile identity fun _ => bytes).get? location =
      some (.file identity mode bytes) := by
    rw [get?_modifyFile, found, Option.map_some, Node.alter, if_pos rfl]
  refine ⟨disk.modifyFile identity fun _ => bytes, ?_, ?_⟩
  · rw [writeFile, opened]
    rfl
  · refine readFile_eq_ok_iff.mpr ⟨location, identity, mode, ?_, put⟩
    refine locate_eq_ok_iff.mpr ⟨text, left, ?_⟩
    exact reached.mono (.modifyFile disk identity _) ⟨_, put, by simp⟩

end Disk

namespace Log

open Disk

variable {world : World} {path : Path} {content : Bytes}

/-- A log within its limit stays as it is. Of a longer one the newest lines are kept: whole ones,
and all that start after the first line feed of the newer half. -/
theorem trimLogFile_keeps_newest (read : world.disk.readFile path = .ok content) (limit : Nat) :
    (content.length ≤ limit → Effect.trimLogFile path limit world = (false, world)) ∧
      (limit < content.length → ∃ after kept,
        Effect.trimLogFile path limit world = (true, world.setDisk after) ∧
        after.readFile path = .ok kept ∧ Newest content kept) := by
  have run : Effect.trimLogFile path limit world =
      if content.length ≤ limit then (false, world)
      else ((Effect.ofStep (·.writeFile path (trimmed limit content)) world).1.toBool,
        (Effect.ofStep (·.writeFile path (trimmed limit content)) world).2) := by
    rw [Effect.trimLogFile]
    simp only [Stateful.bind_run, Stateful.get_run, read]
    split <;> rfl
  refine ⟨fun within => by rw [run, if_pos within], fun beyond => ?_⟩
  have trims : trimmed limit content = newerPart content := if_pos beyond
  obtain ⟨after, written, reread⟩ := writeFile_of_readFile read (newerPart content)
  refine ⟨after, newerPart content, ?_, reread, newerPart_newest content⟩
  rw [run, if_neg (Nat.not_le.mpr beyond), trims, Effect.ofStep_run, written]
  rfl

/-- A log of thirteen octets; the cut falls into its second line. -/
def threeLines : Disk where
  entries := [(["log"], .file 0 Disk.fileMode (Text.encode "one\ntwo\nthree"))]
  freshIdentity := 1
  workingDirectory := []
  sealedDirectories := []

/-- A world with that log, where the host takes the records. -/
def threeLinesWorld : World where
  disk := threeLines
  network := ⟨fun _ _ => ⟨[], .crash⟩, fun _ _ => ⟨[], .crash⟩⟩
  requests := []
  records := []
  leastLevel := none
  sink := .host
  progress := []
  now := 0
  clock := 0
  installer := .willing
  handedOver := []

theorem readFile_threeLines :
    threeLines.readFile "log" = .ok (Text.encode "one\ntwo\nthree") := by
  have pieces : Path.pieces "log" = ["log"] := by decide
  have start : Disk.origin threeLines.workingDirectory "log" = [] := by decide
  have found : threeLines.get? ["log"] =
      some (.file 0 Disk.fileMode (Text.encode "one\ntwo\nthree")) := by
    decide
  have located : threeLines.locate "log" = .ok ["log"] := by
    refine locate_eq_ok_iff.mpr ⟨by decide, Disk.greatestLinkCount, ?_⟩
    rw [pieces, start]
    exact .into (by decide) (by decide) (by decide) found nofun (.here _ _)
  exact readFile_eq_ok_iff.mpr ⟨["log"], 0, Disk.fileMode, located, found⟩

/-- With a limit of twelve octets only the third line is kept. -/
theorem trimLogFile_threeLines :
    threeLinesWorld.disk.readFile "log" = .ok (Text.encode "one\ntwo\nthree") ∧
      (12 < (Text.encode "one\ntwo\nthree").length → ∃ after kept,
        Effect.trimLogFile "log" 12 threeLinesWorld = (true, threeLinesWorld.setDisk after) ∧
        after.readFile "log" = .ok kept ∧ Newest (Text.encode "one\ntwo\nthree") kept) :=
  have read : threeLinesWorld.disk.readFile "log" = .ok (Text.encode "one\ntwo\nthree") :=
    readFile_threeLines
  ⟨read, (trimLogFile_keeps_newest read 12).2⟩

example : trimmed 12 (Text.encode "one\ntwo\nthree") = Text.encode "three" := by decide

end Log

end SelfUpdate
