import SelfUpdate.Proofs.Checksum.Entries

/-!
# Listings

What `sha256sum` prints: a line for each file, with its digest and its name. Reading a listing for a name
gives the digest of the first record with that name, whatever ends the lines and whichever lines of one
word stand between them.
-/

namespace SelfUpdate.Checksum

open Text (IsWord words lines)

/-- A name as a listing holds it. It cannot be mistaken for a marked one. -/
structure FileName where
  text : List Char
  isWord : IsWord text
  unmarked : text.head? ≠ some '*'
  bare : ¬ ['.', '/'] <+: text

/-- How a file is listed: as a text, as a binary file, or in the current directory. -/
inductive Mark
  | text
  | binary
  | here

/-- The blanks before the second column: the asterisk of a binary file stands in place of one. -/
def Mark.gap : Mark → List Char
  | .binary => [' ']
  | _ => [' ', ' ']

/-- What stands in the second column before the name. -/
def Mark.signs : Mark → List Char
  | .text => []
  | .binary => ['*']
  | .here => ['.', '/']

structure Record where
  digest : List Char
  mark : Mark
  name : FileName
  isHex : isHex digest = true

/-- A line holds a record, or it has one word at most. -/
inductive Line
  | holding (record : Record)
  | idle (body : List Char) (flat : '\n' ∉ body) (short : (words body).length ≤ 1)

inductive LineEnd
  | feed
  | returnFeed

/-- The lines with their ends, and possibly a last line without one. -/
structure Listing where
  ended : List (Line × LineEnd)
  last : Option Line

namespace Record

def word (record : Record) : List Char := record.mark.signs ++ record.name.text

def text (record : Record) : List Char := record.digest ++ (record.mark.gap ++ record.word)

theorem isWord_word (record : Record) : IsWord record.word := by
  have signs : record.mark.signs.all (!Text.isBlank ·) = true := by
    cases record.mark <;> decide
  refine ⟨fun none_ => record.name.isWord.some (List.append_eq_nil_iff.mp none_).2, ?_⟩
  intro c listed
  rcases List.mem_append.mp listed with sign | own
  · simpa using List.all_eq_true.mp signs c sign
  · exact record.name.isWord.solid c own

theorem entryName_word (record : Record) : entryName record.word = record.name.text := by
  rw [entryName_eq_iff, word]
  cases record.mark with
  | text => exact ⟨0, 0, rfl, record.name.bare, fun _ => record.name.unmarked⟩
  | binary => exact ⟨1, 0, rfl, record.name.bare, fun _ => record.name.unmarked⟩
  | here => exact ⟨0, 1, rfl, record.name.bare, nofun⟩

theorem words_text (record : Record) : words record.text = [record.digest, record.word] := by
  have gap : Text.Blank record.mark.gap ∧ record.mark.gap ≠ [] := by
    cases record.mark <;> decide
  rw [text, Text.words_append_parted (isWord_of_isHex record.isHex) (.of_blank gap.1 gap.2 _),
    Text.words_append_of_blank gap.1, Text.words_of_isWord record.isWord_word]

theorem flat (record : Record) : '\n' ∉ record.text := by
  have gap : '\n' ∉ record.mark.gap := by
    cases record.mark <;> decide
  have blank : Text.isBlank '\n' = true := by decide
  intro listed
  rcases List.mem_append.mp listed with own | listed
  · exact absurd ((isWord_of_isHex record.isHex).solid _ own) (by simp [blank])
  · rcases List.mem_append.mp listed with between | own
    · exact gap between
    · exact absurd (record.isWord_word.solid _ own) (by simp [blank])

/-- A record gives its digest for its own name. -/
theorem inLine?_text (artifact : List Char) (record : Record) :
    inLine? artifact record.text =
      if record.name.text = artifact then some record.digest else none := by
  rw [inLine?, record.words_text]
  simp [record.entryName_word, record.isHex]

end Record

/-- A line of one word gives nothing. -/
theorem inLine?_of_short {body : List Char} (short : (words body).length ≤ 1)
    (artifact : List Char) : inLine? artifact body = none := by
  rw [inLine?]
  cases parts : words body with
  | nil => rfl
  | cons first others =>
      cases others with
      | nil => rfl
      | cons second others =>
          rw [parts] at short
          exact absurd short (by simp)

namespace Line

def text : Line → List Char
  | .holding record => record.text
  | .idle body _ _ => body

def record? : Line → Option Record
  | .holding record => some record
  | .idle _ _ _ => none

theorem flat (line : Line) : '\n' ∉ line.text := by
  cases line with
  | holding record => exact record.flat
  | idle body flat short => exact flat

theorem two_le_length_words {line : Line} {record : Record} (holds : line.record? = some record) :
    2 ≤ (words line.text).length := by
  cases line with
  | holding record =>
      rw [text, record.words_text]
      exact Nat.le_refl 2
  | idle body flat short => cases holds

end Line

/-- A carriage return, where the line end has one. -/
def LineEnd.return : LineEnd → List Char
  | .feed => []
  | .returnFeed => ['\r']

theorem words_append_return (body : List Char) (ending : LineEnd) :
    words (body ++ ending.return) = words body := by
  cases ending with
  | feed => rw [LineEnd.return, List.append_nil]
  | returnFeed =>
      rw [LineEnd.return, Text.words_append_cons (by decide), Text.words_nil, List.append_nil]

/-- What is read from a line depends on its words only. -/
theorem inLine?_congr {artifact first second : List Char} (same : words first = words second) :
    inLine? artifact first = inLine? artifact second := by
  rw [inLine?, inLine?, same]

namespace Listing

def text (listing : Listing) : List Char :=
  listing.ended.flatMap (fun line => line.1.text ++ line.2.return ++ ['\n']) ++
    (listing.last.elim [] Line.text)

def lines (listing : Listing) : List Line := listing.ended.map Prod.fst ++ listing.last.toList

def records (listing : Listing) : List Record := listing.lines.filterMap Line.record?

/-- The first line of a listing that is read goes with its own end. -/
theorem text_cons (line : Line) (ending : LineEnd) (ended : List (Line × LineEnd))
    (last : Option Line) :
    text ⟨(line, ending) :: ended, last⟩ =
      line.text ++ ending.return ++ '\n' :: text ⟨ended, last⟩ := by
  simp [text]

theorem words_text (listing : Listing) :
    words listing.text = listing.lines.flatMap fun line => words line.text := by
  obtain ⟨ended, last⟩ := listing
  induction ended with
  | nil => cases last <;> simp [text, lines]
  | cons first ended ih =>
      obtain ⟨line, ending⟩ := first
      rw [text_cons, Text.words_append_cons (by decide), words_append_return, ih]
      simp [lines]

/-- A listing is read as its lines are, one after another. -/
theorem findSome?_lines_text (artifact : List Char) (listing : Listing) :
    (Text.lines listing.text).findSome? (inLine? artifact) =
      listing.lines.findSome? fun line => inLine? artifact line.text := by
  obtain ⟨ended, last⟩ := listing
  induction ended with
  | nil =>
      cases last with
      | none => rfl
      | some line =>
          rw [text, lines]
          by_cases empty : line.text = []
          · simp [empty, inLine?]
          · simp [Text.lines_of_flat line.flat empty]
  | cons first ended ih =>
      obtain ⟨line, ending⟩ := first
      have flat : '\n' ∉ line.text ++ ending.return := by
        cases ending <;> simp [LineEnd.return, line.flat]
      have read : inLine? artifact (Text.dropReturn (line.text ++ ending.return)) =
          inLine? artifact line.text :=
        inLine?_congr ((Text.words_dropReturn _).trans (words_append_return _ _))
      rw [text_cons, Text.lines_append_feed flat, List.findSome?_cons, read, ih]
      rfl

/-- The first line that tells of a name is the first that holds a record with that name. -/
theorem findSome?_inLine? (artifact : List Char) (listed : List Line) :
    (listed.findSome? fun line => inLine? artifact line.text) =
      ((listed.filterMap Line.record?).find? fun record =>
        record.name.text = artifact).map Record.digest := by
  induction listed with
  | nil => rfl
  | cons line listed ih =>
      rw [List.findSome?_cons, ih]
      cases line with
      | holding record =>
          rw [Line.text, record.inLine?_text, List.filterMap_cons_some (f := Line.record?) rfl]
          by_cases named : record.name.text = artifact
          · rw [if_pos named, List.find?_cons_of_pos (by simpa using named), Option.map_some]
          · rw [if_neg named, List.find?_cons_of_neg (by simpa using named)]
      | idle body flat short =>
          rw [Line.text, inLine?_of_short short, List.filterMap_cons_none rfl]

/-- A listing with a record is no bare digest. -/
theorem two_le_length_words {listing : Listing} (some_ : listing.records ≠ []) :
    2 ≤ (words listing.text).length := by
  obtain ⟨record, listed⟩ := List.exists_mem_of_ne_nil _ some_
  obtain ⟨line, among, holds⟩ := List.mem_filterMap.mp listed
  rw [words_text]
  have part := List.Sublist.length_le (List.sublist_flatten_of_mem
    (List.mem_map_of_mem (f := fun line : Line => words line.text) among))
  exact Nat.le_trans (Line.two_le_length_words holds) part

/-- A listing is read back. For every listing with a record, with line feeds or carriage returns and line
feeds behind its lines, with or without an end behind the last, and with lines of one word or none
anywhere, what is read for a name is the digest of the first record with that name, in lowercase, and
nothing when no record has it. -/
theorem ofDocument_listing (listing : Listing) (some_ : listing.records ≠ []) (name : FileName) :
    ofDocument? (String.ofList listing.text) (String.ofList name.text) =
      (listing.records.find? fun record => record.name.text = name.text).map fun record =>
        Text.lower (String.ofList record.digest) := by
  have several : 2 ≤ (words (String.ofList listing.text).toList).length := by
    rw [String.toList_ofList]
    exact two_le_length_words some_
  rw [ofDocument?_of_several several, String.toList_ofList, String.toList_ofList,
    findSome?_lines_text, findSome?_inLine?, records, Option.map_map]
  rfl

def application : FileName where
  text := "application.apk".toList
  isWord := by decide
  unmarked := by decide
  bare := by decide

def notes : FileName where
  text := "notes.txt".toList
  isWord := by decide
  unmarked := by decide
  bare := by decide

/-- A listing of two files, with both line ends, an empty line, and no end behind its last line. -/
def twoFiles : Listing where
  ended :=
    [(.holding ⟨List.replicate 64 'a', .here, notes, by decide⟩, .returnFeed),
      (.idle [] nofun (Nat.zero_le 1), .feed)]
  last := some (.holding ⟨digits, .binary, application, isHex_digits⟩)

/-- The second file of the listing is found by its name, and its digest given in lowercase. -/
theorem ofDocument_listing_twoFiles :
    twoFiles.records ≠ [] ∧
      ofDocument? (String.ofList twoFiles.text) (String.ofList application.text) =
        some (Text.lower (String.ofList digits)) := by
  have some_ : twoFiles.records ≠ [] := List.cons_ne_nil _ _
  refine ⟨some_, (ofDocument_listing twoFiles some_ application).trans ?_⟩
  have other : notes.text ≠ application.text := by decide
  simp [records, lines, twoFiles, Line.record?, other]

end Listing

end SelfUpdate.Checksum
