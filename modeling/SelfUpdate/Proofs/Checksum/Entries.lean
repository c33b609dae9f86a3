import SelfUpdate.Proofs.Digest
import SelfUpdate.Proofs.Text.Words

/-!
# Entries of checksum documents

A document gives the digest of an artifact by its bare digest or by a line. The line is read by its first
two words: what stands before them and what follows them is passed over. So the digest may also come
from the line of another file, whose name begins with the name of the artifact and a blank.
-/

namespace SelfUpdate.Checksum

open Text (Blank IsWord Parted words lines)

variable {artifact line hash body word rest : List Char} {c : Char}

/-! ## Marks before a name -/

/-- The current directory, so often. -/
def here : Nat → List Char
  | 0 => []
  | count + 1 => '.' :: '/' :: here count

theorem length_here (count : Nat) : (here count).length = 2 * count := by
  induction count with
  | zero => rfl
  | succ count ih =>
      rw [here, List.length_cons, List.length_cons, ih]
      omega

/-- All that is dropped is the current directory. -/
theorem dropHere_eq_iff :
    dropHere body = rest ↔ ∃ count, body = here count ++ rest ∧ ¬ ['.', '/'] <+: rest := by
  fun_induction dropHere body with
  | case1 body ih =>
      rw [ih]
      constructor
      · rintro ⟨count, rfl, short⟩
        exact ⟨count + 1, rfl, short⟩
      · rintro ⟨count, same, short⟩
        cases count with
        | zero =>
            rw [here, List.nil_append] at same
            exact absurd ⟨body, same⟩ short
        | succ count =>
            simp only [here, List.cons_append, List.cons.injEq, true_and] at same
            exact ⟨count, same, short⟩
  | case2 body other =>
      constructor
      · rintro rfl
        refine ⟨0, rfl, ?_⟩
        rintro ⟨tail, same⟩
        exact other tail same.symm
      · rintro ⟨count, same, short⟩
        cases count with
        | zero => exact same
        | succ count => exact absurd same (other _)

/-- A word and the name that it stands for. -/
theorem entryName_eq_iff :
    entryName word = artifact ↔
      ∃ stars count, word = List.replicate stars '*' ++ here count ++ artifact ∧
        ¬ ['.', '/'] <+: artifact ∧ (count = 0 → artifact.head? ≠ some '*') := by
  have marked : ∀ c ∈ word.takeWhile (· == '*'), c = '*' := by
    intro c listed
    simpa using List.all_eq_true.mp List.all_takeWhile c listed
  rw [entryName, dropHere_eq_iff]
  constructor
  · rintro ⟨count, same, short⟩
    have parts := List.takeWhile_append_dropWhile (p := (· == '*')) (l := word)
    have begins := List.head?_dropWhile_not (· == '*') word
    rw [List.eq_replicate_of_mem marked, same] at parts
    refine ⟨(word.takeWhile (· == '*')).length, count, ?_, short, ?_⟩
    · rw [List.append_assoc, parts]
    · rintro rfl first
      rw [same, here, List.nil_append, first] at begins
      cases begins
  · rintro ⟨stars, count, rfl, short, first⟩
    refine ⟨count, ?_, short⟩
    rw [List.append_assoc, List.dropWhile_append_of_pos (by simp)]
    cases count with
    | zero =>
        rw [here, List.nil_append]
        cases artifact with
        | nil => rfl
        | cons c artifact =>
            have differs : c ≠ '*' := fun same => first rfl (congrArg some same)
            exact List.dropWhile_cons_of_neg (by simpa using differs)
    | succ count => rfl

/-! ## Entries -/

theorem isBlank_of_isHexDigit (digit : Text.isHexDigit c = true) : Text.isBlank c = false := by
  have bounds := Text.isHexDigit_iff_toNat.mp digit
  exact Text.isBlank_of_visible (by omega) (by omega)

theorem isWord_of_isHex (hex : isHex hash = true) : IsWord hash := by
  simp only [isHex, Bool.and_eq_true, beq_iff_eq, List.all_eq_true] at hex
  refine ⟨?_, fun c listed => isBlank_of_isHexDigit (hex.2 c listed)⟩
  rintro rfl
  cases hex.1

/-- An entry for an artifact, as it is read: a digest, blanks, and the name of the artifact, which may
be marked. Blanks may stand before it, and whatever follows the name after a blank is left out of
account. -/
structure Entry (artifact : List Char) where
  lead : List Char
  hash : List Char
  gap : List Char
  stars : Nat
  count : Nat
  rest : List Char
  lead_blank : Blank lead
  hash_isHex : isHex hash = true
  gap_blank : Blank gap
  gap_some : gap ≠ []
  isWord : IsWord (List.replicate stars '*' ++ here count ++ artifact)
  parted : Parted rest
  /-- All marks are taken off. -/
  bare : ¬ ['.', '/'] <+: artifact
  unmarked : count = 0 → artifact.head? ≠ some '*'

namespace Entry

/-- The name of the artifact with its marks. -/
def name (entry : Entry artifact) : List Char :=
  List.replicate entry.stars '*' ++ here entry.count ++ artifact

def text (entry : Entry artifact) : List Char :=
  entry.lead ++ entry.hash ++ (entry.gap ++ entry.name ++ entry.rest)

/-- The line has nothing but the digest, the blanks and the name, with one mark of each kind at most. -/
structure IsProper (entry : Entry artifact) : Prop where
  lead : entry.lead = []
  stars : entry.stars ≤ 1
  count : entry.count ≤ 1
  rest : entry.rest = []

theorem isWord_name (entry : Entry artifact) : IsWord entry.name := entry.isWord

theorem words_text (entry : Entry artifact) :
    words entry.text = entry.hash :: entry.name :: words entry.rest := by
  have parted := Parted.of_blank entry.gap_blank entry.gap_some (entry.name ++ entry.rest)
  rw [text, List.append_assoc, List.append_assoc, Text.words_append_of_blank entry.lead_blank,
    Text.words_append_parted (isWord_of_isHex entry.hash_isHex) parted,
    Text.words_append_of_blank entry.gap_blank,
    Text.words_append_parted entry.isWord_name entry.parted]

theorem text_ne_nil (entry : Entry artifact) : entry.text ≠ [] := by
  intro empty
  have parts := entry.words_text
  rw [empty] at parts
  cases parts

end Entry

/-- A line gives the digest of the entries it can be read as. -/
theorem inLine?_eq_some_iff :
    inLine? artifact line = some hash ↔
      ∃ entry : Entry artifact, entry.text = line ∧ entry.hash = hash := by
  constructor
  · intro found
    rw [inLine?] at found
    split at found
    · rename_i first name others parts
      split at found
      · rename_i accepted
        cases found
        obtain ⟨stars, count, rfl, bare, unmarked⟩ := entryName_eq_iff.mp accepted.1
        obtain ⟨lead, tail, rfl, lead_blank, first, parted, parts⟩ := Text.words_eq_cons_iff.mp parts
        obtain ⟨gap, rest, rfl, gap_blank, second, ends, -⟩ := Text.words_eq_cons_iff.mp parts
        -- without a blank between them the two words would be one
        have gap_some : gap ≠ [] := by
          rintro rfl
          obtain ⟨c, name, begins⟩ := List.exists_cons_of_ne_nil second.some
          have blank := parted c (by rw [List.nil_append, begins]; rfl)
          rw [second.solid c (begins ▸ List.mem_cons_self)] at blank
          cases blank
        exact ⟨⟨lead, hash, gap, stars, count, rest, lead_blank, accepted.2, gap_blank, gap_some,
          second, ends, bare, unmarked⟩, rfl, rfl⟩
      · cases found
    · cases found
  · rintro ⟨entry, rfl, rfl⟩
    have named : entryName entry.name = artifact :=
      entryName_eq_iff.mpr ⟨entry.stars, entry.count, rfl, entry.bare, entry.unmarked⟩
    rw [inLine?, entry.words_text]
    exact if_pos ⟨named, entry.hash_isHex⟩

/-! ## Whose digest it is -/

/-- A line that lists a file as `sha256sum` does: its digest, blanks and possibly an asterisk, and then
its name up to the end of the line. The name may be given in the current directory. -/
def Lists (artifact hash line : List Char) : Prop :=
  ∃ gap mark file, line = hash ++ (gap ++ (mark ++ file)) ∧ isHex hash = true ∧
    (Blank gap ∧ gap ≠ []) ∧ (mark = [] ∨ mark = ['*']) ∧
    (file = artifact ∨ file = ['.', '/'] ++ artifact)

/-- A document that gives a digest for an artifact: the digest alone, or a line that lists the
artifact. -/
def Attests (contents artifact digest : String) : Prop :=
  (∃ only, words contents.toList = [only] ∧ digest = Text.lower (String.ofList only)) ∨
    ∃ line ∈ lines contents.toList, ∃ hash, Lists artifact.toList hash line ∧
      digest = Text.lower (String.ofList hash)

namespace Entry

theorem IsProper.lists {entry : Entry artifact} (proper : entry.IsProper) :
    Lists artifact entry.hash entry.text := by
  have marks : List.replicate entry.stars '*' = [] ∨ List.replicate entry.stars '*' = ['*'] := by
    rcases Nat.le_one_iff_eq_zero_or_eq_one.mp proper.stars with none_ | one
    · exact .inl (by rw [none_]; rfl)
    · exact .inr (by rw [one]; rfl)
  refine ⟨entry.gap, List.replicate entry.stars '*', here entry.count ++ artifact, ?_,
    entry.hash_isHex, ⟨entry.gap_blank, entry.gap_some⟩, marks, ?_⟩
  · rw [text, proper.lead, proper.rest, List.nil_append, List.append_nil, name,
      List.append_assoc]
  · rcases Nat.le_one_iff_eq_zero_or_eq_one.mp proper.count with none_ | one
    · exact .inl (by rw [none_]; rfl)
    · exact .inr (by rw [one]; rfl)

/-- Nothing stands before the digest when the line begins with a digest. -/
theorem lead_of_begins {entry : Entry artifact} {tail : List Char} (hex : isHex hash = true)
    (same : entry.text = hash ++ tail) : entry.lead = [] := by
  cases blanks : entry.lead with
  | nil => rfl
  | cons c lead =>
      have blank := entry.lead_blank c (blanks ▸ List.mem_cons_self)
      obtain ⟨d, digits, begins⟩ := List.exists_cons_of_ne_nil (isWord_of_isHex hex).some
      have solid := (isWord_of_isHex hex).solid d (begins ▸ List.mem_cons_self)
      rw [text, blanks, begins] at same
      obtain rfl := (List.cons.inj same).1
      cases blank.symm.trans solid

/-- How a line is read when it ends with a text without blanks. -/
theorem of_text {entry : Entry artifact} {gap tail : List Char} (hex : isHex hash = true)
    (blank : Blank gap) (apart : gap ≠ []) (solid : ∀ c ∈ tail, Text.isBlank c = false)
    (same : entry.text = hash ++ (gap ++ tail)) :
    hash = entry.hash ∧ tail = entry.name ∧ entry.rest = [] := by
  have lead := lead_of_begins hex same
  have parts := entry.words_text
  rw [same, Text.words_append_parted (isWord_of_isHex hex) (.of_blank blank apart tail),
    Text.words_append_of_blank blank] at parts
  obtain ⟨rfl, others⟩ := List.cons.inj parts
  have some_ : tail ≠ [] := by
    rintro rfl
    cases others
  have isWord : IsWord tail := ⟨some_, solid⟩
  rw [Text.words_of_isWord isWord] at others
  obtain ⟨rfl, -⟩ := List.cons.inj others
  refine ⟨rfl, rfl, ?_⟩
  rw [text, lead, List.nil_append, List.append_assoc, List.append_cancel_left_eq] at same
  -- the blanks in front are the same, and so nothing is left behind the name
  have gaps := congrArg (List.takeWhile Text.isBlank) same
  rw [Text.takeWhile_append_isWord entry.gap_blank isWord, ← List.append_nil entry.name,
    Text.takeWhile_append_isWord blank isWord] at gaps
  rw [gaps, List.append_cancel_left_eq] at same
  simpa using same

theorem isBlank_of_mem_here {count : Nat} (listed : c ∈ here count) : Text.isBlank c = false := by
  induction count with
  | zero => cases listed
  | succ count ih =>
      rcases List.mem_cons.mp listed with rfl | later
      · decide
      · rcases List.mem_cons.mp later with rfl | later
        · decide
        · exact ih later

/-- The asterisks are counted, and so is how often the current directory is given. -/
theorem count_star_marks (stars count : Nat) :
    (List.replicate stars '*' ++ here count).count '*' = stars := by
  have none_ : (here count).count '*' = 0 := by
    induction count with
    | zero => rfl
    | succ count ih => simpa [here] using ih
  rw [List.count_append, List.count_replicate_self, none_, Nat.add_zero]

/-- A line that can be read as an entry lists the artifact when the entry is a proper one. -/
theorem lists_iff (entry : Entry artifact) :
    Lists artifact hash entry.text ↔ hash = entry.hash ∧ entry.IsProper := by
  constructor
  · rintro ⟨gap, mark, file, same, hex, ⟨blank, some_⟩, marked, located⟩
    obtain ⟨stars, single, rfl⟩ : ∃ stars ≤ 1, mark = List.replicate stars '*' := by
      rcases marked with rfl | rfl
      · exact ⟨0, Nat.zero_le 1, rfl⟩
      · exact ⟨1, Nat.le_refl 1, rfl⟩
    obtain ⟨often, once, rfl⟩ : ∃ often ≤ 1, file = here often ++ artifact := by
      rcases located with rfl | rfl
      · exact ⟨0, Nat.zero_le 1, rfl⟩
      · exact ⟨1, Nat.le_refl 1, rfl⟩
    have solid : ∀ c ∈ List.replicate stars '*' ++ (here often ++ artifact),
        Text.isBlank c = false := by
      intro c listed
      rcases List.mem_append.mp listed with star | listed
      · rw [List.eq_of_mem_replicate star]
        decide
      · rcases List.mem_append.mp listed with dot | own
        · exact isBlank_of_mem_here dot
        · exact entry.isWord.solid c (List.mem_append_right _ own)
    obtain ⟨rfl, named, rest⟩ := of_text hex blank some_ solid same
    rw [name, ← List.append_assoc, List.append_cancel_right_eq] at named
    have equal := congrArg (List.count '*') named
    have length := congrArg List.length named
    simp only [count_star_marks] at equal
    simp only [List.length_append, List.length_replicate, length_here] at length
    exact ⟨rfl, lead_of_begins hex same, by omega, by omega, rest⟩
  · rintro ⟨rfl, proper⟩
    exact proper.lists

end Entry

/-! ## What a document gives -/

theorem isCanonical_of_entry (entry : Entry artifact) :
    isCanonical (Text.lower (String.ofList entry.hash)) = true := by
  refine isCanonical_lower ?_
  rw [isHexText, String.toList_ofList]
  exact entry.hash_isHex

/-- A document gives the bare digest that it consists of, or that of a line which can be read as an
entry. -/
theorem ofDocument?_eq_some {contents artifact digest : String}
    (found : ofDocument? contents artifact = some digest) :
    (∃ only, words contents.toList = [only] ∧ isHex only = true ∧
        digest = Text.lower (String.ofList only)) ∨
      ∃ entry : Entry artifact.toList, entry.text ∈ lines contents.toList ∧
        digest = Text.lower (String.ofList entry.hash) := by
  have inLines (hash : List Char)
      (given : (lines contents.toList).findSome? (inLine? artifact.toList) = some hash) :
      ∃ entry : Entry artifact.toList, entry.text ∈ lines contents.toList ∧ entry.hash = hash := by
    obtain ⟨line, listed, read⟩ := List.exists_of_findSome?_eq_some given
    obtain ⟨entry, rfl, rfl⟩ := inLine?_eq_some_iff.mp read
    exact ⟨entry, listed, rfl⟩
  obtain ⟨hash, given, rfl⟩ := Option.map_eq_some_iff.mp found
  split at given
  · rename_i only bare
    obtain rfl := Option.some.inj given
    split at bare
    · rename_i word parts
      split at bare
      · rename_i hex
        obtain rfl := Option.some.inj bare
        exact .inl ⟨_, parts, hex, rfl⟩
      · cases bare
    · cases bare
  · obtain ⟨entry, listed, rfl⟩ := inLines hash given
    exact .inr ⟨entry, listed, rfl⟩

/-- A document of several words is read line by line. -/
theorem ofDocument?_of_several {contents : String} (several : 2 ≤ (words contents.toList).length)
    (artifact : String) :
    ofDocument? contents artifact =
      ((lines contents.toList).findSome? (inLine? artifact.toList)).map fun hash =>
        Text.lower (String.ofList hash) := by
  rw [ofDocument?]
  cases parts : words contents.toList with
  | nil => rfl
  | cons first others =>
      cases others with
      | nil =>
          rw [parts] at several
          cases several with
          | step never => cases never
      | cons second others => rfl

/-- A document of one line gives the digest of the entry it can be read as. -/
theorem Entry.ofDocument?_text (entry : Entry artifact) (flat : '\n' ∉ entry.text) :
    ofDocument? (String.ofList entry.text) (String.ofList artifact) =
      some (Text.lower (String.ofList entry.hash)) := by
  have read : inLine? artifact entry.text = some entry.hash :=
    inLine?_eq_some_iff.mpr ⟨entry, rfl, rfl⟩
  have several : 2 ≤ (words (String.ofList entry.text).toList).length := by
    rw [String.toList_ofList, entry.words_text]
    exact Nat.le_add_left 2 _
  simp only [ofDocument?_of_several several, String.toList_ofList,
    Text.lines_of_flat flat entry.text_ne_nil, List.findSome?_singleton, read, Option.map_some]

/-- Such a document gives the artifact's own digest when the entry is a proper one. -/
theorem Entry.attests_text_iff (entry : Entry artifact) (flat : '\n' ∉ entry.text) :
    Attests (String.ofList entry.text) (String.ofList artifact)
      (Text.lower (String.ofList entry.hash)) ↔ entry.IsProper := by
  simp only [Attests, String.toList_ofList, entry.words_text,
    Text.lines_of_flat flat entry.text_ne_nil,
    List.mem_singleton, exists_eq_left]
  constructor
  · rintro (⟨only, parts, -⟩ | ⟨hash, lists, -⟩)
    · cases parts
    · exact (entry.lists_iff.mp lists).2
  · exact fun proper => .inr ⟨entry.hash, proper.lists, rfl⟩

/-- What a checksum document tells of an artifact. A digest that it gives is canonical, and the document
attests it by the bare digest or by a line that lists the artifact, unless it comes from a line that can
be read as an entry for the artifact but is no proper one. Each such line is a document that gives its
digest and does not attest it: with another column behind the name, for one, it lists another file. -/
theorem ofDocument_attests (artifact : String) :
    (∀ contents digest, ofDocument? contents artifact = some digest →
      isCanonical digest = true ∧
        (Attests contents artifact digest ∨
          ∃ entry : Entry artifact.toList, entry.text ∈ lines contents.toList ∧
            digest = Text.lower (String.ofList entry.hash) ∧ ¬ entry.IsProper)) ∧
      ∀ entry : Entry artifact.toList, '\n' ∉ entry.text →
        let contents := String.ofList entry.text
        let digest := Text.lower (String.ofList entry.hash)
        ofDocument? contents artifact = some digest ∧
          (Attests contents artifact digest ↔ entry.IsProper) := by
  constructor
  · intro contents digest found
    rcases ofDocument?_eq_some found with ⟨only, parts, hex, rfl⟩ | ⟨entry, listed, rfl⟩
    · refine ⟨isCanonical_lower ?_, .inl (.inl ⟨only, parts, rfl⟩)⟩
      rw [isHexText, String.toList_ofList]
      exact hex
    · refine ⟨isCanonical_of_entry entry, ?_⟩
      by_cases proper : entry.IsProper
      · exact .inl (.inr ⟨_, listed, _, proper.lists, rfl⟩)
      · exact .inr ⟨entry, listed, rfl, proper⟩
  · intro entry flat contents digest
    have given := entry.ofDocument?_text flat
    have attested := entry.attests_text_iff flat
    rw [String.ofList_toList] at given attested
    exact ⟨given, attested⟩

/-- Sixty-four digits. -/
def digits : List Char := List.replicate 64 'B'

theorem isHex_digits : isHex digits = true := by decide

/-- An entry with both marks. -/
def markedEntry : Entry "app.apk".toList where
  lead := []
  hash := digits
  gap := [' ']
  stars := 1
  count := 1
  rest := []
  lead_blank := nofun
  hash_isHex := isHex_digits
  gap_blank := by decide
  gap_some := by decide
  isWord := by decide
  parted := nofun
  bare := by decide
  unmarked := nofun

/-- The line of another file, whose name goes on behind a blank. -/
def otherEntry : Entry "app.apk".toList where
  lead := []
  hash := digits
  gap := [' ', ' ']
  stars := 0
  count := 0
  rest := " (old)".toList
  lead_blank := nofun
  hash_isHex := isHex_digits
  gap_blank := by decide
  gap_some := by decide
  isWord := by decide
  parted := by
    intro c first
    cases first
    decide
  bare := by decide
  unmarked := by decide

/-- The digest of an artifact is read from its own entry, marks and all. -/
theorem ofDocument_attests_marked :
    ofDocument? (String.ofList markedEntry.text) "app.apk" =
        some (Text.lower (String.ofList digits)) ∧
      isCanonical (Text.lower (String.ofList digits)) = true ∧
      Attests (String.ofList markedEntry.text) "app.apk" (Text.lower (String.ofList digits)) := by
  obtain ⟨sound, alone⟩ := ofDocument_attests "app.apk"
  obtain ⟨given, attested⟩ := alone markedEntry (by decide)
  refine ⟨given, (sound _ _ given).1, attested.mpr ⟨rfl, ?_, ?_, rfl⟩⟩
  · exact Nat.le_refl 1
  · exact Nat.le_refl 1

/-- The digest of another file is taken for that of the artifact. -/
theorem foreign_digest_given :
    let contents := String.ofList digits ++ "  app.apk (old)"
    let digest := Text.lower (String.ofList digits)
    (∃ line ∈ lines contents.toList, Lists "app.apk (old)".toList digits line) ∧
      ofDocument? contents "app.apk" = some digest ∧ ¬ Attests contents "app.apk" digest := by
  have flat : '\n' ∉ otherEntry.text := by decide
  have same : String.ofList digits ++ "  app.apk (old)" = String.ofList otherEntry.text := by decide
  have given := otherEntry.ofDocument?_text flat
  have attested := otherEntry.attests_text_iff flat
  rw [String.ofList_toList, ← same] at given attested
  refine ⟨⟨otherEntry.text, ?_, ?_⟩, given, ?_⟩
  · rw [same, String.toList_ofList, Text.lines_of_flat flat otherEntry.text_ne_nil]
    exact List.mem_singleton_self _
  · refine ⟨[' ', ' '], [], "app.apk (old)".toList, ?_, ?_, ?_, .inl rfl, .inl rfl⟩
    · decide
    · decide
    · decide
  · intro attests
    cases (attested.mp attests).rest

end SelfUpdate.Checksum
