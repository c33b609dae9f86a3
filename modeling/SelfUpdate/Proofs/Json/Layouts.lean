import SelfUpdate.Proofs.Json.Scalars

/-!
# The text of an object

An object of scalars is written in the compact or in the indented form. The two differ only in the
blanks between the members, and a reader passes over these.
-/

namespace SelfUpdate.Json

variable {value : Value} {members : Members} {rest gap : List Char} {c : Char} {depth : Nat}

/-! ## Blanks -/

theorem skipSpace_append (blank : ∀ c ∈ gap, isSpace c = true) (solid : isSpace c = false) :
    skipSpace (gap ++ c :: rest) = c :: rest := by
  rw [skipSpace, List.dropWhile_append_of_pos blank, List.dropWhile_cons,
    if_neg (by simp [solid])]

theorem isSpace_of_mem_lineStart (listed : c ∈ lineStart depth) : isSpace c = true := by
  rcases List.mem_cons.mp listed with rfl | spaces
  · rfl
  · rw [List.eq_of_mem_replicate spaces]
    rfl

/-- A blank does not carry a number on. -/
theorem ends_of_isSpace (blank : isSpace c = true) : Ends (c :: rest) := by
  intro other head
  cases head
  rw [isSpace, Bool.or_eq_true, Bool.or_eq_true, Bool.or_eq_true] at blank
  simp only [beq_iff_eq] at blank
  rcases blank with ((rfl | rfl) | rfl) | rfl
  · decide
  · decide
  · decide
  · decide

/-! ## Layouts -/

/-- The blanks in the text of an object: those before each member, behind each colon and before the
closing brace. -/
structure Layout where
  before : List Char
  behind : List Char
  last : List Char
  before_blank : ∀ c ∈ before, isSpace c = true
  behind_blank : ∀ c ∈ behind, isSpace c = true
  last_blank : ∀ c ∈ last, isSpace c = true

namespace Layout

def compact : Layout := ⟨[], [], [], nofun, nofun, nofun⟩

def indented : Layout where
  before := lineStart 1
  behind := [' ']
  last := lineStart 0
  before_blank _ := isSpace_of_mem_lineStart
  behind_blank := List.forall_mem_singleton.mpr rfl
  last_blank _ := isSpace_of_mem_lineStart

variable (layout : Layout)

/-- A member as it stands in an object. -/
def memberText (member : String × Value) : List Char :=
  stringText member.1 ++ ':' :: (layout.behind ++ member.2.scalarText)

/-- The members that follow others, and the end of the object. -/
def furtherText (members : Members) (rest : List Char) : List Char :=
  members.flatMap (fun member => ',' :: (layout.before ++ layout.memberText member)) ++
    (layout.last ++ '\x7d' :: rest)

/-- An object with a member, and what stands behind it. -/
def objectText (member : String × Value) (members : Members) (rest : List Char) : List Char :=
  '\x7b' :: (layout.before ++ (layout.memberText member ++ layout.furtherText members rest))

theorem memberText_append (member : String × Value) (rest : List Char) :
    layout.memberText member ++ rest =
      '"' :: (member.1.toList.flatMap escapeChar ++
        '"' :: ':' :: (layout.behind ++ (member.2.scalarText ++ rest))) := by
  simp only [memberText, stringText, List.append_assoc, List.cons_append, List.nil_append]

/-- Behind a colon the text of a scalar is read, which does not begin with a bracket. -/
theorem readScalar_behind (exact : value.Exact) (ends : Ends rest) :
    ∃ c more, skipSpace (layout.behind ++ (value.scalarText ++ rest)) = c :: more ∧
      c ≠ '[' ∧ c ≠ '\x7b' ∧ readScalar (c :: more) = .ok (value, rest) := by
  obtain ⟨c, more, begins, solid, list, object⟩ := scalarText_eq_cons exact
  have scalar := readScalar_scalarText exact ends
  rw [begins, List.cons_append] at scalar
  refine ⟨c, more ++ rest, ?_, list, object, scalar⟩
  rw [begins, List.cons_append, skipSpace_append layout.behind_blank solid]

theorem furtherText_cons (member : String × Value) (members : Members) (rest : List Char) :
    layout.furtherText (member :: members) rest =
      ',' :: (layout.before ++ (layout.memberText member ++ layout.furtherText members rest)) := by
  simp only [furtherText, List.flatMap_cons, List.append_assoc, List.cons_append]

theorem length_le_furtherText (members : Members) (rest : List Char) :
    members.length ≤ (layout.furtherText members rest).length := by
  induction members with
  | nil => exact Nat.zero_le _
  | cons member members ih =>
      rw [furtherText_cons]
      simp only [List.length_append, List.length_cons]
      omega

theorem ends_furtherText (members : Members) (rest : List Char) :
    Ends (layout.furtherText members rest) := by
  cases members with
  | cons member members =>
      rw [furtherText_cons]
      intro c head
      cases head
      decide
  | nil =>
      rw [furtherText, List.flatMap_nil, List.nil_append]
      cases last : layout.last with
      | nil =>
          intro c head
          cases head
          decide
      | cons blank more =>
          exact ends_of_isSpace (layout.last_blank blank (last ▸ List.mem_cons_self))

/-! ### What comes next -/

theorem nextKey_first (text : List Char) :
    nextKey true (layout.before ++ '"' :: text) = .ok (.key text) := by
  rw [nextKey, skipSpace_append layout.before_blank (by decide)]
  rfl

theorem nextKey_comma (rest : List Char) :
    nextKey false (',' :: rest) =
      match skipSpace rest with
      | [] => .error (.next .endInValue [])
      | '"' :: rest => .ok (.key rest)
      | '\x7d' :: rest => .error (.next .trailingComma ('\x7d' :: rest))
      | rest => .error (.next .keyNotString rest) := rfl

theorem nextKey_further (text : List Char) :
    nextKey false (',' :: (layout.before ++ '"' :: text)) = .ok (.key text) := by
  rw [nextKey_comma, skipSpace_append layout.before_blank (by decide)]
  rfl

theorem nextKey_last (first : Bool) (rest : List Char) :
    nextKey first (layout.last ++ '\x7d' :: rest) = .ok (.done rest) := by
  rw [nextKey, skipSpace_append layout.last_blank (by decide)]
  rfl

end Layout

/-! ## Writing -/

theorem compactChars_exact (exact : value.Exact) : value.compactChars = value.scalarText := by
  cases exact <;> rw [Value.compactChars] <;> nofun

theorem indentedChars_exact (exact : value.Exact) :
    value.indentedChars depth = value.scalarText := by
  cases exact <;> rw [Value.indentedChars] <;> nofun

theorem separated_cons (separator text : List Char) (more : List (List Char)) :
    separated separator (text :: more) = text ++ more.flatMap (separator ++ ·) := by
  induction more generalizing text with
  | nil => simp [separated]
  | cons next more ih =>
      rw [separated, ih, List.flatMap_cons, List.append_assoc, List.append_assoc]
      nofun

theorem membersCompact_exact (exact : ∀ member ∈ members, member.2.Exact) :
    membersCompact members = members.map Layout.compact.memberText := by
  induction members with
  | nil => rfl
  | cons member members ih =>
      rw [membersCompact, ih fun m among => exact m (List.mem_cons_of_mem _ among),
        compactChars_exact (exact member List.mem_cons_self)]
      rfl

theorem membersIndented_exact (exact : ∀ member ∈ members, member.2.Exact) :
    membersIndented depth members = members.map Layout.indented.memberText := by
  induction members with
  | nil => rfl
  | cons member members ih =>
      rw [membersIndented, ih fun m among => exact m (List.mem_cons_of_mem _ among),
        indentedChars_exact (exact member List.mem_cons_self)]
      rfl

/-- The compact form of an object of scalars. -/
theorem compactChars_object {member : String × Value}
    (exact : ∀ other ∈ member :: members, other.2.Exact) :
    (Value.object (member :: members)).compactChars ++ rest =
      Layout.compact.objectText member members rest := by
  rw [Value.compactChars, membersCompact_exact exact, List.map_cons, separated_cons,
    List.flatMap_map, Layout.objectText, Layout.furtherText]
  simp only [Layout.compact, List.append_assoc, List.cons_append, List.nil_append]

/-- The indented form of an object of scalars. -/
theorem indentedChars_object {member : String × Value}
    (exact : ∀ other ∈ member :: members, other.2.Exact) :
    (Value.object (member :: members)).indentedChars 0 ++ rest =
      Layout.indented.objectText member members rest := by
  rw [Value.indentedChars, membersIndented_exact exact, List.map_cons, bracketed,
    List.isEmpty_cons, if_neg (by decide), separated_cons, List.flatMap_map, Layout.objectText,
    Layout.furtherText]
  simp only [Layout.indented, List.append_assoc, List.cons_append, List.nil_append, Nat.zero_add]

end SelfUpdate.Json
