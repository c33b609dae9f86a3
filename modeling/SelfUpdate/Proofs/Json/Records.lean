import SelfUpdate.Json.Record
import SelfUpdate.Proofs.Json.Layouts

/-!
# Records in JSON text

A record of scalars that was written in the compact or in the indented form is read back with all its
members, in the order in which they were written.
-/

namespace SelfUpdate.Json

variable {shape : Shape} {field : Field} {key : String} {value : Value} {members read : Members}
variable {text rest : List Char} {fuel : Nat} {first : Bool} {layout : Layout}

/-! ## The reading -/

/-- Members that can be told exactly and that their fields accept, no two with the same key. -/
structure Shape.Holds (shape : Shape) (members : Members) : Prop where
  exact : ∀ member ∈ members, member.2.Exact
  known : ∀ member ∈ members, ∃ field, shape.field? member.1 = some field ∧
    field.test member.2 = .ok ()
  distinct : (members.map Prod.fst).Nodup

theorem has_eq_false (new : key ∉ members.map Prod.fst) : Members.has members key = false := by
  have absent : members.find? (fun member => member.1 == key) = none := by
    rw [List.find?_eq_none]
    intro member among same
    exact new (List.mem_map.mpr ⟨member, among, eq_of_beq same⟩)
  rw [Members.has, Members.get?, absent]
  rfl

theorem readField_scalarText (exact : value.Exact) (passes : field.test value = .ok ())
    (ends : Ends rest) :
    Shape.readField field (layout.behind ++ (value.scalarText ++ rest)) = .ok (value, rest) := by
  obtain ⟨c, more, skipped, list, object, scalar⟩ := layout.readScalar_behind exact ends
  unfold Shape.readField
  rw [skipped]
  simp only
  split
  · rename_i same
    cases same
    exact absurd rfl list
  · rename_i same
    cases same
    exact absurd rfl object
  · rw [scalar, ok_bind]
    simp only [passes, pure_eq_ok]

/-- A member of which the opening quote was read is put before those read so far. -/
theorem readFieldsWithin_member (known : shape.field? key = some field)
    (passes : field.test value = .ok ()) (exact : value.Exact)
    (new : Members.has read key = false) (ends : Ends rest)
    (next : nextKey first text = .ok (.key (key.toList.flatMap escapeChar ++
      '"' :: ':' :: (layout.behind ++ (value.scalarText ++ rest))))) :
    shape.readFieldsWithin (fuel + 1) first read text =
      shape.readFieldsWithin fuel false ((key, value) :: read) rest := by
  have colon : readColon (':' :: (layout.behind ++ (value.scalarText ++ rest))) =
      .ok (layout.behind ++ (value.scalarText ++ rest)) := rfl
  have content : Shape.readField field (layout.behind ++ (value.scalarText ++ rest)) =
      .ok (value, rest) := readField_scalarText exact passes ends
  rw [Shape.readFieldsWithin, next, ok_bind]
  simp only [readString_escaped, ok_bind, known, new, Bool.false_eq_true, if_false, colon, content]

/-- The further members of a record are read, each behind a comma. -/
theorem readFieldsWithin_furtherText (enough : members.length < fuel)
    (holds : shape.Holds (read.reverse ++ members)) :
    shape.readFieldsWithin fuel false read (layout.furtherText members rest) =
      .ok (read.reverse ++ members, rest) := by
  induction members generalizing fuel read with
  | nil =>
      obtain ⟨fuel, rfl⟩ := Nat.exists_eq_succ_of_ne_zero (Nat.ne_of_gt enough)
      rw [List.append_nil, Layout.furtherText, List.flatMap_nil, List.nil_append,
        Shape.readFieldsWithin, layout.nextKey_last]
      rfl
  | cons member members ih =>
      obtain ⟨fuel, rfl⟩ := Nat.exists_eq_succ_of_ne_zero (Nat.ne_of_gt (Nat.zero_lt_of_lt enough))
      have shifted : read.reverse ++ member :: members = (member :: read).reverse ++ members := by
        rw [List.reverse_cons, List.append_assoc, List.singleton_append]
      have among : member ∈ read.reverse ++ member :: members :=
        List.mem_append_right _ List.mem_cons_self
      obtain ⟨field, known, passes⟩ := holds.known member among
      have apart := holds.distinct
      rw [List.map_append, List.map_cons, List.nodup_append] at apart
      have new : Members.has read member.1 = false := has_eq_false fun old =>
        apart.2.2 _ (by rwa [List.map_reverse, List.mem_reverse]) _ List.mem_cons_self rfl
      rw [layout.furtherText_cons, layout.memberText_append]
      rw [readFieldsWithin_member known passes (holds.exact member among) new
        (layout.ends_furtherText members rest) (layout.nextKey_further _), shifted]
      rw [shifted] at holds
      exact ih (Nat.lt_of_succ_lt_succ enough) holds

/-- The members of a record are read, in whatever layout they stand. -/
theorem readRecord_objectText {α : Type} {build : Members → Except Cause α} {record : α}
    {member : String × Value} (holds : shape.Holds (member :: members))
    (built : build (member :: members) = .ok record) :
    shape.readRecord build (layout.objectText member members rest) = .ok (record, rest) := by
  obtain ⟨field, known, passes⟩ := holds.known member List.mem_cons_self
  have opened (inner : List Char) : skipSpace ('\x7b' :: inner) = '\x7b' :: inner := rfl
  have fields : shape.readFieldsWithin
      ((layout.before ++ (layout.memberText member ++ layout.furtherText members rest)).length + 1)
      true [] (layout.before ++ (layout.memberText member ++ layout.furtherText members rest)) =
        .ok (member :: members, rest) := by
    have enough : members.length <
        (layout.before ++ (layout.memberText member ++ layout.furtherText members rest)).length := by
      have long := layout.length_le_furtherText members rest
      rw [Layout.memberText]
      simp only [List.length_append, List.length_cons]
      omega
    generalize (layout.before ++ (layout.memberText member ++
      layout.furtherText members rest)).length = fuel at enough
    rw [layout.memberText_append]
    rw [readFieldsWithin_member known passes (holds.exact member List.mem_cons_self) rfl
      (layout.ends_furtherText members rest) (layout.nextKey_first _)]
    exact readFieldsWithin_furtherText enough holds
  rw [Shape.readRecord, Layout.objectText, opened]
  simp only [fields, ok_bind, built]

variable {α β : Type} {build : Members → Except Cause α} {accept : α → Except String β}
  {record : α} {accepted : β}

/-- A record without members is read at once. -/
theorem readRecord_empty (built : build [] = .ok record) :
    shape.readRecord build ('\x7b' :: '\x7d' :: rest) = .ok (record, rest) := by
  have fields : shape.readFieldsWithin (('\x7d' :: rest).length + 1) true [] ('\x7d' :: rest) =
      .ok ([], rest) := rfl
  have opened : skipSpace ('\x7b' :: '\x7d' :: rest) = '\x7b' :: '\x7d' :: rest := rfl
  rw [Shape.readRecord, opened]
  simp only [fields, ok_bind, built]

/-- A text of which a record is read to the end is that record. -/
theorem parse_of_readRecord {chars : List Char}
    (read : shape.readRecord build chars = .ok (record, []))
    (fine : accept record = .ok accepted) :
    shape.parse build accept (String.ofList chars) = .ok accepted := by
  rw [Shape.parse, String.toList_ofList, read]
  simp only [fine]
  rfl

/-- A record of scalars that was written in the compact form is read back. -/
theorem parse_compact (holds : shape.Holds members) (built : build members = .ok record)
    (fine : accept record = .ok accepted) :
    shape.parse build accept (Value.object members).compact = .ok accepted := by
  refine parse_of_readRecord ?_ fine
  rw [← List.append_nil (Value.compactChars _)]
  cases members with
  | nil =>
      rw [Value.compactChars]
      exact readRecord_empty built
  | cons member members =>
      rw [compactChars_object holds.exact]
      exact readRecord_objectText holds built

/-- A record of scalars that was written in the indented form is read back. -/
theorem parse_indented (holds : shape.Holds members) (built : build members = .ok record)
    (fine : accept record = .ok accepted) :
    shape.parse build accept (Value.object members).indented = .ok accepted := by
  refine parse_of_readRecord ?_ fine
  rw [← List.append_nil (Value.indentedChars _ _)]
  cases members with
  | nil =>
      rw [Value.indentedChars]
      exact readRecord_empty built
  | cons member members =>
      rw [indentedChars_object holds.exact]
      exact readRecord_objectText holds built

end SelfUpdate.Json
