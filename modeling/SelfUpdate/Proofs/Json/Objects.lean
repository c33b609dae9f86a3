import SelfUpdate.Json.Record
import SelfUpdate.Proofs.Json.Layouts

/-!
# Objects in JSON text

An object of scalars that was written in the compact or in the indented form is read as a value: the
object of the same members, sorted by their keys.
-/

namespace SelfUpdate.Json

variable {key : String} {value : Value} {members read : Members} {text rest : List Char}
  {fuel depth : Nat} {first : Bool} {layout : Layout}

/-! ## The reading -/

theorem readValueWithin_scalarText (exact : value.Exact) (ends : Ends rest) :
    readValueWithin (fuel + 1) depth (layout.behind ++ (value.scalarText ++ rest)) =
      .ok (value, rest) := by
  obtain ⟨c, more, skipped, list, object, scalar⟩ := layout.readScalar_behind exact ends
  rw [readValueWithin, skipped]
  split
  · rename_i same
    cases same
    exact absurd rfl list
  · rename_i same
    cases same
    exact absurd rfl object
  · exact scalar

/-- A member of which the opening quote was read is put before those read so far. -/
theorem readMembersWithin_member (exact : value.Exact) (ends : Ends rest)
    (next : nextKey first text = .ok (.key (key.toList.flatMap escapeChar ++
      '"' :: ':' :: (layout.behind ++ (value.scalarText ++ rest))))) :
    readMembersWithin (fuel + 2) depth first read text =
      readMembersWithin (fuel + 1) depth false ((key, value) :: read) rest := by
  have colon : readColon (':' :: (layout.behind ++ (value.scalarText ++ rest))) =
      .ok (layout.behind ++ (value.scalarText ++ rest)) := rfl
  have content : readValueWithin (fuel + 1) depth (layout.behind ++ (value.scalarText ++ rest)) =
      .ok (value, rest) := readValueWithin_scalarText exact ends
  rw [readMembersWithin, next, ok_bind]
  simp only [readString_escaped, ok_bind, colon, content]

/-- The further members of an object are read, each behind a comma. -/
theorem readMembersWithin_furtherText (enough : members.length < fuel)
    (exact : ∀ member ∈ members, member.2.Exact) :
    readMembersWithin fuel depth false read (layout.furtherText members rest) =
      .ok (read.reverse ++ members, rest) := by
  induction members generalizing fuel read with
  | nil =>
      obtain ⟨fuel, rfl⟩ := Nat.exists_eq_succ_of_ne_zero (Nat.ne_of_gt enough)
      rw [List.append_nil, Layout.furtherText, List.flatMap_nil, List.nil_append,
        readMembersWithin, layout.nextKey_last]
      rfl
  | cons member members ih =>
      obtain ⟨fuel, rfl⟩ : ∃ more, fuel = more + 2 := ⟨fuel - 2, by
        rw [List.length_cons] at enough
        omega⟩
      rw [layout.furtherText_cons, layout.memberText_append]
      rw [readMembersWithin_member (exact member List.mem_cons_self)
        (layout.ends_furtherText members rest) (layout.nextKey_further _)]
      rw [ih (Nat.lt_of_succ_lt_succ enough) fun m among => exact m (List.mem_cons_of_mem _ among),
        List.reverse_cons, List.append_assoc, List.singleton_append]

/-- The members of an object are read, in whatever layout they stand. -/
theorem readValue_objectText {member : String × Value}
    (exact : ∀ other ∈ member :: members, other.2.Exact) :
    readValue (layout.objectText member members rest) =
      .ok (.object (Members.ofText (member :: members)), rest) := by
  generalize inside : layout.before ++ (layout.memberText member ++
    layout.furtherText members rest) = inner
  have long : members.length < inner.length := by
    have further := layout.length_le_furtherText members rest
    rw [← inside, Layout.memberText]
    simp only [List.length_append, List.length_cons]
    omega
  have fields (fuel depth : Nat) (enough : members.length < fuel) :
      readMembersWithin (fuel + 1) depth true [] inner = .ok (member :: members, rest) := by
    obtain ⟨fuel, rfl⟩ := Nat.exists_eq_succ_of_ne_zero (Nat.ne_of_gt (Nat.zero_lt_of_lt enough))
    rw [← inside, layout.memberText_append]
    rw [readMembersWithin_member (exact member List.mem_cons_self)
      (layout.ends_furtherText members rest) (layout.nextKey_first _)]
    exact readMembersWithin_furtherText enough fun m among => exact m (List.mem_cons_of_mem _ among)
  have opened : skipSpace ('\x7b' :: inner) = '\x7b' :: inner := rfl
  have shallow : ¬ greatestDepth ≤ 1 := by decide
  rw [Layout.objectText, inside, readValue, readValueWithin, opened]
  simp only [if_neg shallow, List.length_cons]
  rw [fields (2 * (inner.length + 1)) _ (by omega)]
  rfl

/-- A text of which a value is read to the end is that value. -/
theorem parse_of_readValue {chars : List Char} (read : readValue chars = .ok (value, [])) :
    parse (String.ofList chars) = .ok value := by
  rw [parse, String.toList_ofList, read]
  rfl

variable {member : String × Value}

/-- An object of scalars that was written in the compact form is read as that object. -/
theorem parse_compact_object (exact : ∀ other ∈ member :: members, other.2.Exact) :
    parse (Value.object (member :: members)).compact =
      .ok (.object (Members.ofText (member :: members))) := by
  refine parse_of_readValue ?_
  rw [← List.append_nil (Value.compactChars _), compactChars_object exact]
  exact readValue_objectText exact

/-- An object of scalars that was written in the indented form is read as that object. -/
theorem parse_indented_object (exact : ∀ other ∈ member :: members, other.2.Exact) :
    parse (Value.object (member :: members)).indented =
      .ok (.object (Members.ofText (member :: members))) := by
  refine parse_of_readValue ?_
  rw [← List.append_nil (Value.indentedChars _ _), indentedChars_object exact]
  exact readValue_objectText exact

/-! ## Sorted members -/

namespace Members

variable {k : String}

theorem get?_cons (members : Members) (k : String) (value : Value) (key : String) :
    get? ((k, value) :: members) key = if k = key then some value else get? members key := by
  by_cases same : k = key
  · rw [get?, List.find?_cons_of_pos (by simpa using same), if_pos same, Option.map_some]
  · rw [get?, List.find?_cons_of_neg (by simpa using same), if_neg same, get?]

/-- After an insertion the key has its new value, and the others have theirs. -/
theorem get?_insert (members : Members) (k : String) (value : Value) (key : String) :
    get? (insert k value members) key = if k = key then some value else get? members key := by
  induction members with
  | nil => exact get?_cons [] k value key
  | cons member members ih =>
      obtain ⟨other, old⟩ := member
      rw [insert]
      split
      · exact get?_cons _ k value key
      · split
        · rename_i same
          rw [get?_cons, get?_cons, same]
          split <;> rfl
        · rename_i differ
          rw [get?_cons, get?_cons, ih]
          by_cases first : other = key
          · rw [if_pos first, if_pos first, if_neg fun same => differ (same.trans first.symm)]
          · rw [if_neg first, if_neg first]

theorem mem_insert {members : Members} {member : String × Value}
    (listed : member ∈ insert k value members) : member = (k, value) ∨ member ∈ members := by
  induction members with
  | nil => exact .inl (List.mem_singleton.mp listed)
  | cons other members ih =>
      obtain ⟨other, old⟩ := other
      rw [insert] at listed
      split at listed
      · exact List.mem_cons.mp listed
      · split at listed
        · exact (List.mem_cons.mp listed).imp_right (List.mem_cons_of_mem _)
        · rcases List.mem_cons.mp listed with same | later
          · exact .inr (same ▸ List.mem_cons_self)
          · exact (ih later).imp_right (List.mem_cons_of_mem _)

theorem get?_foldl_insert (members sorted : Members) (key : String)
    (distinct : (members.map Prod.fst).Nodup) :
    get? (members.foldl (fun sorted (key, value) => insert key value sorted) sorted) key =
      (get? members key).or (get? sorted key) := by
  induction members generalizing sorted with
  | nil => rfl
  | cons member members ih =>
      obtain ⟨k, value⟩ := member
      rw [List.map_cons, List.nodup_cons] at distinct
      rw [List.foldl_cons, ih _ distinct.2, get?_insert, get?_cons]
      by_cases same : k = key
      · subst same
        have none_ : get? members k = none := by
          rw [get?, Option.map_eq_none_iff, List.find?_eq_none]
          intro other among equal
          exact distinct.1 (List.mem_map.mpr ⟨other, among, eq_of_beq equal⟩)
        simp [none_]
      · simp [same]

/-- Sorting members with different keys changes nothing that is found among them. -/
theorem get?_ofText (distinct : (members.map Prod.fst).Nodup) (key : String) :
    get? (ofText members) key = get? members key := by
  rw [ofText, get?_foldl_insert members [] key distinct]
  exact Option.or_none

theorem mem_foldl_insert {members sorted : Members} {member : String × Value}
    (listed : member ∈ members.foldl (fun sorted (key, value) => insert key value sorted) sorted) :
    member ∈ members ∨ member ∈ sorted := by
  induction members generalizing sorted with
  | nil => exact .inr listed
  | cons other members ih =>
      rcases ih listed with later | inserted
      · exact .inl (List.mem_cons_of_mem _ later)
      · rcases mem_insert inserted with same | earlier
        · exact .inl (same ▸ List.mem_cons_self)
        · exact .inr earlier

theorem mem_of_mem_ofText {member : String × Value} (listed : member ∈ ofText members) :
    member ∈ members :=
  (mem_foldl_insert listed).resolve_right List.not_mem_nil

theorem has_ofText (distinct : (members.map Prod.fst).Nodup) (key : String) :
    has (ofText members) key = has members key := by
  rw [has, has, get?_ofText distinct]

end Members

/-! ## Records from objects -/

namespace Shape

variable {α : Type} {shape : Shape} {build : Members → Except Cause α}

theorem ofMembers_known (known : ∀ member ∈ members, ∃ field, shape.field? member.1 = some field ∧
    field.test member.2 = .ok ()) : shape.ofMembers members = .ok members := by
  induction members with
  | nil => rfl
  | cons member members ih =>
      obtain ⟨field, found, passes⟩ := known member List.mem_cons_self
      rw [ofMembers, found]
      simp only [passes, ok_bind, ih fun m among => known m (List.mem_cons_of_mem _ among),
        pure_eq_ok]

/-- A record is built of the members of an object when its fields accept them all. -/
theorem decode_object (known : ∀ member ∈ members, ∃ field, shape.field? member.1 = some field ∧
    field.test member.2 = .ok ()) : shape.decode build (.object members) = build members := by
  rw [decode, ofMembers_known known, ok_bind]

end Shape

end SelfUpdate.Json
