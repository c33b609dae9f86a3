import Mathlib.Data.List.Sort
import SelfUpdate.Proofs.Json.Objects

/-!
# The order of what was read

The members of an object that was read are sorted by their keys, each key once, and so are those of
the objects inside.
-/

namespace SelfUpdate.Json

/-- Members in the order of their keys, each key once. -/
def Members.Sorted (members : Members) : Prop :=
  members.Pairwise fun one other => one.1 < other.1

namespace Members

variable {members : Members}

theorem Sorted.insert (sorted : members.Sorted) (key : String) (value : Value) :
    (Members.insert key value members).Sorted := by
  induction members with
  | nil => exact List.pairwise_singleton _ _
  | cons member members ih =>
      obtain ⟨k, old⟩ := member
      obtain ⟨least, rest⟩ := List.pairwise_cons.mp sorted
      rw [Members.insert]
      split
      · rename_i before
        refine List.pairwise_cons.mpr ⟨fun other listed => ?_, sorted⟩
        rcases List.mem_cons.mp listed with rfl | later
        · exact before
        · exact String.lt_trans before (least other later)
      · rename_i notBefore
        split
        · rename_i same
          subst same
          exact List.pairwise_cons.mpr ⟨least, rest⟩
        · rename_i differ
          have behind : k < key := by
            rcases Std.lt_trichotomy key k with before | same | behind
            · exact absurd before notBefore
            · exact absurd same differ
            · exact behind
          refine List.pairwise_cons.mpr ⟨fun other listed => ?_, ih rest⟩
          rcases mem_insert listed with rfl | earlier
          · exact behind
          · exact least other earlier

theorem sorted_foldl_insert {sorted : Members} (ordered : sorted.Sorted) (members : Members) :
    (members.foldl (fun sorted (key, value) => Members.insert key value sorted) sorted).Sorted := by
  induction members generalizing sorted with
  | nil => exact ordered
  | cons member members ih => exact ih (ordered.insert member.1 member.2)

theorem sorted_ofText (members : Members) : (ofText members).Sorted :=
  sorted_foldl_insert List.Pairwise.nil members

theorem Sorted.distinct (sorted : members.Sorted) : (members.map Prod.fst).Nodup := by
  rw [List.Nodup, List.pairwise_map]
  refine sorted.imp fun {one other} before same => ?_
  rw [same] at before
  exact String.lt_irrefl _ before

end Members

/-- A value in which the members of every object are sorted. -/
inductive Value.Sorted : Value → Prop where
  | scalar {value : Value} (list : ∀ items, value ≠ .array items)
      (object : ∀ members, value ≠ .object members) : Sorted value
  | array {items : List Value} (inside : ∀ item ∈ items, Sorted item) : Sorted (.array items)
  | object {members : Members} (sorted : members.Sorted)
      (inside : ∀ member ∈ members, Sorted member.2) : Sorted (.object members)

theorem sorted_of_map {α : Type} {first : Except Fault α} {form : α → Value × List Char}
    {value : Value} {rest : List Char} (sorted : ∀ a, (form a).1.Sorted)
    (read : first.map form = .ok (value, rest)) : value.Sorted := by
  obtain ⟨a, -, same⟩ := map_eq_ok_iff.mp read
  have told : (form a).1 = value := congrArg Prod.fst same
  exact told ▸ sorted a

theorem readScalar_sorted {text rest : List Char} {value : Value}
    (read : readScalar text = .ok (value, rest)) : value.Sorted := by
  unfold readScalar at read
  split at read
  · cases read
  · exact sorted_of_map (fun ⟨_, _⟩ => .scalar nofun nofun) read
  · exact sorted_of_map (fun ⟨_, _⟩ => .scalar nofun nofun) read
  · exact sorted_of_map (fun ⟨_, _⟩ => .scalar nofun nofun) read
  · exact sorted_of_map (fun ⟨_, _⟩ => .scalar nofun nofun) read
  · exact sorted_of_map (fun ⟨_, _⟩ => .scalar nofun nofun) read
  · split at read
    · exact sorted_of_map (fun ⟨_, _⟩ => .scalar nofun nofun) read
    · cases read

/-- What is read within some fuel is sorted. -/
structure SortedWithin (fuel : Nat) : Prop where
  value : ∀ {depth text value rest}, readValueWithin fuel depth text = .ok (value, rest) →
    value.Sorted
  items : ∀ {depth first read text items rest}, (∀ item ∈ read, Value.Sorted item) →
    readItemsWithin fuel depth first read text = .ok (items, rest) →
    ∀ item ∈ items, Value.Sorted item
  members : ∀ {depth first read text members rest}, (∀ member ∈ read, Value.Sorted member.2) →
    readMembersWithin fuel depth first read text = .ok (members, rest) →
    ∀ member ∈ members, Value.Sorted member.2

theorem sortedWithin (fuel : Nat) : SortedWithin fuel := by
  induction fuel with
  | zero =>
      refine ⟨fun read => ?_, fun _ read => ?_, fun _ read => ?_⟩
      · cases read
      · cases read
      · cases read
  | succ fuel ih =>
      refine ⟨fun read => ?_, fun sorted read => ?_, fun sorted read => ?_⟩
      · rw [readValueWithin] at read
        split at read
        · split at read
          · cases read
          · obtain ⟨⟨items, rest⟩, inside, same⟩ := bind_eq_ok_iff.mp read
            cases same
            exact .array (ih.items (List.forall_mem_nil _) inside)
        · split at read
          · cases read
          · obtain ⟨⟨members, rest⟩, inside, same⟩ := bind_eq_ok_iff.mp read
            cases same
            exact .object (Members.sorted_ofText members) fun member listed =>
              ih.members (List.forall_mem_nil _) inside member (Members.mem_of_mem_ofText listed)
        · exact readScalar_sorted read
      · rw [readItemsWithin] at read
        obtain ⟨next, -, read⟩ := bind_eq_ok_iff.mp read
        cases next with
        | done rest =>
            cases read
            exact fun item listed => sorted item (List.mem_reverse.mp listed)
        | item rest =>
            obtain ⟨⟨value, rest⟩, inside, more⟩ := bind_eq_ok_iff.mp read
            exact ih.items (List.forall_mem_cons.mpr ⟨ih.value inside, sorted⟩) more
      · rw [readMembersWithin] at read
        obtain ⟨next, -, read⟩ := bind_eq_ok_iff.mp read
        cases next with
        | done rest =>
            cases read
            exact fun member listed => sorted member (List.mem_reverse.mp listed)
        | key rest =>
            obtain ⟨⟨key, rest⟩, -, read⟩ := bind_eq_ok_iff.mp read
            obtain ⟨colon, -, read⟩ := bind_eq_ok_iff.mp read
            obtain ⟨⟨value, rest⟩, inside, more⟩ := bind_eq_ok_iff.mp read
            exact ih.members (List.forall_mem_cons.mpr ⟨ih.value inside, sorted⟩) more

/-- A text that is read is a sorted value. -/
theorem sorted_of_parse {text : String} {value : Value} (read : parse text = .ok value) :
    value.Sorted := by
  rw [parse] at read
  obtain ⟨⟨value, rest⟩, inside, ended⟩ := bind_eq_ok_iff.mp (mapError_eq_ok_iff.mp read)
  obtain ⟨_, -, same⟩ := bind_eq_ok_iff.mp ended
  cases same
  exact (sortedWithin _).value inside

end SelfUpdate.Json
