import SelfUpdate.Proofs.Json.Fields
import SelfUpdate.Proofs.Json.Sorted

/-!
# What is decoded

A field decodes exactly the values of its kind, and a record exactly the objects whose members are
contents of its fields, in any order and whatever else there is.
-/

namespace SelfUpdate.Json

variable {α : Type}

/-! ## Contents -/

def IsString (value : Value) (s : String) : Prop := value = .string s

def IsBoolean (value : Value) (b : Bool) : Prop := value = .boolean b

def IsNatural32 (value : Value) (n : UInt32) : Prop := value = .ofNat n.toNat

def IsNatural64 (value : Value) (n : UInt64) : Prop := value = .ofNat n.toNat

def IsInteger64 (value : Value) (n : Int64) : Prop := value = .ofInt n.toInt

/-- A content, or null in place of one. -/
inductive OrNull (means : Value → α → Prop) : Value → Option α → Prop where
  | null : OrNull means .null none
  | given {value : Value} {a : α} (content : means value a) : OrNull means value (some a)

/-- A list of contents. -/
inductive IsList (means : Value → α → Prop) : Value → List α → Prop where
  | items {items : List Value} {contents : List α} (each : List.Forall₂ means items contents) :
      IsList means (.array items) contents

/-- A decoder accepts the values that mean something, as what they mean. -/
def Decodes (decode : Decoder α) (means : Value → α → Prop) : Prop :=
  ∀ value a, value.Sorted → (decode value = .ok a ↔ means value a)

theorem decodes_asString : Decodes asString IsString := by
  intro value s _
  cases value <;> simp [asString, IsString]

theorem decodes_asBoolean : Decodes asBoolean IsBoolean := by
  intro value b _
  cases value <;> simp [asBoolean, IsBoolean]

theorem asNatural_eq_ok_iff {bound n : Nat} {name : String} {value : Value} :
    asNatural bound name value = .ok n ↔ value = .ofNat n ∧ n < bound := by
  rcases value with _ | _ | (m | m | x) | _ | _ | _
  case number.natural =>
    rw [asNatural, Value.ofNat]
    split
    · rename_i small
      constructor
      · rintro ⟨⟩
        exact ⟨rfl, small⟩
      · rintro ⟨⟨⟩, -⟩
        rfl
    · rename_i large
      constructor
      · rintro ⟨⟩
      · rintro ⟨⟨⟩, small⟩
        exact absurd small large
  all_goals simp [asNatural, Value.ofNat]

theorem decodes_asNatural32 : Decodes asNatural32 IsNatural32 := by
  intro value n _
  rw [asNatural32, map_eq_ok_iff, IsNatural32]
  constructor
  · rintro ⟨m, read, rfl⟩
    obtain ⟨rfl, small⟩ := asNatural_eq_ok_iff.mp read
    rw [UInt32.toNat_ofNat_of_lt' small]
  · rintro rfl
    exact ⟨_, asNatural_eq_ok_iff.mpr ⟨rfl, n.toNat_lt⟩, UInt32.ofNat_toNat⟩

theorem decodes_asNatural64 : Decodes asNatural64 IsNatural64 := by
  intro value n _
  rw [asNatural64, map_eq_ok_iff, IsNatural64]
  constructor
  · rintro ⟨m, read, rfl⟩
    obtain ⟨rfl, small⟩ := asNatural_eq_ok_iff.mp read
    rw [UInt64.toNat_ofNat_of_lt' small]
  · rintro rfl
    exact ⟨_, asNatural_eq_ok_iff.mpr ⟨rfl, n.toNat_lt⟩, UInt64.ofNat_toNat⟩

theorem decodes_asInteger64 : Decodes asInteger64 IsInteger64 := by
  intro value n _
  constructor
  · intro read
    rcases value with _ | _ | (m | m | x) | _ | _ | _
    case number.natural =>
      rw [asInteger64] at read
      split at read
      · rename_i small
        obtain rfl := Except.ok.inj read
        rw [IsInteger64, Int64.toInt_ofInt_of_le (by omega) (by omega)]
        rfl
      · cases read
    case number.negative =>
      rw [asInteger64] at read
      split at read
      · rename_i small
        obtain rfl := Except.ok.inj read
        rw [IsInteger64, Int64.toInt_ofInt_of_le (by omega) (by omega)]
        rfl
      · cases read
    all_goals cases read
  · rintro rfl
    exact asInteger64_ofInt n

theorem Decodes.orNull {decode : Decoder α} {means : Value → α → Prop}
    (decodes : Decodes decode means) (solid : ∀ a, ¬ means .null a) :
    Decodes (orNull decode) (OrNull means) := by
  intro value o sorted
  by_cases null : value = .null
  · subst null
    constructor
    · rintro ⟨⟩
      exact .null
    · intro means
      cases means with
      | null => rfl
      | given content => exact absurd content (solid _)
  · have plain : Json.orNull decode value = (decode value).map some := by
      unfold Json.orNull
      split
      · exact absurd rfl null
      · rfl
    rw [plain, map_eq_ok_iff]
    constructor
    · rintro ⟨a, read, rfl⟩
      exact .given ((decodes value a sorted).mp read)
    · intro means
      cases means with
      | null => exact absurd rfl null
      | given content => exact ⟨_, (decodes value _ sorted).mpr content, rfl⟩

theorem decodes_stringOrNull : Decodes (orNull asString) (OrNull IsString) :=
  decodes_asString.orNull fun _ => nofun

theorem decodes_natural32OrNull : Decodes (orNull asNatural32) (OrNull IsNatural32) :=
  decodes_asNatural32.orNull fun _ => nofun

theorem decodes_integerOrNull : Decodes (orNull asInteger64) (OrNull IsInteger64) := by
  refine decodes_asInteger64.orNull fun n null => ?_
  have read := asInteger64_ofInt n
  rw [← show Value.null = _ from null] at read
  cases read

theorem mapM_eq_ok_iff {β ε : Type} {read : β → Except ε α} {items : List β} {contents : List α} :
    items.mapM read = .ok contents ↔
      List.Forall₂ (fun item content => read item = .ok content) items contents := by
  induction items generalizing contents with
  | nil =>
      rw [List.mapM_nil, List.forall₂_nil_left_iff]
      exact ⟨fun same => (Except.ok.inj same).symm, fun same => congrArg Except.ok same.symm⟩
  | cons item items ih =>
      rw [List.mapM_cons, bind_eq_ok_iff, List.forall₂_cons_left_iff]
      constructor
      · rintro ⟨content, first, more⟩
        obtain ⟨rest, others, same⟩ := bind_eq_ok_iff.mp more
        cases same
        exact ⟨content, rest, first, ih.mp others, rfl⟩
      · rintro ⟨content, rest, first, others, rfl⟩
        exact ⟨content, first, bind_eq_ok_iff.mpr ⟨rest, ih.mpr others, rfl⟩⟩

theorem Decodes.asList {decode : Decoder α} {means : Value → α → Prop}
    (decodes : Decodes decode means) : Decodes (asList decode) (IsList means) := by
  intro value contents sorted
  cases sorted with
  | scalar list _ =>
      constructor
      · intro read
        cases value with
        | array items => exact absurd rfl (list items)
        | _ => cases read
      · intro means
        cases means with
        | items => exact absurd rfl (list _)
  | object => exact ⟨nofun, nofun⟩
  | @array items inside =>
      have each : List.Forall₂ (fun item content => decode item = .ok content) items contents ↔
          List.Forall₂ means items contents := by
        induction items generalizing contents with
        | nil => simp
        | cons item items ih =>
            obtain ⟨first, others⟩ := List.forall_mem_cons.mp inside
            have rest := fun contents => ih contents others
            simp only [List.forall₂_cons_left_iff, decodes item _ first, rest]
      rw [Json.asList, mapM_eq_ok_iff, each]
      constructor
      · exact .items
      · rintro ⟨each⟩
        exact each

/-! ### Plain contents -/

/-- A decoder of values without brackets that can be told exactly. -/
def Plain (decode : Decoder α) : Prop := ∀ value a, decode value = .ok a → value.Exact

theorem plain_asString : Plain asString := by
  intro value s read
  cases value with
  | string s => exact .string s
  | _ => cases read

theorem plain_asBoolean : Plain asBoolean := by
  intro value b read
  cases value with
  | boolean b => exact .boolean b
  | _ => cases read

theorem plain_asNatural32 : Plain asNatural32 := by
  intro value n read
  obtain ⟨m, read, -⟩ := map_eq_ok_iff.mp read
  obtain ⟨rfl, small⟩ := asNatural_eq_ok_iff.mp read
  exact exact_ofNat (Nat.lt_trans small (by decide))

theorem plain_asNatural64 : Plain asNatural64 := by
  intro value n read
  obtain ⟨m, read, -⟩ := map_eq_ok_iff.mp read
  obtain ⟨rfl, small⟩ := asNatural_eq_ok_iff.mp read
  exact exact_ofNat small

theorem plain_asInteger64 : Plain asInteger64 := by
  intro value n read
  have scalar : value.Sorted := by
    cases value with
    | array items => cases read
    | object members => cases read
    | _ => exact .scalar nofun nofun
  rw [decodes_asInteger64 value n scalar] at read
  exact read ▸ exact_ofInt n

theorem Plain.orNull {decode : Decoder α} (plain : Plain decode) : Plain (orNull decode) := by
  intro value o read
  unfold Json.orNull at read
  split at read
  · exact .null
  · obtain ⟨a, read, -⟩ := map_eq_ok_iff.mp read
    exact plain value a read

theorem Plain.withDefault {decode : Decoder α} (plain : Plain decode) (key : String)
    (value : Value) (passes : (Field.withDefault key decode).test value = .ok ()) :
    value.Exact := by
  obtain ⟨a, read, -⟩ := map_eq_ok_iff.mp passes
  exact plain value a read

/-! ## Members -/

/-- Among entries of which each has a key of its own, the one with a key is found. -/
theorem find?_key_eq_some_iff {keyOf : α → String} {entries : List α} {key : String} {entry : α}
    (distinct : (entries.map keyOf).Nodup) :
    entries.find? (fun entry => keyOf entry == key) = some entry ↔
      entry ∈ entries ∧ keyOf entry = key := by
  constructor
  · intro found
    exact ⟨List.mem_of_find?_eq_some found, by simpa using List.find?_some found⟩
  · rintro ⟨listed, rfl⟩
    cases found : entries.find? (fun other => keyOf other == keyOf entry) with
    | none => simpa using List.find?_eq_none.mp found entry listed
    | some other =>
        have same : keyOf other = keyOf entry := by simpa using List.find?_some found
        rw [List.inj_on_of_nodup_map distinct (List.mem_of_find?_eq_some found) listed same]

namespace Members

variable {members : Members} {key : String} {means : Value → α → Prop} {decode : Decoder α} {a : α}
  {value : Value}

/-- There is a content under a key. -/
def Gives (members : Members) (key : String) (means : Value → α → Prop) (a : α) : Prop :=
  ∃ value, (key, value) ∈ members ∧ means value a

/-- There is nothing under a key. -/
def Lacks (members : Members) (key : String) : Prop := ∀ value, (key, value) ∉ members

/-- There is a content under a key, or nothing, and a default stands in for it. -/
def GivesOr (members : Members) (key : String) (means : Value → α → Prop) (default a : α) : Prop :=
  members.Lacks key ∧ a = default ∨ members.Gives key means a

theorem Gives.not_lacks (gives : members.Gives key means a) : ¬ members.Lacks key := by
  obtain ⟨value, listed, -⟩ := gives
  exact fun lacks => lacks value listed

/-- Members with a key each, whose values are sorted. -/
structure Proper (members : Members) : Prop where
  distinct : (members.map Prod.fst).Nodup
  inside : ∀ member ∈ members, Value.Sorted member.2

theorem get?_eq_some_iff (distinct : (members.map Prod.fst).Nodup) :
    members.get? key = some value ↔ (key, value) ∈ members := by
  rw [get?, Option.map_eq_some_iff]
  simp only [find?_key_eq_some_iff distinct]
  constructor
  · rintro ⟨member, ⟨listed, rfl⟩, rfl⟩
    exact listed
  · intro listed
    exact ⟨(key, value), ⟨listed, rfl⟩, rfl⟩

theorem get?_eq_none_iff : members.get? key = none ↔ members.Lacks key := by
  rw [get?, Option.map_eq_none_iff, List.find?_eq_none]
  constructor
  · intro absent value listed
    simpa using absent _ listed
  · rintro lacks ⟨k, v⟩ listed same
    obtain rfl := eq_of_beq same
    exact lacks v listed

/-- Sorting members with different keys loses none of them. -/
theorem mem_ofText_iff (distinct : (members.map Prod.fst).Nodup) :
    (key, value) ∈ ofText members ↔ (key, value) ∈ members := by
  rw [← get?_eq_some_iff (sorted_ofText members).distinct, get?_ofText distinct,
    get?_eq_some_iff distinct]

theorem has_eq_false_iff : members.has key = false ↔ members.Lacks key := by
  rw [has, Option.isSome_eq_false_iff, Option.isNone_iff_eq_none, get?_eq_none_iff]

theorem required_eq_ok_iff (proper : members.Proper) (decodes : Decodes decode means) :
    members.required key decode = .ok a ↔ members.Gives key means a := by
  rw [required]
  cases found : members.get? key with
  | none =>
      refine ⟨nofun, ?_⟩
      rintro ⟨value, listed, -⟩
      exact absurd listed (get?_eq_none_iff.mp found value)
  | some value =>
      have listed := (get?_eq_some_iff proper.distinct).mp found
      dsimp only
      rw [decodes value a (proper.inside _ listed)]
      constructor
      · exact fun content => ⟨value, listed, content⟩
      · rintro ⟨other, again, content⟩
        cases found.symm.trans ((get?_eq_some_iff proper.distinct).mpr again)
        exact content

theorem withDefault_eq_ok_iff (proper : members.Proper) (decodes : Decodes decode means)
    {default : α} :
    members.withDefault key decode default = .ok a ↔ members.GivesOr key means default a := by
  cases found : members.get? key with
  | none =>
      have lacks := get?_eq_none_iff.mp found
      rw [withDefault, found]
      constructor
      · rintro ⟨⟩
        exact .inl ⟨lacks, rfl⟩
      · rintro (⟨-, rfl⟩ | ⟨value, listed, -⟩)
        · rfl
        · exact absurd listed (lacks value)
  | some value =>
      have same : members.withDefault key decode default = members.required key decode := by
        rw [withDefault, required, found]
      rw [same, required_eq_ok_iff proper decodes]
      constructor
      · exact .inr
      · rintro (⟨lacks, -⟩ | gives)
        · exact absurd ((get?_eq_some_iff proper.distinct).mp found) (lacks value)
        · exact gives

end Members

/-! ## Records -/

@[simp] theorem Field.key_required (key : String) (decode : Decoder α) :
    (Field.required key decode).key = key := rfl

@[simp] theorem Field.key_withDefault (key : String) (decode : Decoder α) :
    (Field.withDefault key decode).key = key := rfl

namespace Shape

variable {shape : Shape} {build : Members → Except Cause α} {members known : Members} {record : α}

/-- Whether a shape has a field for a member. -/
def knows (shape : Shape) (member : String × Value) : Bool := (shape.field? member.1).isSome

/-- Every value under the key of a field passes the test of that field. -/
def Passes (shape : Shape) (members : Members) : Prop :=
  ∀ field ∈ shape.fields, ∀ value, (field.key, value) ∈ members → field.test value = .ok ()

/-- What a record is built from: the contents of its fields, all of them, and nothing else. -/
structure Builds (shape : Shape) (build : Members → Except Cause α) : Prop where
  keys : (shape.fields.map Field.key).Nodup
  congr : ∀ one other : Members,
    (∀ field ∈ shape.fields, one.get? field.key = other.get? field.key) → build one = build other
  passes : ∀ members record, members.Proper → build members = .ok record → shape.Passes members
  complete : ∀ members record, members.Proper → build members = .ok record →
    ∀ field ∈ shape.fields, field.optional = false → ¬ members.Lacks field.key

theorem field?_eq_some_iff {key : String} {field : Field}
    (keys : (shape.fields.map Field.key).Nodup) :
    shape.field? key = some field ↔ field ∈ shape.fields ∧ field.key = key :=
  find?_key_eq_some_iff keys

theorem passes_cons {key : String} {value : Value} :
    shape.Passes ((key, value) :: members) ↔
      (∀ field ∈ shape.fields, field.key = key → field.test value = .ok ()) ∧
        shape.Passes members := by
  constructor
  · intro passes
    refine ⟨fun field among same => ?_, fun field among other listed => ?_⟩
    · exact passes field among value (same ▸ List.mem_cons_self)
    · exact passes field among other (List.mem_cons_of_mem _ listed)
  · rintro ⟨first, others⟩ field among other listed
    rcases List.mem_cons.mp listed with same | later
    · cases same
      exact first field among rfl
    · exact others field among other later

theorem ofMembers_eq_ok_iff (keys : (shape.fields.map Field.key).Nodup) :
    shape.ofMembers members = .ok known ↔
      shape.Passes members ∧ known = members.filter shape.knows := by
  induction members generalizing known with
  | nil =>
      rw [ofMembers, Except.ok.injEq, List.filter_nil]
      have nothing : shape.Passes [] := fun _ _ value listed => absurd listed List.not_mem_nil
      exact ⟨fun same => ⟨nothing, same.symm⟩, fun passes => passes.2.symm⟩
  | cons member members ih =>
      obtain ⟨key, value⟩ := member
      rw [ofMembers, passes_cons]
      cases found : shape.field? key with
      | none =>
          have unknown : ¬ shape.knows (key, value) = true := by simp [knows, found]
          have free : ∀ field ∈ shape.fields, field.key = key → field.test value = .ok () := by
            intro field among same
            cases found.symm.trans ((field?_eq_some_iff keys).mpr ⟨among, same⟩)
          dsimp only
          rw [ih, List.filter_cons_of_neg unknown, and_iff_right free]
      | some field =>
          have among := (field?_eq_some_iff keys).mp found
          have only : (∀ other ∈ shape.fields, other.key = key → other.test value = .ok ()) ↔
              field.test value = .ok () := by
            constructor
            · exact fun all => all field among.1 among.2
            · intro passes other listed same
              cases found.symm.trans ((field?_eq_some_iff keys).mpr ⟨listed, same⟩)
              exact passes
          have told : shape.knows (key, value) = true := by simp [knows, found]
          dsimp only
          rw [only, List.filter_cons_of_pos told, bind_eq_ok_iff]
          constructor
          · rintro ⟨_, passes, rest⟩
            obtain ⟨more, others, same⟩ := bind_eq_ok_iff.mp rest
            cases same
            obtain ⟨pass, rfl⟩ := ih.mp others
            exact ⟨⟨passes, pass⟩, rfl⟩
          · rintro ⟨⟨passes, others⟩, rfl⟩
            exact ⟨(), passes, bind_eq_ok_iff.mpr ⟨_, ih.mpr ⟨others, rfl⟩, rfl⟩⟩

theorem get?_filter_knows (members : Members) {field : Field} (among : field ∈ shape.fields) :
    Members.get? (members.filter shape.knows) field.key = members.get? field.key := by
  have known : ∀ value, shape.knows (field.key, value) = true := by
    intro value
    rw [knows, field?, List.find?_isSome]
    exact ⟨field, among, beq_self_eq_true field.key⟩
  rw [Members.get?, Members.get?, List.find?_filter]
  congr 2
  funext member
  obtain ⟨key, value⟩ := member
  by_cases same : key = field.key
  · simp [same, known]
  · simp [same]

/-- A record is decoded from an object when it is built of the members. -/
theorem decode_object_eq_ok_iff (builds : shape.Builds build) (proper : members.Proper) :
    shape.decode build (.object members) = .ok record ↔ build members = .ok record := by
  have same : build (members.filter shape.knows) = build members :=
    builds.congr _ _ fun field among => get?_filter_knows members among
  rw [decode, bind_eq_ok_iff]
  constructor
  · rintro ⟨known, read, built⟩
    obtain ⟨-, rfl⟩ := (ofMembers_eq_ok_iff builds.keys).mp read
    rwa [same] at built
  · intro built
    refine ⟨members.filter shape.knows, ?_, same.trans built⟩
    exact (ofMembers_eq_ok_iff builds.keys).mpr ⟨builds.passes members record proper built, rfl⟩

theorem ofItems_eq_ok_iff {index : Nat} {fields : List Field} {items left : List Value} :
    shape.ofItems index fields items = .ok (members, left) ↔
      members = (fields.map Field.key).zip items ∧ left = items.drop fields.length ∧
      (∀ pair ∈ fields.zip items, pair.1.test pair.2 = .ok ()) ∧
      ∀ field ∈ fields.drop items.length, field.optional = true := by
  induction fields generalizing index items members left with
  | nil =>
      rw [ofItems, List.map_nil, List.zip_nil_left, List.length_nil, List.drop_zero,
        List.zip_nil_left, List.drop_nil]
      constructor
      · rintro ⟨⟩
        exact ⟨rfl, rfl, List.forall_mem_nil _, List.forall_mem_nil _⟩
      · rintro ⟨rfl, rfl, -, -⟩
        rfl
  | cons field fields ih =>
      cases items with
      | nil =>
          rw [ofItems]
          cases optional : field.optional with
          | false => simp [optional]
          | true => simp [ih, optional]
      | cons item items =>
          rw [ofItems, bind_eq_ok_iff]
          simp only [List.map_cons, List.zip_cons_cons, List.length_cons, List.drop_succ_cons,
            List.forall_mem_cons]
          constructor
          · rintro ⟨_, passes, rest⟩
            obtain ⟨⟨more, _⟩, others, same⟩ := bind_eq_ok_iff.mp rest
            cases same
            obtain ⟨rfl, rfl, tests, optional⟩ := ih.mp others
            exact ⟨rfl, rfl, ⟨passes, tests⟩, optional⟩
          · rintro ⟨rfl, rfl, ⟨passes, tests⟩, optional⟩
            exact ⟨(), passes, bind_eq_ok_iff.mpr
              ⟨(_, _), ih.mpr ⟨rfl, rfl, tests, optional⟩, rfl⟩⟩

theorem map_fst_zip_eq_take {β : Type} (first : List α) (second : List β) :
    (first.zip second).map Prod.fst = first.take second.length := by
  induction first generalizing second with
  | nil => simp
  | cons a first ih => cases second <;> simp [ih]

theorem Builds.proper_zip (builds : shape.Builds build) {items : List Value}
    (sorted : ∀ item ∈ items, Value.Sorted item) :
    Members.Proper ((shape.fields.map Field.key).zip items) := by
  constructor
  · rw [map_fst_zip_eq_take]
    exact builds.keys.sublist (List.take_sublist _ _)
  · intro member listed
    exact sorted member.2 (List.of_mem_zip listed).2

/-- A record is decoded from a list when it is built of the items under the keys of the fields. -/
theorem decode_array_eq_ok_iff (builds : shape.Builds build) {items : List Value}
    (sorted : ∀ item ∈ items, Value.Sorted item) :
    shape.decode build (.array items) = .ok record ↔
      items.length ≤ shape.fields.length ∧
        build ((shape.fields.map Field.key).zip items) = .ok record := by
  have proper := builds.proper_zip sorted
  rw [decode, bind_eq_ok_iff]
  constructor
  · rintro ⟨⟨members, left⟩, read, rest⟩
    obtain ⟨rfl, rfl, -, -⟩ := ofItems_eq_ok_iff.mp read
    obtain ⟨other, built, ended⟩ := bind_eq_ok_iff.mp rest
    split at ended
    · rename_i empty
      cases ended
      rw [List.isEmpty_iff, List.drop_eq_nil_iff] at empty
      exact ⟨empty, built⟩
    · cases ended
  · rintro ⟨short, built⟩
    have passes := builds.passes _ record proper built
    refine ⟨((shape.fields.map Field.key).zip items, []), ofItems_eq_ok_iff.mpr ?_, ?_⟩
    · refine ⟨rfl, (List.drop_eq_nil_of_le short).symm, fun pair listed => ?_, ?_⟩
      · refine passes pair.1 (List.of_mem_zip listed).1 pair.2 ?_
        rw [List.zip_map_left]
        exact List.mem_map.mpr ⟨pair, listed, rfl⟩
      · intro field among
        by_contra required
        refine builds.complete _ record proper built field (List.mem_of_mem_drop among)
          (Bool.eq_false_iff.mpr required) fun value listed => ?_
        -- its key is behind those of the items
        have front := List.mem_map_of_mem (f := Prod.fst) listed
        rw [map_fst_zip_eq_take] at front
        have behind := List.mem_map_of_mem (f := Field.key) among
        rw [List.map_drop] at behind
        exact List.disjoint_take_drop builds.keys (Nat.le_refl _) front behind
    · exact bind_eq_ok_iff.mpr ⟨record, built, rfl⟩

theorem ofMembers_filter_knows (members : Members) :
    shape.ofMembers (members.filter shape.knows) = shape.ofMembers members := by
  induction members with
  | nil => rfl
  | cons member members ih =>
      obtain ⟨key, value⟩ := member
      cases found : shape.field? key with
      | none =>
          have unknown : ¬ shape.knows (key, value) = true := by simp [knows, found]
          rw [List.filter_cons_of_neg unknown, ih, ofMembers, found]
      | some field =>
          have told : shape.knows (key, value) = true := by simp [knows, found]
          rw [List.filter_cons_of_pos told, ofMembers, ofMembers, found]
          dsimp only
          rw [ih]

/-- What else an object holds and in which order counts for nothing, not even for the error. -/
theorem decode_congr {one other : Members} (first : one.Sorted) (second : other.Sorted)
    (same : ∀ field ∈ shape.fields, ∀ value,
      (field.key, value) ∈ one ↔ (field.key, value) ∈ other) :
    shape.decode build (.object one) = shape.decode build (.object other) := by
  have known : one.filter shape.knows = other.filter shape.knows := by
    refine (first.sublist List.filter_sublist).eq_of_mem_iff
      (second.sublist List.filter_sublist) fun member => ?_
    obtain ⟨key, value⟩ := member
    rw [List.mem_filter, List.mem_filter]
    refine and_congr_left fun knows => ?_
    obtain ⟨field, found⟩ := Option.isSome_iff_exists.mp knows
    have told : field.key = key := by simpa using List.find?_some found
    subst told
    exact same field (List.mem_of_find?_eq_some found) value
  rw [decode, decode, ← ofMembers_filter_knows, known, ofMembers_filter_knows]

/-! ### Fields -/

variable {key : String} {decode : Decoder α} {means : Value → α → Prop} {a default : α}

theorem passes_required (proper : members.Proper) (decodes : Decodes decode means)
    (gives : members.Gives key means a) (value : Value) (listed : (key, value) ∈ members) :
    (Field.required key decode).test value = .ok () := by
  obtain ⟨other, again, content⟩ := gives
  have same := List.inj_on_of_nodup_map proper.distinct listed again rfl
  cases same
  exact Field.test_required key ((decodes value a (proper.inside _ listed)).mpr content)

theorem passes_withDefault (proper : members.Proper) (decodes : Decodes decode means)
    (gives : members.GivesOr key means default a) (value : Value)
    (listed : (key, value) ∈ members) : (Field.withDefault key decode).test value = .ok () := by
  rcases gives with ⟨lacks, -⟩ | gives
  · exact absurd listed (lacks value)
  · exact passes_required proper decodes gives value listed

/-- A field that has a default may be lacking. -/
theorem not_lacks_withDefault (required : (Field.withDefault key decode).optional = false) :
    ¬ members.Lacks key := by
  cases required

end Shape

end SelfUpdate.Json
