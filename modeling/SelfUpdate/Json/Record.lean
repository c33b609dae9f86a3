import SelfUpdate.Json.Reader

/-!
# Records in JSON

A record is an object with known fields, or a list of their values in the order of declaration. It
is read from a value, whose fields come sorted and once each, or straight from text, where they come
in the order of the text and a known one may not come twice. Unknown fields are passed over.
-/

namespace SelfUpdate.Json

/-! ## Values as the contents of fields -/

abbrev Decoder (α : Type) := Value → Except Cause α

def asString : Decoder String
  | .string s => .ok s
  | value => .error (.invalidType value.found "a string")

def asBoolean : Decoder Bool
  | .boolean b => .ok b
  | value => .error (.invalidType value.found "a boolean")

/-- A natural number below a bound; `name` is the name of that range. -/
def asNatural (bound : Nat) (name : String) : Decoder Nat
  | .number (.natural n) =>
    if n < bound then .ok n else .error (.invalidValue (.integer n) name)
  | .number (.negative n) => .error (.invalidValue (.integer (Int.negSucc n)) name)
  | value => .error (.invalidType value.found name)

def asNatural32 : Decoder UInt32 := fun value =>
  (asNatural UInt32.size "u32" value).map UInt32.ofNat

def asNatural64 : Decoder UInt64 := fun value =>
  (asNatural UInt64.size "u64" value).map UInt64.ofNat

/-- An integer of 64 bits with a sign. -/
def asInteger64 : Decoder Int64
  | .number (.natural n) =>
    if n < 1 <<< 63 then .ok (Int64.ofInt n) else .error (.invalidValue (.integer n) "i64")
  | .number (.negative n) =>
    if n < 1 <<< 63 then .ok (Int64.ofInt (Int.negSucc n))
    else .error (.invalidValue (.integer (Int.negSucc n)) "i64")
  | value => .error (.invalidType value.found "i64")

def orNull {α : Type} (decode : Decoder α) : Decoder (Option α)
  | .null => .ok none
  | value => (decode value).map some

def asList {α : Type} (decode : Decoder α) : Decoder (List α)
  | .array items => items.mapM decode
  | value => .error (.invalidType value.found "a sequence")

/-! ## Shapes -/

/-- A field of a record: whether it may be absent, and the test its value has to pass. -/
structure Field where
  key : String
  optional : Bool
  test : Value → Except Cause Unit

def Field.required {α : Type} (key : String) (decode : Decoder α) : Field :=
  ⟨key, false, fun value => (decode value).map fun _ => ()⟩

def Field.withDefault {α : Type} (key : String) (decode : Decoder α) : Field :=
  ⟨key, true, fun value => (decode value).map fun _ => ()⟩

/-- The fields of a record in their order, and the name of the record in diagnostics. -/
structure Shape where
  name : String
  fields : List Field

namespace Shape

def expected (shape : Shape) : String := "struct " ++ shape.name

def expectedLength (shape : Shape) : String :=
  let count := shape.fields.length
  shape.expected ++ s!" with {count} element" ++ (if count = 1 then "" else "s")

def field? (shape : Shape) (key : String) : Option Field :=
  shape.fields.find? (fun field => field.key == key)

/-! ### From a value -/

/-- The known members of an object, each tested, the first that fails reported. -/
def ofMembers (shape : Shape) : Members → Except Cause Members
  | [] => .ok []
  | (key, value) :: rest =>
    match shape.field? key with
    | none => shape.ofMembers rest
    | some field => do
      field.test value
      return (key, value) :: (← shape.ofMembers rest)

/-- The items of a list as the given fields, of which the first has number `index`. -/
def ofItems (shape : Shape) : Nat → List Field → List Value → Except Cause (Members × List Value)
  | _, [], items => .ok ([], items)
  | index, field :: fields, [] =>
    if field.optional then shape.ofItems (index + 1) fields []
    else .error (.invalidLength index shape.expectedLength)
  | index, field :: fields, item :: items => do
    field.test item
    let (members, left) ← shape.ofItems (index + 1) fields items
    return ((field.key, item) :: members, left)

/-- The contents of the fields that a value gives; `build` makes the record of them. -/
def decode {α : Type} (shape : Shape) (build : Members → Except Cause α) : Decoder α
  | .object members => do build (← shape.ofMembers members)
  | .array items => do
    let (members, left) ← shape.ofItems 0 shape.fields items
    let record ← build members
    if left.isEmpty then return record
    throw (.invalidLength items.length "fewer elements in array")
  | value => .error (.invalidType value.found shape.expected)

/-! ### From text -/

/-- The value of a field. A list or an object in place of a plain value is refused unread. -/
def readField (field : Field) (text : List Char) : Except Fault (Value × List Char) := do
  let text := skipSpace text
  let unread (value : Value) : Except Fault (Value × List Char) :=
    match field.test value with
    | .error cause => .error (.here cause text)
    | .ok () => readValueWithin (2 * text.length + 2) (greatestDepth - 1) text
  match text with
  | '[' :: _ => unread (.array [])
  | '\x7b' :: _ => unread (.object [])
  | _ =>
    let (value, rest) ← readScalar text
    match field.test value with
    | .error cause => throw (.here cause rest)
    | .ok () => return (value, rest)

/-- Where the fault of an unfinished object stands: after its brace, if that comes next. -/
def afterObject (text : List Char) : List Char :=
  match skipSpace text with
  | '\x7d' :: rest => rest
  | rest => rest

/-- The fields of an object, after its opening brace. -/
def readFieldsWithin (shape : Shape) :
    Nat → Bool → Members → List Char → Except Fault (Members × List Char)
  | 0, _, _, text => .error (.here .tooDeep text)
  | fuel + 1, first, read, text => do
    match ← nextKey first text with
    | .done rest => return (read.reverse, rest)
    | .key rest =>
      let (key, rest) ← readString rest
      match shape.field? key with
      | none =>
        let rest ← readColon rest
        let rest ← skipValue rest
        readFieldsWithin shape fuel false read rest
      | some field =>
        if Members.has read key then throw (.here (.duplicateField key) (afterObject rest))
        let rest ← readColon rest
        let (value, rest) ← readField field rest
        readFieldsWithin shape fuel false ((key, value) :: read) rest

/-- The values of the given fields in a list. Where the list ends early the rest of the fields are
absent, or their absence is a fault that stands after the bracket. -/
def readItemsAs (shape : Shape) :
    Nat → List Field → Members → List Char → Except Fault (Members × List Char)
  | _, [], read, text => .ok (read.reverse, text)
  | index, field :: fields, read, text => do
    match ← nextItem (index == 0) text with
    | .done rest =>
      if field.optional then readItemsAs shape (index + 1) fields read (']' :: rest)
      else throw (.here (.invalidLength index shape.expectedLength) rest)
    | .item rest =>
      let (value, rest) ← readField field rest
      readItemsAs shape (index + 1) fields ((field.key, value) :: read) rest

/-- The end of a list of which all items were read. -/
def closeList (text : List Char) : Except Fault (List Char) :=
  match skipSpace text with
  | [] => .error (.next .endInList [])
  | ']' :: rest => .ok rest
  | ',' :: rest =>
    match skipSpace rest with
    | ']' :: rest => .error (.next .trailingComma (']' :: rest))
    | rest => .error (.next .trailingCharacters rest)
  | rest => .error (.next .trailingCharacters rest)

/-- A record at the front of a text. -/
def readRecord {α : Type} (shape : Shape) (build : Members → Except Cause α) (text : List Char) :
    Except Fault (α × List Char) := do
  let finish (members : Members) (rest : List Char) : Except Fault (α × List Char) :=
    match build members with
    | .ok record => .ok (record, rest)
    | .error cause => .error (.here cause rest)
  match skipSpace text with
  | '\x7b' :: rest =>
    let (members, rest) ← readFieldsWithin shape (rest.length + 1) true [] rest
    finish members rest
  | '[' :: rest =>
    let (members, rest) ← readItemsAs shape 0 shape.fields [] rest
    let rest ← closeList rest
    finish members rest
  | text =>
    let (value, rest) ← readScalar text
    throw (.here (.invalidType value.found shape.expected) rest)

/-- A text that holds a record and nothing else. `accept` judges the record before the text behind
it is looked at; its refusal has no position. -/
def parse {α β : Type} (shape : Shape) (build : Members → Except Cause α)
    (accept : α → Except String β) (text : String) : Except Error β :=
  match shape.readRecord build text.toList with
  | .error fault => .error (fault.inText text)
  | .ok (record, rest) =>
    match accept record with
    | .error reason => .error ⟨.refused reason, none⟩
    | .ok accepted =>
      match expectEnd rest with
      | .error fault => .error (fault.inText text)
      | .ok () => .ok accepted

end Shape

/-! ## Fields of a record that was read -/

namespace Members

/-- The content of a field that has to be there. -/
def required {α : Type} (members : Members) (key : String) (decode : Decoder α) : Except Cause α :=
  match members.get? key with
  | none => .error (.missingField key)
  | some value => decode value

/-- The content of a field, or what stands in for it when it is absent. -/
def withDefault {α : Type} (members : Members) (key : String) (decode : Decoder α) (default : α) :
    Except Cause α :=
  match members.get? key with
  | none => .ok default
  | some value => decode value

end Members

end SelfUpdate.Json
