import SelfUpdate.Decimal.Shortest

/-!
# JSON values

Integers are kept exactly as long as they fit 64 bits; every other number is a floating point
number. An object that was read has its members sorted by their keys, and each key once; an object
that is to be written has them in the order in which they are written.
-/

namespace SelfUpdate.Json

inductive Number where
  | natural (n : Nat)
  /-- The integer `-(n + 1)`. -/
  | negative (n : Nat)
  | floating (x : Decimal.Binary64)
  deriving DecidableEq, Repr

inductive Value where
  | null
  | boolean (b : Bool)
  | number (n : Number)
  | string (s : String)
  | array (items : List Value)
  | object (members : List (String × Value))
  deriving Repr, Inhabited

abbrev Members := List (String × Value)

namespace Value

def ofNat (n : Nat) : Value := .number (.natural n)

def ofInt : Int → Value
  | .ofNat n => .number (.natural n)
  | .negSucc n => .number (.negative n)

end Value

namespace Members

/-- Sets the value of a key, in place of an earlier one. -/
def insert (key : String) (value : Value) : Members → Members
  | [] => [(key, value)]
  | (k, v) :: rest =>
    if key < k then (key, value) :: (k, v) :: rest
    else if key = k then (key, value) :: rest
    else (k, v) :: insert key value rest

/-- The members of an object from the order of its text: sorted, and of equal keys the last. -/
def ofText (members : Members) : Members :=
  members.foldl (fun sorted (key, value) => insert key value sorted) []

def get? (members : Members) (key : String) : Option Value :=
  (members.find? (fun member => member.1 == key)).map Prod.snd

def has (members : Members) (key : String) : Bool :=
  (members.get? key).isSome

end Members

end SelfUpdate.Json
