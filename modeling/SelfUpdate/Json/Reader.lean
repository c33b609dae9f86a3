import SelfUpdate.Json.Token

/-!
# Reading JSON text

A text is one value with blanks around it. Lists and objects may be nested 127 deep; a value that is
only passed over may be nested to any depth.
-/

namespace SelfUpdate.Json

/-- A value other than a list or an object. -/
def readScalar (text : List Char) : Except Fault (Value × List Char) :=
  match text with
  | [] => .error (.next .endInValue [])
  | 'n' :: rest => (readWord ['u', 'l', 'l'] rest).map fun (_, rest) => (.null, rest)
  | 't' :: rest => (readWord ['r', 'u', 'e'] rest).map fun (_, rest) => (.boolean true, rest)
  | 'f' :: rest => (readWord ['a', 'l', 's', 'e'] rest).map fun (_, rest) => (.boolean false, rest)
  | '-' :: rest => (readNumber true rest).map fun (n, rest) => (.number n, rest)
  | '"' :: rest => (readString rest).map fun (s, rest) => (.string s, rest)
  | c :: _ =>
    if c.isDigit then (readNumber false text).map fun (n, rest) => (.number n, rest)
    else .error (.next .expectedValue text)

/-- What comes next in a list: its end, or a further item, in front of which a comma was read. -/
inductive NextItem where
  | done (rest : List Char)
  | item (rest : List Char)

def nextItem (first : Bool) (text : List Char) : Except Fault NextItem :=
  match skipSpace text with
  | [] => .error (.next .endInList [])
  | ']' :: rest => .ok (.done rest)
  | c :: rest =>
    if first then .ok (.item (c :: rest))
    else if c = ',' then
      match skipSpace rest with
      | [] => .error (.next .endInValue [])
      | ']' :: rest => .error (.next .trailingComma (']' :: rest))
      | rest => .ok (.item rest)
    else .error (.next .expectedCommaOrBracket (c :: rest))

/-- What comes next in an object: its end, or a further key, of which the quote was read. -/
inductive NextKey where
  | done (rest : List Char)
  | key (rest : List Char)

def nextKey (first : Bool) (text : List Char) : Except Fault NextKey :=
  match skipSpace text with
  | [] => .error (.next .endInObject [])
  | '\x7d' :: rest => .ok (.done rest)
  | c :: rest =>
    if first then
      if c = '"' then .ok (.key rest) else .error (.next .keyNotString (c :: rest))
    else if c = ',' then
      match skipSpace rest with
      | [] => .error (.next .endInValue [])
      | '"' :: rest => .ok (.key rest)
      | '\x7d' :: rest => .error (.next .trailingComma ('\x7d' :: rest))
      | rest => .error (.next .keyNotString rest)
    else .error (.next .expectedCommaOrBrace (c :: rest))

/-- The colon between a key and its value. -/
def readColon (text : List Char) : Except Fault (List Char) :=
  match skipSpace text with
  | [] => .error (.next .endInObject [])
  | ':' :: rest => .ok rest
  | rest => .error (.next .expectedColon rest)

/-- How deep lists and objects may be nested, counted with the value outside them. -/
def greatestDepth : Nat := 128

mutual

/-- A value; `depth` bounds the nesting and `fuel` the number of steps. -/
def readValueWithin : Nat → Nat → List Char → Except Fault (Value × List Char)
  | 0, _, text => .error (.here .tooDeep text)
  | fuel + 1, depth, text =>
    match skipSpace text with
    | '[' :: rest =>
      if depth ≤ 1 then .error (.next .tooDeep ('[' :: rest))
      else do
        let (items, rest) ← readItemsWithin fuel (depth - 1) true [] rest
        return (.array items, rest)
    | '\x7b' :: rest =>
      if depth ≤ 1 then .error (.next .tooDeep ('\x7b' :: rest))
      else do
        let (members, rest) ← readMembersWithin fuel (depth - 1) true [] rest
        return (.object (Members.ofText members), rest)
    | rest => readScalar rest

def readItemsWithin :
    Nat → Nat → Bool → List Value → List Char → Except Fault (List Value × List Char)
  | 0, _, _, _, text => .error (.here .tooDeep text)
  | fuel + 1, depth, first, read, text => do
    match ← nextItem first text with
    | .done rest => return (read.reverse, rest)
    | .item rest =>
      let (value, rest) ← readValueWithin fuel depth rest
      readItemsWithin fuel depth false (value :: read) rest

def readMembersWithin :
    Nat → Nat → Bool → Members → List Char → Except Fault (Members × List Char)
  | 0, _, _, _, text => .error (.here .tooDeep text)
  | fuel + 1, depth, first, read, text => do
    match ← nextKey first text with
    | .done rest => return (read.reverse, rest)
    | .key rest =>
      let (key, rest) ← readString rest
      let rest ← readColon rest
      let (value, rest) ← readValueWithin fuel depth rest
      readMembersWithin fuel depth false ((key, value) :: read) rest

end

/-- Each step but the last reads a character. -/
def readValue (text : List Char) : Except Fault (Value × List Char) :=
  readValueWithin (2 * text.length + 2) greatestDepth text

/-- Nothing but blanks may follow. -/
def expectEnd (text : List Char) : Except Fault Unit :=
  match skipSpace text with
  | [] => .ok ()
  | rest => .error (.next .trailingCharacters rest)

def parse (text : String) : Except Error Value :=
  let read := do
    let (value, rest) ← readValue text.toList
    expectEnd rest
    return value
  read.mapError (·.inText text)

/-! ## Passing over a value -/

/-- Passes over a value other than a list or an object. -/
def skipScalar (text : List Char) : Except Fault (List Char) :=
  match text with
  | [] => .error (.next .endInValue [])
  | 'n' :: rest => (readWord ['u', 'l', 'l'] rest).map Prod.snd
  | 't' :: rest => (readWord ['r', 'u', 'e'] rest).map Prod.snd
  | 'f' :: rest => (readWord ['a', 'l', 's', 'e'] rest).map Prod.snd
  | '-' :: rest => skipNumber rest
  | '"' :: rest => skipString rest
  | c :: _ => if c.isDigit then skipNumber text else .error (.next .expectedValue text)

/-- Passes over a key and its colon. -/
def skipKey (text : List Char) : Except Fault (List Char) :=
  match skipSpace text with
  | [] => .error (.next .endInObject [])
  | '"' :: rest => do
    let rest ← skipString rest
    readColon rest
  | rest => .error (.next .keyNotString rest)

/-- Passes over a value. `brackets` holds the brackets that are open, the innermost first, and
`complete` says whether the innermost has just got a whole item. -/
def skipWithin : Nat → List Char → Bool → List Char → Except Fault (List Char)
  | 0, _, _, text => .error (.here .tooDeep text)
  | fuel + 1, brackets, complete, text =>
    match brackets, complete with
    | [], true => .ok text
    | bracket :: outer, true =>
      match skipSpace text with
      | [] => .error (.next (if bracket = '[' then .endInList else .endInObject) [])
      | c :: rest =>
        if c = ',' then do
          let rest ← if bracket = '[' then pure rest else skipKey rest
          skipWithin fuel (bracket :: outer) false rest
        else if (c = ']' ∧ bracket = '[') ∨ (c = '\x7d' ∧ bracket = '\x7b') then
          skipWithin fuel outer true rest
        else
          .error (.next (if bracket = '[' then .expectedCommaOrBracket else .expectedCommaOrBrace)
            (c :: rest))
    | _, false =>
      match skipSpace text with
      | '[' :: rest =>
        match skipSpace rest with
        | [] => .error (.next .endInList [])
        | ']' :: rest => skipWithin fuel brackets true rest
        | rest => skipWithin fuel ('[' :: brackets) false rest
      | '\x7b' :: rest =>
        match skipSpace rest with
        | [] => .error (.next .endInObject [])
        | '\x7d' :: rest => skipWithin fuel brackets true rest
        | rest => do
          let rest ← skipKey rest
          skipWithin fuel ('\x7b' :: brackets) false rest
      | rest => do
        let rest ← skipScalar rest
        skipWithin fuel brackets true rest

/-- Passes over a value of any depth. -/
def skipValue (text : List Char) : Except Fault (List Char) :=
  skipWithin (2 * text.length + 2) [] false text

end SelfUpdate.Json
