import SelfUpdate.Path

/-!
# Arguments of the command line

A command follows the options that every command has; these may also stand after it, once more. A
lone pair of dashes after the command makes values of all that follows.
-/

namespace SelfUpdate.CommandLine

inductive Command where
  | check (force : Bool)
  | download
  | install (path : Path)
  | cleanUp
  | dismiss (code : UInt32)
  | clearDismissal
  | enableAutoCheck (enabled : Bool)
  | chooseUrl (wish : Option String)
  | status
  deriving DecidableEq, Repr

structure Invocation where
  /-- The version code of the running build. -/
  current : UInt32
  /-- Whether the log is shown on the terminal. -/
  verbose : Bool
  command : Command
  deriving DecidableEq, Repr

/-- Why no command was found. -/
inductive Refusal where
  | help
  | usage
  deriving DecidableEq, Repr

/-! ## Words -/

inductive Word where
  | separator
  | long (name : String) (value : Option String)
  | short (letters : List Char)
  | value (text : String)
  deriving DecidableEq, Repr

/-- What a word is. A lone dash is a value. -/
def wordOf (text : String) : Word :=
  match text.toList with
  | ['-', '-'] => .separator
  | '-' :: '-' :: option =>
    let name := String.ofList (option.takeWhile (· != '='))
    match option.dropWhile (· != '=') with
    | [] => .long name none
    | _ :: value => .long name (some (String.ofList value))
  | '-' :: letter :: letters => .short (letter :: letters)
  | _ => .value text

/-- The number in a text: decimal digits, after a sign or none. -/
def numberOf? (text : String) : Option Int :=
  let (negative, digits) := match text.toList with
    | '+' :: digits => (false, digits)
    | '-' :: digits => (true, digits)
    | digits => (false, digits)
  if digits.isEmpty || !digits.all Char.isDigit then none
  else
    let n := digits.foldl (fun n digit => 10 * n + (digit.toNat - '0'.toNat)) 0
    some (if negative then -n else n)

def codeOf (text : String) : Except Refusal UInt32 :=
  match numberOf? text with
  | some (.ofNat n) => if n < UInt32.size then .ok (UInt32.ofNat n) else .error .usage
  | _ => .error .usage

/-! ## Options -/

/-- The options and values read so far. -/
structure Options where
  current : Option UInt32
  verbose : Bool
  force : Bool
  values : List String
  deriving DecidableEq, Repr

namespace Options

def none : Options := ⟨.none, false, false, []⟩

/-- An option that was given may not be given once more. -/
def setVerbose (options : Options) : Except Refusal Options :=
  if options.verbose then .error .usage else .ok { options with verbose := true }

def setForce (options : Options) : Except Refusal Options :=
  if options.force then .error .usage else .ok { options with force := true }

def setCurrent (options : Options) (text : String) : Except Refusal Options := do
  if options.current.isSome then throw .usage
  return { options with current := some (← codeOf text) }

def setShort (options : Options) : List Char → Except Refusal Options
  | [] => .ok options
  | 'v' :: letters => do (← options.setVerbose).setShort letters
  | 'h' :: _ => .error .help
  | _ => .error .usage

/-- An option with a long name that takes no value. -/
def setLong (options : Options) (mayForce : Bool) (name : String) : Except Refusal Options :=
  if name = "verbose" then options.setVerbose
  else if name = "force" ∧ mayForce then options.setForce
  else if name = "help" then .error .help
  else .error .usage

end Options

/-- Whether a word can be the value of an option that stands before it. -/
def isValue (text : String) : Bool :=
  match wordOf text with
  | .value _ => true
  | _ => false

/-- Reads the words before a command, up to the command. -/
def readBefore : Options → List String → Except Refusal (Options × List String)
  | _, [] => .error .usage
  | options, text :: rest =>
    match wordOf text with
    | .separator => .error .usage
    | .value _ => .ok (options, text :: rest)
    | .short letters => do readBefore (← options.setShort letters) rest
    | .long "current-code" (some code) => do readBefore (← options.setCurrent code) rest
    | .long "current-code" none =>
      match rest with
      | [] => .error .usage
      | code :: more =>
        if isValue code then do readBefore (← options.setCurrent code) more else .error .usage
    | .long name none => do readBefore (← options.setLong false name) rest
    | .long _ (some _) => .error .usage

/-! ## Commands -/

/-- Whether a command takes a text as its value. -/
def takesValue (name text : String) : Bool :=
  match name with
  | "install" => !text.isEmpty
  | "dismiss" => (codeOf text).toBool
  | "auto-check" => text = "on" || text = "off"
  | "set-url" => true
  | _ => false

/-- A value of a command, which takes one at most. -/
def Options.addValue (options : Options) (name text : String) : Except Refusal Options :=
  if options.values.isEmpty && takesValue name text then .ok { options with values := [text] }
  else .error .usage

/-- Reads the words after the name of a command. -/
def readAfter (name : String) : Options → List String → Except Refusal Options
  | options, [] => .ok options
  | options, text :: rest =>
    match wordOf text with
    | .separator => rest.foldlM (fun options text => options.addValue name text) options
    | .value _ => do readAfter name (← options.addValue name text) rest
    | .short letters => do readAfter name (← options.setShort letters) rest
    | .long "current-code" (some code) => do readAfter name (← options.setCurrent code) rest
    | .long "current-code" none =>
      match rest with
      | [] => .error .usage
      | code :: more =>
        if isValue code then do readAfter name (← options.setCurrent code) more
        else .error .usage
    | .long option none => do readAfter name (← options.setLong (name == "check") option) rest
    | .long _ (some _) => .error .usage

def commandNames : List String :=
  ["check", "download", "install", "cleanup", "dismiss", "clear-dismissal", "auto-check",
    "set-url", "status"]

/-- The command with a name and the options and the value after it. -/
def commandOf (name : String) (options : Options) : Except Refusal Command :=
  match name, options.values with
  | "check", [] => .ok (.check options.force)
  | "download", [] => .ok .download
  | "install", [path] => .ok (.install path)
  | "cleanup", [] => .ok .cleanUp
  | "dismiss", [code] => (codeOf code).map .dismiss
  | "clear-dismissal", [] => .ok .clearDismissal
  | "auto-check", ["on"] => .ok (.enableAutoCheck true)
  | "auto-check", ["off"] => .ok (.enableAutoCheck false)
  | "set-url", [] => .ok (.chooseUrl none)
  | "set-url", [url] => .ok (.chooseUrl (some url))
  | "status", [] => .ok .status
  | _, _ => .error .usage

/-- A wish for help, on one command at most. -/
def helpOn : List String → Refusal
  | [] => .help
  | [name] => if name = "help" ∨ commandNames.contains name then .help else .usage
  | _ => .usage

/-- What the arguments ask for. An option after the command counts more than one before it. -/
def parse (arguments : List String) : Except Refusal Invocation := do
  let (before, rest) ← readBefore .none arguments
  match rest with
  | [] => throw .usage
  | "help" :: names => throw (helpOn names)
  | name :: rest =>
    if !commandNames.contains name then throw .usage
    let after ← readAfter name .none rest
    let command ← commandOf name after
    return {
      current := (after.current.or before.current).getD 0
      verbose := after.verbose || before.verbose
      command }

end SelfUpdate.CommandLine
