import SelfUpdate.Json.Printer
import SelfUpdate.Json.Record
import SelfUpdate.World

/-!
# Policy

What the updater remembers between its runs: when it last looked for an update, whether it looks by
itself, which release its user dismissed, and where else than usual it looks.
-/

namespace SelfUpdate

open Json

structure Policy where
  /-- When the last check was attempted, in milliseconds since the start of 1970, or zero. -/
  lastCheck : Int64
  autoCheck : Bool
  dismissed : Option UInt32
  customUrl : Option String
  deriving DecidableEq, Repr

namespace Policy

def default : Policy := ⟨0, true, none, none⟩

/-! ## As JSON -/

def shape : Shape where
  name := "PolicyState"
  fields := [
    .withDefault "last_update_check" asInteger64,
    .withDefault "auto_update_check" asBoolean,
    .withDefault "dismissed_update_version" (orNull asNatural32),
    .withDefault "update_check_url" (orNull asString)]

def ofMembers (members : Members) : Except Cause Policy := do
  return {
    lastCheck := ← members.withDefault "last_update_check" asInteger64 default.lastCheck
    autoCheck := ← members.withDefault "auto_update_check" asBoolean default.autoCheck
    dismissed := ← members.withDefault "dismissed_update_version" (orNull asNatural32) none
    customUrl := ← members.withDefault "update_check_url" (orNull asString) none }

def decode : Decoder Policy := shape.decode ofMembers

def parse (text : String) : Except Json.Error Policy := shape.parse ofMembers .ok text

def toMembers (policy : Policy) : Members :=
  [("last_update_check", .ofInt policy.lastCheck.toInt),
    ("auto_update_check", .boolean policy.autoCheck),
    ("dismissed_update_version",
      (policy.dismissed.map fun code => Value.ofNat code.toNat).getD .null)] ++
  (policy.customUrl.map fun url => ("update_check_url", Value.string url)).toList

def toJson (policy : Policy) : Value := .object policy.toMembers

/-- The text of a policy file. -/
def fileText (policy : Policy) : String := policy.toJson.indented

end Policy

/-! ## Stores -/

inductive PolicyError where
  | read (path : Path) (error : IoError)
  | write (path : Path) (error : IoError)
  deriving DecidableEq, Repr

def PolicyError.message : PolicyError → String
  | read path error => "failed to read policy file " ++ path ++ ": " ++ error.message
  | write path error => "failed to write policy file " ++ path ++ ": " ++ error.message

/-- Where a policy is kept: in a file that is replaced as a whole, or in memory. -/
inductive PolicyStore where
  | file (path : Path)
  | memory (held : Policy)
  deriving DecidableEq, Repr

namespace PolicyStore

def log (level : Log.Level) (text : String) : Effect Unit := Effect.log level .policy text

/-- The policy in a file. A file that is missing or corrupt stands for the default policy. -/
def loadFile (path : Path) : Effect (Except PolicyError Policy) := do
  match (← get).disk.readText path with
  | .error .notFound =>
    log .debug ("No policy file at " ++ path ++ ", using defaults")
    return .ok .default
  | .error error => return .error (.read path error)
  | .ok text =>
    match Policy.parse text with
    | .ok policy => return .ok policy
    | .error error =>
      log .warn ("Ignoring corrupt policy file " ++ path ++ ": " ++ error.message)
      return .ok .default

def saveFile (path : Path) (policy : Policy) : Effect (Except PolicyError Unit) := do
  let result ← Effect.ofSteps (Disk.replaceFile path (Text.encode policy.fileText))
  return result.mapError (.write path)

def load : PolicyStore → Effect (Except PolicyError Policy)
  | file path => loadFile path
  | memory held => return .ok held

/-- Keeps a policy. The store that is returned holds it, unless keeping it failed. -/
def save (policy : Policy) : PolicyStore → Effect (Except PolicyError Unit × PolicyStore)
  | file path => do return (← saveFile path policy, file path)
  | memory _ => return (.ok (), memory policy)

end PolicyStore

end SelfUpdate
