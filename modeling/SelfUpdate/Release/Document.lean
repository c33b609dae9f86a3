import SelfUpdate.Release.Hosted

/-!
# Release documents

What an update endpoint answers: an object with a tag is a hosted release, every other object holds
release metadata.
-/

namespace SelfUpdate.Release

open Json

inductive Document where
  | native (metadata : Metadata)
  | hosted (release : Hosted)
  deriving Repr

namespace Document

/-- The fields without which metadata are not looked at further. -/
def requiredFields : List String := ["version", "versionCode", "downloadUrl"]

def versionOf (members : Members) : String :=
  match members.get? "version" with
  | some (.string version) => version
  | _ => ""

def hasChecksum (members : Members) : Bool :=
  match members.get? "sha256Checksum" with
  | none => false
  | some .null => false
  | some _ => true

def decoded {α : Type} (decode : Decoder α) (members : Members) : Except Error α :=
  (decode (.object members)).mapError fun cause => .json cause.message

def ofMembers (members : Members) : Except Error Document :=
  if members.has "tag_name" then (decoded Hosted.decode members).map .hosted
  else
    match requiredFields.find? (fun name => !members.has name) with
    | some name => .error (.missingField name)
    | none =>
      if hasChecksum members then (decoded Metadata.decode members).map .native
      else .error (.checksumMissing (versionOf members))

def ofValue : Value → Except Error Document
  | .object members => ofMembers members
  | _ => .error (.json "expected a JSON object")

def parse (body : String) : Except Error Document := do
  let value ← (Json.parse body).mapError fun error => .json error.message
  ofValue value

end Document

end SelfUpdate.Release
