import SelfUpdate.Checksum
import SelfUpdate.Release.Error
import SelfUpdate.Release.Metadata
import SelfUpdate.Text.Blank
import SelfUpdate.Url

/-!
# Updates

An update is a release that may be downloaded: it has a version, a secure address and a checksum
against which the download can be verified. Metadata become an update only by passing these tests.
-/

namespace SelfUpdate

open Json

structure Update where
  version : String
  code : UInt32
  url : String
  notes : String
  /-- The size that the server states, zero when it states none. -/
  fileSize : UInt64
  checksum : String
  signatureUrl : Option String
  /-- The release date in milliseconds since the start of 1970. -/
  date : Int64
  version_present : Text.isAllBlank version = false
  url_secure : Url.isSecure url = true
  checksum_canonical : Checksum.isCanonical checksum = true
  signature_present : signatureUrl ≠ some ""
  deriving DecidableEq, Repr

namespace Update

/-- The address of a signature, unless it is empty. -/
def presentSignature (url : Option String) : Option String :=
  url.filter (fun text => !text.isEmpty)

theorem presentSignature_ne (url : Option String) : presentSignature url ≠ some "" := by
  cases url with
  | none => simp [presentSignature]
  | some text =>
    simp only [presentSignature, Option.filter]
    split
    · rename_i kept
      intro same
      cases same
      simp at kept
    · simp

/-- The tests that metadata have to pass, the checksum first. `now` is the date of a release that
has none. -/
def ofMetadata (now : Int64) (metadata : Release.Metadata) : Except Release.Error Update :=
  let checksum := Text.trim metadata.checksum
  if checksum.isEmpty then .error (.checksumMissing metadata.version)
  else if valid : Checksum.isHexText checksum = true then
    if blank : Text.isAllBlank metadata.version = true then .error (.missingField "version")
    else if Text.isAllBlank metadata.downloadUrl then .error (.missingField "downloadUrl")
    else if secure : Url.isSecure metadata.downloadUrl = true then
      .ok {
        version := metadata.version
        code := metadata.versionCode
        url := metadata.downloadUrl
        notes := metadata.notes
        fileSize := metadata.fileSize
        checksum := Text.lower checksum
        signatureUrl := presentSignature metadata.signatureUrl
        date := metadata.date.getD now
        version_present := by simpa using blank
        url_secure := secure
        checksum_canonical := Checksum.isCanonical_lower valid
        signature_present := presentSignature_ne _ }
    else .error (.insecureDownloadUrl metadata.version metadata.downloadUrl)
  else .error (.checksumMalformed metadata.version)

def toMetadata (update : Update) : Release.Metadata where
  version := update.version
  versionCode := update.code
  downloadUrl := update.url
  checksum := update.checksum
  notes := update.notes
  fileSize := update.fileSize
  signatureUrl := update.signatureUrl
  date := some update.date

/-! ## As JSON -/

def toJson (update : Update) : Value := update.toMetadata.toJson

/-- A record of an update as its text gives it. -/
def parse (now : Int64) (text : String) : Except Json.Error Update :=
  Release.Metadata.shape.parse Release.Metadata.ofMembers
    (fun metadata => (ofMetadata now metadata).mapError Release.Error.message) text

/-- A record of an update as a value gives it. -/
def decode (now : Int64) : Decoder Update := fun value => do
  let metadata ← Release.Metadata.decode value
  (ofMetadata now metadata).mapError fun error => .refused error.message

end Update

end SelfUpdate
