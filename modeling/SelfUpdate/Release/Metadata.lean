import SelfUpdate.Json.Printer
import SelfUpdate.Json.Record

/-!
# Release metadata

The document in which an update server describes its latest release.
-/

namespace SelfUpdate.Release

open Json

structure Metadata where
  version : String
  versionCode : UInt32
  downloadUrl : String
  checksum : String
  notes : String
  fileSize : UInt64
  signatureUrl : Option String
  date : Option Int64
  deriving DecidableEq, Repr

namespace Metadata

def shape : Shape where
  name := "ReleaseMetadata"
  fields := [
    .required "version" asString,
    .required "versionCode" asNatural32,
    .required "downloadUrl" asString,
    .required "sha256Checksum" asString,
    .withDefault "releaseNotes" asString,
    .withDefault "fileSize" asNatural64,
    .withDefault "signatureUrl" (orNull asString),
    .withDefault "releaseDate" (orNull asInteger64)]

def ofMembers (members : Members) : Except Cause Metadata := do
  return {
    version := ← members.required "version" asString
    versionCode := ← members.required "versionCode" asNatural32
    downloadUrl := ← members.required "downloadUrl" asString
    checksum := ← members.required "sha256Checksum" asString
    notes := ← members.withDefault "releaseNotes" asString ""
    fileSize := ← members.withDefault "fileSize" asNatural64 0
    signatureUrl := ← members.withDefault "signatureUrl" (orNull asString) none
    date := ← members.withDefault "releaseDate" (orNull asInteger64) none }

def decode : Decoder Metadata := shape.decode ofMembers

/-- The members of the written form; what is not known is left out. -/
def toMembers (metadata : Metadata) : Members :=
  [("version", .string metadata.version),
    ("versionCode", .ofNat metadata.versionCode.toNat),
    ("downloadUrl", .string metadata.downloadUrl),
    ("sha256Checksum", .string metadata.checksum),
    ("releaseNotes", .string metadata.notes),
    ("fileSize", .ofNat metadata.fileSize.toNat)] ++
  (metadata.signatureUrl.map fun url => ("signatureUrl", Value.string url)).toList ++
  (metadata.date.map fun date => ("releaseDate", Value.ofInt date.toInt)).toList

def toJson (metadata : Metadata) : Value := .object metadata.toMembers

end Metadata

end SelfUpdate.Release
