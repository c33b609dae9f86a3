import SelfUpdate.Calendar
import SelfUpdate.Release.Update
import SelfUpdate.Release.Version

/-!
# Hosted releases

A release on a hosting service is a tag with a list of assets. The first asset is the artifact, and
an asset named like it with `.sha256` behind it holds its checksum.
-/

namespace SelfUpdate.Release

open Json

structure Asset where
  name : String
  url : String
  size : UInt64
  digest : Option String
  deriving DecidableEq, Repr

namespace Asset

def shape : Shape where
  name := "HostedAsset"
  fields := [
    .required "name" asString,
    .required "browser_download_url" asString,
    .withDefault "size" asNatural64,
    .withDefault "digest" (orNull asString)]

def ofMembers (members : Members) : Except Cause Asset := do
  return {
    name := ← members.required "name" asString
    url := ← members.required "browser_download_url" asString
    size := ← members.withDefault "size" asNatural64 0
    digest := ← members.withDefault "digest" (orNull asString) none }

def decode : Decoder Asset := shape.decode ofMembers

end Asset

structure Hosted where
  tag : String
  body : Option String
  publishedAt : Option String
  assets : List Asset
  deriving DecidableEq, Repr

namespace Hosted

def shape : Shape where
  name := "HostedRelease"
  fields := [
    .required "tag_name" asString,
    .withDefault "body" (orNull asString),
    .withDefault "published_at" (orNull asString),
    .withDefault "assets" (asList Asset.decode)]

def ofMembers (members : Members) : Except Cause Hosted := do
  return {
    tag := ← members.required "tag_name" asString
    body := ← members.withDefault "body" (orNull asString) none
    publishedAt := ← members.withDefault "published_at" (orNull asString) none
    assets := ← members.withDefault "assets" (asList Asset.decode) [] }

def decode : Decoder Hosted := shape.decode ofMembers

/-- The tag without one leading `v`. -/
def version (release : Hosted) : String :=
  match release.tag.toList with
  | 'v' :: rest => String.ofList rest
  | _ => release.tag

def artifact? (release : Hosted) : Option Asset := release.assets.head?

def checksumName (artifact : Asset) : String := artifact.name ++ ".sha256"

/-- The asset that holds the checksum of the artifact, among those behind the first. -/
def checksumAsset? (release : Hosted) (artifact : Asset) : Option Asset :=
  release.assets.tail.find? (fun asset => asset.name == checksumName artifact)

/-- The date of publication in milliseconds, when it can be read. -/
def publishedMillis? (release : Hosted) : Option Int64 :=
  (release.publishedAt.bind Calendar.parse).map Int64.ofInt

/-- The update of a hosted release, once its checksum is known. -/
def toUpdate (now : Int64) (release : Hosted) (checksum : String) : Except Error Update := do
  let version := release.version
  let code ← codeOfVersion version
  match release.artifact? with
  | none => throw (.noAssets version)
  | some artifact =>
    Update.ofMetadata now {
      version := version
      versionCode := code
      downloadUrl := artifact.url
      checksum := checksum
      notes := release.body.getD ""
      fileSize := artifact.size
      signatureUrl := none
      date := release.publishedMillis? }

end Hosted

end SelfUpdate.Release
