/-!
# Release errors

Why a release document or a release record is refused.
-/

namespace SelfUpdate.Release

inductive Error where
  | json (reason : String)
  | missingField (name : String)
  | checksumMissing (version : String)
  | checksumMalformed (version : String)
  | insecureDownloadUrl (version url : String)
  | versionCode (version : String)
  | noAssets (version : String)
  deriving DecidableEq, Repr

def Error.message : Error → String
  | json reason => "release metadata is not valid JSON: " ++ reason
  | missingField name => "release metadata is missing required field `" ++ name ++ "`"
  | checksumMissing version =>
    "release " ++ version ++ " has no sha256 checksum; refusing unverifiable update"
  | checksumMalformed version => "release " ++ version ++ " has a malformed sha256 checksum"
  | insecureDownloadUrl version url =>
    "release " ++ version ++ " download URL is not https: " ++ url
  | versionCode version => "cannot derive a version code from `" ++ version ++ "`"
  | noAssets version => "release " ++ version ++ " lists no downloadable assets"

end SelfUpdate.Release
