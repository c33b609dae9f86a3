import SelfUpdate.Directories
import SelfUpdate.Json.Printer
import SelfUpdate.Json.Record

/-!
# Settings

The fixed configuration of the updater. It is read from a file; what the file leaves out has a
default, and a file that cannot be understood counts for nothing.
-/

namespace SelfUpdate

open Json

structure Settings where
  checkUrl : String
  connectTimeout : UInt64
  readTimeout : UInt64
  artifactLimit : UInt64
  artifactPrefix : String
  mediaType : String
  debugLogging : Bool
  logLimit : UInt64
  deriving DecidableEq, Repr

namespace Settings

def default : Settings where
  checkUrl := "https://api.github.com/repos/upgate-rs/upgate/releases/latest"
  connectTimeout := 30
  readTimeout := 30
  artifactLimit := 500 * 1024 * 1024
  artifactPrefix := "upgate-update"
  mediaType := "application/vnd.android.package-archive"
  debugLogging := false
  logLimit := 5 * 1024 * 1024

/-! ## As JSON -/

def shape : Shape where
  name := "UpdaterSettings"
  fields := [
    .withDefault "default_check_url" asString,
    .withDefault "connect_timeout_secs" asNatural64,
    .withDefault "read_timeout_secs" asNatural64,
    .withDefault "max_artifact_size_bytes" asNatural64,
    .withDefault "artifact_prefix" asString,
    .withDefault "artifact_media_type" asString,
    .withDefault "debug_logging" asBoolean,
    .withDefault "max_log_size_bytes" asNatural64]

def ofMembers (members : Members) : Except Cause Settings := do
  return {
    checkUrl := ← members.withDefault "default_check_url" asString default.checkUrl
    connectTimeout :=
      ← members.withDefault "connect_timeout_secs" asNatural64 default.connectTimeout
    readTimeout := ← members.withDefault "read_timeout_secs" asNatural64 default.readTimeout
    artifactLimit :=
      ← members.withDefault "max_artifact_size_bytes" asNatural64 default.artifactLimit
    artifactPrefix := ← members.withDefault "artifact_prefix" asString default.artifactPrefix
    mediaType := ← members.withDefault "artifact_media_type" asString default.mediaType
    debugLogging := ← members.withDefault "debug_logging" asBoolean default.debugLogging
    logLimit := ← members.withDefault "max_log_size_bytes" asNatural64 default.logLimit }

def decode : Decoder Settings := shape.decode ofMembers

def parse (text : String) : Except Json.Error Settings := shape.parse ofMembers .ok text

def toJson (settings : Settings) : Value := .object [
  ("default_check_url", .string settings.checkUrl),
  ("connect_timeout_secs", .ofNat settings.connectTimeout.toNat),
  ("read_timeout_secs", .ofNat settings.readTimeout.toNat),
  ("max_artifact_size_bytes", .ofNat settings.artifactLimit.toNat),
  ("artifact_prefix", .string settings.artifactPrefix),
  ("artifact_media_type", .string settings.mediaType),
  ("debug_logging", .boolean settings.debugLogging),
  ("max_log_size_bytes", .ofNat settings.logLimit.toNat)]

/-! ## In a file -/

/-- The settings in a file. Trouble with its content goes to the log, trouble with reading it does
not. -/
def load (file : Path) : Effect Settings := do
  match (← get).disk.readText file with
  | .error _ => return default
  | .ok text =>
    match parse text with
    | .ok settings => return settings
    | .error error =>
      Effect.log .warn .settings
        ("Ignoring invalid settings file " ++ file ++ ": " ++ error.message)
      return default

/-- Writes the settings to their file, in directories that are made when they are missing. -/
def save (settings : Settings) (directories : Directories) : Disk.Steps Unit := do
  directories.ensure
  Disk.replaceFile directories.settingsFile (Text.encode settings.toJson.indented)

/-! ## In the log -/

/-- The settings as one line. -/
def describe (settings : Settings) : String :=
  let fields := [
    "default_check_url: " ++ Text.quoted settings.checkUrl,
    s!"connect_timeout_secs: {settings.connectTimeout}",
    s!"read_timeout_secs: {settings.readTimeout}",
    s!"max_artifact_size_bytes: {settings.artifactLimit}",
    "artifact_prefix: " ++ Text.quoted settings.artifactPrefix,
    "artifact_media_type: " ++ Text.quoted settings.mediaType,
    s!"debug_logging: {settings.debugLogging}",
    s!"max_log_size_bytes: {settings.logLimit}"]
  "UpdaterSettings \x7b " ++ ", ".intercalate fields ++ " \x7d"

end Settings

end SelfUpdate
