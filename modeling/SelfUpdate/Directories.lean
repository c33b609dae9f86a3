import SelfUpdate.World

/-!
# Directories of the updater

Settings, the last release and everything else have a directory each. They lie together below one
root, or where the environment of the user puts such directories.
-/

namespace SelfUpdate

structure Directories where
  config : Path
  cache : Path
  data : Path
  deriving DecidableEq, Repr

/-- The variables that say where a user keeps files, and the home that the user's account has. -/
structure Environment where
  home : Option String
  configHome : Option String
  cacheHome : Option String
  dataHome : Option String
  accountHome : Path
  deriving DecidableEq, Repr

namespace Environment

def homeDirectory (environment : Environment) : Path :=
  (environment.home.filter fun text => !text.isEmpty).getD environment.accountHome

/-- The chosen directory when it is absolute, or else one below the home directory. -/
def baseDirectory (environment : Environment) (chosen : Option String) (below : Path) : Path :=
  (chosen.filter Path.isAbsolute).getD (Path.join environment.homeDirectory below)

end Environment

namespace Directories

def applicationName : String := "upgate"

def rootedAt (root : Path) : Directories :=
  ⟨Path.join root "config", Path.join root "cache", Path.join root "data"⟩

def ofEnvironment (environment : Environment) : Directories where
  config := Path.join (environment.baseDirectory environment.configHome ".config") applicationName
  cache := Path.join (environment.baseDirectory environment.cacheHome ".cache") applicationName
  data := Path.join (environment.baseDirectory environment.dataHome ".local/share") applicationName

def settingsFile (directories : Directories) : Path := Path.join directories.config "settings.json"

def policyFile (directories : Directories) : Path :=
  Path.join directories.data "update_policy.json"

def lastReleaseFile (directories : Directories) : Path :=
  Path.join directories.cache "last_release.json"

def downloads (directories : Directories) : Path := Path.join directories.data "updates"

def logFile (directories : Directories) : Path := Path.join directories.data "debug.log"

/-- Makes the directories that are missing. -/
def ensure (directories : Directories) : Disk.Steps Unit := do
  Disk.makeDirectories directories.config
  Disk.makeDirectories directories.cache
  Disk.makeDirectories directories.data

end Directories

/-- Makes a directory that only its owner may enter, and says so in the log. -/
def Effect.preparePrivateDirectory (path : Path) : Effect (Except IoError Unit) := do
  let result ← Effect.ofSteps (Disk.makePrivateDirectory path)
  if result.toBool then log .debug .paths ("Private directory ready: " ++ path)
  return result

end SelfUpdate
