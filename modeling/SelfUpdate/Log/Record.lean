/-!
# Log records
-/

namespace SelfUpdate.Log

inductive Level where
  | debug
  | info
  | warn
  | error
  deriving DecidableEq, Repr

namespace Level

def rank : Level → Nat
  | debug => 0
  | info => 1
  | warn => 2
  | error => 3

def name : Level → String
  | debug => "DEBUG"
  | info => "INFO"
  | warn => "WARN"
  | error => "ERROR"

/-- Whether a record of this level is kept when records below `least` are not. -/
def isKept (least level : Level) : Bool := least.rank ≤ level.rank

end Level

/-- The parts of the updater that write to the log. -/
inductive Source where
  | checker
  | commandLine
  | digest
  | downloader
  | installer
  | logging
  | manager
  | paths
  | policy
  | settings
  | worker
  deriving DecidableEq, Repr

def Source.name : Source → String
  | checker => "upgate_core::checker"
  | commandLine => "upgate::cli"
  | digest => "upgate_core::integrity"
  | downloader => "upgate_core::downloader"
  | installer => "upgate::installer"
  | logging => "upgate::logging"
  | manager => "upgate::manager"
  | paths => "upgate_platform::paths"
  | policy => "upgate::policy"
  | settings => "upgate::settings"
  | worker => "upgate_core::worker"

structure Record where
  level : Level
  source : Source
  text : String
  deriving DecidableEq, Repr

end SelfUpdate.Log
