import TypeDiscovery.FileSystem
import TypeDiscovery.Logging.Filter

/-!
# Logging

Where logs are written, and what a log holds once it is set up. Setting up makes the log's
directory and file; only the first log of a process takes effect.
-/

namespace TypeDiscovery

def Level.name : Level → String
  | debug => "DEBUG"
  | info => "INFO"
  | warn => "WARN"

namespace Logging

/-- Where and how a log is written. -/
structure Settings where
  /-- The name of the log's file, before its date. -/
  component : String
  directory : Path
  toStderr : Bool
  deriving DecidableEq

/-- The directory of logs in a home directory; in the working directory if there is no home. -/
def defaultDirectory (home : Option Path) : Path :=
  ((home.getD ⟨"."⟩).join ".typescout").join "logs"

namespace Settings

def new (component : String) (home : Option Path) : Settings :=
  ⟨component, defaultDirectory home, false⟩

def withDirectory (s : Settings) (directory : Path) : Settings := { s with directory }

def withStderr (s : Settings) (toStderr : Bool) : Settings := { s with toStderr }

end Settings

/-- The log of a process. -/
structure Log where
  settings : Settings
  filter : Filter
  /-- The lines written, the last one first. -/
  lines : List String

/-- The line of an event. -/
def line (e : Event) : String := e.level.name ++ " " ++ e.source ++ ": " ++ e.message

/-- What a process has set up: its files, and its log once there is one. -/
structure Session where
  files : FileSystem
  log : Option Log
  /-- The files made for logs, by directory and component. -/
  made : List (Path × String)

namespace Session

def start : Session := ⟨.empty, none, []⟩

/-- Sets up logging. The directory and the file are made even if there is a log already. -/
def init (p : Session) (s : Settings) (filter : Filter) :
    Except DiscoveryError Unit × Session :=
  match p.files.makeDirectories s.directory with
  | .error e =>
    (.error (.internal s!"cannot create log directory {s.directory.text}: {e.message}"), p)
  | .ok files =>
    let p := { p with files, made := p.made ++ [(s.directory, s.component)] }
    match p.log with
    | some _ =>
      (.error (.internal ("logging already initialised: " ++
        "a global default trace dispatcher has already been set")), p)
    | none => (.ok (), { p with log := some ⟨s, filter, []⟩ })

/-- Writes the events that the filter lets through to the log, if there is one. -/
def tell (p : Session) (events : List Event) : Session :=
  { p with log := p.log.map fun log =>
      { log with lines := ((events.filter log.filter.lets).map line).reverse ++ log.lines } }

/-- The lines of a log file. -/
def linesOf (p : Session) (directory : Path) (component : String) : List String :=
  match p.log with
  | some log =>
    if log.settings.directory.same directory && log.settings.component == component then
      log.lines.reverse
    else []
  | none => []

/-- The files in a directory in which logs are made, with their lines. -/
def logsIn (p : Session) (directory : Path) : List (Path × List String) :=
  let components := ((p.made.filter fun (d, _) => d.same directory).map (·.2)).eraseDups
  (components.mergeSort (· ≤ ·)).map fun c => (directory.join c, p.linesOf directory c)

end Session

end Logging

end TypeDiscovery
