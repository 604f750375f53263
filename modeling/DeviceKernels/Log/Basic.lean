import DeviceKernels.Config.Environment
import DeviceKernels.Files.Tree
import DeviceKernels.Json.Form
import DeviceKernels.Log.Filter

namespace DeviceKernels

inductive LogFormat where
  | json
  | pretty
  | compact
  deriving DecidableEq, Repr

instance : Named LogFormat where
  all := [.json, .pretty, .compact]
  name
    | .json => "json"
    | .pretty => "pretty"
    | .compact => "compact"

inductive LogError where
  | filter (fault : FilterFault)
  | format (name : String)
  | file (error : FileError)
  deriving DecidableEq, Repr

def LogError.message : LogError → String
  | filter fault => "Invalid log filter: " ++ fault.message
  | format name => "Invalid log format: " ++ name
  | file error => "Failed to open log file: " ++ error.message

/-- The format of a name in any case. -/
def LogFormat.ofName (name : String) : Except LogError LogFormat :=
  let lower := Text.lowerAscii name
  match Named.ofName? lower with
  | some format => .ok format
  | none => .error (.format lower)

structure LogConfig where
  format : LogFormat
  filter : String
  /-- The file of the log; without one the log goes to the diagnostics. -/
  path : Option String
  deriving DecidableEq, Repr

namespace LogConfig

/-- The settings of an environment. A blank value is a value here, and an unknown format leaves the
given one. -/
def ofEnvironment (environment : Environment) (format : LogFormat) : LogConfig where
  format := ((environment.value? .logFormat).bind fun name =>
    (LogFormat.ofName name).toOption).getD format
  filter := (environment.value? .logLevel).getD "info"
  path := environment.value? .logFile

/-- Starts the log. Only a log in the JSON format has a file, which is made anew. -/
def start (config : LogConfig) (files : FileTree) : Except LogError FileTree := do
  (LogFilter.check config.filter).mapError .filter
  match config.format, config.path with
  | .json, some path => (files.createFile path).mapError .file
  | _, _ => .ok files

end LogConfig

end DeviceKernels
