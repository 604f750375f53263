import DeviceKernels.CommandLine.CacheTable
import DeviceKernels.CommandLine.ConfigReport
import DeviceKernels.CommandLine.DeviceTable
import DeviceKernels.CommandLine.Emission
import DeviceKernels.CommandLine.Usage
import DeviceKernels.Log.Basic

namespace DeviceKernels

namespace CommandContext

/-- Tells what is wrong with a command and how it is used. -/
def misuse (context : CommandContext) (complaint usage : String) : CommandOutcome :=
  ⟨.failure, [], CommandOutcome.linesOf [complaint, usage], context.files⟩

/-- Prints a help text, which goes to the diagnostics. -/
def help (context : CommandContext) (usage : String) : CommandOutcome :=
  ⟨.success, [], CommandOutcome.line usage, context.files⟩

def cacheCommand (context : CommandContext) (arguments : List String) (asJson : Bool) :
    CommandOutcome :=
  match arguments.head?.getD "stats" with
  | "stats" => context.showStatistics asJson
  | "list" => context.listEntries asJson
  | "clear" => context.clearEntries
  | "warm" => context.warmWithJobs arguments
  | other => context.misuse ("Unknown cache subcommand: " ++ other) Usage.cache

def configCommand (context : CommandContext) (arguments : List String) (asJson : Bool) :
    CommandOutcome :=
  match arguments.head?.getD "show" with
  | "show" => context.showConfig asJson
  | "defaults" => context.showDefaults asJson
  | "validate" => context.validateConfig
  | other => context.misuse ("Unknown config subcommand: " ++ other) Usage.config

/-- The architecture of the configuration; one that cannot be read is passed over in silence. -/
def emissionArch (context : CommandContext) : UInt32 :=
  match Config.load context.environment context.files with
  | .ok config => config.arch
  | .error _ => 80

def emitCommand (context : CommandContext) (arguments : List String) : CommandOutcome :=
  let rendered := do
    (← EmissionRequest.parse arguments context.emissionArch).render
  match rendered with
  | .error error => .fails context.files .failure error.message
  | .ok (kernel, source) =>
      { status := .success
        output := [.text source]
        diagnostics := CommandOutcome.line ("// kernel: " ++ kernel.symbol)
        files := context.files }

/-- Runs the command that the first argument names. -/
def perform (context : CommandContext) (arguments : List String) : CommandOutcome :=
  let rest := arguments.tail
  let asJson := Arguments.hasFlag rest "--json"
  match arguments.head?.getD "help" with
  | "device" => context.showDevices asJson
  | "devices" => context.showDevices asJson
  | "cache" => context.cacheCommand rest asJson
  | "config" => context.configCommand rest asJson
  | "emit" => context.emitCommand rest
  | "help" => context.help (rest.head?.elim Usage.general Usage.ofCommand)
  | "--help" => context.help (rest.head?.elim Usage.general Usage.ofCommand)
  | "-h" => context.help (rest.head?.elim Usage.general Usage.ofCommand)
  | "version" => .prints context.files [Usage.versionLine]
  | "--version" => .prints context.files [Usage.versionLine]
  | "-V" => .prints context.files [Usage.versionLine]
  | other => context.misuse ("Unknown command: " ++ other) Usage.general

/-- Starts the log and runs a command. Without a log the command runs all the same. -/
def run (context : CommandContext) (arguments : List String) : CommandOutcome :=
  match (LogConfig.ofEnvironment context.environment .compact).start context.files with
  | .ok files => { context with files }.perform arguments
  | .error error =>
      let outcome := context.perform arguments
      { outcome with
        diagnostics := CommandOutcome.line ("Logging disabled: " ++ error.message) ++
          outcome.diagnostics }

end CommandContext

end DeviceKernels
