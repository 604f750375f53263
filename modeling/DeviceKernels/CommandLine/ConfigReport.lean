import DeviceKernels.CommandLine.Outcome
import DeviceKernels.Config.Report
import DeviceKernels.Config.Warning

namespace DeviceKernels

def Config.report (config : Config) (asJson : Bool) : List String :=
  if asJson then [config.toJson.pretty] else config.lines

namespace CommandContext

def showConfig (context : CommandContext) (asJson : Bool) : CommandOutcome :=
  context.withConfig fun config => .prints context.files (config.report asJson)

def showDefaults (context : CommandContext) (asJson : Bool) : CommandOutcome :=
  .prints context.files (Config.defaults.report asJson)

/-- Warnings make the check fail. -/
def validateConfig (context : CommandContext) : CommandOutcome :=
  context.withConfig fun config =>
    match config.warnings context.files with
    | [] => .prints context.files ["Configuration is valid."]
    | warnings =>
        { status := .failure
          output := []
          diagnostics := CommandOutcome.linesOf
            (warnings.map fun warning => "WARNING: " ++ warning.message)
          files := context.files }

end CommandContext

end DeviceKernels
