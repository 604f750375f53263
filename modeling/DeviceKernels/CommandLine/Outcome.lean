import DeviceKernels.Config.Basic

namespace DeviceKernels

inductive ExitStatus where
  | success
  | failure
  /-- The configuration cannot be used. -/
  | badConfiguration
  /-- The command broke off. -/
  | crashed
  deriving DecidableEq, Repr

def ExitStatus.code : ExitStatus → Nat
  | success => 0
  | failure => 1
  | badConfiguration => 2
  | crashed => 101

/-- A piece of output. The time that a command takes is known only after it has ended. -/
inductive Printed where
  | text (text : String)
  | milliseconds
  deriving DecidableEq, Repr

structure CommandOutcome where
  status : ExitStatus
  output : List Printed
  diagnostics : String
  files : FileTree

structure CommandContext where
  environment : Environment
  files : FileTree
  /-- The processors of the host. -/
  processors : UInt32
  now : Instant

namespace CommandOutcome

/-- The output, when the time that the command took is written in a given way. -/
def outputText (outcome : CommandOutcome) (milliseconds : String) : String :=
  String.join (outcome.output.map fun
    | .text text => text
    | .milliseconds => milliseconds)

/-- A line of text. -/
def line (text : String) : String := text ++ "\n"

def linesOf (texts : List String) : String := String.join (texts.map line)

/-- The outcome of a command that prints lines. -/
def prints (files : FileTree) (lines : List String) : CommandOutcome :=
  ⟨.success, [.text (linesOf lines)], "", files⟩

/-- The outcome of a command that says why it fails. -/
def fails (files : FileTree) (status : ExitStatus) (reason : String) : CommandOutcome :=
  ⟨status, [], line reason, files⟩

end CommandOutcome

namespace CommandContext

/-- Does something with the configuration, if there is one. -/
def withConfig (context : CommandContext) (command : Config → CommandOutcome) : CommandOutcome :=
  match Config.load context.environment context.files with
  | .ok config => command config
  | .error error =>
      .fails context.files .badConfiguration ("Configuration error: " ++ error.message)

end CommandContext

end DeviceKernels
