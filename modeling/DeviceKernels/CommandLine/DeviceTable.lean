import DeviceKernels.CommandLine.Outcome

namespace DeviceKernels

namespace DeviceInfo

/-- The cells of one line of the table. -/
def columns (cells : List String) : String :=
  let aligned := (cells.zip [8, 6, 32]).map (fun (cell, width) => Text.padRight width cell) ++
    ((cells.drop 3).zip [6, 6, 12, 14]).map fun (cell, width) => Text.padLeft width cell
  Text.join " " aligned

def heading : String :=
  columns ["ACTIVE", "INDEX", "NAME", "CC", "SMS", "SMEM (KB)", "MEMORY (MB)"]

/-- Shared memory in whole kilobytes; the largest number stands for no bound. -/
def sharedMemoryText (device : DeviceInfo) : String :=
  if device.sharedMemoryPerBlock == UInt32.ofNat (UInt32.size - 1) then "-"
  else Text.decimal (device.sharedMemoryPerBlock.toNat / 1024)

def row (device : DeviceInfo) (isActive : Bool) : String :=
  columns [if isActive then "*" else "", Text.decimal device.index, device.name,
    Text.decimal device.computeCapability.toNat, Text.decimal device.multiprocessors.toNat,
    device.sharedMemoryText, Text.decimal (device.totalMemory / (1024 * 1024))]

end DeviceInfo

namespace DeviceSelection

def toJson (selection : DeviceSelection) : Json := .object
  [("active", JsonForm.toJson selection.active),
    ("available", JsonForm.toJson selection.available)]

def table (selection : DeviceSelection) : List String :=
  DeviceInfo.heading :: selection.available.map fun device =>
    device.row (device == selection.active)

end DeviceSelection

/-- Shows the devices as a table or as JSON. -/
def CommandContext.showDevices (context : CommandContext) (asJson : Bool) : CommandOutcome :=
  context.withConfig fun config =>
    match DeviceSelection.select context.processors config.device with
    | .error error =>
        .fails context.files .badConfiguration ("Device error: " ++ error.message)
    | .ok selection =>
        .prints context.files
          (if asJson then [selection.toJson.sorted.compact] else selection.table)

end DeviceKernels
