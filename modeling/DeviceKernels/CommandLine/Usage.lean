import DeviceKernels.Text.Numeral

namespace DeviceKernels.Usage

def versionLine : String := "kernel-forge 0.3.0"

def general : String := Text.join "\n"
  ["kernel-forge v0.3.0",
    "",
    "USAGE:",
    "    kernel-forge-cli <COMMAND> [OPTIONS]",
    "",
    "COMMANDS:",
    "    device       Show detected devices and the active one",
    "    cache        Inspect or fill the disk artifact cache (stats, list, clear, warm)",
    "    config       Inspect configuration (show, defaults, validate)",
    "    emit         Print generated source (gemm, conv2d, reduction)",
    "    version      Show version information",
    "    help         Show this help message",
    "",
    "OPTIONS:",
    "    -h, --help     Show help for command",
    "    -V, --version  Show version information",
    "    --json         JSON output where supported",
    "",
    "ENVIRONMENT:",
    "    FORGE_CONFIG_FILE   TOML config file",
    "    FORGE_CACHE_DIR     Disk artifact cache directory",
    "    FORGE_COMPILER      Kernel compiler binary (nvcc, icpx)",
    "    FORGE_DEVICE_*      Device description (BACKEND, CC, SMS, MEMORY, SMEM)",
    "    FORGE_LOG_LEVEL     Log filter (info, kernel_forge::compiler=debug)",
    "",
    "EXIT CODES:",
    "    0  Success",
    "    1  Failure",
    "    2  Configuration error",
    ""]

def device : String := Text.join "\n"
  ["kernel-forge-cli device - Show devices",
    "",
    "USAGE:",
    "    kernel-forge-cli device [--json]",
    "",
    "DESCRIPTION:",
    "    Lists the CPU fallback and any device described through FORGE_DEVICE_*",
    "    variables, marking the one a backend would select.",
    ""]

def cache : String := Text.join "\n"
  ["kernel-forge-cli cache - Manage the artifact cache",
    "",
    "USAGE:",
    "    kernel-forge-cli cache <SUBCOMMAND> [OPTIONS]",
    "",
    "SUBCOMMANDS:",
    "    stats          Entry count and size of the disk cache",
    "    list           Cached artifacts, oldest first",
    "    clear          Delete every cached artifact",
    "    warm           Compile the standard kernel set into the cache",
    "",
    "OPTIONS:",
    "    --json         JSON output (stats, list)",
    "    --jobs N       Parallel compiles for warm (default: CPU count)",
    "",
    "EXAMPLES:",
    "    FORGE_CACHE_DIR=/var/cache/forge kernel-forge-cli cache warm --jobs 4",
    "    kernel-forge-cli cache list --json",
    ""]

def config : String := Text.join "\n"
  ["kernel-forge-cli config - Inspect configuration",
    "",
    "USAGE:",
    "    kernel-forge-cli config <SUBCOMMAND> [--json]",
    "",
    "SUBCOMMANDS:",
    "    show           Effective configuration",
    "    defaults       Built-in defaults",
    "    validate       Check for settings that will not behave as intended",
    ""]

def emission : String := Text.join "\n"
  ["kernel-forge-cli emit - Print generated module source",
    "",
    "USAGE:",
    "    kernel-forge-cli emit <gemm|conv2d|reduction> [OPTIONS]",
    "",
    "OPTIONS:",
    "    --arch N           Target architecture (default: configured device)",
    "    --dtype T          f16, bf16 or f32 (default: f16)",
    "    --kind K           gemm: universal, streamk, grouped",
    "    --layout LL        gemm: operand layouts, e.g. tn, nt",
    "    --conv C           conv2d: fprop, dgrad, wgrad",
    "",
    "EXAMPLES:",
    "    kernel-forge-cli emit gemm --arch 90 --dtype bf16 --layout nt",
    "    kernel-forge-cli emit conv2d --conv dgrad",
    ""]

/-- The text on one command. -/
def ofCommand (command : String) : String :=
  if command == "device" || command == "devices" then device
  else if command == "cache" then cache
  else if command == "config" then config
  else if command == "emit" then emission
  else
    "No detailed help available for '" ++ command ++
      "'. Use 'kernel-forge-cli help' for general usage."

end DeviceKernels.Usage
