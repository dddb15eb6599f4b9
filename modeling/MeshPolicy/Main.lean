import MeshPolicy.CommandLine

/-! # The program

Reads the settings from the command line and shows them. A command line without settings ends the
program with status 2, or with status 0 if it asked for help.
-/

namespace MeshPolicy.CommandLine
set_option autoImplicit false

def settingLines (settings : Settings) : List String :=
  ["dns-suffix: " ++ settings.dnsSuffix,
    "poll-interval-secs: " ++ toString settings.pollIntervalSecs,
    "cache-sync-timeout-secs: " ++ toString settings.cacheSyncTimeoutSecs,
    "max-retries: " ++ toString settings.maxRetries,
    "disable-onboarding: " ++ toString settings.disableOnboarding]

def flagLines : List String :=
  Flag.all.map fun flag =>
    "--" ++ flag.name ++ (if flag.takesValue then " <" ++ flag.name ++ ">" else "")

end MeshPolicy.CommandLine

open MeshPolicy.CommandLine in
def main (arguments : List String) : IO UInt32 := do
  match Settings.parse arguments with
  | .ok settings =>
    (settingLines settings).forM IO.println
    return 0
  | .error .helpWanted =>
    flagLines.forM IO.println
    return 0
  | .error refusal =>
    IO.eprintln ("error: " ++ refusal.kind)
    return 2
