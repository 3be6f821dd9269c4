import CrashReporter.Payload
import CrashReporter.Settings

/-!
# The command line

With `--version` or `-V` it tells the version. Otherwise it checks the environment: it shows the settings
that an agent would start with, or why none would.
-/

namespace CrashReporter

/-- The variables of the environment that stand for options and are set. -/
def readEnvironment : IO Environment :=
  Variable.all.filterMapM fun v => do
    return (← IO.getEnv v.name).map fun value => (v.name, Text.utf8 value)

/-- Whether the arguments ask for the version. -/
def asksVersion (args : List String) : Bool := args.any fun arg => arg == "--version" || arg == "-V"

end CrashReporter

open CrashReporter in
/-- The program. -/
def main (args : List String) : IO UInt32 := do
  if asksVersion args then
    IO.println ("faultline " ++ agentVersion)
    return 0
  match ({} : Options).resolve (← readEnvironment) false with
  | .ok settings =>
    IO.println settings.describe
    return 0
  | .error f =>
    IO.eprintln ("Agent failed to start: " ++ f.message)
    return 1
