/-!
# Where documents may be kept

The directories that may hold the agent's documents, the preferred one first.
-/

namespace CrashReporter

/-- A path below a directory: an absolute path stands for itself, and a separator is put in only
where there is none. -/
def joinPath (dir name : String) : String :=
  if name.startsWith "/" then name
  else if dir.isEmpty || dir.endsWith "/" then dir ++ name
  else dir ++ "/" ++ name

/-- The agent's own subdirectory. -/
def subdirectory : String := ".faultline"

/-- What a platform offers for keeping documents. -/
inductive Platform where
  /-- The user's directories, as far as they are known. -/
  | desktop (working home : Option String) (temporary : String)
  /-- One directory. -/
  | fixed (dir : String)
  /-- Nothing. -/
  | bare
  deriving DecidableEq

/-- The candidates: the configured directory as it is, then the agent's subdirectory of each that
the platform offers. -/
def Platform.candidates (p : Platform) (configured : Option String) : List String :=
  match p with
  | .desktop working home temporary =>
    configured.toList
      ++ (working.toList ++ home.toList ++ [temporary]).map (joinPath · subdirectory)
  | .fixed dir => configured.toList ++ [joinPath dir subdirectory]
  | .bare => []

end CrashReporter
