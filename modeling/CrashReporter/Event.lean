import CrashReporter.Text.Blank

/-!
# Events

An event is what is reported: a flattened stack trace, the text of an error and the time. An event
captured from a running program holds the stack as it was found; its frames are known once it is
resolved, which `Event.resolve` does with what the stack turned out to be.
-/

namespace CrashReporter

/-- One frame of a stack trace. -/
structure Frame where
  functionName : String
  className : String
  filePath : String
  lineNumber : UInt32
  deriving DecidableEq, Inhabited

namespace Frame

/-- The characters before and behind the last pair of colons. -/
def splitLast : List Char → Option (List Char × List Char)
  | [] => none
  | c :: cs =>
    match splitLast cs with
    | some (path, name) => some (c :: path, name)
    | none =>
      match c, cs with
      | ':', ':' :: name => some ([], name)
      | _, _ => none

/-- The frame of a symbol: its last segment is the function's name, what stands before that the
path of its module. -/
def ofSymbol (symbol filePath : String) (lineNumber : UInt32) : Frame :=
  match splitLast symbol.toList with
  | some (path, name) => ⟨String.ofList name, String.ofList path, filePath, lineNumber⟩
  | none => ⟨symbol, "", filePath, lineNumber⟩

end Frame

/-- A captured error. `pending` tells that the frames are not known yet. -/
structure Event where
  frames : List Frame := []
  excType : String := ""
  timestamp : Int := 0
  pending : Bool := false
  deriving DecidableEq, Inhabited

/-- An error as it is described in an event: whether its type is known by name, its text, its text
for programmers, and the texts of its causes, outermost first. -/
structure ErrorReport where
  typeName : Option String
  display : String
  debug : String := ""
  causes : List String := []

namespace ErrorReport

/-- The type's name and the text, or the text for programmers where the type is hidden; then a line
for each cause. -/
def describe (e : ErrorReport) : String :=
  let head := match e.typeName with
    | some name => name ++ ": " ++ e.display
    | none => e.debug
  e.causes.foldl (fun s cause => s ++ "\nCaused by: " ++ cause) head

end ErrorReport

namespace Event

/-- An event of a description captured at `now`, with the stack still to be resolved. -/
def captured (excType : String) (now : Int) : Event :=
  { excType, timestamp := now, pending := true }

/-- An event for an error, captured at `now`. -/
def ofError (e : ErrorReport) (now : Int) : Event := captured e.describe now

/-- The description of a panic, with the place where it was raised if that is known. -/
def panicText (message : String) : Option (String × UInt32) → String
  | some (file, line) => s!"panic at {file}:{line}: {message}"
  | none => s!"panic: {message}"

/-- An event for a panic, captured at `now`. -/
def ofPanic (message : String) (location : Option (String × UInt32)) (now : Int) : Event :=
  captured (panicText message location) now

/-- The frames of the stack that was captured; an event that is resolved stays as it is. -/
def resolve (e : Event) (stack : List Frame) : Event :=
  if e.pending then { e with frames := stack, pending := false } else e

/-- Whether there is nothing worth reporting. -/
def isEmpty (e : Event) : Bool :=
  e.frames.isEmpty && !e.pending && Text.isBlankText e.excType

end Event

end CrashReporter
