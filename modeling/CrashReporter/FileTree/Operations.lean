import CrashReporter.FileTree

/-!
# Operations on a tree of files

What a program can do to a tree through the system, and how the system refuses it. An operation names
its entry by a route: names to go into, with steps up and steps that stay, and perhaps a slash at the
end that only a directory may bear. Each step needs a directory to start from.

An operation that is refused may have changed the tree before; the tree is kept as it is then.
-/

namespace CrashReporter

/-- Why the system refuses an operation. -/
inductive OsError where
  | notFound
  | busy
  | alreadyExists
  | notDirectory
  | isDirectory
  | nameTooLong
  | nulInName
  deriving DecidableEq, Inhabited

/-- The system's wording. -/
def OsError.text : OsError → String
  | .notFound => "No such file or directory"
  | .busy => "Device or resource busy"
  | .alreadyExists => "File exists"
  | .notDirectory => "Not a directory"
  | .isDirectory => "Is a directory"
  | .nameTooLong => "File name too long"
  | .nulInName => "file name contained an unexpected NUL byte"

/-- The system's number; a name with a NUL does not reach the system. -/
def OsError.code? : OsError → Option Nat
  | .notFound => some 2
  | .busy => some 16
  | .alreadyExists => some 17
  | .notDirectory => some 20
  | .isDirectory => some 21
  | .nameTooLong => some 36
  | .nulInName => none

/-- The wording with the number. -/
def OsError.message (e : OsError) : String :=
  match e.code? with
  | some n => s!"{e.text} (os error {n})"
  | none => e.text

/-- A step of a route. -/
inductive Step where
  | stay
  | up
  | into (name : String)
  deriving DecidableEq

/-- A way through a tree from the root. -/
structure Route where
  steps : List Step
  /-- Whether a slash follows the last step. -/
  slash : Bool := false
  deriving DecidableEq

namespace Route

/-- The pieces of a text between slashes. -/
def pieces : List Char → List (List Char)
  | [] => [[]]
  | c :: cs =>
    if c = '/' then [] :: pieces cs
    else match pieces cs with
      | [] => [[c]]
      | p :: ps => (c :: p) :: ps

/-- The step that a piece names; nothing between two slashes is no step. -/
def step? (piece : List Char) : Option Step :=
  match piece with
  | [] => none
  | ['.'] => some .stay
  | ['.', '.'] => some .up
  | cs => some (.into (String.ofList cs))

/-- The route that a path's text describes. -/
def ofText (s : String) : Route where
  steps := (pieces s.toList).filterMap step?
  slash := s.endsWith "/"

/-- The steps without those that stay. -/
def plain (r : Route) : List Step := r.steps.filter (· ≠ .stay)

end Route

/-- The greatest length of a name in bytes. -/
def maxNameLength : Nat := 255

/-- The length that a path's text must stay below, in bytes. -/
def maxPathLength : Nat := 4096

/-- An operation on a tree. -/
abbrev Disk := EStateM OsError FileTree

namespace Disk

/-- Refuses an operation. -/
def refuse {α : Type} (e : OsError) : Disk α := throw e

/-- The tree as it is. -/
def look {α : Type} (f : FileTree → α) : Disk α := do return f (← get)

/-- The outcome of an operation that is allowed to fail. -/
def attempt {α : Type} (x : Disk α) : Disk (Except OsError α) := fun t =>
  match x t with
  | .ok a t => .ok (.ok a) t
  | .error e t => .ok (.error e) t

/-- The directory that a step from `p` leads out of must be one. -/
def needDirectory (p : Path) : Disk Unit := do
  match ← look (·.find? p) with
  | some .directory => pure ()
  | some (.file _) => refuse .notDirectory
  | none => refuse .notFound

/-- A name that is not too long. -/
def needShort (name : String) : Disk Unit :=
  if maxNameLength < name.utf8ByteSize then refuse .nameTooLong else pure ()

/-- Where a step leads from `p`. -/
def follow (p : Path) (s : Step) : Disk Path := do
  needDirectory p
  match s with
  | .stay => pure p
  | .up => pure p.dropLast
  | .into name => do
    needShort name
    pure (p ++ [name])

/-- Where steps lead from `p`. -/
def walk (p : Path) (steps : List Step) : Disk Path := steps.foldlM follow p

/-- The last name of a route and the directory it is looked up in; none if the route ends otherwise
than with a name. -/
def target (r : Route) : Disk (Option Path) := do
  match r.steps.getLast? with
  | some (.into name) => do
    let parent ← walk [] r.steps.dropLast
    some <$> follow parent (.into name)
  | some s => do
    let _ ← follow (← walk [] r.steps.dropLast) s
    pure none
  | none => pure none

/-- The entry that a route leads to. -/
def stat (r : Route) : Disk (Path × Entry) := do
  let p ← walk [] r.steps
  match ← look (·.find? p) with
  | none => refuse .notFound
  | some e => if r.slash ∧ e ≠ .directory then refuse .notDirectory else pure (p, e)

/-- Makes a directory. -/
def makeDirectory (r : Route) : Disk Unit := do
  match ← target r with
  | none => refuse .alreadyExists
  | some p =>
    if (← look (·.find? p)).isSome then refuse .alreadyExists
    else modify (·.put p .directory)

/-- Writes a file, which is made or emptied first. -/
def write (r : Route) (content : Bytes) : Disk Unit := do
  match ← target r with
  | none => refuse .isDirectory
  | some p =>
    if r.slash then refuse .isDirectory
    else if ← look (·.isDirectory p) then refuse .isDirectory
    else modify (·.put p (.file content))

/-- Reads a file. -/
def read (r : Route) : Disk Bytes := do
  match ← stat r with
  | (_, .file content) => pure content
  | (_, .directory) => refuse .isDirectory

/-- Moves a file to where another may be. -/
def rename (source destination : Route) : Disk Unit := do
  let some p ← target source | refuse .busy
  let some q ← target destination | refuse .busy
  let some e ← look (·.find? p) | refuse .notFound
  if destination.slash ∧ e ≠ .directory then refuse .notDirectory
  else if ← look (·.isDirectory q) then refuse .isDirectory
  else modify fun t => (t.erase p).put q e

/-- Removes a file. -/
def remove (r : Route) : Disk Unit := do
  match ← target r with
  | none => refuse .isDirectory
  | some p =>
    match ← look (·.find? p) with
    | none => refuse .notFound
    | some .directory => refuse .isDirectory
    | some (.file _) => if r.slash then refuse .notDirectory else modify (·.erase p)

/-- Whether a route leads to an entry that `f` accepts. -/
def leadsTo (f : Entry → Bool) (r : Route) : Disk Bool := do
  match ← attempt (stat r) with
  | .ok (_, e) => pure (f e)
  | .error _ => pure false

/-- Whether a route leads to a file. -/
def isFile (r : Route) : Disk Bool := leadsTo (· ≠ .directory) r

/-- Whether a route leads to a directory. -/
def isDir (r : Route) : Disk Bool := leadsTo (· = .directory) r

/-- Whether a route leads to anything. -/
def exists? (r : Route) : Disk Bool := leadsTo (fun _ => true) r

/-- A directory that is made now or is there already. -/
def makeOrFind (r : Route) : Disk Unit := do
  match ← attempt (makeDirectory r) with
  | .ok _ => pure ()
  | .error e => if ← isDir r then pure () else refuse e

/-- Makes a directory, after those that lead to it where they are missing. The steps to it are given
in reverse. -/
def makeFrom : List Step → Disk Unit
  | [] => pure ()
  | s :: above => do
    let here : Route := { steps := (s :: above).reverse }
    match ← attempt (makeDirectory here) with
    | .ok _ => pure ()
    | .error .notFound => do
      makeFrom above
      makeOrFind here
    | .error e => if ← isDir here then pure () else refuse e

/-- Makes a directory and those that lead to it where they are missing. -/
def makeDirectories (r : Route) : Disk Unit := do
  match ← attempt (makeDirectory r) with
  | .ok _ => pure ()
  | .error .notFound => do
    makeFrom r.plain.dropLast.reverse
    makeOrFind r
  | .error e => if ← isDir r then pure () else refuse e

/-- The route of a path's text that the system accepts at all. -/
def route (s : String) : Disk Route :=
  if s.toList.any (·.toNat = 0) then refuse .nulInName
  else if maxPathLength ≤ s.utf8ByteSize then refuse .nameTooLong
  else pure (.ofText s)

end Disk

end CrashReporter
