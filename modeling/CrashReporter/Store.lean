import CrashReporter.Failure
import CrashReporter.FileTree.Operations
import CrashReporter.Json.Shape
import CrashReporter.Settings.Directories

/-!
# Stores

A store keeps small documents in a directory, one file for each name. A document is written to a file
beside its own, which is then moved over the old one, so that the old document is there until the new
one is complete. A file that is missing or unreadable is no document.
-/

namespace CrashReporter

/-- A directory that documents are kept in. -/
structure Store where
  dir : String
  deriving DecidableEq, Inhabited

namespace Store

open Json

/-- The file that shows whether a directory can be written to. -/
def probeName : String := ".write-probe"

/-- Where a document is kept. -/
def pathOf (s : Store) (name : String) : String := joinPath s.dir name

/-- The name of the file that a document is written to first. -/
def draftName (name : String) : String := name ++ ".tmp"

/-- The store in a directory, which is made if it is missing and must be writable. -/
def openIn (dir : String) : Disk Store := do
  Disk.makeDirectories (← Disk.route dir)
  let probe ← Disk.route (joinPath dir probeName)
  Disk.write probe (Text.utf8 "ok")
  Disk.remove probe
  return ⟨dir⟩

/-- The store in the first of the directories that can be used. -/
def openFirst : List String → Disk (Option Store)
  | [] => pure none
  | dir :: rest => do
    match ← Disk.attempt (openIn dir) with
    | .ok store => return some store
    | .error _ => openFirst rest

/-- The failure of all candidates. -/
def noneUsable (candidates : List String) : Failure :=
  .storageUnavailable s!"none of {candidates.length} candidate directories is writable"

/-- Whether there is a file of that name. -/
def contains (s : Store) (name : String) : Disk Bool := do
  match ← Disk.attempt (Disk.route (s.pathOf name)) with
  | .ok r => Disk.isFile r
  | .error _ => return false

/-- The bytes of a document. -/
def bytes? (s : Store) (name : String) : Disk (Option Bytes) := do
  let content ← Disk.attempt do Disk.read (← Disk.route (s.pathOf name))
  return content.toOption

/-- The document of that name. -/
def load {β : Type} (s : Store) (shape : Shape β) (name : String) : Disk (Option β) := do
  return (← s.bytes? name).bind fun content => (shape.ofText content).toOption

/-- What a document's file holds. -/
def written (document : Value) : Bytes := Text.utf8 document.pretty

/-- The first half of saving: the document is complete in a file beside its own. -/
def writeDraft (s : Store) (name : String) (document : Value) : Disk Unit := do
  Disk.write (← Disk.route (s.pathOf (draftName name))) (written document)

/-- The second half of saving: that file takes the place of the document's own. -/
def commitDraft (s : Store) (name : String) : Disk Unit := do
  Disk.rename (← Disk.route (s.pathOf (draftName name))) (← Disk.route (s.pathOf name))

/-- Saves a document. -/
def save (s : Store) (name : String) (document : Value) : Disk Unit := do
  s.writeDraft name document
  s.commitDraft name

/-- Removes a document; one that is missing is no error. -/
def remove (s : Store) (name : String) : Disk Unit := do
  match ← Disk.attempt (Disk.route (s.pathOf name)) with
  | .error _ => pure ()
  | .ok r => if ← Disk.exists? r then Disk.remove r else pure ()

/-- What the system refuses, as the agent's failure. -/
def failure (e : OsError) : Failure := .io e.message

end Store

end CrashReporter
