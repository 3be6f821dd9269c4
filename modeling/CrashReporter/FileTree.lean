import CrashReporter.Bytes

/-!
# Trees of files

A tree of directories and files, as far as it is known: an entry for each path, which is the list of
names from the root down. The root is a directory. `find?` is the view of a tree: `find?_put` and
`find?_erase` say what a change changes.
-/

namespace CrashReporter

/-- A directory, or a file and what is in it. -/
inductive Entry where
  | directory
  | file (content : Bytes)
  deriving DecidableEq, Inhabited

/-- The names from the root down to an entry. -/
abbrev Path := List String

/-- A tree of directories and files. -/
structure FileTree where
  entries : List (Path × Entry) := []
  deriving DecidableEq, Inhabited

namespace FileTree

/-- The entry at a path. -/
def find? (t : FileTree) (p : Path) : Option Entry :=
  if p = [] then some .directory else t.entries.lookup p

/-- The entries with one in place of what may be at its path. -/
def putEntry (p : Path) (e : Entry) : List (Path × Entry) → List (Path × Entry)
  | [] => [(p, e)]
  | (q, f) :: rest => if q = p then (p, e) :: rest else (q, f) :: putEntry p e rest

/-- The tree with an entry in place of what may be at its path. -/
def put (t : FileTree) (p : Path) (e : Entry) : FileTree := ⟨putEntry p e t.entries⟩

/-- The tree without the entry at a path. -/
def erase (t : FileTree) (p : Path) : FileTree := ⟨t.entries.filter fun e => e.1 ≠ p⟩

/-- The tree without the entry at a path and those below it. -/
def eraseAll (t : FileTree) (p : Path) : FileTree := ⟨t.entries.filter fun e => !p.isPrefixOf e.1⟩

theorem lookup_cons_path (p q : Path) (e : Entry) (rest : List (Path × Entry)) :
    ((q, e) :: rest).lookup p = if p = q then some e else rest.lookup p := by
  by_cases h : p = q
  · simp [h]
  · simp [List.lookup_cons, h, beq_eq_false_iff_ne.2 h]

@[simp] theorem find?_put (t : FileTree) (p q : Path) (e : Entry) :
    (t.put p e).find? q = if q = [] then some .directory else if q = p then some e else t.find? q := by
  have look : ∀ entries : List (Path × Entry),
      (putEntry p e entries).lookup q = if q = p then some e else entries.lookup q := by
    intro entries
    induction entries with
    | nil => simp [putEntry, lookup_cons_path]
    | cons a rest ih =>
      obtain ⟨k, v⟩ := a
      simp only [putEntry]
      split
      · next h =>
        subst h
        by_cases hq : q = k <;> simp [lookup_cons_path, hq]
      · next h =>
        by_cases hq : q = k
        · subst hq
          simp [h]
        · simp [lookup_cons_path, hq, ih]
  by_cases h : q = [] <;> simp [find?, put, h, look]

@[simp] theorem find?_erase (t : FileTree) (p q : Path) :
    (t.erase p).find? q = if q = [] then some .directory else if q = p then none else t.find? q := by
  have look : ∀ entries : List (Path × Entry),
      (entries.filter fun e => e.1 ≠ p).lookup q = if q = p then none else entries.lookup q := by
    intro entries
    induction entries with
    | nil => simp
    | cons a rest ih =>
      obtain ⟨k, v⟩ := a
      by_cases hk : k = p
      · subst hk
        have skip : ((k, v) :: rest).filter (fun e => e.1 ≠ k) = rest.filter fun e => e.1 ≠ k := by
          simp
        rw [skip, ih]
        by_cases hq : q = k <;> simp [lookup_cons_path, hq]
      · by_cases hq : q = k
        · subst hq
          simp [hk]
        · simpa [lookup_cons_path, hq, hk] using ih
  by_cases h : q = []
  · simp [find?, h]
  · simp only [find?, erase, h, if_false]
    exact look t.entries

/-- Whether there is a directory at a path. -/
def isDirectory (t : FileTree) (p : Path) : Bool := t.find? p == some .directory

/-- What is in the file at a path. -/
def content? (t : FileTree) (p : Path) : Option Bytes :=
  match t.find? p with
  | some (.file content) => some content
  | _ => none

/-- The entries below a directory as texts, directories with a slash at the end, in order. -/
def listing (t : FileTree) (p : Path) : List String :=
  let below := t.entries.filterMap fun (q, e) =>
    if p.isPrefixOf q ∧ q ≠ p then
      let name := "/".intercalate (q.drop p.length)
      some (match e with
        | .directory => name ++ "/"
        | .file _ => name)
    else none
  below.mergeSort fun a b => a ≤ b

end FileTree

end CrashReporter
