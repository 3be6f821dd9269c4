import CrashReporter.Proofs.Disk

/-!
# Changes of a file tree

A way through a tree leads to the same place in every tree that has all of its directories
(`Disk.walk_within`). What an operation leaves of a tree (`Disk.Leaves`) is said by how the two trees are
related: directories were only added (`FileTree.Built`), as by making them
(`Disk.leaves_makeDirectories`), or nothing has changed but the files of some names
(`FileTree.Confined`), as by putting a file where no directory is or taking one away
(`FileTree.confined_put`, `FileTree.confined_erase`).

Where a route leads, a file is read, written, moved or taken away (`Disk.read_run`, `Disk.write_run`,
`Disk.rename_run`, `Disk.remove_run`).
-/

namespace CrashReporter

namespace FileTree

/-- Whether all directories of a tree are directories of another. -/
def Within (t t' : FileTree) : Prop := ∀ p, t.isDirectory p = true → t'.isDirectory p = true

/-- Whether all entries of a tree are in another. -/
def Grown (t t' : FileTree) : Prop := ∀ p e, t.find? p = some e → t'.find? p = some e

instance : Std.Refl Grown := ⟨fun _ _ _ h => h⟩

instance : Trans Grown Grown Grown := ⟨fun first second p e h => second p e (first p e h)⟩

theorem Grown.within {t t' : FileTree} (h : Grown t t') : Within t t' := by
  intro p here
  unfold isDirectory at here ⊢
  rw [beq_iff_eq] at here ⊢
  exact h p .directory here

/-- Whether a tree is another with directories added. -/
structure Built (t t' : FileTree) : Prop where
  grown : Grown t t'
  files : ∀ p, t'.content? p = t.content? p

instance : Std.Refl Built := ⟨fun t => ⟨Std.Refl.refl t, fun _ => rfl⟩⟩

instance : Trans Built Built Built :=
  ⟨fun first second => ⟨Trans.trans first.grown second.grown, fun p => (second.files p).trans (first.files p)⟩⟩

/-- Whether two trees have the same directories, and the same files but those of some names. -/
structure Confined (names : List String) (t t' : FileTree) : Prop where
  directories : ∀ p, t'.isDirectory p = t.isDirectory p
  files : ∀ p, (∀ name ∈ names, p.getLast? ≠ some name) → t'.find? p = t.find? p

theorem Confined.refl (names : List String) (t : FileTree) : Confined names t t := ⟨fun _ => rfl, fun _ _ => rfl⟩

theorem Confined.trans {names : List String} {t t' t'' : FileTree} (h : Confined names t t')
    (h' : Confined names t' t'') : Confined names t t'' :=
  ⟨fun p => (h'.directories p).trans (h.directories p),
    fun p hp => (h'.files p hp).trans (h.files p hp)⟩

instance (names : List String) : Std.Refl (Confined names) := ⟨Confined.refl names⟩

instance (names : List String) : Trans (Confined names) (Confined names) (Confined names) := ⟨Confined.trans⟩

theorem Confined.mono {names more : List String} {t t' : FileTree} (h : Confined names t t')
    (sub : names ⊆ more) : Confined more t t' :=
  ⟨h.directories, fun p hp => h.files p fun name hn => hp name (sub hn)⟩

theorem Confined.within {names : List String} {t t' : FileTree} (h : Confined names t t') : Within t t' :=
  fun p hp => (h.directories p).trans hp

theorem Confined.symm {names : List String} {t t' : FileTree} (h : Confined names t t') : Confined names t' t :=
  ⟨fun p => (h.directories p).symm, fun p hp => (h.files p hp).symm⟩

theorem find?_root (t : FileTree) : t.find? [] = some .directory := rfl

theorem find?_put_ne {t : FileTree} {p q : Path} (e : Entry) (h : q ≠ p) : (t.put p e).find? q = t.find? q := by
  rw [find?_put, if_neg h]
  split
  · next root => rw [root, find?_root]
  · rfl

theorem built_put {t : FileTree} {p : Path} (vacant : t.find? p = none) : Built t (t.put p .directory) where
  grown q e h := by
    have elsewhere : q ≠ p := by
      rintro rfl
      cases vacant.symm.trans h
    rw [find?_put_ne _ elsewhere, h]
  files q := by
    unfold content?
    by_cases here : q = p
    · rw [here, find?_put, vacant, if_pos rfl, ite_self]
    · rw [find?_put_ne _ here]

/-- What is put at a place replaces what was put there before. -/
theorem put_put (t : FileTree) (p : Path) (e f : Entry) : (t.put p e).put p f = t.put p f := by
  have again : ∀ entries, putEntry p f (putEntry p e entries) = putEntry p f entries := by
    intro entries
    induction entries with
    | nil => simp only [putEntry, if_true]
    | cons entry rest ih =>
      obtain ⟨q, g⟩ := entry
      by_cases here : q = p
      · simp only [putEntry, here, if_true]
      · simp only [putEntry, here, if_false, ih]
  exact congrArg FileTree.mk (again t.entries)

theorem find?_erase_ne {t : FileTree} {p q : Path} (h : q ≠ p) : (t.erase p).find? q = t.find? q := by
  rw [find?_erase, if_neg h]
  split
  · next root => rw [root, find?_root]
  · rfl

section

variable {names : List String} {t t' : FileTree} {p : Path} {name : String} {content : Bytes}

theorem ne_nil_of_named (named : p.getLast? = some name) : p ≠ [] := by
  rintro rfl
  cases named

theorem content?_put (content : Bytes) (named : p.getLast? = some name) :
    (t.put p (.file content)).content? p = some content := by
  rw [content?, find?_put, if_neg (ne_nil_of_named named), if_pos rfl]

/-- Two trees that differ at one place, where neither has a directory. -/
theorem confined_of_elsewhere (elsewhere : ∀ q, q ≠ p → t'.find? q = t.find? q)
    (before : t.isDirectory p = false) (after : t'.isDirectory p = false)
    (named : p.getLast? = some name) (known : name ∈ names) : Confined names t t' where
  directories q := by
    by_cases here : q = p
    · rw [here, before, after]
    · rw [isDirectory, elsewhere q here, isDirectory]
  files q other := elsewhere q fun h => other name known (h ▸ named)

/-- A file is put where no directory is. -/
theorem confined_put (content : Bytes) (vacant : t.isDirectory p = false)
    (named : p.getLast? = some name) (known : name ∈ names) :
    Confined names t (t.put p (.file content)) := by
  refine confined_of_elsewhere (fun q => find?_put_ne _) vacant ?_ named known
  rw [isDirectory, find?_put, if_neg (ne_nil_of_named named), if_pos rfl]
  rfl

/-- What is no directory is taken away. -/
theorem confined_erase (vacant : t.isDirectory p = false) (named : p.getLast? = some name)
    (known : name ∈ names) : Confined names t (t.erase p) := by
  refine confined_of_elsewhere (fun q => find?_erase_ne) vacant ?_ named known
  rw [isDirectory, find?_erase, if_neg (ne_nil_of_named named), if_pos rfl]
  rfl

theorem find?_of_content? (h : t.content? p = some content) : t.find? p = some (.file content) := by
  unfold content? at h
  split at h
  · next found => rw [found, Option.some.inj h]
  · cases h

theorem isDirectory_of_content? (h : t.content? p = some content) : t.isDirectory p = false := by
  rw [isDirectory, find?_of_content? h]
  rfl

end

end FileTree

namespace Disk

open FileTree

/-- The system looks at a path or not, whatever the tree. -/
theorem route_or (text : String) : (∃ e, route text = refuse e) ∨ ∃ r, route text = pure r := by
  unfold route
  split
  · exact .inl ⟨_, rfl⟩
  · split
    · exact .inl ⟨_, rfl⟩
    · exact .inr ⟨_, rfl⟩

theorem needDirectory_run (p : Path) (t : FileTree) :
    (t.isDirectory p = true ∧ needDirectory p t = .ok () t) ∨
      t.isDirectory p = false ∧ ∃ e, needDirectory p t = .error e t := by
  have seen : look (·.find? p) t = .ok (t.find? p) t := rfl
  unfold needDirectory isDirectory
  rw [bind_run seen]
  cases t.find? p with
  | none => exact .inr ⟨rfl, _, rfl⟩
  | some entry =>
    cases entry with
    | directory => exact .inl ⟨rfl, rfl⟩
    | file content => exact .inr ⟨rfl, _, rfl⟩

/-- A step leads out of a directory. -/
theorem isDirectory_of_follow {p q : Path} {s : Step} {t : FileTree} (h : follow p s t = .ok q t) :
    t.isDirectory p = true := by
  rcases needDirectory_run p t with ⟨here, -⟩ | ⟨-, e, need⟩
  · exact here
  · unfold follow at h
    rw [bind_refused need] at h
    cases h

/-- A directory is left into any name that is not too long. -/
theorem follow_into {p : Path} {t : FileTree} (here : t.isDirectory p = true) (name : String) :
    follow p (.into name) t =
      if maxNameLength < name.utf8ByteSize then .error .nameTooLong t else .ok (p ++ [name]) t := by
  rcases needDirectory_run p t with ⟨-, need⟩ | ⟨missing, -⟩
  · rw [follow, bind_run need]
    simp only [needShort]
    split <;> rfl
  · rw [here] at missing
    cases missing

/-- A step leads to the same place wherever it leads to one, if no directory is missing. -/
theorem follow_within {t t' : FileTree} (within : t.Within t') {p q : Path} {s : Step}
    (h : follow p s t = .ok q t) : follow p s t' = .ok q t' := by
  unfold follow at h ⊢
  rcases needDirectory_run p t with ⟨here, need⟩ | ⟨-, e, need⟩
  · rcases needDirectory_run p t' with ⟨-, need'⟩ | ⟨missing, -⟩
    · rw [bind_run need] at h
      rw [bind_run need']
      cases s with
      | stay | up =>
        cases h
        rfl
      | «into» name =>
        simp only [needShort] at h ⊢
        split at h
        · cases h
        · next short =>
          cases h
          rw [if_neg short]
          rfl
    · rw [within p here] at missing
      cases missing
  · rw [bind_refused need] at h
    cases h

theorem walk_within {t t' : FileTree} (within : t.Within t') {p q : Path} {steps : List Step}
    (h : walk p steps t = .ok q t) : walk p steps t' = .ok q t' := by
  unfold walk at h ⊢
  induction steps generalizing p with
  | nil =>
    cases h
    rfl
  | cons s steps ih =>
    rw [List.foldlM_cons] at h ⊢
    rcases keeps_follow p s t with ⟨r, here⟩ | ⟨e, refused⟩
    · rw [bind_run here] at h
      rw [bind_run (follow_within within here)]
      exact ih h
    · rw [bind_refused refused] at h
      cases h

theorem walk_concat (steps : List Step) (s : Step) :
    walk [] (steps ++ [s]) = walk [] steps >>= fun p => follow p s := by
  unfold walk
  rw [List.foldlM_append]
  simp only [List.foldlM_cons, List.foldlM_nil, bind_pure]

/-- A way that ends with a step into a name ends there. -/
theorem getLast?_walk {steps : List Step} {name : String} {p : Path} {t : FileTree}
    (h : walk [] (steps ++ [.into name]) t = .ok p t) : p.getLast? = some name := by
  rw [walk_concat] at h
  rcases keeps_walk [] steps t with ⟨parent, found⟩ | ⟨e, refused⟩
  · rw [bind_run found] at h
    unfold follow at h
    rcases needDirectory_run parent t with ⟨-, need⟩ | ⟨-, e, need⟩
    · rw [bind_run need] at h
      simp only [needShort] at h
      split at h
      · cases h
      · cases h
        exact List.getLast?_concat
    · rw [bind_refused need] at h
      cases h
  · rw [bind_refused refused] at h
    cases h

theorem target_concat (steps : List Step) (name : String) :
    target { steps := steps ++ [.into name] } = some <$> walk [] (steps ++ [.into name]) := by
  unfold target
  simp only [List.getLast?_concat, List.dropLast_concat, walk_concat, map_bind]

/-- Whether the operation, carried out or not, leads from every tree to one that `R` relates it to. -/
def Leaves {α : Type} (R : FileTree → FileTree → Prop) (x : Disk α) : Prop :=
  ∀ t, ∃ t', R t t' ∧ ((∃ a, x t = .ok a t') ∨ ∃ e, x t = .error e t')

section

variable {α β : Type} {R : FileTree → FileTree → Prop}

theorem Keeps.leaves [Std.Refl R] {x : Disk α} (hx : x.Keeps) : x.Leaves R :=
  fun t => ⟨t, Std.Refl.refl t, hx t⟩

theorem Leaves.bind [Trans R R R] {x : Disk α} {f : α → Disk β} (hx : x.Leaves R)
    (hf : ∀ a, (f a).Leaves R) : (x >>= f).Leaves R := fun t => by
  obtain ⟨t₁, first, ⟨a, run⟩ | ⟨e, run⟩⟩ := hx t
  · obtain ⟨t₂, second, rest⟩ := hf a t₁
    rw [bind_run run]
    exact ⟨t₂, Trans.trans first second, rest⟩
  · rw [bind_refused run]
    exact ⟨t₁, first, .inr ⟨e, rfl⟩⟩

theorem Leaves.attempt {x : Disk α} (hx : x.Leaves R) : (attempt x).Leaves R := fun t => by
  obtain ⟨t', related, ⟨a, run⟩ | ⟨e, run⟩⟩ := hx t
  · exact ⟨t', related, .inl ⟨_, attempt_ok run⟩⟩
  · exact ⟨t', related, .inl ⟨_, attempt_refused run⟩⟩

theorem Leaves.mono {S : FileTree → FileTree → Prop} {x : Disk α} (hx : x.Leaves R)
    (h : ∀ {t t'}, R t t' → S t t') : x.Leaves S := fun t => by
  obtain ⟨t', related, run⟩ := hx t
  exact ⟨t', h related, run⟩

/-- What an operation leaves that is carried out. -/
theorem Leaves.of_run {x : Disk α} (hx : x.Leaves R) {a : α} {t t' : FileTree} (h : x t = .ok a t') :
    R t t' := by
  obtain ⟨t₁, related, ⟨b, run⟩ | ⟨e, run⟩⟩ := hx t
  · rw [run] at h
    cases h
    exact related
  · rw [run] at h
    cases h

/-- What an operation leaves that is refused. -/
theorem Leaves.of_refused {x : Disk α} (hx : x.Leaves R) {e : OsError} {t t' : FileTree} (h : x t = .error e t') :
    R t t' := by
  obtain ⟨t₁, related, ⟨b, run⟩ | ⟨e', run⟩⟩ := hx t
  · rw [run] at h
    cases h
  · rw [run] at h
    cases h
    exact related

end

theorem keeps_leadsTo (f : Entry → Bool) (r : Route) : (leadsTo f r).Keeps :=
  fun t => .inl (leadsTo_run f r t)

theorem keeps_target (r : Route) : (target r).Keeps := by
  unfold target
  split
  · refine (keeps_walk _ _).bind fun parent => ?_
    rw [map_eq_pure_bind]
    exact (keeps_follow _ _).bind fun _ => keeps_pure _
  · exact (keeps_walk _ _).bind fun _ => (keeps_follow _ _).bind fun _ => keeps_pure _
  · exact keeps_pure _

/-- A directory is made where nothing is. -/
theorem leaves_makeDirectory (r : Route) : (makeDirectory r).Leaves Built := by
  refine (keeps_target r).leaves.bind fun found => ?_
  cases found with
  | none => exact (keeps_refuse _).leaves
  | some p =>
    intro t
    have seen : look (·.find? p) t = .ok (t.find? p) t := rfl
    simp only
    rw [bind_run seen]
    cases vacant : t.find? p with
    | some e => exact ⟨t, Std.Refl.refl t, .inr ⟨_, rfl⟩⟩
    | none =>
      exact ⟨t.put p .directory, built_put vacant, .inl ⟨_, rfl⟩⟩

/-- Makes a directory, after what is done where the way to it is missing. -/
def makeAfter (before : Disk Unit) (r : Route) : Disk Unit := do
  match ← attempt (makeDirectory r) with
  | .ok _ => pure ()
  | .error .notFound => do
    before
    makeOrFind r
  | .error e => if ← isDir r then pure () else refuse e

theorem makeFrom_cons (s : Step) (above : List Step) :
    makeFrom (s :: above) = makeAfter (makeFrom above) { steps := (s :: above).reverse } := rfl

theorem makeDirectories_eq (r : Route) :
    makeDirectories r = makeAfter (makeFrom r.plain.dropLast.reverse) r := rfl

section

variable {R : FileTree → FileTree → Prop} [Std.Refl R] {r : Route}

theorem leaves_findOr (r : Route) (e : OsError) :
    (do if ← isDir r then pure () else refuse e : Disk Unit).Leaves R := by
  have looks : (do if ← isDir r then pure () else refuse e : Disk Unit).Keeps := by
    refine (keeps_leadsTo _ r).bind fun there => ?_
    cases there
    · exact keeps_refuse e
    · exact keeps_pure _
  exact looks.leaves

theorem leaves_makeAfter [Trans R R R] {before : Disk Unit} (above : before.Leaves R)
    (here : (makeDirectory r).Leaves R) : (makeAfter before r).Leaves R := by
  refine here.attempt.bind fun made => ?_
  split
  · exact (keeps_pure _).leaves
  · refine above.bind fun _ => here.attempt.bind fun made => ?_
    cases made with
    | ok u => exact (keeps_pure _).leaves
    | error e => exact leaves_findOr r e
  · exact leaves_findOr r _

end

/-- The directories on a way are made from the root on, by induction on the way back to it. -/
theorem leaves_makeFrom (steps : List Step) : (makeFrom steps).Leaves Built := by
  induction steps with
  | nil => exact (keeps_pure _).leaves
  | cons s above ih =>
    rw [makeFrom_cons]
    exact leaves_makeAfter ih (leaves_makeDirectory _)

theorem leaves_makeDirectories (r : Route) : (makeDirectories r).Leaves Built := by
  rw [makeDirectories_eq]
  exact leaves_makeAfter (leaves_makeFrom _) (leaves_makeDirectory r)

/-- What stands where a route leads. -/
theorem stat_run {r : Route} {p : Path} {t : FileTree} (bare : r.slash = false)
    (found : walk [] r.steps t = .ok p t) :
    stat r t = match t.find? p with
      | some e => .ok (p, e) t
      | none => .error .notFound t := by
  have seen : look (·.find? p) t = .ok (t.find? p) t := rfl
  rw [stat, bind_run found, bind_run seen]
  cases t.find? p with
  | none => rfl
  | some e => simp only [bare, Bool.false_eq_true, false_and, if_false]; rfl

/-- Whether something stands where a route leads. -/
theorem leadsTo_of_walk {r : Route} {p : Path} {t : FileTree} (f : Entry → Bool) (bare : r.slash = false)
    (found : walk [] r.steps t = .ok p t) : leadsTo f r t = .ok ((t.find? p).any f) t := by
  have stands := stat_run bare found
  unfold leadsTo
  cases entry : t.find? p with
  | none =>
    rw [entry] at stands
    exact bind_run (attempt_refused stands)
  | some e =>
    rw [entry] at stands
    exact bind_run (attempt_ok stands)

/-- A route that a directory is missing on leads to nothing. -/
theorem leadsTo_astray {r : Route} {e : OsError} {t : FileTree} (f : Entry → Bool)
    (astray : walk [] r.steps t = .error e t) : leadsTo f r t = .ok false t := by
  have missing : stat r t = .error e t := bind_refused astray
  exact bind_run (attempt_refused missing)

/-- A file is read if the route leads to one. -/
theorem read_run {r : Route} {p : Path} {t : FileTree} (bare : r.slash = false)
    (found : walk [] r.steps t = .ok p t) :
    ∃ content, attempt (read r) t = .ok content t ∧ content.toOption = t.content? p := by
  have stands := stat_run bare found
  unfold FileTree.content?
  cases entry : t.find? p with
  | none =>
    rw [entry] at stands
    exact ⟨_, attempt_refused (bind_refused stands), rfl⟩
  | some e =>
    rw [entry] at stands
    cases e with
    | directory => exact ⟨_, attempt_refused (bind_run stands), rfl⟩
    | file content => exact ⟨_, attempt_ok (bind_run stands), rfl⟩

/-- A file is written where no directory is. -/
theorem write_run {r : Route} {p : Path} {t : FileTree} (bare : r.slash = false)
    (found : target r t = .ok (some p) t) (content : Bytes) :
    write r content t =
      if t.isDirectory p then .error .isDirectory t else .ok () (t.put p (.file content)) := by
  have seen : look (·.isDirectory p) t = .ok (t.isDirectory p) t := rfl
  rw [write, bind_run found]
  simp only [bare, Bool.false_eq_true, if_false]
  rw [bind_run seen]
  split <;> rfl

/-- A file is moved to where no directory is. -/
theorem rename_run {source destination : Route} {p q : Path} {t : FileTree} {e : Entry}
    (bare : destination.slash = false) (there : target source t = .ok (some p) t)
    (here : target destination t = .ok (some q) t) (entry : t.find? p = some e) :
    rename source destination t =
      if t.isDirectory q then .error .isDirectory t else .ok () ((t.erase p).put q e) := by
  have seen : look (·.find? p) t = .ok (some e) t := congrArg (EStateM.Result.ok · t) entry
  have free : look (·.isDirectory q) t = .ok (t.isDirectory q) t := rfl
  rw [rename, bind_run there]
  simp only
  rw [bind_run here]
  simp only
  rw [bind_run seen]
  simp only [bare, Bool.false_eq_true, false_and, if_false]
  rw [bind_run free]
  split <;> rfl

/-- A file is taken away. -/
theorem remove_run {r : Route} {p : Path} {t : FileTree} (bare : r.slash = false)
    (found : target r t = .ok (some p) t) :
    ((t.content? p).isSome ∧ remove r t = .ok () (t.erase p)) ∨
      t.content? p = none ∧ ∃ e, remove r t = .error e t := by
  have seen : look (·.find? p) t = .ok (t.find? p) t := rfl
  rw [remove, bind_run found]
  simp only
  rw [bind_run seen]
  unfold FileTree.content?
  cases t.find? p with
  | none => exact .inr ⟨rfl, _, rfl⟩
  | some e =>
    cases e with
    | directory => exact .inr ⟨rfl, _, rfl⟩
    | file content =>
      simp only [bare, Bool.false_eq_true, if_false]
      exact .inl ⟨rfl, rfl⟩

end Disk

end CrashReporter
