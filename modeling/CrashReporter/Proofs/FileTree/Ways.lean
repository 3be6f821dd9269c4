import CrashReporter.Proofs.FileTree
import Mathlib.Data.List.Induction
import Mathlib.Data.List.Infix

/-!
# Ways into a tree

In a tree where everything is in a directory (`FileTree.Rooted`), a way that only goes into names fails in one of
two ways: there is a file on it, or a directory is missing (`Disk.walk_blocked`, `Disk.walk_lost`). Making the
directories on such a way adds no others (`FileTree.BuiltOn`, `Disk.leaves_makeDirectories_names`). It leads to a
directory if there is no file on the way (`Disk.makeDirectories_clear`); else it is refused, and the tree stays as it
is (`Disk.makeDirectories_blocked`).
-/

namespace CrashReporter

namespace FileTree

variable {t t' : FileTree} {way p : Path}

/-- Whether everything in a tree is in a directory. -/
def Rooted (t : FileTree) : Prop := ∀ p name, (t.find? (p ++ [name])).isSome → t.isDirectory p = true

/-- Whether a tree is another with directories of a way added. -/
structure BuiltOn (way : Path) (t t' : FileTree) : Prop where
  entries : ∀ p, t'.find? p = t.find? p ∨ p <+: way ∧ t.find? p = none ∧ t'.find? p = some .directory
  rooted : t.Rooted → t'.Rooted

instance (way : Path) : Std.Refl (BuiltOn way) := ⟨fun _ => ⟨fun _ => .inl rfl, id⟩⟩

instance (way : Path) : Trans (BuiltOn way) (BuiltOn way) (BuiltOn way) where
  trans first second := {
    entries := by
      intro p
      rcases first.entries p with same | ⟨onWay, missing, made⟩
      · rw [← same]
        exact second.entries p
      · rcases second.entries p with same | ⟨-, missing', -⟩
        · exact .inr ⟨onWay, missing, same.trans made⟩
        · cases made.symm.trans missing'
    rooted := fun h => second.rooted (first.rooted h) }

theorem BuiltOn.mono {more : Path} (h : BuiltOn way t t') (sub : way <+: more) : BuiltOn more t t' where
  entries p := by
    rcases h.entries p with same | ⟨onWay, made⟩
    · exact .inl same
    · exact .inr ⟨onWay.trans sub, made⟩
  rooted := h.rooted

theorem not_prefix_concat {name : String} : ¬ way ++ [name] <+: way := by
  intro within
  have shorter := within.length_le
  rw [List.length_append, List.length_singleton] at shorter
  omega

theorem BuiltOn.find?_eq (h : BuiltOn way t t') (aside : ¬ p <+: way) : t'.find? p = t.find? p := by
  rcases h.entries p with same | ⟨onWay, -⟩
  · exact same
  · exact absurd onWay aside

theorem BuiltOn.content?_eq (h : BuiltOn way t t') (p : Path) : t'.content? p = t.content? p := by
  unfold content?
  rcases h.entries p with same | ⟨-, missing, made⟩
  · rw [same]
  · rw [missing, made]

theorem isDirectory_iff : t.isDirectory p = true ↔ t.find? p = some .directory := beq_iff_eq

theorem isSome_of_isDirectory (h : t.isDirectory p = true) : (t.find? p).isSome := by
  rw [isDirectory_iff.mp h]
  rfl

theorem isSome_of_content? (file : (t.content? p).isSome) : (t.find? p).isSome := by
  obtain ⟨content, held⟩ := Option.isSome_iff_exists.mp file
  rw [find?_of_content? held]
  rfl

/-- What is there and no file is a directory. -/
theorem isDirectory_of_isSome (found : (t.find? p).isSome) (noFile : t.content? p = none) :
    t.isDirectory p = true := by
  unfold content? at noFile
  unfold isDirectory
  cases entry : t.find? p with
  | none => simp [entry] at found
  | some e =>
    cases e with
    | directory => rfl
    | file content => simp [entry] at noFile

/-- All that leads to something is a directory. -/
theorem Rooted.isDirectory_of_isSome (rooted : t.Rooted) {rest : Path} (found : (t.find? (p ++ rest)).isSome)
    (deeper : rest ≠ []) : t.isDirectory p = true := by
  induction rest using List.reverseRecOn with
  | nil => exact absurd rfl deeper
  | append_singleton rest name ih =>
    rw [← List.append_assoc] at found
    have above := rooted _ _ found
    by_cases last : rest = []
    · rwa [last, List.append_nil] at above
    · exact ih (isSome_of_isDirectory above) last

/-- A directory that is there has all directories on the way to it. -/
theorem BuiltOn.find?_of_isDirectory (h : BuiltOn way t t') (rooted : t.Rooted) (here : t'.isDirectory way = true)
    (p : Path) : t'.find? p = if p <+: way then some .directory else t.find? p := by
  split
  · next onWay =>
    obtain ⟨rest, rfl⟩ := onWay
    by_cases last : rest = []
    · rw [last, List.append_nil] at here
      exact isDirectory_iff.mp here
    · exact isDirectory_iff.mp ((h.rooted rooted).isDirectory_of_isSome (isSome_of_isDirectory here) last)
  · next aside => exact h.find?_eq aside

/-- A directory is put into another. -/
theorem Rooted.put {name : String} (rooted : t.Rooted) (inside : t.isDirectory p = true) :
    (t.put (p ++ [name]) .directory).Rooted := by
  intro q other found
  have stays (q : Path) (here : t.isDirectory q = true) : (t.put (p ++ [name]) .directory).isDirectory q = true := by
    rw [isDirectory_iff] at here ⊢
    rw [find?_put, here]
    simp
  by_cases same : q ++ [other] = p ++ [name]
  · rw [(List.append_inj' same rfl).1]
    exact stays p inside
  · rw [find?_put_ne _ same] at found
    exact stays q (rooted q other found)

theorem builtOn_put {name : String} (inside : t.isDirectory p = true) (vacant : t.find? (p ++ [name]) = none) :
    BuiltOn (p ++ [name]) t (t.put (p ++ [name]) .directory) where
  entries q := by
    by_cases here : q = p ++ [name]
    · exact .inr ⟨here ▸ List.prefix_rfl, here ▸ vacant, by simp [here]⟩
    · exact .inl (find?_put_ne _ here)
  rooted := fun h => h.put inside

/-- Whether there is no file on a way. -/
def Clear (way : Path) (t : FileTree) : Prop := ∀ p, p <+: way → t.content? p = none

instance (way : Path) (t : FileTree) : Decidable (Clear way t) :=
  decidable_of_iff (∀ p ∈ way.inits, t.content? p = none) (by simp only [List.mem_inits, Clear])

theorem Clear.mono {less : Path} (h : Clear way t) (sub : less <+: way) : Clear less t :=
  fun p onWay => h p (onWay.trans sub)

/-- Everything in a tree is in a directory if that is so of its entries. -/
theorem rooted_of_entries (h : ∀ e ∈ t.entries, t.isDirectory e.1.dropLast = true) : t.Rooted := by
  intro p name found
  obtain ⟨e, entry⟩ := Option.isSome_iff_exists.mp found
  have filled : p ++ [name] ≠ [] := List.concat_ne_nil _ _
  rw [find?, if_neg filled, List.lookup_eq_some_iff] at entry
  obtain ⟨before, after, entries, -⟩ := entry
  have above := h (p ++ [name], e) (by simp [entries])
  rwa [List.dropLast_concat] at above

end FileTree

namespace Disk

open FileTree

/-- Whether no name is too long. -/
def Short (names : Path) : Prop := ∀ name ∈ names, name.utf8ByteSize ≤ maxNameLength

instance (names : Path) : Decidable (Short names) := inferInstanceAs (Decidable (∀ name ∈ names, _))

theorem Short.mono {names more : Path} (h : Short more) (sub : names <+: more) : Short names :=
  fun name mem => h name (sub.subset mem)

variable {names p : Path} {name : String} {t t' : FileTree}

/-! ## Walking -/

theorem walk_names (above : Path) (name : String) :
    walk [] ((above ++ [name]).map .into) = walk [] (above.map .into) >>= fun p => follow p (.into name) := by
  rw [List.map_append, List.map_singleton, walk_concat]

/-- A way through a tree ends at its names, which are none too long. -/
theorem eq_of_walk (arrives : walk [] (names.map .into) t = .ok p t) : p = names ∧ Short names := by
  induction names using List.reverseRecOn generalizing p with
  | nil =>
    cases arrives
    exact ⟨rfl, nofun⟩
  | append_singleton above name ih =>
    rw [walk_names] at arrives
    obtain ⟨q, t₁, walk, step⟩ := bind_eq_ok arrives
    obtain rfl := (keeps_walk [] _).unchanged walk
    obtain ⟨rfl, short⟩ := ih walk
    rw [follow_into (isDirectory_of_follow step)] at step
    split at step
    · cases step
    · next fits =>
      cases step
      refine ⟨rfl, fun other mem => ?_⟩
      rcases List.mem_append.mp mem with mem | mem
      · exact short other mem
      · rw [List.mem_singleton.mp mem]
        exact Nat.not_lt.mp fits

/-- A way that is gone to its end leaves a directory last. -/
theorem isDirectory_of_walk (arrives : walk [] ((names ++ [name]).map .into) t = .ok p t) :
    t.isDirectory names = true := by
  rw [walk_names] at arrives
  obtain ⟨q, t₁, walk, step⟩ := bind_eq_ok arrives
  obtain rfl := (keeps_walk [] _).unchanged walk
  obtain ⟨rfl, -⟩ := eq_of_walk walk
  exact isDirectory_of_follow step

/-- The way to what is there is open. -/
theorem walk_found (rooted : t.Rooted) (short : Short names) (found : (t.find? names).isSome) :
    walk [] (names.map .into) t = .ok names t := by
  induction names using List.reverseRecOn with
  | nil => rfl
  | append_singleton above name ih =>
    have inside := rooted above name found
    have walk := ih (short.mono (List.prefix_append _ _)) (isSome_of_isDirectory inside)
    rw [walk_names, bind_run walk, follow_into inside, if_neg (Nat.not_lt.mpr (short name (by simp)))]

/-- The way to a place in a directory is open. -/
theorem walk_inside (rooted : t.Rooted) (short : Short (names ++ [name])) (inside : t.isDirectory names = true) :
    walk [] ((names ++ [name]).map .into) t = .ok (names ++ [name]) t := by
  have walk := walk_found rooted (short.mono (List.prefix_append _ _)) (isSome_of_isDirectory inside)
  rw [walk_names, bind_run walk, follow_into inside, if_neg (Nat.not_lt.mpr (short name (by simp)))]

/-- The directory that is left must be there. -/
theorem follow_missing (missing : t.find? p = none) (s : Step) : follow p s t = .error .notFound t := by
  have seen : look (·.find? p) t = .ok none t := congrArg (EStateM.Result.ok · t) missing
  have need : needDirectory p t = .error .notFound t := bind_run seen
  exact bind_refused need

/-- A file is no directory to leave. -/
theorem follow_file (file : (t.content? p).isSome) (s : Step) : follow p s t = .error .notDirectory t := by
  obtain ⟨content, held⟩ := Option.isSome_iff_exists.mp file
  have seen : look (·.find? p) t = .ok (some (.file content)) t :=
    congrArg (EStateM.Result.ok · t) (find?_of_content? held)
  have need : needDirectory p t = .error .notDirectory t := bind_run seen
  exact bind_refused need

/-- A way on which a directory is missing, and no file stands. -/
theorem walk_lost (rooted : t.Rooted) (short : Short names) (clear : Clear names t) (missing : t.find? names = none)
    (name : String) : walk [] ((names ++ [name]).map .into) t = .error .notFound t := by
  induction names using List.reverseRecOn generalizing name with
  | nil => cases missing
  | append_singleton above last ih =>
    have sub : above <+: above ++ [last] := List.prefix_append _ _
    rw [walk_names]
    cases found : t.find? above with
    | none => exact bind_refused (ih (short.mono sub) (clear.mono sub) found last)
    | some e =>
      have inside := isDirectory_of_isSome (by rw [found]; rfl) (clear above sub)
      rw [bind_run (walk_inside rooted short inside)]
      exact follow_missing missing _

/-- A way on which a file stands. -/
theorem walk_blocked (rooted : t.Rooted) (short : Short p) (file : (t.content? p).isSome) {rest : Path}
    (deeper : rest ≠ []) : walk [] ((p ++ rest).map .into) t = .error .notDirectory t := by
  induction rest using List.reverseRecOn with
  | nil => exact absurd rfl deeper
  | append_singleton rest name ih =>
    rw [← List.append_assoc, walk_names]
    by_cases last : rest = []
    · rw [last, List.append_nil, bind_run (walk_found rooted short (isSome_of_content? file))]
      exact follow_file file _
    · exact bind_refused (ih last)

/-! ## Making one directory -/

section

variable {r : Route}

/-- What a route names does not depend on a slash at its end. -/
theorem target_eq (steps : r.steps = names.map .into) : target r = target { steps := names.map .into } := by
  have bare : target r = target { steps := r.steps } := rfl
  rw [bare, steps]

theorem target_nil (steps : r.steps = ([] : Path).map .into) : target r t = .ok none t := by
  rw [target_eq steps]
  rfl

theorem target_names (steps : r.steps = (names ++ [name]).map .into) :
    target r = walk [] ((names ++ [name]).map .into) >>= fun p => pure (some p) := by
  rw [target_eq steps, List.map_append, List.map_singleton, target_concat, map_eq_pure_bind]

theorem target_run (steps : r.steps = (names ++ [name]).map .into)
    (walk : walk [] ((names ++ [name]).map .into) t = .ok p t) : target r t = .ok (some p) t := by
  rw [target_names steps]
  exact bind_run walk

theorem target_refused {e : OsError} (steps : r.steps = (names ++ [name]).map .into)
    (walk : walk [] ((names ++ [name]).map .into) t = .error e t) : target r t = .error e t := by
  rw [target_names steps]
  exact bind_refused walk

/-- What a route names is a place in a directory. -/
theorem eq_of_target (steps : r.steps = names.map .into) (targeted : target r t = .ok (some p) t) :
    ∃ above name, p = above ++ [name] ∧ names = p ∧ t.isDirectory above = true := by
  cases names using List.reverseRecOn with
  | nil => cases (target_nil steps).symm.trans targeted
  | append_singleton above name =>
    rw [target_names steps] at targeted
    obtain ⟨q, t₁, walk, answered⟩ := bind_eq_ok targeted
    obtain rfl := (keeps_walk [] _).unchanged walk
    cases answered
    exact ⟨above, name, (eq_of_walk walk).1, (eq_of_walk walk).1.symm, isDirectory_of_walk walk⟩

/-- The directory made is that of the way, in one that is there. -/
theorem leaves_makeDirectory_names (steps : r.steps = names.map .into) : (makeDirectory r).Leaves (BuiltOn names) := by
  intro t
  unfold makeDirectory
  rcases keeps_target r t with ⟨found, targeted⟩ | ⟨e, refused⟩
  · rw [bind_run targeted]
    cases found with
    | none => exact ⟨t, Std.Refl.refl t, .inr ⟨_, rfl⟩⟩
    | some p =>
      have seen : look (·.find? p) t = .ok (t.find? p) t := rfl
      simp only
      rw [bind_run seen]
      cases vacant : t.find? p with
      | some e => exact ⟨t, Std.Refl.refl t, .inr ⟨_, rfl⟩⟩
      | none =>
        obtain ⟨above, name, rfl, rfl, inside⟩ := eq_of_target steps targeted
        exact ⟨_, builtOn_put inside vacant, .inl ⟨_, rfl⟩⟩
  · rw [bind_refused refused]
    exact ⟨t, Std.Refl.refl t, .inr ⟨e, rfl⟩⟩

theorem makeDirectory_found (steps : r.steps = names.map .into) (rooted : t.Rooted) (short : Short names)
    (found : (t.find? names).isSome) : makeDirectory r t = .error .alreadyExists t := by
  cases names using List.reverseRecOn with
  | nil => exact bind_run (target_nil steps)
  | append_singleton above name =>
    have seen : look (·.find? (above ++ [name])) t = .ok (t.find? (above ++ [name])) t := rfl
    unfold makeDirectory
    rw [bind_run (target_run steps (walk_found rooted short found))]
    simp only
    rw [bind_run seen, found]
    rfl

theorem makeDirectory_inside (steps : r.steps = (names ++ [name]).map .into) (rooted : t.Rooted)
    (short : Short (names ++ [name])) (inside : t.isDirectory names = true)
    (vacant : t.find? (names ++ [name]) = none) :
    makeDirectory r t = .ok () (t.put (names ++ [name]) .directory) := by
  have seen : look (·.find? (names ++ [name])) t = .ok (t.find? (names ++ [name])) t := rfl
  unfold makeDirectory
  rw [bind_run (target_run steps (walk_inside rooted short inside))]
  simp only
  rw [bind_run seen, vacant]
  rfl

/-- Whether there is a directory where a way leads, with a slash at its end or without. -/
theorem isDir_run (walk : walk [] r.steps t = .ok p t) : isDir r t = .ok (t.isDirectory p) t := by
  have seen : look (·.find? p) t = .ok (t.find? p) t := rfl
  unfold isDir leadsTo isDirectory
  cases entry : t.find? p with
  | none =>
    have stands : stat r t = .error .notFound t := by
      rw [stat, bind_run walk, bind_run seen, entry]
      rfl
    exact bind_run (attempt_refused stands)
  | some e =>
    cases e with
    | directory =>
      have stands : stat r t = .ok (p, .directory) t := by
        rw [stat, bind_run walk, bind_run seen, entry]
        simp only [ne_eq, not_true_eq_false, and_false, if_false]
        rfl
      exact bind_run (attempt_ok stands)
    | file content =>
      have stands : stat r t = if r.slash then .error .notDirectory t else .ok (p, .file content) t := by
        rw [stat, bind_run walk, bind_run seen, entry]
        simp only [ne_eq, reduceCtorEq, not_false_eq_true, and_true]
        split <;> rfl
      split at stands
      · exact bind_run (attempt_refused stands)
      · exact bind_run (attempt_ok stands)

end

/-! ## Making all of them -/

section

variable {r : Route} {before : Disk Unit}

theorem makeAfter_refused {e : OsError} (refused : makeDirectory r t = .error e t) (other : e ≠ .notFound) :
    makeAfter before r t = (do if ← isDir r then pure () else refuse e : Disk Unit) t := by
  unfold makeAfter
  rw [bind_run (attempt_refused refused)]
  cases e with
  | notFound => exact absurd rfl other
  | busy | alreadyExists | notDirectory | isDirectory | nameTooLong | nulInName => rfl

theorem makeAfter_found (steps : r.steps = names.map .into) (rooted : t.Rooted) (short : Short names)
    (here : t.isDirectory names = true) : makeAfter before r t = .ok () t := by
  have found := isSome_of_isDirectory here
  have there : isDir r t = .ok true t := by
    rw [isDir_run (steps ▸ walk_found rooted short found), here]
  rw [makeAfter_refused (makeDirectory_found steps rooted short found) nofun, bind_run there]
  rfl

theorem makeAfter_blocked (steps : r.steps = names.map .into) (rooted : t.Rooted) (short : Short names)
    (onWay : p <+: names) (file : (t.content? p).isSome) : ∃ e, makeAfter before r t = .error e t := by
  obtain ⟨rest, rfl⟩ := onWay
  by_cases last : rest = []
  · rw [last, List.append_nil] at steps short
    obtain ⟨content, held⟩ := Option.isSome_iff_exists.mp file
    have found := isSome_of_content? file
    have there : isDir r t = .ok false t := by
      rw [isDir_run (steps ▸ walk_found rooted short found), isDirectory_of_content? held]
    rw [makeAfter_refused (makeDirectory_found steps rooted short found) nofun, bind_run there]
    exact ⟨_, rfl⟩
  · have walk := walk_blocked rooted (short.mono (List.prefix_append _ _)) file last
    have refused : makeDirectory r t = .error .notDirectory t := by
      obtain ⟨above, name, rfl⟩ : ∃ above name, rest = above ++ [name] :=
        ⟨_, _, (List.dropLast_concat_getLast last).symm⟩
      rw [← List.append_assoc] at steps walk
      exact bind_refused (target_refused steps walk)
    have there : isDir r t = .ok false t := leadsTo_astray _ (steps ▸ walk)
    rw [makeAfter_refused refused nofun, bind_run there]
    exact ⟨_, rfl⟩

/-- Where no file is on the way, the directory is made or is there, if those that lead to it can be made. -/
theorem makeAfter_clear (steps : r.steps = names.map .into) (rooted : t.Rooted) (short : Short names)
    (clear : Clear names t)
    (above : ∀ above name, names = above ++ [name] → t.find? above = none →
      ∃ t', before t = .ok () t' ∧ t'.isDirectory above = true ∧ BuiltOn above t t') :
    ∃ t', makeAfter before r t = .ok () t' ∧ t'.isDirectory names = true := by
  by_cases found : (t.find? names).isSome
  · have here := isDirectory_of_isSome found (clear names List.prefix_rfl)
    exact ⟨t, makeAfter_found steps rooted short here, here⟩
  · have vacant : t.find? names = none := Option.not_isSome_iff_eq_none.mp found
    cases names using List.reverseRecOn with
    | nil => cases vacant
    | append_singleton up name =>
      have sub : up <+: up ++ [name] := List.prefix_append _ _
      have put (t : FileTree) : (t.put (up ++ [name]) .directory).isDirectory (up ++ [name]) = true := by
        rw [isDirectory_iff, find?_put]
        simp
      cases missing : t.find? up with
      | some e =>
        have inside := isDirectory_of_isSome (by rw [missing]; rfl) (clear up sub)
        have made := makeDirectory_inside steps rooted short inside vacant
        exact ⟨_, bind_run (attempt_ok made), put t⟩
      | none =>
        obtain ⟨t₁, ran, inside, built⟩ := above up name rfl missing
        have lost : makeDirectory r t = .error .notFound t :=
          bind_refused (target_refused steps (walk_lost rooted (short.mono sub) (clear.mono sub) missing name))
        have still : t₁.find? (up ++ [name]) = none := (built.find?_eq not_prefix_concat).trans vacant
        have made := makeDirectory_inside steps (built.rooted rooted) short inside still
        refine ⟨_, ?_, put t₁⟩
        unfold makeAfter
        rw [bind_run (attempt_refused lost)]
        simp only
        rw [bind_run ran]
        exact bind_run (attempt_ok made)

end

theorem makeFrom_names (above : Path) (name : String) :
    makeFrom ((above ++ [name]).map .into).reverse =
      makeAfter (makeFrom (above.map .into).reverse) { steps := (above ++ [name]).map .into } := by
  have reversed : ((above ++ [name]).map Step.into).reverse = .into name :: (above.map .into).reverse := by simp
  rw [reversed, makeFrom_cons, ← reversed, List.reverse_reverse]

theorem leaves_makeFrom_names (names : Path) : (makeFrom (names.map .into).reverse).Leaves (BuiltOn names) := by
  induction names using List.reverseRecOn with
  | nil => exact (keeps_pure _).leaves
  | append_singleton above name ih =>
    rw [makeFrom_names]
    exact leaves_makeAfter (ih.mono fun built => built.mono (List.prefix_append _ _)) (leaves_makeDirectory_names rfl)

/-- The directories on a way are made from the root on, by induction on the way back to it. -/
theorem makeFrom_clear (rooted : t.Rooted) (short : Short names) (clear : Clear names t) :
    ∃ t', makeFrom (names.map .into).reverse t = .ok () t' ∧ t'.isDirectory names = true := by
  induction names using List.reverseRecOn with
  | nil => exact ⟨t, rfl, rfl⟩
  | append_singleton above name ih =>
    have sub : above <+: above ++ [name] := List.prefix_append _ _
    rw [makeFrom_names]
    refine makeAfter_clear rfl rooted short clear fun up last same _ => ?_
    obtain ⟨rfl, -⟩ := List.append_inj' same rfl
    obtain ⟨t', ran, here⟩ := ih (short.mono sub) (clear.mono sub)
    exact ⟨t', ran, here, (leaves_makeFrom_names above).of_run ran⟩

section

variable {r : Route}

theorem plain_names (steps : r.steps = names.map .into) : r.plain.dropLast.reverse = (names.dropLast.map .into).reverse := by
  have stays : (names.map Step.into).filter (· ≠ .stay) = names.map .into := by
    rw [List.filter_eq_self]
    simp
  rw [Route.plain, steps, stays, List.map_dropLast]

theorem leaves_makeDirectories_names (steps : r.steps = names.map .into) :
    (makeDirectories r).Leaves (BuiltOn names) := by
  rw [makeDirectories_eq, plain_names steps]
  exact leaves_makeAfter ((leaves_makeFrom_names _).mono fun built => built.mono (List.dropLast_prefix _))
    (leaves_makeDirectory_names steps)

theorem makeDirectories_found (steps : r.steps = names.map .into) (rooted : t.Rooted) (short : Short names)
    (here : t.isDirectory names = true) : makeDirectories r t = .ok () t :=
  makeAfter_found steps rooted short here

/-- With a file on the way nothing is made. -/
theorem makeDirectories_blocked (steps : r.steps = names.map .into) (rooted : t.Rooted) (short : Short names)
    (onWay : p <+: names) (file : (t.content? p).isSome) : ∃ e, makeDirectories r t = .error e t :=
  makeAfter_blocked steps rooted short onWay file

/-- Without one, the directory is there afterwards. -/
theorem makeDirectories_clear (steps : r.steps = names.map .into) (rooted : t.Rooted) (short : Short names)
    (clear : Clear names t) : ∃ t', makeDirectories r t = .ok () t' ∧ t'.isDirectory names = true := by
  rw [makeDirectories_eq, plain_names steps]
  refine makeAfter_clear steps rooted short clear fun above name same _ => ?_
  have sub : above <+: names := same ▸ List.prefix_append _ _
  obtain ⟨t', ran, here⟩ := makeFrom_clear rooted (short.mono sub) (clear.mono sub)
  rw [same, List.dropLast_concat]
  exact ⟨t', ran, here, (leaves_makeFrom_names above).of_run ran⟩

/-- With a name that is too long in the end, the directories before it are made. -/
theorem makeDirectories_overlong (steps : r.steps = (names ++ [name]).map .into) (rooted : t.Rooted)
    (short : Short names) (overlong : maxNameLength < name.utf8ByteSize) (clear : Clear names t)
    (missing : t.find? names = none) :
    ∃ t', makeDirectories r t = .error .nameTooLong t' ∧ t'.isDirectory names = true := by
  obtain ⟨t', ran, here⟩ := makeFrom_clear rooted short clear
  have rooted' := ((leaves_makeFrom_names names).of_run ran).rooted rooted
  have lost : makeDirectory r t = .error .notFound t :=
    bind_refused (target_refused steps (walk_lost rooted short clear missing name))
  have walk : walk [] ((names ++ [name]).map .into) t' = .error .nameTooLong t' := by
    rw [walk_names, bind_run (walk_found rooted' short (isSome_of_isDirectory here)), follow_into here,
      if_pos overlong]
  have refused : makeDirectory r t' = .error .nameTooLong t' := bind_refused (target_refused steps walk)
  have there : isDir r t' = .ok false t' := leadsTo_astray _ (steps ▸ walk)
  refine ⟨t', ?_, here⟩
  rw [makeDirectories_eq, plain_names steps, List.dropLast_concat, makeAfter, bind_run (attempt_refused lost)]
  simp only
  rw [bind_run ran, makeOrFind, bind_run (attempt_refused refused)]
  simp only
  rw [bind_run there]
  rfl

end

end Disk

end CrashReporter
