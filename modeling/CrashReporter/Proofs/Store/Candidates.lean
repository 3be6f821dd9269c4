import CrashReporter.Agent.Startup
import CrashReporter.Proofs.FileTree.Ways
import CrashReporter.Proofs.Store.Opening

/-!
# The first usable directory

A directory that the system accepts (`Store.Accepted`) can be opened exactly if no file is on the way to it and no
directory is where the probe's file belongs (`Store.Usable`): it gains what is missing on the way to it and loses
the probe's file (`Store.openIn_usable`); else everything stays as it is (`Store.openIn_unusable`). A directory that
the system does not accept cannot be opened, and may leave directories on the way to it behind
(`Store.openIn_beyond`). So the first usable one of some candidates is opened (`Store.first_usable_opened`).
-/

namespace CrashReporter.Store

open FileTree

variable {t t' : FileTree} {dir : String} {candidates : List String}

/-! ## Ways to a directory -/

/-- The names that the way to a directory goes into. -/
def components (dir : String) : Path :=
  (Route.ofText dir).steps.filterMap fun
    | .into name => some name
    | _ => none

/-- Whether the way to a directory goes into names only. -/
def Straight (dir : String) : Prop := ∀ s ∈ (Route.ofText dir).steps, s ≠ .stay ∧ s ≠ .up

instance (dir : String) : Decidable (Straight dir) := inferInstanceAs (Decidable (∀ s ∈ _, _))

theorem steps_of_straight (straight : Straight dir) : (Route.ofText dir).steps = (components dir).map .into := by
  unfold Straight at straight
  unfold components
  generalize (Route.ofText dir).steps = steps at straight ⊢
  induction steps with
  | nil => rfl
  | cons s steps ih =>
    have rest := ih fun other mem => straight other (List.mem_cons_of_mem _ mem)
    have first := straight s List.mem_cons_self
    cases s with
    | stay => exact absurd rfl first.1
    | up => exact absurd rfl first.2
    | «into» name => rw [List.filterMap_cons, List.map_cons, ← rest]

theorem way_eq (dir : String) : way ⟨dir⟩ = (Route.ofText dir).steps := by
  have empty : Route.step? [] = none := rfl
  unfold way lead Route.ofText
  split
  · rfl
  · rw [String.toList_append]
    refine (congrArg _ (Route.pieces_append dir.toList List.not_mem_nil)).trans ?_
    rw [List.filterMap_append, List.filterMap_cons, empty, List.filterMap_nil, List.append_nil]

/-! ## What the system accepts -/

/-- Whether the system looks at a directory's path at all. -/
def Legible (dir : String) : Prop := ¬ dir.toList.any (·.toNat = 0) ∧ dir.utf8ByteSize < maxPathLength

instance (dir : String) : Decidable (Legible dir) := inferInstanceAs (Decidable (_ ∧ _))

/-- Whether the system accepts a directory's names, and the path of the probe's file in it. -/
def Accepted (dir : String) : Prop := Fits ⟨dir⟩ probeName ∧ Disk.Short (components dir)

instance (dir : String) : Decidable (Accepted dir) := inferInstanceAs (Decidable (_ ∧ _))

theorem Accepted.legible (accepted : Accepted dir) : Legible dir := by
  obtain ⟨⟨noNul, fits, -⟩, -⟩ := accepted
  obtain ⟨tail, path⟩ : ∃ tail, pathOf ⟨dir⟩ probeName = dir ++ tail := by
    rw [pathOf_eq _ plain_probeName, lead]
    split
    · exact ⟨_, rfl⟩
    · exact ⟨_, String.append_assoc⟩
  rw [path] at noNul fits
  constructor
  · intro nul
    rw [String.toList_append, List.any_append, nul, Bool.true_or] at noNul
    exact noNul rfl
  · rw [String.utf8ByteSize_append] at fits
    omega

theorem route_legible (legible : Legible dir) : Disk.route dir = pure (Route.ofText dir) := by
  rw [Disk.route, if_neg legible.1, if_neg (Nat.not_le.mpr legible.2)]

theorem route_illegible (illegible : ¬ Legible dir) : ∃ e, Disk.route dir = Disk.refuse e := by
  unfold Disk.route
  split
  · exact ⟨_, rfl⟩
  · next noNul =>
    rw [if_pos (Nat.not_lt.mp fun short => illegible ⟨noNul, short⟩)]
    exact ⟨_, rfl⟩

/-! ## Opening one directory -/

/-- Whether a directory can be opened: the system accepts it, no file is on the way to it, and no directory is
where the probe's file belongs. -/
structure Usable (t : FileTree) (dir : String) : Prop where
  accepted : Accepted dir
  clear : Clear (components dir) t
  free : t.isDirectory (components dir ++ [probeName]) = false

instance (t : FileTree) (dir : String) : Decidable (Usable t dir) :=
  decidable_of_iff
    (Accepted dir ∧ Clear (components dir) t ∧ t.isDirectory (components dir ++ [probeName]) = false)
    ⟨fun h => ⟨h.1, h.2.1, h.2.2⟩, fun h => ⟨h.accepted, h.clear, h.free⟩⟩

/-- Whether a tree is another in which a directory was opened: what was missing on the way to it is there, and the
probe's file is not. -/
def Readied (dir : String) (t t' : FileTree) : Prop :=
  ∀ p, t'.find? p =
    if p <+: components dir then some .directory
    else if p = components dir ++ [probeName] then none
    else t.find? p

theorem leaves_prepare_components (straight : Straight dir) :
    (prepare ⟨dir⟩).Leaves (BuiltOn (components dir)) := by
  by_cases legible : Legible dir
  · unfold prepare
    rw [route_legible legible, pure_bind]
    exact Disk.leaves_makeDirectories_names (steps_of_straight straight)
  · obtain ⟨e, refused⟩ := route_illegible legible
    unfold prepare
    rw [refused]
    exact (Disk.keeps_refuse e).leaves

/-- A directory that is there is opened as such. -/
theorem openedAt_components (straight : Straight dir) (accepted : Accepted dir) (rooted : t.Rooted)
    (here : t.isDirectory (components dir) = true) : OpenedAt ⟨dir⟩ (components dir) t := by
  refine ⟨?_, here⟩
  rw [way_eq, steps_of_straight straight]
  exact Disk.walk_found rooted accepted.2 (isSome_of_isDirectory here)

theorem place?_probe (straight : Straight dir) (accepted : Accepted dir) (rooted : t.Rooted)
    (here : t.isDirectory (components dir) = true) :
    place? ⟨dir⟩ probeName t = some (components dir ++ [probeName]) := by
  rw [(openedAt_components straight accepted rooted here).place?_eq plain_probeName, if_pos accepted.1]

/-- A directory is opened that is there, with a place for the probe's file. -/
theorem openIn_of_place {p : Path} {t₁ : FileTree} (prepared : prepare ⟨dir⟩ t = .ok () t₁)
    (place : place? ⟨dir⟩ probeName t₁ = some p) (free : t₁.isDirectory p = false) :
    openIn dir t = .ok ⟨dir⟩ ((t₁.put p (.file (Text.utf8 "ok"))).erase p) := by
  rcases overwrite_run ⟨dir⟩ plain_probeName (Text.utf8 "ok") t₁ with ⟨-, t₂, wrote, confined, -⟩ | ⟨none, -⟩
  · obtain ⟨q, there, rfl⟩ := overwrite_eq plain_probeName wrote
    cases place.symm.trans there
    have held : ((t₁.put p (.file (Text.utf8 "ok"))).content? p).isSome := by
      rw [content?_put _ (getLast?_place plain_probeName place)]
      rfl
    have unlinked := unlink_run plain_probeName ((place?_of_confined plain_probeName confined).trans place) held
    rw [openIn_eq, Disk.bind_run prepared, Disk.bind_run wrote, Disk.bind_run unlinked]
    rfl
  · exact absurd ((takes_iff place).mpr free) none

theorem openIn_usable (straight : Straight dir) (rooted : t.Rooted) (usable : Usable t dir) :
    ∃ t', openIn dir t = .ok ⟨dir⟩ t' ∧ Readied dir t t' := by
  obtain ⟨accepted, clear, free⟩ := usable
  have steps := steps_of_straight straight
  obtain ⟨t₁, made, here⟩ := Disk.makeDirectories_clear steps rooted accepted.2 clear
  have built := (Disk.leaves_makeDirectories_names steps).of_run made
  have prepared : prepare ⟨dir⟩ t = .ok () t₁ := by
    rw [prepare, route_legible accepted.legible, pure_bind, made]
  have place := place?_probe straight accepted (built.rooted rooted) here
  have vacant : t₁.isDirectory (components dir ++ [probeName]) = false := by
    rw [isDirectory, built.find?_eq not_prefix_concat]
    exact free
  refine ⟨_, openIn_of_place prepared place vacant, fun p => ?_⟩
  by_cases probe : p = components dir ++ [probeName]
  · rw [probe, if_neg not_prefix_concat, if_pos rfl, find?_erase, if_neg (List.concat_ne_nil _ _), if_pos rfl]
  · rw [find?_erase_ne probe, find?_put_ne _ probe, built.find?_of_isDirectory rooted here, if_neg probe]

theorem openIn_unusable (straight : Straight dir) (rooted : t.Rooted) (accepted : Accepted dir)
    (unusable : ¬ Usable t dir) : ∃ e, openIn dir t = .error e t := by
  have steps := steps_of_straight straight
  by_cases clear : Clear (components dir) t
  · -- Then a directory is where the probe's file belongs.
    have inWay : t.isDirectory (components dir ++ [probeName]) = true := by
      by_contra free
      exact unusable ⟨accepted, clear, Bool.eq_false_iff.mpr free⟩
    have here := rooted _ _ (isSome_of_isDirectory inWay)
    have prepared : prepare ⟨dir⟩ t = .ok () t := by
      rw [prepare, route_legible accepted.legible, pure_bind,
        Disk.makeDirectories_found steps rooted accepted.2 here]
    have place := place?_probe straight accepted rooted here
    rw [openIn_eq, Disk.bind_run prepared]
    rcases overwrite_run ⟨dir⟩ plain_probeName (Text.utf8 "ok") t with ⟨takes, -⟩ | ⟨-, e, refused⟩
    · rw [takes_iff place, inWay] at takes
      cases takes
    · exact ⟨e, Disk.bind_refused refused⟩
  · simp only [Clear, not_forall] at clear
    obtain ⟨p, onWay, file⟩ := clear
    obtain ⟨e, refused⟩ :=
      Disk.makeDirectories_blocked steps rooted accepted.2 onWay (Option.isSome_iff_ne_none.mpr file)
    refine ⟨e, ?_⟩
    rw [openIn, route_legible accepted.legible, pure_bind, Disk.bind_refused refused]

theorem openIn_illegible (illegible : ¬ Legible dir) (t : FileTree) : ∃ e, openIn dir t = .error e t := by
  obtain ⟨e, refused⟩ := route_illegible illegible
  refine ⟨e, ?_⟩
  rw [openIn, refused]
  rfl

theorem openIn_beyond (straight : Straight dir) (beyond : ¬ Accepted dir) (t : FileTree) :
    ∃ e t', openIn dir t = .error e t' ∧ BuiltOn (components dir) t t' := by
  rw [openIn_eq]
  obtain ⟨t₁, built, ⟨⟨⟩, prepared⟩ | ⟨e, refused⟩⟩ := leaves_prepare_components straight t
  · rw [Disk.bind_run prepared]
    rcases overwrite_run ⟨dir⟩ plain_probeName (Text.utf8 "ok") t₁ with ⟨⟨p, place, -⟩, -⟩ | ⟨-, e, refused⟩
    · -- The probe's file would have a place only in a directory that is accepted.
      obtain ⟨parent, opened⟩ := openedAt_of_place? plain_probeName place
      have walk := opened.1
      rw [way_eq, steps_of_straight straight] at walk
      rw [opened.place?_eq plain_probeName] at place
      split at place
      · next fits => exact absurd ⟨fits, (Disk.eq_of_walk walk).2⟩ beyond
      · cases place
    · exact ⟨e, t₁, Disk.bind_refused refused, built⟩
  · exact ⟨e, t₁, Disk.bind_refused refused, built⟩

/-! ## Opening the first -/

/-- What becomes of a tree where candidates are passed over, one after the other. -/
inductive Passed : List String → FileTree → FileTree → Prop where
  | nil {t : FileTree} : Passed [] t t
  | unusable {dir : String} {rest : List String} {t t' : FileTree} (accepted : Accepted dir)
      (unusable : ¬ Usable t dir) (others : Passed rest t t') : Passed (dir :: rest) t t'
  | illegible {dir : String} {rest : List String} {t t' : FileTree} (illegible : ¬ Legible dir)
      (others : Passed rest t t') : Passed (dir :: rest) t t'
  /-- Some of the directories on the way to it may have been made. -/
  | beyond {dir : String} {rest : List String} {t t₁ t' : FileTree} (legible : Legible dir)
      (beyond : ¬ Accepted dir) (built : BuiltOn (components dir) t t₁) (others : Passed rest t₁ t') :
    Passed (dir :: rest) t t'

/-- How looking for a directory ends: with the first that is usable where the candidates before it were passed
over, or with none. -/
inductive Settles (candidates : List String) (t : FileTree) : Option Store → FileTree → Prop where
  | chosen {before after : List String} {dir : String} {t₁ t' : FileTree} (order : candidates = before ++ dir :: after)
      (passed : Passed before t t₁) (usable : Usable t₁ dir) (readied : Readied dir t₁ t') :
    Settles candidates t (some ⟨dir⟩) t'
  | nowhere {t' : FileTree} (passed : Passed candidates t t') : Settles candidates t none t'

/-- One more candidate that is passed over. -/
theorem Settles.later {t₁ : FileTree} {found : Option Store} (settles : Settles candidates t₁ found t')
    (passed : ∀ {rest t'}, Passed rest t₁ t' → Passed (dir :: rest) t t') :
    Settles (dir :: candidates) t found t' := by
  cases settles with
  | chosen order before usable readied => exact .chosen (congrArg (dir :: ·) order) (passed before) usable readied
  | nowhere all => exact .nowhere (passed all)

theorem openFirst_opened {s : Store} (opened : openIn dir t = .ok s t') (rest : List String) :
    openFirst (dir :: rest) t = .ok (some s) t' := by
  unfold openFirst
  rw [Disk.bind_run (Disk.attempt_ok opened)]
  rfl

theorem openFirst_refused {e : OsError} (refused : openIn dir t = .error e t') (rest : List String) :
    openFirst (dir :: rest) t = openFirst rest t' := by
  rw [openFirst, Disk.bind_run (Disk.attempt_refused refused)]

theorem openFirst_settles (rooted : t.Rooted) (straight : ∀ dir ∈ candidates, Straight dir) :
    ∃ found t', openFirst candidates t = .ok found t' ∧ Settles candidates t found t' := by
  induction candidates generalizing t with
  | nil => exact ⟨none, t, rfl, .nowhere .nil⟩
  | cons dir rest ih =>
    have here := straight dir List.mem_cons_self
    have others : ∀ dir ∈ rest, Straight dir := fun other mem => straight other (List.mem_cons_of_mem _ mem)
    by_cases usable : Usable t dir
    · obtain ⟨t', opened, readied⟩ := openIn_usable here rooted usable
      exact ⟨_, t', openFirst_opened opened rest, .chosen rfl .nil usable readied⟩
    by_cases accepted : Accepted dir
    · obtain ⟨e, refused⟩ := openIn_unusable here rooted accepted usable
      rw [openFirst_refused refused]
      obtain ⟨found, t', ran, settles⟩ := ih rooted others
      exact ⟨found, t', ran, settles.later (.unusable accepted usable)⟩
    by_cases legible : Legible dir
    · obtain ⟨e, t₁, refused, built⟩ := openIn_beyond here accepted t
      rw [openFirst_refused refused]
      obtain ⟨found, t', ran, settles⟩ := ih (built.rooted rooted) others
      exact ⟨found, t', ran, settles.later (.beyond legible accepted built)⟩
    · obtain ⟨e, refused⟩ := openIn_illegible legible t
      rw [openFirst_refused refused]
      obtain ⟨found, t', ran, settles⟩ := ih rooted others
      exact ⟨found, t', ran, settles.later (.illegible legible)⟩

/-- Candidates that the system accepts leave the tree as it was. -/
theorem Passed.unchanged (passed : Passed candidates t t') (accepted : ∀ dir ∈ candidates, Accepted dir) :
    t' = t ∧ ∀ dir ∈ candidates, ¬ Usable t dir := by
  induction passed with
  | nil => exact ⟨rfl, nofun⟩
  | unusable _ unusable _ ih =>
    obtain ⟨same, none⟩ := ih fun dir mem => accepted dir (List.mem_cons_of_mem _ mem)
    exact ⟨same, List.forall_mem_cons.mpr ⟨unusable, none⟩⟩
  | illegible illegible => exact absurd (accepted _ List.mem_cons_self).legible illegible
  | beyond _ beyond => exact absurd (accepted _ List.mem_cons_self) beyond

/-- Of candidates that the system accepts, the first that is usable is opened. -/
theorem Settles.find?_usable {found : Option Store} (settles : Settles candidates t found t')
    (accepted : ∀ dir ∈ candidates, Accepted dir) :
    found = (candidates.find? fun dir => Usable t dir).map (⟨·⟩) ∧
      (∀ dir, found = some ⟨dir⟩ → Readied dir t t') ∧ (found = none → t' = t) := by
  cases settles with
  | @chosen before after dir t₁ _ order passed usable readied =>
    subst order
    obtain ⟨rfl, others⟩ := passed.unchanged fun dir mem => accepted dir (List.mem_append_left _ mem)
    have first : (before ++ dir :: after).find? (fun dir => Usable t₁ dir) = some dir :=
      List.find?_eq_some_iff_append.mpr ⟨by simpa using usable, before, after, rfl, by simpa using others⟩
    refine ⟨by rw [first]; rfl, ?_, nofun⟩
    rintro _ ⟨⟩
    exact readied
  | nowhere passed =>
    obtain ⟨rfl, others⟩ := passed.unchanged accepted
    have first : candidates.find? (fun dir => Usable t' dir) = none :=
      List.find?_eq_none.mpr (by simpa using others)
    exact ⟨by rw [first]; rfl, nofun, fun _ => rfl⟩

/-- In every tree where everything is in a directory, and for all candidates whose ways go into names only: looking
for a directory ends with the first candidate that is usable where those before it were passed over, or with none,
which is the failure of an agent that starts there. If the system accepts all candidates, that is the first that
is usable in the tree as it was, and the others leave the tree alone. A configured directory that is usable is the
one that is opened. -/
theorem first_usable_opened (rooted : t.Rooted) (straight : ∀ dir ∈ candidates, Straight dir) :
    (∃ found t', openFirst candidates t = .ok found t' ∧ Settles candidates t found t' ∧
      (found = none → ∀ settings custom alive nonce answers,
        Startup.run settings candidates custom alive nonce answers t =
          .ok ([], .failed (noneUsable candidates)) t')) ∧
    ((∀ dir ∈ candidates, Accepted dir) →
      match candidates.find? fun dir => Usable t dir with
      | some dir => ∃ t', openFirst candidates t = .ok (some ⟨dir⟩) t' ∧ Readied dir t t'
      | none => openFirst candidates t = .ok none t) ∧
    ∀ (platform : Platform) (dir : String), platform ≠ .bare → Straight dir → Usable t dir →
      ∃ t', openFirst (platform.candidates (some dir)) t = .ok (some ⟨dir⟩) t' ∧ Readied dir t t' := by
  obtain ⟨found, t', ran, settles⟩ := openFirst_settles rooted straight
  refine ⟨⟨found, t', ran, settles, ?_⟩, fun accepted => ?_, ?_⟩
  · rintro rfl settings custom alive nonce answers
    rw [Startup.run, Disk.bind_run ran]
    rfl
  · obtain ⟨first, readied, same⟩ := settles.find?_usable accepted
    split
    · next dir usable =>
      rw [usable] at first
      cases first
      exact ⟨t', ran, readied dir rfl⟩
    · next unusable =>
      rw [unusable] at first
      cases first
      cases same rfl
      exact ran
  · intro platform dir offers straight usable
    obtain ⟨t', opened, readied⟩ := openIn_usable straight rooted usable
    obtain ⟨rest, listed⟩ : ∃ rest, platform.candidates (some dir) = dir :: rest := by
      cases platform with
      | desktop | fixed => exact ⟨_, rfl⟩
      | bare => exact absurd rfl offers
    exact ⟨t', listed ▸ openFirst_opened opened rest, readied⟩

/-- A file is on the way to the first candidate, and the second holds a file that is named as the probe's. -/
theorem first_usable_opened_blocked :
    let t : FileTree := { entries := [(["blocker"], .file [120]), (["good"], .directory),
      (["good", ".write-probe"], .file [])] }
    t.Rooted ∧ (∀ dir ∈ ["blocker/sub", "good"], Straight dir) ∧ (∀ dir ∈ ["blocker/sub", "good"], Accepted dir) ∧
      (∃ t', openFirst ["blocker/sub", "good"] t = .ok (some ⟨"good"⟩) t' ∧ Readied "good" t t') ∧
      ∃ t', openFirst ((Platform.fixed "blocker").candidates (some "good")) t = .ok (some ⟨"good"⟩) t' ∧
        Readied "good" t t' := by
  intro t
  have rooted : t.Rooted := rooted_of_entries (by decide)
  have straight : ∀ dir ∈ ["blocker/sub", "good"], Straight dir := by decide
  have accepted : ∀ dir ∈ ["blocker/sub", "good"], Accepted dir := by decide +kernel
  have first : ["blocker/sub", "good"].find? (fun dir => Usable t dir) = some "good" := by decide +kernel
  obtain ⟨-, opened, configured⟩ := first_usable_opened rooted straight
  have chosen := opened accepted
  rw [first] at chosen
  exact ⟨rooted, straight, accepted, chosen, configured (.fixed "blocker") "good" nofun (by decide) (by decide +kernel)⟩

/-- A name that is too long: nothing is in the way of the first directory, yet the second is opened, and a directory
that the first would have been in stays behind. -/
theorem overlong_leaves_directory :
    let long := String.ofList (List.replicate 256 'x')
    Straight ("a/" ++ long) ∧ components ("a/" ++ long) = ["a", long] ∧ Clear ["a", long] {} ∧
      ({} : FileTree).isDirectory ["a", long, probeName] = false ∧
      ∃ t', openFirst ["a/" ++ long, "b"] {} = .ok (some ⟨"b"⟩) t' ∧ t'.isDirectory ["a"] = true := by
  intro long
  have letters : long.toList = List.replicate 256 'x' := String.toList_ofList
  have plain : Plain long := by
    unfold Plain
    rw [letters]
    exact ⟨fun slash => absurd (List.eq_of_mem_replicate slash) (by decide), rfl⟩
  have path : "a/" ++ long = pathOf ⟨"a"⟩ long := by
    have lead : lead ⟨"a"⟩ = "a/" := by decide +kernel
    rw [pathOf_eq _ plain, lead]
  have steps : (Route.ofText ("a/" ++ long)).steps = ["a", long].map .into := by
    have way : way ⟨"a"⟩ = [.into "a"] := by decide +kernel
    rw [path, ofText_pathOf _ plain, way]
    rfl
  have names : components ("a/" ++ long) = ["a", long] := by
    rw [components, steps]
    rfl
  have straight : Straight ("a/" ++ long) := by
    rw [Straight, steps]
    simp
  have legible : Legible ("a/" ++ long) := by
    refine ⟨?_, by decide +kernel⟩
    rw [String.toList_append, letters]
    decide +kernel
  have rooted : ({} : FileTree).Rooted := rooted_of_entries nofun
  have empty (p : Path) : ({} : FileTree).content? p = none := by
    cases p <;> rfl
  obtain ⟨t₁, refused, left⟩ : ∃ t₁, Disk.makeDirectories (Route.ofText ("a/" ++ long)) {} =
      .error .nameTooLong t₁ ∧ t₁.isDirectory ["a"] = true :=
    Disk.makeDirectories_overlong steps rooted (by decide) (by decide +kernel) (fun p _ => empty p) rfl
  have built := (Disk.leaves_makeDirectories_names steps).of_refused refused
  have first : openIn ("a/" ++ long) {} = .error .nameTooLong t₁ := by
    rw [openIn, route_legible legible, pure_bind, Disk.bind_refused refused]
  have own : components "b" = ["b"] := by decide +kernel
  have second : Usable t₁ "b" := {
    accepted := by decide +kernel
    clear := fun p _ => (built.content?_eq p).trans (empty p)
    free := by
      rw [isDirectory, own, built.find?_eq (by simp)]
      rfl }
  obtain ⟨t', opened, readied⟩ := openIn_usable (by decide) (built.rooted rooted) second
  refine ⟨straight, names, fun p _ => empty p, rfl, t', ?_, ?_⟩
  · rw [openFirst_refused first, openFirst_opened opened]
  · rw [isDirectory, readied, own, if_neg (by simp), if_neg (by simp)]
    exact left

end CrashReporter.Store
