import CrashReporter.Proofs.FileTree

/-!
# What a store does to its directory

A plain name leads to one place in a store's directory (`Store.place?`, `Store.leads`), as long as no
directory comes or goes, and names that differ lead to places that differ. So a document is seen in its
own file only (`Store.bytes?_run`), and what is done in the files of some names leaves those of all others
alone (`Store.content?_of_confined`).

A document is replaced if its file and the draft's may be where their names lead, and else is left as it
was (`Store.save_run`): its draft is written (`Store.overwrite_run`), and a draft takes the document's
place (`Store.commitDraft_run`); nothing else is changed (`Store.save_eq`, `Store.find?_save`). Removing
removes the file or changes nothing (`Store.remove_run`). The documents of a directory stay when it is
opened once more (`Store.leaves_openIn`).
-/

namespace CrashReporter

/-! ## Names -/

/-- A name without slashes, other than those for a directory itself and for the one above it. -/
def Store.Plain (name : String) : Prop :=
  '/' ∉ name.toList ∧ Route.step? name.toList = some (.into name)

instance (name : String) : Decidable (Store.Plain name) :=
  inferInstanceAs (Decidable (_ ∧ _))

namespace Route

theorem pieces_ne_nil (cs : List Char) : pieces cs ≠ [] := by
  cases cs with
  | nil => exact List.cons_ne_nil _ _
  | cons c cs =>
    rw [pieces]
    split
    · exact List.cons_ne_nil _ _
    · split <;> exact List.cons_ne_nil _ _

theorem pieces_of_plain {cs : List Char} (h : '/' ∉ cs) : pieces cs = [cs] := by
  induction cs with
  | nil => rfl
  | cons c cs ih =>
    rw [List.mem_cons, not_or] at h
    rw [pieces, if_neg (Ne.symm h.1), ih h.2]

theorem pieces_append (ds : List Char) {cs : List Char} (h : '/' ∉ cs) :
    pieces (ds ++ '/' :: cs) = pieces ds ++ [cs] := by
  induction ds with
  | nil =>
    have first : pieces ('/' :: cs) = [] :: pieces cs := by rw [pieces, if_pos rfl]
    rw [List.nil_append, first, pieces_of_plain h]
    rfl
  | cons d ds ih =>
    rw [List.cons_append, pieces, pieces, ih]
    split
    · rfl
    · cases some : pieces ds with
      | nil => exact absurd some (pieces_ne_nil ds)
      | cons p ps => rfl

end Route

namespace Store

theorem endsWith_slash {text : String} : text.endsWith "/" = true ↔ ∃ cs, cs ++ ['/'] = text.toList := by
  rw [String.endsWith, String.Slice.endsWith_string_iff, String.copy_toSlice]
  exact Iff.rfl

/-- What stands before the name in the text of a document's path. -/
def lead (s : Store) : String := if s.dir.isEmpty || s.dir.endsWith "/" then s.dir else s.dir ++ "/"

theorem toList_lead (s : Store) : s.lead.toList = [] ∨ ∃ ds, s.lead.toList = ds ++ ['/'] := by
  unfold lead
  split
  · next bare =>
    rcases Bool.or_eq_true_iff.mp bare with empty | ended
    · exact .inl (by rw [String.isEmpty_iff.mp empty]; rfl)
    · obtain ⟨ds, h⟩ := endsWith_slash.mp ended
      exact .inr ⟨ds, h.symm⟩
  · exact .inr ⟨s.dir.toList, String.toList_append⟩

theorem pathOf_eq (s : Store) {name : String} (plain : Plain name) : s.pathOf name = s.lead ++ name := by
  have slash : "/".toList = ['/'] := rfl
  have unrooted : ¬ name.startsWith "/" = true := by
    rw [String.startsWith_string_iff, slash]
    rintro ⟨cs, h⟩
    exact plain.1 (h ▸ List.mem_cons_self)
  unfold pathOf joinPath lead
  rw [if_neg unrooted]
  split <;> rfl

/-- The way to the directory. -/
def way (s : Store) : List Step := (Route.pieces s.lead.toList).filterMap Route.step?

/-- The route to a document ends with a step into its name. -/
theorem ofText_pathOf (s : Store) {name : String} (plain : Plain name) :
    Route.ofText (s.pathOf name) = { steps := s.way ++ [.into name] } := by
  have filled : name.toList ≠ [] := by
    intro h
    have named := plain.2
    rw [h] at named
    cases named
  -- Only a route that ends with a slash could not end at a file.
  have slash : (s.lead ++ name).endsWith "/" = false := by
    refine Bool.eq_false_iff.mpr fun ended => plain.1 ?_
    obtain ⟨es, e⟩ := endsWith_slash.mp ended
    have last : (s.lead.toList ++ name.toList).getLast? = some '/' := by
      rw [← String.toList_append, ← e, List.getLast?_concat]
    rw [List.getLast?_append, Option.or_of_isSome (by simpa using filled)] at last
    exact List.mem_of_getLast? last
  have empty : Route.step? [] = none := rfl
  rw [s.pathOf_eq plain, Route.ofText, slash, String.toList_append, way]
  rcases s.toList_lead with h | ⟨ds, h⟩
  · rw [h, List.nil_append, Route.pieces_of_plain plain.1]
    simp only [List.filterMap_cons, plain.2, List.filterMap_nil]
    rfl
  · rw [h, List.append_assoc, List.singleton_append, Route.pieces_append ds plain.1,
      Route.pieces_append ds List.not_mem_nil]
    simp only [List.filterMap_append, List.filterMap_cons, plain.2, empty, List.filterMap_nil, List.append_nil]

end Store

/-! ## Places -/

namespace Store

open FileTree

variable {s : Store} {name : String} {t t' : FileTree} {p : Path} {content : Bytes}

/-- The place that a name leads to, if it leads to one. -/
def place? (s : Store) (name : String) (t : FileTree) : Option Path :=
  (Disk.route (s.pathOf name) >>= fun r => Disk.walk [] r.steps).answer? t

/-- What is in the file of a name. -/
def content? (s : Store) (name : String) (t : FileTree) : Option Bytes := (s.place? name t).bind t.content?

/-- Whether a file of that name may be there: the name leads to a place, and no directory is there. -/
def Takes (s : Store) (name : String) (t : FileTree) : Prop :=
  ∃ p, s.place? name t = some p ∧ t.isDirectory p = false

/-- Whether no directory is where a name leads, if it leads anywhere. -/
def Vacant (s : Store) (name : String) (t : FileTree) : Prop :=
  ∀ p, s.place? name t = some p → t.isDirectory p = false

theorem takes_iff (place : s.place? name t = some p) : s.Takes name t ↔ t.isDirectory p = false := by
  constructor
  · rintro ⟨q, here, free⟩
    rw [place] at here
    cases here
    exact free
  · exact fun free => ⟨p, place, free⟩

theorem not_takes (place : s.place? name t = none) : ¬ s.Takes name t := by
  rintro ⟨p, here, -⟩
  rw [place] at here
  cases here

/-- The ways in which a name leads to a place, or to none. -/
inductive Leads (s : Store) (name : String) (t : FileTree) : Option Path → Prop where
  | arrives {r : Route} {p : Path} (route : Disk.route (s.pathOf name) = pure r) (bare : r.slash = false)
      (walk : Disk.walk [] r.steps t = .ok p t) (target : Disk.target r t = .ok (some p) t)
      (named : p.getLast? = some name) : Leads s name t (some p)
  /-- A directory is missing on the way. -/
  | astray {r : Route} {e : OsError} (route : Disk.route (s.pathOf name) = pure r)
      (walk : Disk.walk [] r.steps t = .error e t) (target : Disk.target r t = .error e t) : Leads s name t none
  /-- The system does not look at the path at all. -/
  | refused {e : OsError} (route : Disk.route (s.pathOf name) = Disk.refuse e) : Leads s name t none

theorem leads (s : Store) (plain : Plain name) (t : FileTree) : s.Leads name t (s.place? name t) := by
  have spelled := s.ofText_pathOf plain
  have route : (∃ e, Disk.route (s.pathOf name) = Disk.refuse e) ∨
      Disk.route (s.pathOf name) = pure { steps := s.way ++ [.into name] } := by
    unfold Disk.route
    split
    · exact .inl ⟨_, rfl⟩
    · split
      · exact .inl ⟨_, rfl⟩
      · exact .inr (by rw [spelled])
  unfold place? Disk.answer?
  rcases route with ⟨e, refused⟩ | found
  · simp only [refused]
    exact .refused refused
  · simp only [found, pure_bind]
    have target := Disk.target_concat s.way name
    rcases Disk.keeps_walk [] (s.way ++ [.into name]) t with ⟨p, walk⟩ | ⟨e, walk⟩
    · simp only [walk]
      refine .arrives found rfl walk ?_ (Disk.getLast?_walk walk)
      rw [target, map_eq_pure_bind]
      exact Disk.bind_run walk
    · simp only [walk]
      refine .astray found walk ?_
      rw [target, map_eq_pure_bind]
      exact Disk.bind_refused walk

theorem getLast?_place (plain : Plain name) (h : s.place? name t = some p) : p.getLast? = some name := by
  have leads := s.leads plain t
  rw [h] at leads
  cases leads with
  | arrives _ _ _ _ named => exact named

/-- A name leads to the same place wherever it leads to one, if no directory is missing. -/
theorem place?_within (plain : Plain name) (within : t.Within t') (h : s.place? name t = some p) :
    s.place? name t' = some p := by
  have leads := s.leads plain t
  rw [h] at leads
  cases leads with
  | arrives route _ walk _ _ =>
    unfold place? Disk.answer?
    simp only [route, pure_bind, Disk.walk_within within walk]

theorem place?_of_confined {names : List String} (plain : Plain name) (confined : Confined names t t') :
    s.place? name t' = s.place? name t := by
  cases here : s.place? name t with
  | some p => exact place?_within plain confined.within here
  | none =>
    cases there : s.place? name t' with
    | none => rfl
    | some p =>
      rw [place?_within plain confined.symm.within there] at here
      cases here

/-- What is done in the files of some names leaves those of all others as they are. -/
theorem content?_of_confined {names : List String} (plain : Plain name) (confined : Confined names t t')
    (other : name ∉ names) : s.content? name t' = s.content? name t := by
  unfold content?
  rw [place?_of_confined plain confined]
  cases here : s.place? name t with
  | none => rfl
  | some p =>
    have elsewhere : ∀ n ∈ names, p.getLast? ≠ some n := by
      intro n known same
      rw [getLast?_place plain here] at same
      cases same
      exact other known
    simp only [Option.bind_some, FileTree.content?, confined.files p elsewhere]

/-- What is in a file stays there while nothing but other entries are added. -/
theorem content?_of_grown (plain : Plain name) (grown : Grown t t') (held : s.content? name t = some content) :
    s.content? name t' = some content := by
  obtain ⟨p, here, held⟩ := Option.bind_eq_some_iff.mp held
  have entry := find?_of_content? held
  unfold content? FileTree.content?
  rw [place?_within plain grown.within here, Option.bind_some, grown p _ entry]

theorem takes_of_confined {names : List String} (plain : Plain name) (confined : Confined names t t') :
    s.Takes name t' ↔ s.Takes name t := by
  unfold Takes
  simp only [place?_of_confined plain confined, confined.directories]

/-! ## Documents -/

/-- A document's bytes are those in its file. -/
theorem bytes?_run (s : Store) (plain : Plain name) (t : FileTree) :
    s.bytes? name t = .ok (s.content? name t) t := by
  have attempted {found : Except OsError Bytes}
      (h : Disk.attempt (do Disk.read (← Disk.route (s.pathOf name))) t = .ok found t) :
      s.bytes? name t = .ok found.toOption t := Disk.bind_run h
  have refused {e : OsError} (h : (do Disk.read (← Disk.route (s.pathOf name))) t = .error e t) :
      s.bytes? name t = .ok none t := attempted (Disk.attempt_refused h)
  have leads := s.leads plain t
  unfold content?
  generalize s.place? name t = place at leads ⊢
  cases leads with
  | @refused e route =>
    refine refused (e := e) ?_
    rw [route]
    rfl
  | @astray _ e route walk target =>
    refine refused (e := e) ?_
    rw [route, pure_bind, Disk.read, Disk.stat, bind_assoc]
    exact Disk.bind_refused walk
  | arrives route bare walk target named =>
    obtain ⟨found, read, same⟩ := Disk.read_run bare walk
    rw [Option.bind_some, ← same]
    refine attempted ?_
    rw [route, pure_bind]
    exact read

/-- There is a document if there is a file of its name. -/
theorem contains_eq (s : Store) (plain : Plain name) (t : FileTree) :
    s.contains name t = .ok (s.content? name t).isSome t := by
  have leads := s.leads plain t
  unfold content? contains
  generalize s.place? name t = place at leads ⊢
  cases leads with
  | @refused e route =>
    have refused : Disk.attempt (Disk.route (s.pathOf name)) t = .ok (.error e) t :=
      Disk.attempt_refused (by rw [route]; rfl)
    rw [Disk.bind_run refused]
    rfl
  | @astray r e route walk target =>
    have found : Disk.attempt (Disk.route (s.pathOf name)) t = .ok (.ok r) t :=
      Disk.attempt_ok (by rw [route]; rfl)
    rw [Disk.bind_run found]
    exact Disk.leadsTo_astray _ walk
  | @arrives r p route bare walk target named =>
    have found : Disk.attempt (Disk.route (s.pathOf name)) t = .ok (.ok r) t :=
      Disk.attempt_ok (by rw [route]; rfl)
    rw [Disk.bind_run found]
    refine (Disk.leadsTo_of_walk _ bare walk).trans ?_
    rw [Option.bind_some, FileTree.content?]
    cases t.find? p with
    | none => rfl
    | some entry => cases entry <;> rfl

/-- What is loaded is what the document's file spells. -/
theorem load_eq {β : Type} (s : Store) (shape : Json.Shape β) (plain : Plain name) (t : FileTree) :
    s.load shape name t = .ok ((s.content? name t).bind fun content => (shape.ofText content).toOption) t := by
  have bytes := s.bytes?_run plain t
  unfold load
  rw [Disk.bind_run bytes]
  rfl

/-- Writes a file of that name, whatever is written to it. -/
def overwrite (s : Store) (name : String) (content : Bytes) : Disk Unit := do
  Disk.write (← Disk.route (s.pathOf name)) content

theorem writeDraft_eq (s : Store) (name : String) (document : Json.Value) :
    s.writeDraft name document = s.overwrite (draftName name) (written document) := rfl

/-- A file is written if it may be there. -/
theorem overwrite_run (s : Store) (plain : Plain name) (content : Bytes) (t : FileTree) :
    (s.Takes name t ∧ ∃ t', s.overwrite name content t = .ok () t' ∧ Confined [name] t t' ∧
        s.content? name t' = some content) ∨
      ¬ s.Takes name t ∧ ∃ e, s.overwrite name content t = .error e t := by
  have leads := s.leads plain t
  unfold overwrite
  cases place : s.place? name t with
  | none =>
    refine .inr ⟨not_takes place, ?_⟩
    rw [place] at leads
    cases leads with
    | refused route =>
      rw [route]
      exact ⟨_, rfl⟩
    | astray route walk target =>
      rw [route, pure_bind]
      exact ⟨_, Disk.bind_refused target⟩
  | some p =>
    rw [place] at leads
    cases leads with
    | arrives route bare walk target named =>
      rw [route, pure_bind, Disk.write_run bare target]
      cases vacant : t.isDirectory p with
      | true => exact .inr ⟨fun takes => absurd vacant (by simp [(takes_iff place).mp takes]), _, rfl⟩
      | false =>
        have confined : Confined [name] t (t.put p (.file content)) :=
          confined_put content vacant named List.mem_cons_self
        refine .inl ⟨⟨p, place, vacant⟩, _, rfl, confined, ?_⟩
        rw [Store.content?, place?_of_confined plain confined, place, Option.bind_some]
        exact content?_put content named

/-- A complete draft takes the place of a document if a file may be there. -/
theorem commitDraft_run (s : Store) (plain : Plain name) (draft : Plain (draftName name))
    (drafted : s.content? (draftName name) t = some content) :
    (s.Takes name t ∧ ∃ t', s.commitDraft name t = .ok () t' ∧ Confined [draftName name, name] t t' ∧
        s.content? name t' = some content) ∨
      ¬ s.Takes name t ∧ ∃ e, s.commitDraft name t = .error e t := by
  obtain ⟨p, there, held⟩ := Option.bind_eq_some_iff.mp drafted
  have source := s.leads draft t
  rw [there] at source
  have leads := s.leads plain t
  have entry := find?_of_content? held
  unfold commitDraft
  cases source with
  | arrives draftRoute _ _ draftTarget draftNamed =>
    rw [draftRoute, pure_bind]
    cases place : s.place? name t with
    | none =>
      refine .inr ⟨not_takes place, ?_⟩
      rw [place] at leads
      cases leads with
      | refused route =>
        rw [route]
        exact ⟨_, rfl⟩
      | astray route walk target =>
        rw [route, pure_bind, Disk.rename, Disk.bind_run draftTarget]
        exact ⟨_, Disk.bind_refused target⟩
    | some q =>
      rw [place] at leads
      cases leads with
      | arrives route bare walk target named =>
        rw [route, pure_bind, Disk.rename_run bare draftTarget target entry]
        cases vacant : t.isDirectory q with
        | true => exact .inr ⟨fun takes => absurd vacant (by simp [(takes_iff place).mp takes]), _, rfl⟩
        | false =>
          have erased : Confined [draftName name, name] t (t.erase p) :=
            confined_erase (isDirectory_of_content? held) draftNamed List.mem_cons_self
          have confined : Confined [draftName name, name] t ((t.erase p).put q (.file content)) :=
            erased.trans (confined_put content ((erased.directories q).trans vacant) named
              (List.mem_cons_of_mem _ List.mem_cons_self))
          refine .inl ⟨⟨q, place, vacant⟩, _, rfl, confined, ?_⟩
          rw [Store.content?, place?_of_confined plain confined, place, Option.bind_some]
          exact content?_put content named

theorem draftName_ne (name : String) : name ≠ draftName name := by
  intro same
  have lengths := congrArg String.length same
  rw [draftName, String.length_append] at lengths
  have suffix : ".tmp".length = 4 := rfl
  omega

theorem leaves_overwrite (s : Store) (plain : Plain name) (content : Bytes) :
    (s.overwrite name content).Leaves (Confined [name]) := fun t => by
  rcases s.overwrite_run plain content t with ⟨-, t', wrote, confined, -⟩ | ⟨-, e, refused⟩
  · exact ⟨t', confined, .inl ⟨(), wrote⟩⟩
  · exact ⟨t, Confined.refl _ t, .inr ⟨e, refused⟩⟩

/-- What comes of saving a document, and of its draft. -/
theorem save_spec (s : Store) (plain : Plain name) (draft : Plain (draftName name)) (document : Json.Value)
    (t : FileTree) :
    ((s.Takes (draftName name) t ∧ s.Takes name t) ∧ ∃ t', s.save name document t = .ok () t' ∧
        Confined [draftName name, name] t t' ∧ s.content? name t' = some (written document)) ∨
      (s.Takes (draftName name) t ∧ ¬ s.Takes name t ∧ ∃ e t', s.save name document t = .error e t' ∧
        s.overwrite (draftName name) (written document) t = .ok () t') ∨
      ¬ s.Takes (draftName name) t ∧ ∃ e, s.save name document t = .error e t := by
  unfold save
  rw [writeDraft_eq]
  rcases s.overwrite_run draft (written document) t with ⟨taken, t₁, wrote, confined, drafted⟩ | ⟨none, e, refused⟩
  · rw [Disk.bind_run wrote]
    have same : s.Takes name t₁ ↔ s.Takes name t := takes_of_confined plain confined
    rcases s.commitDraft_run plain draft drafted with ⟨taken', t₂, renamed, moved, replaced⟩ | ⟨none, e, refused⟩
    · have first : Confined [draftName name, name] t t₁ := confined.mono (by simp)
      exact .inl ⟨⟨taken, same.mp taken'⟩, t₂, renamed, first.trans moved, replaced⟩
    · exact .inr (.inl ⟨taken, fun takes => none (same.mpr takes), e, t₁, refused, wrote⟩)
  · rw [Disk.bind_refused refused]
    exact .inr (.inr ⟨none, e, rfl⟩)

/-- Saving replaces a document if a file may be there, and in place of its draft; else it leaves the
document as it was. -/
theorem save_run (s : Store) (plain : Plain name) (draft : Plain (draftName name)) (document : Json.Value)
    (t : FileTree) :
    (s.Takes (draftName name) t ∧ s.Takes name t ∧ ∃ t', s.save name document t = .ok () t' ∧
        Confined [draftName name, name] t t' ∧ s.content? name t' = some (written document)) ∨
      ¬ (s.Takes (draftName name) t ∧ s.Takes name t) ∧ ∃ e t', s.save name document t = .error e t' ∧
        Confined [draftName name, name] t t' ∧ s.content? name t' = s.content? name t := by
  rcases s.save_spec plain draft document t with ⟨⟨taken, takes⟩, saved⟩ | ⟨-, none, e, t', refused, wrote⟩ |
    ⟨none, e, refused⟩
  · exact .inl ⟨taken, takes, saved⟩
  · have confined := (s.leaves_overwrite draft (written document)).of_run wrote
    refine .inr ⟨fun both => none both.2, e, t', refused, confined.mono (by simp), ?_⟩
    exact content?_of_confined plain confined (by simpa using draftName_ne name)
  · exact .inr ⟨fun both => none both.1, e, t, refused, Confined.refl _ t, rfl⟩

/-- What writing a file changes: the file. -/
theorem overwrite_eq (plain : Plain name) (wrote : s.overwrite name content t = .ok () t') :
    ∃ p, s.place? name t = some p ∧ t' = t.put p (.file content) := by
  have leads := s.leads plain t
  unfold overwrite at wrote
  generalize s.place? name t = place at leads ⊢
  cases leads with
  | refused route =>
    rw [route] at wrote
    cases wrote
  | astray route walk target =>
    rw [route, pure_bind, Disk.write, Disk.bind_refused target] at wrote
    cases wrote
  | arrives route bare walk target named =>
    rw [route, pure_bind, Disk.write_run bare target] at wrote
    split at wrote
    · cases wrote
    · cases wrote
      exact ⟨_, rfl, rfl⟩

/-- What moving a complete draft changes: the draft's file and the document's. -/
theorem commitDraft_eq {p : Path} (plain : Plain name) (draft : Plain (draftName name))
    (there : s.place? (draftName name) t = some p) (entry : t.find? p = some (.file content))
    (moved : s.commitDraft name t = .ok () t') :
    ∃ q, s.place? name t = some q ∧ t' = (t.erase p).put q (.file content) := by
  have source := s.leads draft t
  have leads := s.leads plain t
  rw [there] at source
  unfold commitDraft at moved
  cases source with
  | arrives draftRoute _ _ draftTarget _ =>
    rw [draftRoute, pure_bind] at moved
    generalize s.place? name t = place at leads ⊢
    cases leads with
    | refused route =>
      rw [route] at moved
      cases moved
    | astray route walk target =>
      rw [route, pure_bind, Disk.rename, Disk.bind_run draftTarget] at moved
      simp only [Disk.bind_refused target] at moved
      cases moved
    | arrives route bare walk target named =>
      rw [route, pure_bind, Disk.rename_run bare draftTarget target entry] at moved
      split at moved
      · cases moved
      · cases moved
        exact ⟨_, rfl, rfl⟩

/-- What a save that succeeds has changed: the draft's file is gone, and the document's is written. -/
theorem save_eq {document : Json.Value} (plain : Plain name) (draft : Plain (draftName name))
    (saved : s.save name document t = .ok () t') :
    ∃ p q, s.place? (draftName name) t = some p ∧ s.place? name t = some q ∧
      t' = ((t.put p (.file (written document))).erase p).put q (.file (written document)) := by
  obtain ⟨⟨⟩, t₁, wrote, moved⟩ := Disk.bind_eq_ok saved
  rw [writeDraft_eq] at wrote
  have confined := (s.leaves_overwrite draft (written document)).of_run wrote
  obtain ⟨p, there, rfl⟩ := overwrite_eq draft wrote
  have there' := (place?_of_confined draft confined).trans there
  obtain ⟨q, here, rfl⟩ := commitDraft_eq plain draft there'
    (find?_of_content? (content?_put _ (getLast?_place draft there))) moved
  exact ⟨p, q, there, (place?_of_confined plain confined).symm.trans here, rfl⟩

theorem find?_save {document : Json.Value} (plain : Plain name) (draft : Plain (draftName name))
    (saved : s.save name document t = .ok () t') (p : Path) :
    t'.find? p =
      if s.place? name t = some p then some (.file (written document))
      else if s.place? (draftName name) t = some p then none
      else t.find? p := by
  obtain ⟨there, here, drafted, placed, rfl⟩ := save_eq plain draft saved
  have filled := ne_nil_of_named (getLast?_place plain placed)
  have filled' := ne_nil_of_named (getLast?_place draft drafted)
  simp only [placed, drafted, Option.some.injEq]
  by_cases final : here = p
  · subst final
    rw [if_pos rfl, find?_put, if_neg filled, if_pos rfl]
  · rw [if_neg final, find?_put_ne _ (Ne.symm final)]
    by_cases first : there = p
    · subst first
      rw [if_pos rfl, find?_erase, if_neg filled', if_pos rfl]
    · rw [if_neg first, find?_erase_ne (Ne.symm first), find?_put_ne _ (Ne.symm first)]

/-- Removing a document removes its file, if there is one, and is refused where a directory is. -/
theorem remove_spec (s : Store) (plain : Plain name) (t : FileTree) :
    (s.Vacant name t ∧ ∃ t', s.remove name t = .ok () t' ∧
        ∀ p, t'.find? p = if s.place? name t = some p then none else t.find? p) ∨
      ¬ s.Vacant name t ∧ ∃ e, s.remove name t = .error e t := by
  have leads := s.leads plain t
  unfold remove Vacant
  cases place : s.place? name t with
  | none =>
    rw [place] at leads
    refine .inl ⟨nofun, t, ?_, fun p => (if_neg nofun).symm⟩
    cases leads with
    | @refused e route =>
      have refused : Disk.attempt (Disk.route (s.pathOf name)) t = .ok (.error e) t :=
        Disk.attempt_refused (by rw [route]; rfl)
      rw [Disk.bind_run refused]
      rfl
    | @astray r e route walk target =>
      have found : Disk.attempt (Disk.route (s.pathOf name)) t = .ok (.ok r) t :=
        Disk.attempt_ok (by rw [route]; rfl)
      rw [Disk.bind_run found]
      exact Disk.bind_run (Disk.leadsTo_astray _ walk)
  | some p =>
    rw [place] at leads
    cases leads with
    | @arrives r _ route bare walk target named =>
      have found : Disk.attempt (Disk.route (s.pathOf name)) t = .ok (.ok r) t :=
        Disk.attempt_ok (by rw [route]; rfl)
      have seen : Disk.exists? r t = .ok ((t.find? p).any fun _ => true) t :=
        Disk.leadsTo_of_walk _ bare walk
      simp only [Option.some.injEq, forall_eq']
      rw [Disk.bind_run found]
      simp only
      rw [Disk.bind_run seen, isDirectory]
      cases entry : t.find? p with
      | none =>
        refine .inl ⟨rfl, t, rfl, fun q => ?_⟩
        split
        · next same => rw [← same, entry]
        · rfl
      | some e =>
        rcases Disk.remove_run bare target with ⟨held, removed⟩ | ⟨missing, e', refused⟩
        · obtain ⟨content, held⟩ := Option.isSome_iff_exists.mp held
          cases (find?_of_content? held).symm.trans entry
          refine .inl ⟨rfl, t.erase p, removed, fun q => ?_⟩
          split
          · next same => rw [← same, find?_erase, if_neg (ne_nil_of_named named), if_pos rfl]
          · next other => exact find?_erase_ne (Ne.symm other)
        · cases e with
          | directory => exact .inr ⟨by decide, e', refused⟩
          | file content =>
            rw [FileTree.content?, entry] at missing
            cases missing

/-- Removing a document removes its file or leaves everything as it is. -/
theorem remove_run (s : Store) (plain : Plain name) (t : FileTree) :
    ∃ t', ((s.remove name t = .ok () t') ∨ ∃ e, s.remove name t = .error e t') ∧ Confined [name] t t' ∧
      (s.content? name t' = none ∨ t' = t) := by
  rcases s.remove_spec plain t with ⟨vacant, t', removed, found⟩ | ⟨-, e, refused⟩
  · have confined : Confined [name] t t' := by
      cases place : s.place? name t with
      | none => exact ⟨fun p => by simp [isDirectory, found, place], fun p _ => by simp [found, place]⟩
      | some p =>
        simp only [place, Option.some.injEq] at found
        refine confined_of_elsewhere (fun q other => (found q).trans (if_neg (Ne.symm other))) (vacant p place)
          ?_ (getLast?_place plain place) List.mem_cons_self
        rw [isDirectory, found, if_pos rfl]
        rfl
    refine ⟨t', .inl removed, confined, .inl ?_⟩
    rw [Store.content?, place?_of_confined plain confined]
    cases place : s.place? name t with
    | none => rfl
    | some p => rw [Option.bind_some, FileTree.content?, found, if_pos place]
  · exact ⟨t, .inr ⟨e, refused⟩, Confined.refl _ t, .inr rfl⟩

/-! ## Opening -/

/-- Whether the files of all names but some hold what they held, if they held anything. -/
def Spares (names : List String) (t t' : FileTree) : Prop :=
  ∀ (s : Store) {name : String} {content : Bytes}, Plain name → name ∉ names →
    s.content? name t = some content → s.content? name t' = some content

instance (names : List String) : Std.Refl (Spares names) := ⟨fun _ _ _ _ _ _ h => h⟩

instance (names : List String) : Trans (Spares names) (Spares names) (Spares names) :=
  ⟨fun first second s _ _ plain other h => second s plain other (first s plain other h)⟩

theorem spares_of_confined {names : List String} (confined : Confined names t t') : Spares names t t' :=
  fun _ _ _ plain other h => (content?_of_confined plain confined other).trans h

theorem spares_of_grown {names : List String} (grown : Grown t t') : Spares names t t' :=
  fun _ _ _ plain _ h => content?_of_grown plain grown h

theorem leaves_save (s : Store) (plain : Plain name) (draft : Plain (draftName name)) (document : Json.Value) :
    (s.save name document).Leaves (Confined [draftName name, name]) := fun t => by
  rcases s.save_run plain draft document t with ⟨-, -, t', saved, confined, -⟩ | ⟨-, e, t', refused, confined, -⟩
  · exact ⟨t', confined, .inl ⟨(), saved⟩⟩
  · exact ⟨t', confined, .inr ⟨e, refused⟩⟩

/-- Removes the file of a name. -/
def unlink (s : Store) (name : String) : Disk Unit := do
  Disk.remove (← Disk.route (s.pathOf name))

theorem leaves_unlink (s : Store) (plain : Plain name) : (s.unlink name).Leaves (Confined [name]) := fun t => by
  have leads := s.leads plain t
  unfold unlink
  generalize s.place? name t = place at leads
  cases leads with
  | refused route =>
    rw [route]
    exact ⟨t, Confined.refl _ t, .inr ⟨_, rfl⟩⟩
  | astray route walk target =>
    rw [route, pure_bind]
    exact ⟨t, Confined.refl _ t, .inr ⟨_, Disk.bind_refused target⟩⟩
  | arrives route bare walk target named =>
    rw [route, pure_bind]
    rcases Disk.remove_run bare target with ⟨held, removed⟩ | ⟨-, e, refused⟩
    · obtain ⟨content, held⟩ := Option.isSome_iff_exists.mp held
      exact ⟨_, confined_erase (isDirectory_of_content? held) named List.mem_cons_self, .inl ⟨(), removed⟩⟩
    · exact ⟨t, Confined.refl _ t, .inr ⟨e, refused⟩⟩

/-- Where a file is, it is removed. -/
theorem unlink_run (plain : Plain name) (place : s.place? name t = some p) (held : (t.content? p).isSome) :
    s.unlink name t = .ok () (t.erase p) := by
  have leads := s.leads plain t
  rw [place] at leads
  unfold unlink
  cases leads with
  | arrives route bare walk target named =>
    rw [route, pure_bind]
    rcases Disk.remove_run bare target with ⟨-, removed⟩ | ⟨missing, -⟩
    · exact removed
    · rw [missing] at held
      cases held

/-- Makes the directory, if it is missing. -/
def prepare (s : Store) : Disk Unit := do
  Disk.makeDirectories (← Disk.route s.dir)

theorem leaves_prepare (s : Store) : s.prepare.Leaves Built :=
  (Disk.keeps_route s.dir).leaves.bind fun r => Disk.leaves_makeDirectories r

/-- A directory is opened by making it and by writing and removing the probe's file. -/
theorem openIn_eq (dir : String) : openIn dir = do
    prepare ⟨dir⟩
    overwrite ⟨dir⟩ probeName (Text.utf8 "ok")
    unlink ⟨dir⟩ probeName
    return ⟨dir⟩ := by
  have probe : Disk.route (joinPath dir probeName) = Disk.route (pathOf ⟨dir⟩ probeName) := rfl
  simp only [openIn, prepare, overwrite, unlink, bind_assoc, probe]
  rcases Disk.route_or (pathOf ⟨dir⟩ probeName) with ⟨e, route⟩ | ⟨r, route⟩
  · rw [route]
    rfl
  · rw [route]
    simp only [pure_bind]

theorem plain_probeName : Plain probeName := by decide

/-- A directory that is opened, or that cannot be opened, keeps its documents. -/
theorem leaves_openIn (dir : String) : (openIn dir).Leaves (Spares [probeName]) := by
  have plain := plain_probeName
  rw [openIn_eq]
  refine ((leaves_prepare _).mono fun built => spares_of_grown built.grown).bind fun _ => ?_
  refine ((leaves_overwrite _ plain _).mono spares_of_confined).bind fun _ => ?_
  exact ((leaves_unlink _ plain).mono spares_of_confined).bind fun _ => (Disk.keeps_pure _).leaves

end Store

end CrashReporter
