import CrashReporter.Proofs.Store

/-!
# What is asked of a store

Documents are saved, loaded, looked for and removed (`Store.Request`). Every request is answered, and both
the answer (`Store.answer`) and what stands where afterwards (`Store.entryAfter`) depend on little of the tree:
its directories, and the entries where a name and its draft lead (`Store.serve_run`).

Two trees that differ at most in the file of one name (`Store.Apart`) are told apart by no request for another
name (`Store.Apart.serveAll`), and not at all any more once that file was the draft of a document that is saved
(`Store.Apart.saved`).
-/

namespace CrashReporter.Store

open FileTree Json

variable {β : Type}

/-- Something that is asked of a store for a name; a document may be loaded as one of any kind. -/
inductive Request (β : Type) where
  | save (document : Value)
  | load (shape : Shape β)
  | find
  | remove

/-- What comes of a request. -/
inductive Answer (β : Type) where
  /-- Whether a document could be saved or removed. -/
  | done (accepted : Bool)
  | document (d : Option β)
  | found (there : Bool)
  deriving DecidableEq

/-- Answers a request for a name. -/
def serve (s : Store) (name : String) : Request β → Disk (Answer β)
  | .save document => do return .done (← Disk.attempt (s.save name document)).isOk
  | .load shape => do return .document (← s.load shape name)
  | .find => do return .found (← s.contains name)
  | .remove => do return .done (← Disk.attempt (s.remove name)).isOk

/-- Answers requests, one after the other. -/
def serveAll (s : Store) (requests : List (String × Request β)) : Disk (List (Answer β)) :=
  requests.mapM fun (name, r) => s.serve name r

theorem serveAll_cons (s : Store) (name : String) (r : Request β) (requests : List (String × Request β)) :
    s.serveAll ((name, r) :: requests) = do return (← s.serve name r) :: (← s.serveAll requests) := by
  rw [serveAll, List.mapM_cons]
  rfl

/-! ## One request -/

variable {s : Store} {name other : String} {t t' u u' : FileTree}

theorem plain_draftName (plain : Plain name) : Plain (draftName name) := by
  have letters : (draftName name).toList = name.toList ++ ['.', 't', 'm', 'p'] := String.toList_append
  refine ⟨?_, ?_⟩
  · rw [letters, List.mem_append, not_or]
    exact ⟨plain.1, by decide⟩
  · have long : 4 ≤ (draftName name).toList.length := by
      rw [letters, List.length_append]
      exact Nat.le_add_left _ _
    unfold Route.step?
    split
    · next h => simp [h] at long
    · next h => simp [h] at long
    · next h => simp [h] at long
    · rw [String.ofList_toList]

instance : Decidable (s.Takes name t) :=
  decidable_of_iff ((s.place? name t).any fun p => !t.isDirectory p) <| by
    simp only [Takes, Option.any_eq_true, Bool.not_eq_true']

instance : Decidable (s.Vacant name t) :=
  decidable_of_iff ((s.place? name t).all fun p => !t.isDirectory p) <| by
    simp only [Vacant, Option.all_eq_true, Bool.not_eq_true']

/-- Whether a document can be saved: no directory is in the place of its file or of the draft. -/
def Saves (s : Store) (name : String) (t : FileTree) : Prop :=
  s.Takes (draftName name) t ∧ s.Takes name t

instance : Decidable (s.Saves name t) := inferInstanceAs (Decidable (_ ∧ _))

/-- What is answered. -/
def answer (s : Store) (name : String) (t : FileTree) : Request β → Answer β
  | .save _ => .done (s.Saves name t)
  | .load shape => .document ((s.content? name t).bind fun content => (shape.ofText content).toOption)
  | .find => .found (s.content? name t).isSome
  | .remove => .done (s.Vacant name t)

/-- What stands at a place afterwards. A document that cannot be saved may leave its draft behind. -/
def entryAfter (s : Store) (name : String) (t : FileTree) (p : Path) : Request β → Option Entry
  | .save document =>
    if s.Saves name t ∧ s.place? name t = some p then some (.file (written document))
    else if s.Takes (draftName name) t ∧ s.place? (draftName name) t = some p then
      if s.Takes name t then none else some (.file (written document))
    else t.find? p
  | .remove => if s.Vacant name t ∧ s.place? name t = some p then none else t.find? p
  | .load _ | .find => t.find? p

theorem serve_run (s : Store) (plain : Plain name) (r : Request β) (t : FileTree) :
    ∃ t', s.serve name r t = .ok (s.answer name t r) t' ∧ ∀ p, t'.find? p = s.entryAfter name t p r := by
  cases r with
  | save document =>
    have draft := plain_draftName plain
    simp only [answer, entryAfter]
    rcases s.save_spec plain draft document t with ⟨saves, t', saved, -⟩ | ⟨taken, free, e, t', refused, wrote⟩ |
      ⟨free, e, refused⟩
    · have saves : s.Saves name t := saves
      refine ⟨t', ?_, fun p => ?_⟩
      · rw [decide_eq_true saves]
        exact Disk.bind_run (Disk.attempt_ok saved)
      · rw [find?_save plain draft saved]
        simp only [saves, saves.1, saves.2, true_and, if_true]
    · have unsaved : ¬ s.Saves name t := fun saves => free saves.2
      obtain ⟨p, place, put⟩ := overwrite_eq draft wrote
      refine ⟨t', ?_, fun q => ?_⟩
      · rw [decide_eq_false unsaved]
        exact Disk.bind_run (Disk.attempt_refused refused)
      · have filled := ne_nil_of_named (getLast?_place draft place)
        rw [put]
        simp only [unsaved, taken, free, false_and, true_and, if_false, place, Option.some.injEq]
        split
        · next same => rw [← same, find?_put, if_neg filled, if_pos rfl]
        · next other => exact find?_put_ne _ (Ne.symm other)
    · have unsaved : ¬ s.Saves name t := fun saves => free saves.1
      refine ⟨t, ?_, fun p => ?_⟩
      · rw [decide_eq_false unsaved]
        exact Disk.bind_run (Disk.attempt_refused refused)
      · simp only [unsaved, free, false_and, if_false]
  | load shape =>
    have loaded := s.load_eq shape plain t
    exact ⟨t, Disk.bind_run loaded, fun _ => rfl⟩
  | find =>
    have seen := s.contains_eq plain t
    exact ⟨t, Disk.bind_run seen, fun _ => rfl⟩
  | remove =>
    simp only [answer, entryAfter]
    rcases s.remove_spec plain t with ⟨vacant, t', removed, found⟩ | ⟨taken, e, refused⟩
    · refine ⟨t', ?_, fun p => ?_⟩
      · rw [decide_eq_true vacant]
        exact Disk.bind_run (Disk.attempt_ok removed)
      · simp only [found, vacant, true_and]
    · refine ⟨t, ?_, fun p => ?_⟩
      · rw [decide_eq_false taken]
        exact Disk.bind_run (Disk.attempt_refused refused)
      · simp only [taken, false_and, if_false]

/-- No directory comes or goes, and only the files of the name and of its draft are changed. -/
theorem leaves_serve (s : Store) (plain : Plain name) (r : Request β) :
    (s.serve name r).Leaves (Confined [draftName name, name]) := by
  cases r with
  | save document =>
    have saved := (s.leaves_save plain (plain_draftName plain) document).attempt
    exact saved.bind fun _ => (Disk.keeps_pure _).leaves
  | load shape => exact fun t => ⟨t, Confined.refl _ t, .inl ⟨_, Disk.bind_run (s.load_eq shape plain t)⟩⟩
  | find => exact fun t => ⟨t, Confined.refl _ t, .inl ⟨_, Disk.bind_run (s.contains_eq plain t)⟩⟩
  | remove =>
    have removed : (s.remove name).Leaves (Confined [draftName name, name]) := fun t => by
      obtain ⟨t', ran, confined, -⟩ := s.remove_run plain t
      refine ⟨t', confined.mono (by simp), ?_⟩
      exact ran.imp (fun ran => ⟨(), ran⟩) id
    exact removed.attempt.bind fun _ => (Disk.keeps_pure _).leaves

/-- What is in the document's file afterwards. -/
def contentAfter (s : Store) (name : String) (t : FileTree) : Request β → Option Bytes
  | .save document => if s.Saves name t then some (written document) else s.content? name t
  | .remove => if s.Vacant name t then none else s.content? name t
  | .load _ | .find => s.content? name t

theorem content?_serve (plain : Plain name) {r : Request β} {a : Answer β} (ran : s.serve name r t = .ok a t') :
    s.content? name t' = s.contentAfter name t r := by
  obtain ⟨t₁, ran', found⟩ := s.serve_run plain r t
  cases ran.symm.trans ran'
  have confined := (s.leaves_serve plain r).of_run ran
  have content : s.content? name t' = (s.place? name t).bind t'.content? := by
    rw [content?, place?_of_confined plain confined]
  rw [content]
  cases place : s.place? name t with
  | none =>
    have free : ¬ s.Saves name t := fun saves => not_takes place saves.2
    cases r <;> simp [contentAfter, content?, place, free]
  | some p =>
    -- The draft's file is another one.
    have beside : s.place? (draftName name) t ≠ some p := by
      intro drafted
      have named := getLast?_place (plain_draftName plain) drafted
      rw [getLast?_place plain place, Option.some.injEq] at named
      exact draftName_ne name named
    have before : s.content? name t = t.content? p := by rw [content?, place, Option.bind_some]
    have kept (same : s.entryAfter name t p r = t.find? p) : t'.content? p = t.content? p := by
      rw [FileTree.content?, found, same, FileTree.content?]
    rw [Option.bind_some]
    cases r with
    | save document =>
      simp only [contentAfter, before]
      simp only [entryAfter, place, beside, and_true, and_false, if_false] at found kept
      split
      · next saves => rw [FileTree.content?, found, if_pos ⟨saves, rfl⟩]
      · next free => exact kept (if_neg fun saves => free saves)
    | remove =>
      simp only [contentAfter, before]
      simp only [entryAfter, place, and_true] at found kept
      split
      · next vacant => rw [FileTree.content?, found, if_pos ⟨vacant, rfl⟩]
      · next taken => exact kept (if_neg taken)
    | load _ | find => exact (kept rfl).trans before.symm

/-! ## Trees that differ in one file -/

/-- Whether two trees differ at most in the file of a name. -/
structure Apart (s : Store) (name : String) (t u : FileTree) : Prop where
  directories : ∀ p, u.isDirectory p = t.isDirectory p
  elsewhere : ∀ p, s.place? name t ≠ some p → u.find? p = t.find? p

theorem Apart.confined (h : s.Apart name t u) (plain : Plain name) : Confined [name] t u where
  directories := h.directories
  files p other := h.elsewhere p fun here => other name List.mem_cons_self (getLast?_place plain here)

theorem vacant_of_confined {names : List String} (plain : Plain name) (confined : Confined names t t') :
    s.Vacant name t' ↔ s.Vacant name t := by
  unfold Vacant
  simp only [place?_of_confined plain confined, confined.directories]

theorem saves_of_confined {names : List String} (plain : Plain name) (confined : Confined names t t') :
    s.Saves name t' ↔ s.Saves name t :=
  and_congr (takes_of_confined (plain_draftName plain) confined) (takes_of_confined plain confined)

/-- Requests for other names are answered alike. -/
theorem Apart.answer (h : s.Apart name t u) (plain : Plain name) (plain' : Plain other) (differs : other ≠ name)
    (r : Request β) : s.answer other u r = s.answer other t r := by
  have confined := h.confined plain
  have elsewhere : other ∉ [name] := by simpa using differs
  cases r with
  | save document => simp only [Store.answer, saves_of_confined plain' confined]
  | load shape => simp only [Store.answer, content?_of_confined plain' confined elsewhere]
  | find => simp only [Store.answer, content?_of_confined plain' confined elsewhere]
  | remove => simp only [Store.answer, vacant_of_confined plain' confined]

/-- A request for another name puts the same at a place of both trees, or leaves what is there in both. -/
theorem Apart.entryAfter (h : s.Apart name t u) (plain : Plain name) (plain' : Plain other) (r : Request β)
    (p : Path) :
    s.entryAfter other u p r = s.entryAfter other t p r ∨
      s.entryAfter other u p r = u.find? p ∧ s.entryAfter other t p r = t.find? p := by
  have confined := h.confined plain
  have draft := plain_draftName plain'
  cases r with
  | save document =>
    simp only [Store.entryAfter, saves_of_confined plain' confined, takes_of_confined plain' confined,
      takes_of_confined draft confined, place?_of_confined plain' confined, place?_of_confined draft confined]
    split
    · exact .inl rfl
    · split
      · exact .inl rfl
      · exact .inr ⟨rfl, rfl⟩
  | load shape => exact .inr ⟨rfl, rfl⟩
  | find => exact .inr ⟨rfl, rfl⟩
  | remove =>
    simp only [Store.entryAfter, vacant_of_confined plain' confined, place?_of_confined plain' confined]
    split
    · exact .inl rfl
    · exact .inr ⟨rfl, rfl⟩

theorem Apart.serve (h : s.Apart name t u) (plain : Plain name) (plain' : Plain other) (differs : other ≠ name)
    (r : Request β) :
    ∃ a t' u', s.serve other r t = .ok a t' ∧ s.serve other r u = .ok a u' ∧ s.Apart name t' u' := by
  obtain ⟨t', ran, found⟩ := s.serve_run plain' r t
  obtain ⟨u', ran', found'⟩ := s.serve_run plain' r u
  rw [h.answer plain plain' differs] at ran'
  have left := (s.leaves_serve plain' r).of_run ran
  have left' := (s.leaves_serve plain' r).of_run ran'
  refine ⟨_, t', u', ran, ran', ?_⟩
  exact {
    directories := fun p => by rw [left'.directories, left.directories, h.directories]
    elsewhere := by
      intro p away
      rw [place?_of_confined plain left] at away
      rw [found, found']
      rcases h.entryAfter plain plain' r p with same | ⟨kept, kept'⟩
      · exact same
      · rw [kept, kept', h.elsewhere p away] }

/-- Whatever is asked for other names, the same is answered. -/
theorem Apart.serveAll (h : s.Apart name t u) (plain : Plain name) {requests : List (String × Request β)}
    (others : ∀ r ∈ requests, Plain r.1 ∧ r.1 ≠ name) :
    ∃ answers t' u', s.serveAll requests t = .ok answers t' ∧ s.serveAll requests u = .ok answers u' ∧
      s.Apart name t' u' := by
  induction requests generalizing t u with
  | nil => exact ⟨[], t, u, rfl, rfl, h⟩
  | cons first requests ih =>
    obtain ⟨other, r⟩ := first
    obtain ⟨plain', differs⟩ := others (other, r) List.mem_cons_self
    obtain ⟨a, t₁, u₁, ran, ran', h₁⟩ := h.serve plain plain' differs r
    obtain ⟨answers, t₂, u₂, rest, rest', h₂⟩ := ih h₁ fun r hr => others r (List.mem_cons_of_mem _ hr)
    refine ⟨a :: answers, t₂, u₂, ?_, ?_, h₂⟩
    · rw [serveAll_cons, Disk.bind_run ran, Disk.bind_run rest]
      rfl
    · rw [serveAll_cons, Disk.bind_run ran', Disk.bind_run rest']
      rfl

/-- Trees that differ at most in a document's draft are the same once the document is saved. -/
theorem Apart.saved (h : s.Apart (draftName name) t u) (plain : Plain name) {document : Value}
    (saved : s.save name document t = .ok () t') :
    ∃ u', s.save name document u = .ok () u' ∧ ∀ p, u'.find? p = t'.find? p := by
  have draft := plain_draftName plain
  have confined := h.confined draft
  have saves : s.Saves name u := by
    rw [saves_of_confined plain confined]
    rcases s.save_spec plain draft document t with ⟨saves, -⟩ | ⟨-, -, e, t₁, refused, -⟩ | ⟨-, e, refused⟩
    · exact saves
    · cases saved.symm.trans refused
    · cases saved.symm.trans refused
  rcases s.save_spec plain draft document u with ⟨-, u', saved', -⟩ | ⟨-, free, -⟩ | ⟨free, -⟩
  · refine ⟨u', saved', fun p => ?_⟩
    rw [find?_save plain draft saved', find?_save plain draft saved, place?_of_confined plain confined,
      place?_of_confined draft confined]
    split
    · rfl
    · split
      · rfl
      · next away => exact h.elsewhere p away
  · exact absurd saves.2 free
  · exact absurd saves.1 free

end CrashReporter.Store
