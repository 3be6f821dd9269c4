import CrashReporter.Store

/-!
# What operations on files come to

An operation on a tree gives a value (`Disk.Gives`) if it is carried out on every tree with that
answer; what it leaves in the tree may differ. Such operations follow one another
(`Disk.Gives.bind`), and an operation whose outcome nobody looks at may come before one
(`Disk.Gives.attempt_bind`). An operation ensures something of its answer (`Disk.Ensures`) if it is
carried out on every tree with an answer of that sort. An operation turns trees of one kind into trees of
another (`Disk.Turns`) if it is carried out on those of the one kind and leaves one of the other.

A state may go through operations one after the other: what they give in the end is what each of them gives
(`Disk.gives_foldlM`), and what each ensures of a state that has it they ensure of the last (`Disk.ensures_foldlM`).

An operation that only looks keeps every tree (`Disk.Keeps`): finding a way through a tree and reading
do (`Disk.keeps_walk`, `Disk.keeps_read`), and so does loading a document (`Store.load_run`).
-/

namespace CrashReporter.Disk

variable {α β : Type}

/-- The operation is carried out on every tree, and `a` is its answer. -/
def Gives (x : Disk α) (a : α) : Prop := ∀ t, ∃ t', x t = .ok a t'

/-- The operation is carried out on every tree, and `P` holds of its answer. -/
def Ensures (x : Disk α) (P : α → Prop) : Prop := ∀ t, ∃ a t', x t = .ok a t' ∧ P a

/-- The operation leaves every tree as it is. -/
def Keeps (x : Disk α) : Prop := ∀ t, (∃ a, x t = .ok a t) ∨ ∃ e, x t = .error e t

/-- The answer of an operation on a tree, if it is carried out. -/
def answer? (x : Disk α) (t : FileTree) : Option α :=
  match x t with
  | .ok a _ => some a
  | .error _ _ => none

theorem attempt_run (x : Disk α) (t : FileTree) : ∃ r t', attempt x t = .ok r t' := by
  unfold attempt
  split
  · exact ⟨_, _, rfl⟩
  · exact ⟨_, _, rfl⟩

theorem attempt_ok {x : Disk α} {a : α} {t t' : FileTree} (h : x t = .ok a t') :
    attempt x t = .ok (.ok a) t' := by
  simp only [attempt, h]

theorem attempt_refused {x : Disk α} {e : OsError} {t t' : FileTree} (h : x t = .error e t') :
    attempt x t = .ok (.error e) t' := by
  simp only [attempt, h]

theorem bind_run {x : Disk α} {f : α → Disk β} {a : α} {t t' : FileTree} (h : x t = .ok a t') :
    (x >>= f) t = f a t' := by
  show EStateM.bind x f t = f a t'
  simp only [EStateM.bind, h]

theorem bind_refused {x : Disk α} {f : α → Disk β} {e : OsError} {t t' : FileTree}
    (h : x t = .error e t') : (x >>= f) t = .error e t' := by
  show EStateM.bind x f t = .error e t'
  simp only [EStateM.bind, h]

/-- What was carried out was carried out in parts. -/
theorem bind_eq_ok {x : Disk α} {f : α → Disk β} {b : β} {t t' : FileTree} (h : (x >>= f) t = .ok b t') :
    ∃ a t₁, x t = .ok a t₁ ∧ f a t₁ = .ok b t' := by
  cases run : x t with
  | ok a t₁ => exact ⟨a, t₁, rfl, (bind_run run).symm.trans h⟩
  | error e t₁ => exact nomatch (bind_refused run).symm.trans h

theorem answer?_ok {x : Disk α} {a : α} {t t' : FileTree} (h : x t = .ok a t') :
    x.answer? t = some a := by
  simp only [answer?, h]

theorem answer?_refused {x : Disk α} {e : OsError} {t t' : FileTree} (h : x t = .error e t') :
    x.answer? t = none := by
  simp only [answer?, h]

theorem run_of_answer? {x : Disk α} {a : α} {t : FileTree} (h : x.answer? t = some a) : ∃ t', x t = .ok a t' := by
  unfold answer? at h
  split at h
  · next run => exact ⟨_, run.trans (by rw [Option.some.inj h])⟩
  · cases h

/-- What is answered in the end is answered where the first operation has left the tree. -/
theorem answer?_bind {x : Disk α} {f : α → Disk β} {b : β} {t : FileTree} :
    (x >>= f).answer? t = some b ↔ ∃ a t', x t = .ok a t' ∧ (f a).answer? t' = some b := by
  cases run : x t with
  | ok a t' =>
    simp only [answer?, bind_run run]
    constructor
    · exact fun h => ⟨a, t', rfl, h⟩
    · rintro ⟨_, _, ⟨⟩, h⟩
      exact h
  | error e t' => simp [answer?, bind_refused run]

theorem gives_pure (a : α) : (pure a : Disk α).Gives a := fun t => ⟨t, rfl⟩

theorem Gives.bind {x : Disk α} {f : α → Disk β} {a : α} {b : β} (hx : x.Gives a)
    (hf : (f a).Gives b) : (x >>= f).Gives b := fun t => by
  obtain ⟨t₁, h₁⟩ := hx t
  rw [bind_run h₁]
  exact hf t₁

/-- An attempt whose outcome is not looked at. -/
theorem Gives.attempt_bind (x : Disk α) {f : Except OsError α → Disk β} {b : β}
    (hf : ∀ r, (f r).Gives b) : (attempt x >>= f).Gives b := fun t => by
  obtain ⟨r, t₁, h₁⟩ := attempt_run x t
  rw [bind_run h₁]
  exact hf r t₁

theorem Gives.ensures {x : Disk α} {a : α} {P : α → Prop} (hx : x.Gives a) (ha : P a) :
    x.Ensures P := fun t => by
  obtain ⟨t', h⟩ := hx t
  exact ⟨a, t', h, ha⟩

theorem Gives.bind_ensures {x : Disk α} {f : α → Disk β} {a : α} {P : β → Prop} (hx : x.Gives a)
    (hf : (f a).Ensures P) : (x >>= f).Ensures P := fun t => by
  obtain ⟨t₁, h₁⟩ := hx t
  rw [bind_run h₁]
  exact hf t₁

theorem ensures_pure {a : α} {P : α → Prop} (ha : P a) : (pure a : Disk α).Ensures P :=
  (gives_pure a).ensures ha

theorem Ensures.bind {x : Disk α} {f : α → Disk β} {P : α → Prop} {Q : β → Prop} (hx : x.Ensures P)
    (hf : ∀ a, P a → (f a).Ensures Q) : (x >>= f).Ensures Q := fun t => by
  obtain ⟨a, t₁, h₁, ha⟩ := hx t
  rw [bind_run h₁]
  exact hf a ha t₁

theorem Ensures.mono {x : Disk α} {P Q : α → Prop} (hx : x.Ensures P) (h : ∀ a, P a → Q a) :
    x.Ensures Q := fun t => by
  obtain ⟨a, t', run, ha⟩ := hx t
  exact ⟨a, t', run, h a ha⟩

theorem Ensures.and {x : Disk α} {P Q : α → Prop} (hP : x.Ensures P) (hQ : x.Ensures Q) :
    x.Ensures fun a => P a ∧ Q a := fun t => by
  obtain ⟨a, t', run, ha⟩ := hP t
  obtain ⟨_, _, run', ha'⟩ := hQ t
  cases run.symm.trans run'
  exact ⟨a, t', run, ha, ha'⟩

/-! ## One after the other -/

section

variable {State Move : Type} {step : State → Move → Disk State}

theorem gives_foldlM {after : State → Move → State} (gives : ∀ s move, (step s move).Gives (after s move))
    (s : State) (moves : List Move) : (moves.foldlM step s).Gives (moves.foldl after s) := by
  induction moves generalizing s with
  | nil => exact gives_pure s
  | cons move moves ih => exact (gives s move).bind (ih (after s move))

/-- What each of the moves keeps holds after them. -/
theorem ensures_foldlM {I : State → Prop} {moves : List Move}
    (keeps : ∀ {s}, I s → ∀ move ∈ moves, (step s move).Ensures I) {s : State} (h : I s) :
    (moves.foldlM step s).Ensures I := by
  induction moves generalizing s with
  | nil => exact ensures_pure h
  | cons move moves ih =>
    exact (keeps h move List.mem_cons_self).bind fun s' h' =>
      ih (fun h move hmove => keeps h move (List.mem_cons_of_mem _ hmove)) h'

end

/-! ## Trees of a kind -/

section

variable {P Q R : FileTree → Prop}

/-- On every tree of one kind the operation is carried out, with `a` as its answer, and leaves one of
another kind. -/
def Turns (P : FileTree → Prop) (x : Disk α) (a : α) (Q : FileTree → Prop) : Prop :=
  ∀ t, P t → ∃ t', x t = .ok a t' ∧ Q t'

theorem turns_pure (a : α) : Turns P (pure a) a P := fun t h => ⟨t, rfl, h⟩

theorem Turns.bind {x : Disk α} {f : α → Disk β} {a : α} {b : β} (hx : Turns P x a Q)
    (hf : Turns Q (f a) b R) : Turns P (x >>= f) b R := fun t h => by
  obtain ⟨t₁, run, h₁⟩ := hx t h
  rw [bind_run run]
  exact hf t₁ h₁

end

/-! ## Looking -/

theorem keeps_pure (a : α) : (pure a : Disk α).Keeps := fun _ => .inl ⟨a, rfl⟩

theorem keeps_refuse (e : OsError) : (refuse e : Disk α).Keeps := fun _ => .inr ⟨e, rfl⟩

theorem keeps_look (f : FileTree → α) : (look f).Keeps := fun t => .inl ⟨f t, rfl⟩

theorem Keeps.unchanged {x : Disk α} (hx : x.Keeps) {a : α} {t t' : FileTree} (h : x t = .ok a t') : t' = t := by
  rcases hx t with ⟨b, run⟩ | ⟨e, run⟩
  · cases h.symm.trans run
    rfl
  · cases h.symm.trans run

theorem Keeps.bind {x : Disk α} {f : α → Disk β} (hx : x.Keeps) (hf : ∀ a, (f a).Keeps) :
    (x >>= f).Keeps := fun t => by
  rcases hx t with ⟨a, h⟩ | ⟨e, h⟩
  · rw [bind_run h]
    exact hf a t
  · rw [bind_refused h]
    exact .inr ⟨e, rfl⟩

theorem Keeps.attempt_run {x : Disk α} (hx : x.Keeps) (t : FileTree) :
    ∃ r, attempt x t = .ok r t := by
  unfold attempt
  rcases hx t with ⟨a, h⟩ | ⟨e, h⟩
  · exact ⟨.ok a, by rw [h]⟩
  · exact ⟨.error e, by rw [h]⟩

theorem Keeps.attempt {x : Disk α} (hx : x.Keeps) : (attempt x).Keeps := fun t =>
  .inl (hx.attempt_run t)

theorem keeps_follow (p : Path) (s : Step) : (follow p s).Keeps := by
  have directory : (needDirectory p).Keeps := (keeps_look _).bind fun e => by
    split
    · exact keeps_pure _
    · exact keeps_refuse _
    · exact keeps_refuse _
  refine directory.bind fun _ => ?_
  cases s with
  | stay => exact keeps_pure _
  | up => exact keeps_pure _
  | «into» name =>
    have short : (needShort name).Keeps := by
      unfold needShort
      split
      · exact keeps_refuse _
      · exact keeps_pure _
    exact short.bind fun _ => keeps_pure _

theorem keeps_walk (p : Path) (steps : List Step) : (walk p steps).Keeps := by
  unfold walk
  induction steps generalizing p with
  | nil => exact keeps_pure p
  | cons s steps ih => exact (keeps_follow p s).bind fun q => ih q

theorem keeps_stat (r : Route) : (stat r).Keeps :=
  (keeps_walk _ _).bind fun p => (keeps_look _).bind fun e => by
    split
    · exact keeps_refuse _
    · split
      · exact keeps_refuse _
      · exact keeps_pure _

theorem keeps_read (r : Route) : (read r).Keeps :=
  (keeps_stat r).bind fun found => by
    split
    · exact keeps_pure _
    · exact keeps_refuse _

theorem keeps_route (s : String) : (route s).Keeps := by
  unfold route
  split
  · exact keeps_refuse _
  · split
    · exact keeps_refuse _
    · exact keeps_pure _

/-- Where a route leads is seen on every tree. -/
theorem leadsTo_run (f : Entry → Bool) (r : Route) (t : FileTree) :
    ∃ b, leadsTo f r t = .ok b t := by
  obtain ⟨found, h⟩ := (keeps_stat r).attempt_run t
  unfold leadsTo
  rw [bind_run h]
  cases found with
  | ok entry => exact ⟨f entry.2, rfl⟩
  | error e => exact ⟨false, rfl⟩

end CrashReporter.Disk

namespace CrashReporter.Store

open Json

/-- A document is loaded, or there is none; the tree stays as it is. -/
theorem load_run {β : Type} (s : Store) (shape : Shape β) (name : String) (t : FileTree) :
    ∃ document, s.load shape name t = .ok document t := by
  have keeps : Disk.Keeps (do Disk.read (← Disk.route (s.pathOf name))) :=
    (Disk.keeps_route _).bind fun r => Disk.keeps_read r
  obtain ⟨content, h⟩ := keeps.attempt_run t
  unfold load bytes?
  simp only [bind_assoc, pure_bind]
  rw [Disk.bind_run h]
  exact ⟨_, rfl⟩

/-- Whether there is a file of a name is seen on every tree. -/
theorem contains_run (s : Store) (name : String) (t : FileTree) :
    ∃ b, s.contains name t = .ok b t := by
  obtain ⟨r, h⟩ := (Disk.keeps_route (s.pathOf name)).attempt_run t
  unfold contains
  rw [Disk.bind_run h]
  cases r with
  | ok r => exact Disk.leadsTo_run _ r t
  | error e => exact ⟨false, rfl⟩

/-- A directory is found that can be used, or there is none. -/
theorem openFirst_run (candidates : List String) (t : FileTree) :
    ∃ store t', openFirst candidates t = .ok store t' := by
  induction candidates generalizing t with
  | nil => exact ⟨none, t, rfl⟩
  | cons dir rest ih =>
    obtain ⟨r, t₁, h⟩ := Disk.attempt_run (openIn dir) t
    unfold openFirst
    rw [Disk.bind_run h]
    cases r with
    | ok store => exact ⟨some store, t₁, rfl⟩
    | error e => exact ih t₁

end CrashReporter.Store
