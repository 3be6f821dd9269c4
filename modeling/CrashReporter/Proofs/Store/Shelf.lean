import CrashReporter.Proofs.Store.Documents
import CrashReporter.Proofs.Store.Opening

/-!
# A store is a map

What is answered for a name depends on what was asked for that name (`Store.Slot`), and on its file in the
beginning, as long as the names are kept apart (`Store.Tidy`): a document that was saved last is loaded, and
nothing once it was removed. One request keeps the files to what the slots say (`Store.Shows.serve`), and so do
all that follow one another (`Store.Shows.serveAll`); in a directory that was opened the slots begin with what
was there before it (`Store.answers_of_slots`).
-/

namespace CrashReporter.Store

open FileTree

/-- Something that is asked of a store for a name. -/
inductive Ask where
  | save (d : Document)
  | load (kind : Kind)
  | find
  | remove
  deriving DecidableEq

def Ask.request : Ask → Request Document
  | .save d => .save d.toJson
  | .load kind => .load kind.shape
  | .find => .find
  | .remove => .remove

/-- What there is under a name. -/
inductive Slot where
  /-- What was in the file in the beginning, if there was one. -/
  | found (content : Option Bytes)
  | kept (d : Document)
  | removed

namespace Slot

/-- What there is after something was asked; `fits` says whether a document can be saved. -/
def after (fits : Bool) (slot : Slot) : Ask → Slot
  | .save d => if fits then .kept d else slot
  | .remove => .removed
  | .load _ | .find => slot

def afterAll (fits : Bool) (slot : Slot) (asks : List Ask) : Slot := asks.foldl (after fits) slot

/-- The document of a kind. -/
def document? (kind : Kind) : Slot → Option Document
  | .found content => content.bind fun content => (kind.shape.ofText content).toOption
  | .kept d => if kind = d.kind then some d else none
  | .removed => none

/-- Whether there is anything. -/
def isThere : Slot → Bool
  | .found content => content.isSome
  | .kept _ => true
  | .removed => false

def answer (fits : Bool) (slot : Slot) : Ask → Answer Document
  | .save _ => .done fits
  | .load kind => .document (slot.document? kind)
  | .find => .found slot.isThere
  | .remove => .done true

/-- What is in the file. -/
def content? : Slot → Option Bytes
  | .found content => content
  | .kept d => some (written d.toJson)
  | .removed => none

/-- A document is loaded as one of its kind only. -/
theorem document?_eq (kind : Kind) (slot : Slot) :
    (slot.content?.bind fun content => (kind.shape.ofText content).toOption) = slot.document? kind := by
  cases slot with
  | found content => rfl
  | removed => rfl
  | kept d =>
    rw [content?, Option.bind_some, document?]
    split
    · next same => rw [same, d.reads]
    · next other => exact Document.unread other

theorem isThere_eq (slot : Slot) : slot.isThere = slot.content?.isSome := by
  cases slot <;> rfl

end Slot

/-- What was asked for a name. -/
def asked (name : String) (asks : List (String × Ask)) : List Ask :=
  asks.filterMap fun (other, ask) => if other = name then some ask else none

/-- Whether names are kept apart: none is the probe's or that of another's draft, and no directory is in the
place of one of them or of its draft. -/
structure Tidy (s : Store) (names : List String) (t : FileTree) : Prop where
  plain : ∀ name ∈ names, Plain name
  probe : probeName ∉ names
  drafts : ∀ name ∈ names, draftName name ∉ names
  vacant : ∀ name ∈ names, s.Vacant name t ∧ s.Vacant (draftName name) t

/-- Whether the files of names are as slots say. -/
structure Shows (s : Store) (names : List String) (fits : String → Bool) (slots : String → Slot) (t : FileTree) :
    Prop where
  tidy : s.Tidy names t
  saves : ∀ name ∈ names, s.Saves name t ↔ fits name = true
  contents : ∀ name ∈ names, s.content? name t = (slots name).content?

variable {s : Store} {name : String} {names : List String} {fits : String → Bool} {slots : String → Slot}
  {t t' : FileTree}

theorem Tidy.of_confined {others : List String} (h : s.Tidy names t) (confined : Confined others t t') :
    s.Tidy names t' where
  plain := h.plain
  probe := h.probe
  drafts := h.drafts
  vacant name known := by
    have plain := h.plain name known
    rw [vacant_of_confined plain confined, vacant_of_confined (plain_draftName plain) confined]
    exact h.vacant name known

/-- A request is answered as the slot of its name says. -/
theorem Shows.answer (h : s.Shows names fits slots t) (known : name ∈ names) (ask : Ask) :
    s.answer name t ask.request = (slots name).answer (fits name) ask := by
  have content := h.contents name known
  cases ask with
  | save d => simp only [Ask.request, Store.answer, Slot.answer, h.saves name known, Bool.decide_eq_true]
  | load kind => rw [Ask.request, Store.answer, content, Slot.document?_eq, Slot.answer]
  | find => rw [Ask.request, Store.answer, content, ← Slot.isThere_eq, Slot.answer]
  | remove => simp only [Ask.request, Store.answer, Slot.answer, (h.tidy.vacant name known).1, decide_true]

/-- A request changes the file of its name as it changes the slot. -/
theorem Shows.contentAfter (h : s.Shows names fits slots t) (known : name ∈ names) (ask : Ask) :
    s.contentAfter name t ask.request = ((slots name).after (fits name) ask).content? := by
  have content := h.contents name known
  cases ask with
  | save d =>
    simp only [Ask.request, Store.contentAfter, Slot.after, h.saves name known, content]
    split <;> rfl
  | load kind => exact content
  | find => exact content
  | remove =>
    simp only [Ask.request, Store.contentAfter, Slot.after, (h.tidy.vacant name known).1, if_true]
    rfl

/-- A request keeps the files of all names to what the slots say. -/
theorem Shows.serve (h : s.Shows names fits slots t) (known : name ∈ names) (ask : Ask) :
    ∃ t', s.serve name ask.request t = .ok ((slots name).answer (fits name) ask) t' ∧
      s.Shows names fits (Function.update slots name ((slots name).after (fits name) ask)) t' := by
  have plain := h.tidy.plain name known
  obtain ⟨t', ran, -⟩ := s.serve_run plain ask.request t
  have confined := (s.leaves_serve plain ask.request).of_run ran
  have tidy := h.tidy.of_confined confined
  refine ⟨t', by rw [ran, h.answer known], tidy, fun other known' => ?_, fun other known' => ?_⟩
  · rw [saves_of_confined (tidy.plain other known') confined]
    exact h.saves other known'
  · by_cases same : other = name
    · rw [same, Function.update_self, content?_serve plain ran, h.contentAfter known]
    · have elsewhere : other ∉ [draftName name, name] := by
        rw [List.mem_cons, List.mem_singleton, not_or]
        exact ⟨fun drafted => h.tidy.drafts name known (drafted ▸ known'), same⟩
      rw [Function.update_of_ne same, content?_of_confined (tidy.plain other known') confined elsewhere]
      exact h.contents other known'

/-- The slot of a name is changed by what is asked for that name only. -/
theorem afterAll_asked_cons (slots : String → Slot) (fits : String → Bool) (name : String) (first : String × Ask)
    (asks : List (String × Ask)) :
    (slots name).afterAll (fits name) (asked name (first :: asks)) =
      (Function.update slots first.1 ((slots first.1).after (fits first.1) first.2) name).afterAll (fits name)
        (asked name asks) := by
  obtain ⟨other, ask⟩ := first
  by_cases same : other = name
  · subst same
    simp [asked, Slot.afterAll]
  · simp [asked, same, Function.update_of_ne (Ne.symm same)]

/-- Every request is answered as the slot of its name says after all that was asked for that name before. -/
theorem Shows.serveAll {asks : List (String × Ask)} (h : s.Shows names fits slots t)
    (known : ∀ a ∈ asks, a.1 ∈ names) :
    ∃ answers t', s.serveAll (asks.map fun (name, ask) => (name, ask.request)) t = .ok answers t' ∧
      answers.length = asks.length ∧
      ∀ past name ask rest, asks = past ++ (name, ask) :: rest →
        answers[past.length]? =
          some (((slots name).afterAll (fits name) (asked name past)).answer (fits name) ask) := by
  induction asks generalizing slots t with
  | nil => exact ⟨[], t, rfl, rfl, fun past name ask rest split => by simp at split⟩
  | cons first asks ih =>
    obtain ⟨other, ask'⟩ := first
    obtain ⟨t₁, ran, shows₁⟩ := h.serve (known _ List.mem_cons_self) ask'
    obtain ⟨answers, t₂, ran', length, answered⟩ := ih shows₁ fun a ha => known a (List.mem_cons_of_mem _ ha)
    refine ⟨(slots other).answer (fits other) ask' :: answers, t₂, ?_, by rw [List.length_cons, List.length_cons, length], ?_⟩
    · rw [List.map_cons, serveAll_cons, Disk.bind_run ran, Disk.bind_run ran']
      rfl
    · intro past name ask rest split
      cases past with
      | nil =>
        cases split
        rfl
      | cons a past =>
        cases split
        rw [afterAll_asked_cons, List.length_cons, List.getElem?_cons_succ]
        exact answered past name ask rest rfl

/-- In a directory that was opened, requests for names that are kept apart are answered as a map from names to
documents would answer them: by what was asked for that name before, and in the beginning by what was in its file
before the directory was opened. A document can be saved if its draft's name is accepted, and removing succeeds
whether there is a document or not. -/
theorem answers_of_slots {dir : String} {t₀ : FileTree} (opened : openIn dir t₀ = .ok s t)
    {asks : List (String × Ask)} (tidy : s.Tidy (asks.map Prod.fst) t) :
    ∃ answers t', s.serveAll (asks.map fun (name, ask) => (name, ask.request)) t = .ok answers t' ∧
      answers.length = asks.length ∧
      ∀ past name ask rest, asks = past ++ (name, ask) :: rest →
        answers[past.length]? = some
          (((Slot.found ((s.place? name t).bind t₀.content?)).afterAll (s.Fits (draftName name))
            (asked name past)).answer (s.Fits (draftName name)) ask) := by
  obtain ⟨⟨parent, openedAt⟩, files⟩ := openIn_run opened
  have shows : s.Shows (asks.map Prod.fst) (fun name => s.Fits (draftName name))
      (fun name => .found ((s.place? name t).bind t₀.content?)) t := by
    refine ⟨tidy, fun name known => ?_, fun name known => ?_⟩
    · rw [decide_eq_true_iff]
      exact openedAt.saves_iff (tidy.plain name known) (tidy.vacant name known).1 (tidy.vacant name known).2
    · rw [Slot.content?, Store.content?]
      refine Option.bind_congr fun p place => files p ?_
      rw [getLast?_place (tidy.plain name known) place]
      exact fun probe => tidy.probe (Option.some.inj probe ▸ known)
  exact shows.serveAll fun a ha => List.mem_map_of_mem ha

/-- A broken count is replaced, and a policy is removed in between. -/
theorem answers_of_slots_replaced :
    let t := (({} : FileTree).put ["state"] .directory).put ["state", "usage.json"] (.file [0x7B])
    let asks : List (String × Ask) := [("usage.json", .load .count), ("limits.json", .save (.policy {})),
      ("usage.json", .save (.count 18446744073709551615)), ("limits.json", .remove), ("usage.json", .load .count)]
    ∃ answers t', openIn "/state" t = .ok ⟨"/state"⟩ t ∧
      serveAll ⟨"/state"⟩ (asks.map fun (name, ask) => (name, ask.request)) t = .ok answers t' ∧
      answers[0]? = some (.document none) ∧
      answers[4]? = some (.document (some (.count 18446744073709551615))) := by
  intro t asks
  have opened : openIn "/state" t = .ok ⟨"/state"⟩ t := by
    have ran : (match openIn "/state" t with
      | .ok s t => some (s, t)
      | .error _ _ => none) = some (⟨"/state"⟩, t) := by decide +kernel
    cases run : openIn "/state" t with
    | ok s t' =>
      rw [run] at ran
      cases ran
      rfl
    | error e t' =>
      rw [run] at ran
      cases ran
  have tidy : Tidy ⟨"/state"⟩ (asks.map Prod.fst) t :=
    ⟨by decide +kernel, by decide, by decide +kernel, by decide +kernel⟩
  obtain ⟨answers, t', ran, -, answered⟩ := answers_of_slots opened tidy
  have fits : Fits ⟨"/state"⟩ (draftName "usage.json") := by decide +kernel
  have first := answered [] "usage.json" (.load .count) _ rfl
  have last := answered (asks.take 4) "usage.json" (.load .count) [] rfl
  rw [decide_eq_true fits] at last
  exact ⟨answers, t', opened, ran, first.trans (by decide +kernel), last.trans (by decide +kernel)⟩

end CrashReporter.Store
