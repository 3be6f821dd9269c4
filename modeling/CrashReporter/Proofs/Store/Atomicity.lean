import CrashReporter.Proofs.Store.Requests

/-!
# Saves that stop halfway

A save makes or empties the draft's file, fills it, and moves it over the document's; it may stop after any of
these steps, because one is refused or the process ends (`Store.Saving`). Wherever it stops, the document is
the old one as long as the draft was not moved, and the new one afterwards (`Store.Saving.holds`); no other file
is touched, and nothing that is asked later, but for the draft itself, shows what is left in it
(`Store.save_atomic`).
-/

namespace CrashReporter.Store

open FileTree Json

/-- How far a save has come. -/
inductive Stage where
  | begun
  /-- So many bytes of the document are in the draft's file. -/
  | drafted (size : Nat)
  | replaced
  deriving DecidableEq

/-- The trees that a save leads through which begins with `t`. A complete draft is moved in one step. -/
inductive Saving (s : Store) (name : String) (document : Value) (t : FileTree) : Stage → FileTree → Prop where
  | begun : Saving s name document t .begun t
  | emptied {u : FileTree} (wrote : s.overwrite (draftName name) [] t = .ok () u) :
    Saving s name document t (.drafted 0) u
  | filled {size more : Nat} {u u' : FileTree} (here : Saving s name document t (.drafted size) u)
      (wrote : s.overwrite (draftName name) ((written document).take (size + more)) u = .ok () u') :
    Saving s name document t (.drafted (size + more)) u'
  | moved {size : Nat} {u u' : FileTree} (here : Saving s name document t (.drafted size) u)
      (complete : (written document).length ≤ size) (moved : s.commitDraft name u = .ok () u') :
    Saving s name document t .replaced u'

variable {s : Store} {name : String} {document : Value} {stage : Stage} {t u v : FileTree} {content : Bytes}

theorem Apart.trans (h : s.Apart name t u) (plain : Plain name) (h' : s.Apart name u v) : s.Apart name t v where
  directories p := (h'.directories p).trans (h.directories p)
  elsewhere p away := by
    have away' : s.place? name u ≠ some p := by rwa [place?_of_confined plain (h.confined plain)]
    rw [h'.elsewhere p away', h.elsewhere p away]

/-- Trees with the same entries. -/
theorem confined_of_same {names : List String} (same : ∀ p, u.find? p = t.find? p) : Confined names t u :=
  ⟨fun p => by rw [isDirectory, same, isDirectory], fun p _ => same p⟩

theorem apart_of_overwrite (plain : Plain name) (wrote : s.overwrite name content t = .ok () u) :
    s.Apart name t u where
  directories := ((s.leaves_overwrite plain content).of_run wrote).directories
  elsewhere p away := by
    obtain ⟨q, place, rfl⟩ := overwrite_eq plain wrote
    refine find?_put_ne _ fun same => away ?_
    rw [place, same]

theorem content?_of_overwrite (plain : Plain name) (wrote : s.overwrite name content t = .ok () u) :
    s.content? name u = some content := by
  rcases s.overwrite_run plain content t with ⟨-, u', wrote', -, held⟩ | ⟨-, e, refused⟩
  · cases wrote.symm.trans wrote'
    exact held
  · cases wrote.symm.trans refused

theorem takes_of_overwrite (plain : Plain name) (wrote : s.overwrite name content t = .ok () u) :
    s.Takes name t := by
  rcases s.overwrite_run plain content t with ⟨takes, -⟩ | ⟨-, e, refused⟩
  · exact takes
  · cases wrote.symm.trans refused

/-- A file that can be written can be written in two goes. -/
theorem overwrite_overwrite (s : Store) (plain : Plain name) (before : Bytes)
    (wrote : s.overwrite name content t = .ok () u) :
    ∃ v, s.overwrite name before t = .ok () v ∧ s.overwrite name content v = .ok () u := by
  have takes := takes_of_overwrite plain wrote
  rcases s.overwrite_run plain before t with ⟨-, v, wrote', confined, -⟩ | ⟨none, -⟩
  · rcases s.overwrite_run plain content v with ⟨-, u', again, -⟩ | ⟨none, -⟩
    · obtain ⟨p, place, rfl⟩ := overwrite_eq plain wrote
      obtain ⟨q, place', rfl⟩ := overwrite_eq plain wrote'
      obtain ⟨r, place'', rfl⟩ := overwrite_eq plain again
      rw [place?_of_confined plain confined] at place''
      cases place.symm.trans place'
      cases place.symm.trans place''
      exact ⟨_, wrote', by rw [again, put_put]⟩
    · exact absurd ((takes_of_confined plain confined).mpr takes) none
  · exact absurd takes none

/-- What a stage of a save says of the tree. -/
def Stage.Holds (s : Store) (name : String) (document : Value) (t u : FileTree) : Stage → Prop
  | .begun => u = t
  | .drafted size =>
    s.Takes (draftName name) t ∧ s.Apart (draftName name) t u ∧
      s.content? (draftName name) u = some ((written document).take size)
  | .replaced => ∃ t', s.save name document t = .ok () t' ∧ ∀ p, u.find? p = t'.find? p

/-- A complete draft that is moved leaves what a save leaves that is carried out. -/
theorem find?_commitDraft (plain : Plain name) (takes : s.Takes (draftName name) t)
    (apart : s.Apart (draftName name) t u) (drafted : s.content? (draftName name) u = some (written document))
    (moved : s.commitDraft name u = .ok () v) :
    ∃ t', s.save name document t = .ok () t' ∧ ∀ p, v.find? p = t'.find? p := by
  have draft := plain_draftName plain
  have confined := apart.confined draft
  have saves : s.Saves name t := by
    refine ⟨takes, ?_⟩
    rw [← takes_of_confined plain confined]
    rcases s.commitDraft_run plain draft drafted with ⟨takes', -⟩ | ⟨-, e, refused⟩
    · exact takes'
    · cases moved.symm.trans refused
  rcases s.save_spec plain draft document t with ⟨-, t', saved, -⟩ | ⟨-, free, -⟩ | ⟨free, -⟩
  · refine ⟨t', saved, fun p => ?_⟩
    obtain ⟨there, drafted', held⟩ := Option.bind_eq_some_iff.mp drafted
    obtain ⟨here, placed, rfl⟩ := commitDraft_eq plain draft drafted' (find?_of_content? held) moved
    have filled := ne_nil_of_named (getLast?_place plain placed)
    have filled' := ne_nil_of_named (getLast?_place draft drafted')
    rw [find?_save plain draft saved, ← place?_of_confined plain confined, ← place?_of_confined draft confined,
      placed, drafted']
    simp only [Option.some.injEq]
    by_cases final : here = p
    · subst final
      rw [if_pos rfl, find?_put, if_neg filled, if_pos rfl]
    · rw [if_neg final, find?_put_ne _ (Ne.symm final)]
      by_cases first : there = p
      · subst first
        rw [if_pos rfl, find?_erase, if_neg filled', if_pos rfl]
      · rw [if_neg first, find?_erase_ne (Ne.symm first)]
        refine apart.elsewhere p fun drafted => first ?_
        rw [← place?_of_confined draft confined, drafted'] at drafted
        exact Option.some.inj drafted
  · exact absurd saves.2 free
  · exact absurd takes free

/-- Every step of a save keeps to what its stage says. -/
theorem Saving.holds (h : s.Saving name document t stage u) (plain : Plain name) :
    stage.Holds s name document t u := by
  have draft := plain_draftName plain
  induction h with
  | begun => rfl
  | emptied wrote =>
    exact ⟨takes_of_overwrite draft wrote, apart_of_overwrite draft wrote, content?_of_overwrite draft wrote⟩
  | filled here wrote ih =>
    obtain ⟨takes, apart, -⟩ := ih
    exact ⟨takes, apart.trans draft (apart_of_overwrite draft wrote), content?_of_overwrite draft wrote⟩
  | moved here complete moved ih =>
    obtain ⟨takes, apart, drafted⟩ := ih
    rw [List.take_of_length_le complete] at drafted
    exact find?_commitDraft plain takes apart drafted moved

/-- Where a save ends: with the document replaced if it is carried out, and before that if it is refused. -/
theorem saving_save (s : Store) (plain : Plain name) (document : Value) (t : FileTree) :
    ∃ stage u, s.Saving name document t stage u ∧
      (stage = .replaced ∧ s.save name document t = .ok () u ∨
        stage ≠ .replaced ∧ ∃ e, s.save name document t = .error e u) := by
  have draft := plain_draftName plain
  have whole : (written document).take (0 + (written document).length) = written document := by
    rw [Nat.zero_add, List.take_length]
  unfold save
  rw [writeDraft_eq]
  rcases s.overwrite_run draft (written document) t with ⟨takes, u, wrote, confined, drafted⟩ | ⟨-, e, refused⟩
  · rw [Disk.bind_run wrote]
    -- Writing the draft at once comes to the same as emptying its file and then filling it.
    obtain ⟨v, emptied, again⟩ := s.overwrite_overwrite draft [] wrote
    have filled : s.Saving name document t (.drafted (0 + (written document).length)) u :=
      .filled (.emptied emptied) (by rw [whole, again])
    rcases s.commitDraft_run plain draft drafted with ⟨-, v, moved, -⟩ | ⟨-, e, refused⟩
    · exact ⟨.replaced, v, .moved filled (by omega) moved, .inl ⟨rfl, moved⟩⟩
    · exact ⟨_, u, filled, .inr ⟨nofun, e, refused⟩⟩
  · rw [Disk.bind_refused refused]
    exact ⟨.begun, t, .begun, .inr ⟨nofun, e, rfl⟩⟩

/-- The document is the new one exactly if the draft was moved. -/
theorem Stage.Holds.content? (h : stage.Holds s name document t u) (plain : Plain name) :
    s.content? name u = if stage = .replaced then some (written document) else s.content? name t := by
  have draft := plain_draftName plain
  cases stage with
  | begun => rw [if_neg nofun, h]
  | drafted size =>
    rw [if_neg nofun]
    exact content?_of_confined plain (h.2.1.confined draft) (by simpa using draftName_ne name)
  | replaced =>
    obtain ⟨t', saved, same⟩ := h
    rw [if_pos rfl, content?_of_confined plain (confined_of_same same) List.not_mem_nil]
    rcases s.save_run plain draft document t with ⟨-, -, t₁, saved', -, held⟩ | ⟨-, e, t₁, refused, -⟩
    · cases saved.symm.trans saved'
      exact held
    · cases saved.symm.trans refused

/-- No entry is changed but the files of the document and of its draft. -/
theorem Stage.Holds.elsewhere (h : stage.Holds s name document t u) (plain : Plain name) {p : Path}
    (away : s.place? name t ≠ some p) (away' : s.place? (draftName name) t ≠ some p) : u.find? p = t.find? p := by
  cases stage with
  | begun => rw [h]
  | drafted size => exact h.2.1.elsewhere p away'
  | replaced =>
    obtain ⟨t', saved, same⟩ := h
    rw [same, find?_save plain (plain_draftName plain) saved, if_neg away, if_neg away']

/-- What a save leaves of a tree at any point, the document being replaced or not. -/
structure Leftover (s : Store) (name : String) (document : Value) (replaced : Bool) (t u : FileTree) : Prop where
  /-- The document is the old one or the new one. -/
  loads : ∀ {β : Type} (shape : Shape β), ∃ kept, s.load shape name t = .ok kept t ∧
    s.load shape name u = .ok (if replaced then (shape.ofText (written document)).toOption else kept) u
  finds : ∃ there, s.contains name t = .ok there t ∧ s.contains name u = .ok (replaced || there) u
  elsewhere : ∀ p, s.place? name t ≠ some p → s.place? (draftName name) t ≠ some p → u.find? p = t.find? p
  /-- Whatever else were left in the draft's file, later requests are answered alike, and a document that is
  saved later leaves the same. -/
  unseen : ∀ {β : Type} (v : FileTree) (requests : List (String × Request β)),
    s.Apart (draftName name) u v → (∀ r ∈ requests, Plain r.1 ∧ r.1 ≠ draftName name) →
      ∃ answers u' v', s.serveAll requests u = .ok answers u' ∧ s.serveAll requests v = .ok answers v' ∧
        ∀ later u'', s.save name later u' = .ok () u'' →
          ∃ v'', s.save name later v' = .ok () v'' ∧ ∀ p, v''.find? p = u''.find? p

/-- A save ends at one of its stages: with the document replaced exactly if it is carried out. And at every
stage, wherever the save may be stopped, the document is loaded and found as before it, or, once the draft was
moved, as after it; nothing else is changed but the draft; and what is left in the draft's file shows in no
later answer and after no later save. -/
theorem save_atomic (s : Store) (plain : Plain name) (document : Value) (t : FileTree) :
    (∃ stage u, s.Saving name document t stage u ∧
      (stage = .replaced ∧ s.save name document t = .ok () u ∨
        stage ≠ .replaced ∧ ∃ e, s.save name document t = .error e u)) ∧
      ∀ stage u, s.Saving name document t stage u → s.Leftover name document (stage = .replaced) t u := by
  refine ⟨s.saving_save plain document t, fun stage u saving => ?_⟩
  have holds := saving.holds plain
  have content := holds.content? plain
  exact {
    loads := by
      intro β shape
      refine ⟨_, s.load_eq shape plain t, ?_⟩
      rw [s.load_eq shape plain u, content]
      by_cases replaced : stage = .replaced <;> simp [replaced]
    finds := by
      refine ⟨_, s.contains_eq plain t, ?_⟩
      rw [s.contains_eq plain u, content]
      by_cases replaced : stage = .replaced <;> simp [replaced]
    elsewhere := fun p => holds.elsewhere plain
    unseen := by
      intro β v requests apart others
      obtain ⟨answers, u', v', asked, asked', apart'⟩ := apart.serveAll (plain_draftName plain) others
      exact ⟨answers, u', v', asked, asked', fun later u'' saved => apart'.saved plain saved⟩ }

/-- A save that stops after seven bytes of the draft, over an older document and an older draft. -/
theorem save_atomic_torn :
    let s : Store := ⟨"/state"⟩
    let t := ((({} : FileTree).put ["state"] .directory).put ["state", "count.json"]
      (.file (Text.utf8 "\"old\""))).put ["state", "count.json.tmp"] (.file [0xFF])
    ∃ u, s.Saving "count.json" (.text "much newer") t (.drafted (0 + 7)) u ∧
      s.load .text "count.json" u = .ok (some "old") u := by
  intro s t
  have plain : Plain "count.json" := by decide
  have draft := plain_draftName plain
  have takes : s.Takes (draftName "count.json") t := by decide +kernel
  have old : (s.load .text "count.json").answer? t = some (some "old") := by decide +kernel
  rcases s.overwrite_run draft ((written (.text "much newer")).take (0 + 7)) t with ⟨-, u, wrote, -⟩ | ⟨none, -⟩
  · obtain ⟨v, emptied, filled⟩ := s.overwrite_overwrite draft [] wrote
    have saving : s.Saving "count.json" (.text "much newer") t (.drafted (0 + 7)) u :=
      .filled (.emptied emptied) filled
    obtain ⟨kept, loaded, loaded'⟩ := ((save_atomic s plain _ t).2 _ u saving).loads .text
    rw [Disk.answer?_ok loaded] at old
    cases old
    exact ⟨u, saving, loaded'⟩
  · exact absurd takes none

end CrashReporter.Store
