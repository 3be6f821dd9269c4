/-!
# Along a run

A system takes moves one after the other. What holds of each of the moves and of the state that it finds
holds along the run (`Along`), and what every such move keeps holds at its end (`Along.invariant`). Where a
move may be impossible, what every possible one keeps holds at the end of a run (`invariant_of_foldlM`).
-/

namespace CrashReporter

variable {State Move : Type} {after : State → Move → State} {P Q : State → Move → Prop}

/-- `P` holds of each of the moves and of the state that it finds. -/
def Along (after : State → Move → State) (P : State → Move → Prop) : State → List Move → Prop
  | _, [] => True
  | s, move :: moves => P s move ∧ Along after P (after s move) moves

instance Along.decidable [∀ s move, Decidable (P s move)] :
    (s : State) → (moves : List Move) → Decidable (Along after P s moves)
  | _, [] => inferInstanceAs (Decidable True)
  | s, move :: moves =>
    have := Along.decidable (after s move) moves
    inferInstanceAs (Decidable (P s move ∧ Along after P (after s move) moves))

theorem Along.and {s : State} {moves : List Move} (hp : Along after P s moves)
    (hq : Along after Q s moves) : Along after (fun s move => P s move ∧ Q s move) s moves := by
  induction moves generalizing s with
  | nil => trivial
  | cons move moves ih => exact ⟨⟨hp.1, hq.1⟩, ih hp.2 hq.2⟩

theorem Along.of_forall {K : Move → Prop} {moves : List Move} (h : ∀ move ∈ moves, K move) (s : State) :
    Along after (fun _ move => K move) s moves := by
  induction moves generalizing s with
  | nil => trivial
  | cons move moves ih =>
    exact ⟨h move List.mem_cons_self, ih (fun move hm => h move (List.mem_cons_of_mem _ hm)) _⟩

theorem Along.invariant {I : State → Prop}
    (keeps : ∀ {s move}, I s → P s move → I (after s move)) {s : State} {moves : List Move}
    (h : Along after P s moves) (start : I s) : I (moves.foldl after s) := by
  induction moves generalizing s with
  | nil => exact start
  | cons move moves ih => exact ih h.2 (keeps start h.1)

theorem invariant_of_foldlM {step? : State → Move → Option State} {I : State → Prop}
    (keeps : ∀ {s s' move}, I s → step? s move = some s' → I s') {s s' : State} {moves : List Move}
    (ran : moves.foldlM step? s = some s') (start : I s) : I s' := by
  induction moves generalizing s with
  | nil =>
    cases ran
    exact start
  | cons move moves ih =>
    rw [List.foldlM_cons] at ran
    obtain ⟨s₁, first, rest⟩ := Option.bind_eq_some_iff.mp ran
    exact ih rest (keeps start first)

end CrashReporter
