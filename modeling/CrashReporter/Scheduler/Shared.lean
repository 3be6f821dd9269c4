import CrashReporter.Scheduler

/-!
# A scheduler that threads share

Threads submit tasks, cancel them and shut the scheduler down, while its own threads run them. What one of
them does to what all of them share is a step, and the steps come in any order. A submission looks whether
the scheduler is open, has its task counted, and hands it over, as three steps. A task is over when its
code has ended, with a failure or without, when it has panicked, when it is cancelled, be it before its
first turn, or when it is dropped because the threads stop; then it is no longer counted.

Each run of a repeating task is a task of its own, which the repeating task waits for.
-/

namespace CrashReporter.Scheduler

/-- What is asked of a scheduler. -/
inductive Demand where
  | once
  | service
  | repeating (name : String) (period : Nat)
  deriving DecidableEq

namespace Demand

def kind : Demand → Kind
  | .once => .once
  | .service => .service
  | .repeating _ _ => .repeating

/-- The scheduler that has taken the task, or why it does not. -/
def submit (s : Scheduler) : Demand → Except Failure Scheduler
  | .once => s.submit .once
  | .service => s.submit .service
  | .repeating name period => s.submitRepeating name period

end Demand

/-- How a task ends. -/
inductive Ending where
  | done
  | failed (f : Failure)
  | panicked
  | cancelled
  /-- The threads have stopped. -/
  | dropped
  deriving DecidableEq

/-- How far a task has come. -/
inductive Stage where
  /-- The thread that submits it still has it. -/
  | held
  /-- It waits for its first turn. -/
  | queued
  | running
  /-- It is a repeating task that waits for one of its runs. -/
  | awaiting (run : Nat)
  | ended (how : Ending)
  deriving DecidableEq

namespace Stage

def isEnded : Stage → Bool
  | .ended _ => true
  | _ => false

/-- Whether the scheduler's threads have the task. -/
def isUnderway : Stage → Bool
  | .queued | .running | .awaiting _ => true
  | .held | .ended _ => false

end Stage

/-- How far a task has come, and whether someone has asked that it be cancelled. -/
structure Progress where
  stage : Stage := .held
  cancelled : Bool := false
  deriving DecidableEq

/-- How far a submission has come. -/
inductive Submission where
  /-- It has found the scheduler open. -/
  | found (d : Demand)
  /-- Its task is counted. -/
  | holding (task : Nat)
  | answered (answer : Except Failure Nat)

/-- How far a shutdown has come. -/
inductive Shutdown where
  /-- It has found the scheduler closed and has returned nothing. -/
  | refused
  /-- It has closed the scheduler. -/
  | marked
  /-- It has found no thread to go on with, and has returned nothing. -/
  | failed
  /-- It has returned a thread, which runs the closing step and waits for tasks. -/
  | closing
  /-- That thread has stopped the others. -/
  | over
  deriving DecidableEq

/-- A scheduler, its tasks and all calls of it. -/
structure Shared where
  scheduler : Scheduler := {}
  /-- How far the tasks have come, in the order in which they were submitted. -/
  progress : List Progress := []
  /-- How the runs of repeating tasks have ended, if they have. -/
  runs : List (Option Ending) := []
  submissions : List Submission := []
  shutdowns : List Shutdown := []
  /-- Whether the threads stop, so that tasks may be dropped. -/
  stopped : Bool := false

namespace Shared

/-- A step of a call or of a task. -/
inductive Move where
  /-- A thread submits a task, and finds the scheduler open or closed. -/
  | ask (d : Demand)
  /-- The task of submission `c` is counted. -/
  | enter (c : Nat)
  /-- The task of submission `c` is handed over, and the submission answers. -/
  | handOver (c : Nat)
  /-- Task `i` has its first turn. -/
  | start (i : Nat)
  /-- Someone asks that task `i` be cancelled; a shutdown asks so for the repeating tasks. -/
  | cancel (i : Nat)
  /-- Task `i` ends. -/
  | finish (i : Nat) (how : Ending)
  /-- Repeating task `i` begins a run. -/
  | tick (i : Nat)
  /-- Run `r` ends. -/
  | endRun (r : Nat) (how : Ending)
  /-- Repeating task `i` goes on after a run. -/
  | resume (i : Nat)
  /-- A thread shuts the scheduler down, and finds it open or closed. -/
  | close
  /-- Shutdown `k` goes on, on a thread of its own. -/
  | launch (k : Nat)
  /-- Shutdown `k` finds no thread. -/
  | abandon (k : Nat)
  /-- Shutdown `k` stops the threads. -/
  | conclude (k : Nat)
  /-- The threads stop because the scheduler is no longer held by anyone. -/
  | retire

/-- Whether a task may end so. -/
def allows (s : Shared) (p : Progress) : Ending → Bool
  | .done | .failed _ | .panicked => p.stage == .running
  | .cancelled => p.cancelled && p.stage.isUnderway
  | .dropped => s.stopped && p.stage.isUnderway

/-- Task `i`, which has come as far as `p`, ends. -/
def endTask (s : Shared) (i : Nat) (p : Progress) (how : Ending) : Shared :=
  { s with
    scheduler := s.scheduler.finish i
    progress := s.progress.set i { p with stage := .ended how } }

/-- Task `i`, which has come as far as `p`, goes on. -/
def advance (s : Shared) (i : Nat) (p : Progress) (stage : Stage) : Shared :=
  { s with progress := s.progress.set i { p with stage } }

/-- What kind of task `i` is. -/
def kind? (s : Shared) (i : Nat) : Option Kind := s.scheduler.tasks[i]?.map (·.kind)

/-- The state after a step; nothing if the step is not possible. -/
def step? (s : Shared) : Move → Option Shared
  | .ask d =>
    let answer : Submission := match d.submit s.scheduler with
      | .ok _ => .found d
      | .error f => .answered (.error f)
    some { s with submissions := s.submissions ++ [answer] }
  | .enter c =>
    match s.submissions[c]? with
    | some (.found d) => some { s with
        scheduler := s.scheduler.enter d.kind
        progress := s.progress ++ [{}]
        submissions := s.submissions.set c (.holding s.scheduler.tasks.length) }
    | _ => none
  | .handOver c => do
    match s.submissions[c]? with
    | some (.holding i) =>
      let p ← s.progress[i]?
      if p.stage = .held then
        some { s.advance i p .queued with submissions := s.submissions.set c (.answered (.ok i)) }
      else none
    | _ => none
  | .start i => do
    let p ← s.progress[i]?
    if p.stage = .queued then some (s.advance i p .running) else none
  | .cancel i => do
    let p ← s.progress[i]?
    if p.stage = .held then none
    else some { s with progress := s.progress.set i { p with cancelled := true } }
  | .finish i how => do
    let p ← s.progress[i]?
    if s.allows p how then some (s.endTask i p how) else none
  | .tick i => do
    let p ← s.progress[i]?
    if s.kind? i = some .repeating ∧ p.stage = .running then
      some { s.advance i p (.awaiting s.runs.length) with runs := s.runs ++ [none] }
    else none
  | .endRun r how =>
    if s.runs[r]? = some none ∧ how ≠ .cancelled ∧ (how = .dropped → s.stopped) then
      some { s with runs := s.runs.set r (some how) }
    else none
  | .resume i => do
    let p ← s.progress[i]?
    match s.kind? i, p.stage with
    | some .repeating, .awaiting r =>
      match s.runs[r]? with
      | some (some .dropped) => some (s.endTask i p .done)
      | some (some _) => some (s.advance i p .running)
      | _ => none
    | _, _ => none
  | .close =>
    if s.scheduler.closed then some { s with shutdowns := s.shutdowns ++ [.refused] }
    else some { s with
      scheduler := { s.scheduler with closed := true }
      shutdowns := s.shutdowns ++ [.marked] }
  | .launch k =>
    if s.shutdowns[k]? = some .marked then some { s with shutdowns := s.shutdowns.set k .closing } else none
  | .abandon k =>
    if s.shutdowns[k]? = some .marked then
      some { s with shutdowns := s.shutdowns.set k .failed, stopped := true }
    else none
  | .conclude k =>
    if s.shutdowns[k]? = some .closing then
      some { s with shutdowns := s.shutdowns.set k .over, stopped := true }
    else none
  | .retire => some { s with stopped := true }

/-- The state after steps, each of which is possible where it comes. -/
def run? (s : Shared) (moves : List Move) : Option Shared := moves.foldlM step? s

end Shared

end CrashReporter.Scheduler
