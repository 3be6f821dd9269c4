import CrashReporter.Failure

/-!
# The scheduler

Tasks that run beside the host's own threads: once, again and again, or as a service until they end.
The scheduler counts the tasks that run once and have not ended. Once it is closed it takes no more
tasks, and when it stops, those that are left end with it.
-/

namespace CrashReporter

namespace Scheduler

/-- How a task runs. -/
inductive Kind where
  | once
  | repeating
  | service
  deriving DecidableEq

/-- A task. -/
structure Task where
  kind : Kind
  ended : Bool := false
  deriving DecidableEq

end Scheduler

/-- The tasks in the order in which they were submitted. -/
structure Scheduler where
  closed : Bool := false
  /-- Tasks that run once and have not ended. -/
  inFlight : Nat := 0
  tasks : List Scheduler.Task := []
  deriving DecidableEq

namespace Scheduler

/-- The name of each of the scheduler's threads. -/
def threadName : String := "faultline-worker"

/-- A submission finds the scheduler open or is refused. -/
def ensureOpen (s : Scheduler) : Except Failure Unit :=
  if s.closed then .error .schedulerClosed else .ok ()

/-- A task that was admitted begins. -/
def enter (s : Scheduler) (kind : Kind) : Scheduler :=
  { s with
    inFlight := if kind = .once then s.inFlight + 1 else s.inFlight
    tasks := s.tasks ++ [{ kind }] }

/-- Submits a task. -/
def submit (s : Scheduler) (kind : Kind) : Except Failure Scheduler := do
  s.ensureOpen
  return s.enter kind

/-- Submits a task that is repeated after each `period` milliseconds, which must not be zero. -/
def submitRepeating (s : Scheduler) (name : String) (period : Nat) : Except Failure Scheduler := do
  s.ensureOpen
  if period = 0 then throw (.configuration s!"task '{name}' has a zero period")
  return s.enter .repeating

/-- A task ends: by itself, by a panic, or because it is cancelled. -/
def finish (s : Scheduler) (i : Nat) : Scheduler :=
  match s.tasks[i]? with
  | some t =>
    if t.ended then s
    else { s with
      inFlight := if t.kind = .once then s.inFlight - 1 else s.inFlight
      tasks := s.tasks.set i { t with ended := true } }
  | none => s

/-- Ends each of the tasks that `p` holds of. -/
def finishWhere (s : Scheduler) (p : Task → Bool) : Scheduler :=
  (List.range s.tasks.length).foldl
    (fun s i => if (s.tasks[i]?.map p).getD false then s.finish i else s) s

/-- The scheduler closed, its repeated tasks ended; nothing if it was closed before. -/
def close? (s : Scheduler) : Option Scheduler :=
  if s.closed then none
  else some (({ s with closed := true } : Scheduler).finishWhere fun t => t.kind = .repeating)

/-- The scheduler once its threads have stopped. -/
def stop (s : Scheduler) : Scheduler := s.finishWhere fun _ => true

/-- Whether a task has ended. -/
def hasEnded (s : Scheduler) (i : Nat) : Bool := (s.tasks[i]?.map (·.ended)).getD false

end Scheduler

end CrashReporter
