import CrashReporter.Failure

/-!
# Outcomes

How a call of something outside the agent ends: with a value, with a failure, or by a panic, which ends
the task that made the call.
-/

namespace CrashReporter

/-- How a call ends. -/
inductive Outcome (α : Type) where
  | ok (a : α)
  | failed (f : Failure)
  | panicked
  deriving DecidableEq, Inhabited

namespace Outcome

/-- The outcome of a call that does not panic. -/
def ofExcept {α : Type} : Except Failure α → Outcome α
  | .ok a => .ok a
  | .error f => .failed f

/-- The outcome with another value. -/
def map {α β : Type} (g : α → β) : Outcome α → Outcome β
  | .ok a => .ok (g a)
  | .failed f => .failed f
  | .panicked => .panicked

/-- The outcome with another failure. -/
def mapFailure {α : Type} (g : Failure → Failure) : Outcome α → Outcome α
  | .failed f => .failed (g f)
  | o => o

end Outcome

end CrashReporter
