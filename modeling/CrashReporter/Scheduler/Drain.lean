/-!
# The drain of a closing scheduler

A scheduler that closes waits until no task is in flight. The waiter asks to be told of an idle moment
before it reads the count, and parks if tasks are left. A task that ends lowers the count, and the last
one then tells the waiter, as a step of its own. The steps of tasks and waiter come in any order; a waiter
that is told before it parks does not stay parked.
-/

namespace CrashReporter.Scheduler

/-- Where the waiter is. -/
inductive Waiter where
  /-- It has not asked to be told. -/
  | away
  /-- It has asked, and has not read the count since. -/
  | listening (told : Bool)
  /-- It has read that tasks are left, and is about to park. -/
  | parking (told : Bool)
  | parked (told : Bool)
  /-- It has read that none is left. -/
  | done
  deriving DecidableEq, Inhabited

/-- The waiter once it is told. Who has not asked is not told. -/
def Waiter.tell : Waiter → Waiter
  | .listening _ => .listening true
  | .parking _ => .parking true
  | .parked _ => .parked true
  | w => w

/-- Tasks in flight and the one who waits for their end. -/
structure Drain where
  count : Nat := 0
  /-- Tasks that ended as the last one and have not told it yet. -/
  telling : Nat := 0
  waiter : Waiter := .away
  deriving DecidableEq, Inhabited

namespace Drain

/-- A step of a task or of the waiter. -/
inductive Step where
  /-- A task begins. -/
  | enter
  /-- A task ends. -/
  | leave
  /-- A task that ended as the last one tells the waiter. -/
  | tell
  /-- The waiter asks to be told. -/
  | listen
  /-- The waiter reads the count. -/
  | read
  /-- The waiter parks. -/
  | park
  /-- The waiter, who was told, begins anew. -/
  | wake
  deriving DecidableEq

/-- The state after a step; nothing if the step is not possible. -/
def step? (d : Drain) : Step → Option Drain
  | .enter => some { d with count := d.count + 1 }
  | .leave =>
    match d.count with
    | 0 => none
    | 1 => some { d with count := 0, telling := d.telling + 1 }
    | n + 2 => some { d with count := n + 1 }
  | .tell =>
    match d.telling with
    | 0 => none
    | n + 1 => some { d with telling := n, waiter := d.waiter.tell }
  | .listen => if d.waiter = .away then some { d with waiter := .listening false } else none
  | .read =>
    match d.waiter with
    | .listening told => some { d with waiter := if d.count = 0 then .done else .parking told }
    | _ => none
  | .park =>
    match d.waiter with
    | .parking told => some { d with waiter := .parked told }
    | _ => none
  | .wake => if d.waiter = .parked true then some { d with waiter := .away } else none

/-- The state after steps, each of which is possible where it comes. -/
def run? (d : Drain) (steps : List Step) : Option Drain := steps.foldlM step? d

end Drain

end CrashReporter.Scheduler
