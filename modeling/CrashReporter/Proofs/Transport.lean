import CrashReporter.Transport

/-!
# What transports are told

A transport that needs a connection is told to begin by one call and to end by one other. A start that
succeeds tells it to begin once (`Transport.start_ok`), the stop of one that was started tells it to end
once (`Transport.stop_of_isStarted`), and a delivery tells it neither (`Transport.request_ok`).
-/

namespace CrashReporter

/-- Whether a call ended by a panic. -/
def Outcome.isPanicked {α : Type} : Outcome α → Bool
  | .panicked => true
  | .ok _ | .failed _ => false

/-- The value that a call ended with. -/
def Outcome.value? {α : Type} : Outcome α → Option α
  | .ok a => some a
  | .failed _ | .panicked => none

@[simp] theorem Outcome.isPanicked_ok {α : Type} (a : α) : (Outcome.ok a).isPanicked = false := rfl

@[simp] theorem Outcome.isPanicked_failed {α : Type} (f : Failure) :
    (Outcome.failed f : Outcome α).isPanicked = false := rfl

@[simp] theorem Outcome.isPanicked_panicked {α : Type} :
    (Outcome.panicked : Outcome α).isPanicked = true := rfl

@[simp] theorem Outcome.isPanicked_map {α β : Type} (g : α → β) (o : Outcome α) :
    (o.map g).isPanicked = o.isPanicked := by
  cases o <;> rfl

@[simp] theorem Outcome.isPanicked_mapFailure {α : Type} (g : Failure → Failure) (o : Outcome α) :
    (o.mapFailure g).isPanicked = o.isPanicked := by
  cases o <;> rfl

namespace Call

/-- Whether a transport is told to begin. -/
def opens : Call → Bool
  | .startTransport _ | .openPort _ | .connect _ _ => true
  | _ => false

/-- Whether a transport is told to end. -/
def closes : Call → Bool
  | .stopTransport | .closePort | .disconnect => true
  | _ => false

end Call

namespace Transport

/-- How many connections a transport needs; requests to the remote API need none. -/
def links : Transport → Nat
  | .https _ => 0
  | .custom | .serial _ _ | .mqtt _ => 1

/-- Whether a transport was started and has not been stopped. -/
def isStarted : Transport → Bool
  | .custom => true
  | .https installation => installation.isSome
  | .serial _ isOpen => isOpen
  | .mqtt (.opened _) => true
  | .mqtt _ => false

variable {t t' : Transport} {i : Identity} {answers : Answers} {payload : Bytes} {call : Call}

/-- A transport that is started was told to begin once for its connection, and not to end. -/
theorem start_ok (h : (t.start i answers).2 = .ok t') :
    t'.isStarted = true ∧ (t.start i answers).1.countP Call.opens = t'.links ∧
      (t.start i answers).1.countP Call.closes = 0 := by
  cases t with
  | custom =>
    cases answer : answers.custom with
    | ok a =>
      simp only [start, answer, Outcome.map, Outcome.ok.injEq] at h
      subst h
      exact ⟨rfl, rfl, rfl⟩
    | failed f => simp [start, answer, Outcome.map] at h
    | panicked => simp [start, answer, Outcome.map] at h
  | https installation =>
    simp only [start] at h
    split at h
    · cases h
      exact ⟨rfl, rfl, rfl⟩
    · cases h
  | serial port isOpen =>
    cases answer : answers.port with
    | ok a =>
      simp only [start, answer, Outcome.ok.injEq] at h
      subst h
      exact ⟨rfl, rfl, rfl⟩
    | error e => simp [start, answer] at h
  | mqtt session =>
    cases found : answers.broker with
    | ok broker =>
      cases connected : answers.session with
      | ok a =>
        simp only [start, found, openSession, connected, Outcome.ok.injEq] at h
        subst h
        simp [start, found, openSession, connected, isStarted, links, Call.opens, Call.closes]
      | error r => simp [start, found, openSession, connected] at h
    | failed f => simp [start, found] at h
    | panicked => simp [start, found] at h

/-- A transport that is stopped after its start is told to end once for its connection. -/
theorem stop_of_isStarted (h : t.isStarted = true) :
    t.stop.1.countP Call.closes = t.links ∧ t.stop.1.countP Call.opens = 0 := by
  cases t with
  | custom => exact ⟨rfl, rfl⟩
  | https installation => exact ⟨rfl, rfl⟩
  | serial port isOpen =>
    cases isOpen with
    | true => exact ⟨rfl, rfl⟩
    | false => cases h
  | mqtt session =>
    cases session with
    | opened topic => exact ⟨rfl, rfl⟩
    | unopened => cases h
    | ended topic => cases h

/-- A delivery tells a transport neither to begin nor to end. -/
theorem request_ok (h : t.request payload = .ok call) : call.opens = false ∧ call.closes = false := by
  cases t with
  | custom =>
    cases h
    exact ⟨rfl, rfl⟩
  | https installation =>
    cases installation with
    | some name =>
      cases h
      exact ⟨rfl, rfl⟩
    | none => cases h
  | serial port isOpen =>
    cases framed : Serial.frame payload with
    | ok frame =>
      cases isOpen with
      | true =>
        simp only [request, framed, bind, Except.bind, if_true] at h
        cases h
        exact ⟨rfl, rfl⟩
      | false =>
        simp only [request, framed, bind, Except.bind] at h
        cases h
    | error f =>
      simp only [request, framed, bind, Except.bind] at h
      cases h
  | mqtt session =>
    cases published : session.publication payload with
    | ok p =>
      simp only [request, published] at h
      cases h
      exact ⟨rfl, rfl⟩
    | error f =>
      simp only [request, published] at h
      cases h

end Transport

end CrashReporter
