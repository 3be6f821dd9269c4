import CrashReporter.Proofs.Lifecycle.Operations

/-!
# What the one who asks for an agent is told

An agent that reports to the host's own transport is brought up completely, or not at all; in that case
the first stage that fails is named (`Startup.Verdict`), the process is as it was, and it may be asked
for an agent again (`Lifecycle.verdict_of_calm`). The machine's address has no part in a verdict.

Once there is a store, a failure also ends the transport, though it may never have been started
(`Lifecycle.unstarted_transport_ended`).
-/

namespace CrashReporter

namespace Startup

variable {settings : Settings} {candidates : List String} {nonce : Gcm.Nonce} {answers : Answers}
  {t t' : FileTree} {calls : List Call} {result : Except Failure Unit}

/-- Nobody panics whom an agent asks that reports to the host's transport. -/
structure Answers.Calm (answers : Answers) : Prop where
  address : answers.address.isPanicked = false
  credentials : answers.credentials.isPanicked = false
  policy : answers.policy.isPanicked = false
  transport : answers.transport.custom.isPanicked = false
  stopped : answers.stopped.isPanicked = false

/-- The host's transport does not start. -/
inductive Unserved (started : Outcome Unit) : Failure → Prop where
  /-- It is not available. -/
  | refused {reason : String} (answer : started = .failed (.sinkUnavailable reason)) :
    Unserved started (.sinkUnavailable reason)
  /-- It fails otherwise. -/
  | failed {f : Failure} (answer : started = .failed f)
      (other : ∀ reason, f ≠ .sinkUnavailable reason) : Unserved started (.sinkUnavailable f.message)

/-- What is asked for an agent that reports to the host's transport, what the one who asked for the
agent is told, and the tree that is left. The stages follow one another, and the first that fails is
the last. -/
inductive Verdict (settings : Settings) (candidates : List String) (nonce : Gcm.Nonce)
    (answers : Answers) (t : FileTree) :
    List Call → Except Failure Unit → FileTree → Prop where
  /-- No directory can be used. -/
  | homeless {t₁ : FileTree} (opened : Store.openFirst candidates t = .ok none t₁) :
    Verdict settings candidates nonce answers t [] (.error (Store.noneUsable candidates)) t₁
  /-- The device cannot be identified. -/
  | unidentified {t₁ t₂ : FileTree} {store : Store} {f : Failure}
      (opened : Store.openFirst candidates t = .ok (some store) t₁)
      (failed : Unidentified (.ofApp store settings.appId) nonce answers.credentials t₁ f t₂) :
    Verdict settings candidates nonce answers t
      [.lookUpAddress, .register settings.appId, .stopTransport] (.error f) t₂
  /-- There is no policy. -/
  | ungoverned {t₁ t₂ : FileTree} {store : Store} {m : Usage.Monitor} {calls : List Call}
      {i : Identity} {f : Failure} (opened : Store.openFirst candidates t = .ok (some store) t₁)
      (counted : Usage.Monitor.ofStore store t₁ = .ok m t₁)
      (identified : Identified (.ofApp store settings.appId) settings.appId nonce
        answers.credentials t₁ calls i t₂)
      (failed : Ungoverned m answers.policy t₂ f) :
    Verdict settings candidates nonce answers t
      (.lookUpAddress :: calls ++ [.fetchPolicy, .stopTransport]) (.error f) t₂
  /-- The transport does not start. -/
  | unserved {t₁ t₂ t₃ : FileTree} {store : Store} {m m' : Usage.Monitor} {calls : List Call}
      {i : Identity} {f : Failure} (opened : Store.openFirst candidates t = .ok (some store) t₁)
      (counted : Usage.Monitor.ofStore store t₁ = .ok m t₁)
      (identified : Identified (.ofApp store settings.appId) settings.appId nonce
        answers.credentials t₁ calls i t₂)
      (governed : Governed m answers.policy t₂ m' t₃)
      (failed : Unserved answers.transport.custom f) :
    Verdict settings candidates nonce answers t
      (.lookUpAddress :: calls ++ [.fetchPolicy, .startTransport i, .stopTransport]) (.error f) t₃
  /-- The agent runs. -/
  | complete {t₁ t₂ t₃ : FileTree} {store : Store} {m m' : Usage.Monitor} {calls : List Call}
      {i : Identity} (opened : Store.openFirst candidates t = .ok (some store) t₁)
      (counted : Usage.Monitor.ofStore store t₁ = .ok m t₁)
      (identified : Identified (.ofApp store settings.appId) settings.appId nonce
        answers.credentials t₁ calls i t₂)
      (governed : Governed m answers.policy t₂ m' t₃) (served : answers.transport.custom = .ok ()) :
    Verdict settings candidates nonce answers t
      (.lookUpAddress :: calls ++ [.fetchPolicy, .startTransport i]) (.ok ()) t₃

/-- There is a verdict, if nobody panics who is asked. -/
theorem exists_verdict (calm : answers.Calm) (settings : Settings) (candidates : List String)
    (nonce : Gcm.Nonce) (t : FileTree) :
    ∃ calls result t', Verdict settings candidates nonce answers t calls result t' := by
  obtain ⟨store, t₁, opened⟩ := Store.openFirst_run candidates t
  cases store with
  | none => exact ⟨_, _, _, .homeless opened⟩
  | some store =>
    obtain ⟨sent, counted⟩ := Usage.Monitor.ofStore_run store t₁
    rcases identified_or (.ofApp store settings.appId) settings.appId nonce answers.credentials t₁
      with ⟨calls, i, t₂, identified⟩ | ⟨f, t₂, failed⟩ | ⟨panics, -⟩
    · rcases governed_or { store, meter := { sent } } answers.policy t₂
        with ⟨m', t₃, governed⟩ | ⟨f, failed⟩ | panics
      · cases answer : answers.transport.custom with
        | ok u => exact ⟨_, _, _, .complete opened counted identified governed answer⟩
        | failed f =>
          cases f with
          | sinkUnavailable reason =>
            exact ⟨_, _, _, .unserved opened counted identified governed (.refused answer)⟩
          | _ => exact ⟨_, _, _, .unserved opened counted identified governed
              (.failed answer fun _ h => nomatch h)⟩
        | panicked => simpa [answer] using calm.transport
      · exact ⟨_, _, _, .ungoverned opened counted identified failed⟩
      · simpa [panics] using calm.policy
    · exact ⟨_, _, _, .unidentified opened failed⟩
    · simpa [panics] using calm.credentials

/-- The machine's address has no part in a verdict. -/
theorem Verdict.withAddress (h : Verdict settings candidates nonce answers t calls result t')
    (address : Outcome String) :
    Verdict settings candidates nonce { answers with address } t calls result t' := by
  cases h with
  | homeless opened => exact .homeless opened
  | unidentified opened failed => exact .unidentified opened failed
  | ungoverned opened counted identified failed =>
    exact .ungoverned opened counted identified failed
  | unserved opened counted identified governed failed =>
    exact .unserved opened counted identified governed failed
  | complete opened counted identified governed served =>
    exact .complete opened counted identified governed served

theorem giveUp_custom (calm : answers.Calm) (f : Failure) :
    giveUp { transport := .custom } answers f = ([.stopTransport], .failed f) := by
  have stopped := calm.stopped
  cases answer : answers.stopped with
  | panicked => simp [answer] at stopped
  | _ => simp [giveUp, Sink.close, Transport.stop, answer]

theorem Unserved.start {f : Failure} (h : Unserved answers.transport.custom f) (i : Identity)
    (address : String) : ({ transport := .custom } : Sink).start i address answers.transport =
      ([.startTransport i], .failed f) := by
  cases h with
  | refused answer =>
    simp [Sink.start, Transport.start, answer, Outcome.map, Outcome.mapFailure, Sink.startFailure]
  | @failed f answer other =>
    cases f with
    | sinkUnavailable reason => exact absurd rfl (other reason)
    | _ =>
      simp [Sink.start, Transport.start, answer, Outcome.map, Outcome.mapFailure, Sink.startFailure]

/-- A stage that fails ends the transport too. -/
theorem Ends.gaveUp_custom {t₁ : FileTree} {store : Store} {m : Usage.Monitor} {f : Failure}
    {told : List Call} (calm : answers.Calm) (opened : Store.openFirst candidates t = .ok (some store) t₁)
    (counted : Usage.Monitor.ofStore store t₁ = .ok m t₁)
    (starts : Starts settings { transport := .custom } m nonce answers t₁ calls (.failed f) t')
    (told_eq : told = calls ++ [.stopTransport]) :
    Ends settings candidates true false nonce answers t told (.failed f) t' := by
  have ends : Ends settings candidates true false nonce answers t _ _ t' :=
    .gaveUp opened rfl rfl counted starts
  rw [Startup.giveUp_custom calm] at ends
  exact told_eq ▸ ends

/-- A verdict is what an agent comes to. -/
theorem Verdict.ends (calm : answers.Calm)
    (h : Verdict settings candidates nonce answers t calls result t') :
    ∃ o, Ends settings candidates true false nonce answers t calls o t' ∧
      Lifecycle.report o = result ∧ o.isPanicked = false := by
  obtain ⟨address, asked⟩ : ∃ address, lookUp answers = ([.lookUpAddress], .ok address) := by
    rcases lookUp_or answers with asked | panics
    · exact asked
    · simpa [panics] using calm.address
  cases h with
  | homeless opened => exact ⟨_, .homeless opened, rfl, rfl⟩
  | @unidentified t₁ _ store _ opened failed =>
    obtain ⟨sent, counted⟩ := Usage.Monitor.ofStore_run store t₁
    exact ⟨_, .gaveUp_custom calm opened counted (.unidentified asked failed) rfl, rfl, rfl⟩
  | ungoverned opened counted identified failed =>
    have store := Usage.Monitor.ofStore_store counted
    subst store
    exact ⟨_, .gaveUp_custom calm opened counted (.ungoverned asked identified failed) (by simp),
      rfl, rfl⟩
  | @unserved _ _ _ _ _ _ _ i f opened counted identified governed failed =>
    have store := Usage.Monitor.ofStore_store counted
    subst store
    have starts : Starts settings { transport := .custom } _ nonce answers _ _ _ _ :=
      .transport asked identified governed
    rw [failed.start i address] at starts
    exact ⟨_, .gaveUp_custom calm opened counted starts (by simp), rfl, rfl⟩
  | @complete _ _ _ _ _ _ _ i opened counted identified governed served =>
    have store := Usage.Monitor.ofStore_store counted
    subst store
    have starts : Starts settings { transport := .custom } _ nonce answers _ _ _ _ :=
      .transport asked identified governed
    simp only [Sink.start, Transport.start, served, Outcome.map, Outcome.mapFailure] at starts
    have ends : Ends settings candidates true false nonce answers t _ _ _ :=
      .ended opened rfl rfl counted starts (by simp)
    exact ⟨_, by simpa using ends, rfl, rfl⟩

end Startup

namespace Lifecycle

open Startup

/-- An agent that reports to the host's transport, where nobody panics who is asked: there is a
verdict, and it is told. If it is a failure, the process is as it was before it was asked for an agent;
otherwise the agent runs. The verdict would be the same had the machine's address been told, been
another, or stayed unknown. -/
theorem verdict_of_calm {l : Lifecycle} {o : Options} {env : Environment} {settings : Settings}
    {paths : Option String → Option (List String)} {candidates : List String} {answers : Answers}
    (idle : l.phase = .uninitialized) (free : l.agent = none)
    (accepted : o.resolve env true = .ok settings)
    (placed : paths settings.configDir = some candidates) (calm : answers.Calm)
    (nonce : Gcm.Nonce) (t : FileTree) :
    ∃ l₁, l.begin o env true = .ok l₁ ∧
      ∃ calls result l₂ t', l₁.bringUpOn paths nonce answers t = .ok (calls, result, l₂) t' ∧
        Verdict settings candidates nonce answers t calls result t' ∧
        (∀ f, result = .error f → l₂ = { l with pending := none }) ∧
        (result = .ok () → l₂.phase = .running ∧ l₂.hasAgent) ∧
        ∀ address : Outcome String, address.isPanicked = false →
          ∃ l₃, l₁.bringUpOn paths nonce { answers with address } t = .ok (calls, result, l₃) t' ∧
            l₃.phase = l₂.phase := by
  have begun := begin_idle idle accepted
  generalize asked : ({ l with phase := .starting, pending := some (settings, true) } : Lifecycle) = l₁
    at begun
  have bringUp {answers : Answers} {calls : List Call} {o : Outcome Agent} {t' : FileTree}
      (ends : Ends settings candidates true false nonce answers t calls o t') :
      l₁.bringUpOn paths nonce answers t = .ok (calls, report o, l₁.conclude settings o) t' := by
    have alone : l₁.agent.isSome = false := by rw [← asked, free]; rfl
    exact bringUpOn_run (asked ▸ rfl) placed (alone.symm ▸ ends)
  obtain ⟨calls, result, t', verdict⟩ := exists_verdict calm settings candidates nonce t
  obtain ⟨outcome, ends, rfl, quiet⟩ := verdict.ends calm
  refine ⟨l₁, begun, calls, _, _, t', bringUp ends, verdict, ?_, ?_, ?_⟩
  · intro f failed
    cases outcome with
    | ok a => cases failed
    | failed g => simp [conclude, ← idle, ← asked]
    | panicked => cases quiet
  · intro told
    cases outcome with
    | ok a => exact ⟨rfl, rfl⟩
    | failed g => cases told
    | panicked => cases quiet
  · intro address quiet'
    have calm' : ({ answers with address } : Answers).Calm :=
      ⟨quiet', calm.credentials, calm.policy, calm.transport, calm.stopped⟩
    obtain ⟨outcome', ends', told', quiet'⟩ := (verdict.withAddress address).ends calm'
    refine ⟨_, told' ▸ bringUp ends', ?_⟩
    rw [conclude_phase quiet', conclude_phase quiet, told']

/-- A registration that is refused, while the address stays unknown. -/
theorem verdict_of_calm_refused :
    let l : Lifecycle := {}
    let o : Options := .least
    let paths : Option String → Option (List String) := fun _ => some ["/state"]
    let answers : Answers := { Answers.obliging with
      address := .failed (.remoteApi "no route")
      credentials := .failed (.transport "no route") }
    l.phase = .uninitialized ∧ l.agent = none ∧ ∃ settings, o.resolve [] true = .ok settings ∧
      paths settings.configDir = some ["/state"] ∧ answers.Calm ∧
      ∃ l₁, l.begin o [] true = .ok l₁ ∧
        ∃ calls result l₂ t', l₁.bringUpOn paths default answers {} = .ok (calls, result, l₂) t' ∧
          Verdict settings ["/state"] default answers {} calls result t' := by
  intro l o paths answers
  obtain ⟨settings, accepted⟩ : ∃ settings, o.resolve [] true = .ok settings := ⟨_, rfl⟩
  have idle : l.phase = .uninitialized := rfl
  have placed : paths settings.configDir = some ["/state"] := rfl
  have calm : answers.Calm := ⟨rfl, rfl, rfl, rfl, rfl⟩
  obtain ⟨l₁, begun, calls, result, l₂, t', run, verdict, -⟩ :=
    verdict_of_calm idle rfl accepted placed calm default {}
  exact ⟨idle, rfl, settings, accepted, placed, calm, l₁, begun, calls, result, l₂, t', run, verdict⟩

/-- The registration is refused, and the transport, which comes after it and was not started, is
told that it is over. -/
theorem unstarted_transport_ended :
    let o : Options := .least
    let answers : Answers := { Answers.obliging with credentials := .failed (.registrationFailed "no") }
    (do
      let l ← (({} : Lifecycle).begin o [] true).toOption
      match (l.bringUpOn (fun _ => some ["/state"]) default answers).answer? {} with
      | some (calls, .error f, _) => some (calls, f)
      | _ => none) =
        some ([.lookUpAddress, .register "app", .stopTransport], .registrationFailed "no") := by
  decide +kernel

end Lifecycle

end CrashReporter
