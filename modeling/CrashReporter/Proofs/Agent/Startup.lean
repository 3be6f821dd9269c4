import CrashReporter.Agent.Startup
import CrashReporter.Proofs.Settings
import CrashReporter.Proofs.Transport
import CrashReporter.Proofs.Usage.Action

/-!
# What bringing an agent up comes to

Each stage of bringing an agent up is carried out on every tree, and comes to one of a few ends. The
ends are said once here, stage by stage, with what is asked on the way; each of them is what the stage
comes to (`run`), and there always is one:

* a device is identified (`Identified`) or not (`Unidentified`), unless the registration panics;
* there is a policy (`Governed`) or none (`Ungoverned`), unless the question for one panics;
* the parts of an agent are started, or not (`Starts`);
* an agent is brought up, or not (`Ends`).

Bringing an agent up panics exactly if one who is asked does (`Ends.isPanicked`). One that was brought
up has nothing on its way yet, and its transport was told to begin (`Ends.fresh`).
-/

namespace CrashReporter

/-- The stored identity is looked for on every tree, which stays as it is. -/
theorem Vault.load_run (v : Vault) (t : FileTree) : ∃ i, v.load t = .ok i t := by
  obtain ⟨document, h⟩ := v.store.load_run Vault.Envelope.record.shape Vault.documentName t
  unfold Vault.load Vault.open?
  simp only [bind_assoc, pure_bind]
  exact ⟨_, Disk.bind_run h⟩

theorem Registration.kept_loaded {v : Vault} {i : Identity} {t : FileTree}
    (loaded : v.load t = .ok (some i) t) : Registration.kept v t = .ok (some i) t :=
  Disk.bind_run loaded

/-- What is kept is what is loaded. -/
theorem Registration.kept_run (v : Vault) (t : FileTree) :
    ∃ i t', v.load t = .ok i t ∧ Registration.kept v t = .ok i t' ∧ (i.isSome → t' = t) := by
  obtain ⟨i, loaded⟩ := v.load_run t
  cases i with
  | some i => exact ⟨some i, t, loaded, kept_loaded loaded, fun _ => rfl⟩
  | none =>
    unfold Registration.kept
    rw [Disk.bind_run loaded]
    obtain ⟨held, contains⟩ := v.store.contains_run Vault.documentName t
    simp only [Vault.holds, Disk.bind_run contains]
    cases held with
    | false => exact ⟨none, t, loaded, rfl, fun h => nomatch h⟩
    | true =>
      obtain ⟨r, t₁, cleared⟩ := Disk.attempt_run v.clear t
      exact ⟨none, t₁, loaded, Disk.bind_run cleared, fun h => nomatch h⟩

namespace Startup

variable {v : Vault} {appId : String} {nonce : Gcm.Nonce} {answers : Answers} {t t' : FileTree}
  {credentials : Outcome Credentials} {policy : Outcome Policy}

/-! ## The identity -/

/-- No identity is kept: none is loaded, and what may be in its place is discarded. -/
structure Unknown (v : Vault) (t t' : FileTree) : Prop where
  unloaded : v.load t = .ok none t
  discarded : Registration.kept v t = .ok none t'

/-- A device is identified, with or without a registration. -/
inductive Identified (v : Vault) (appId : String) (nonce : Gcm.Nonce)
    (credentials : Outcome Credentials) (t : FileTree) : List Call → Identity → FileTree → Prop where
  /-- Its identity is stored. -/
  | stored {i : Identity} (loaded : v.load t = .ok (some i) t) :
    Identified v appId nonce credentials t [] i t
  /-- It is registered, and its identity can be kept. -/
  | registered {t₁ t₂ : FileTree} {c : Credentials} {i : Identity} (unknown : Unknown v t t₁)
      (answer : credentials = .ok c) (complete : Identity.ofCredentials c = .ok i)
      (saved : v.save nonce i t₁ = .ok () t₂) :
    Identified v appId nonce credentials t [.register appId] i t₂

/-- A device is not identified: none is known, and the registration fails. -/
inductive Unidentified (v : Vault) (nonce : Gcm.Nonce) (credentials : Outcome Credentials)
    (t : FileTree) : Failure → FileTree → Prop where
  /-- The request fails as a registration. -/
  | refused {t₁ : FileTree} {reason : String} (unknown : Unknown v t t₁)
      (answer : credentials = .failed (.registrationFailed reason)) :
    Unidentified v nonce credentials t (.registrationFailed reason) t₁
  /-- The request fails otherwise. -/
  | failed {t₁ : FileTree} {f : Failure} (unknown : Unknown v t t₁)
      (answer : credentials = .failed f) (other : ∀ reason, f ≠ .registrationFailed reason) :
    Unidentified v nonce credentials t (.registrationFailed f.message) t₁
  /-- A credential is blank. -/
  | incomplete {t₁ : FileTree} {c : Credentials} (unknown : Unknown v t t₁)
      (answer : credentials = .ok c)
      (blank : ∃ s ∈ [c.organization, c.clientId, c.id, c.password], Text.isBlankText s) :
    Unidentified v nonce credentials t
      (.registrationFailed "response is missing one or more credential fields") t₁
  /-- The identity cannot be kept. -/
  | unsaved {t₁ t₂ : FileTree} {c : Credentials} {i : Identity} {e : OsError}
      (unknown : Unknown v t t₁) (answer : credentials = .ok c)
      (complete : Identity.ofCredentials c = .ok i) (refused : v.save nonce i t₁ = .error e t₂) :
    Unidentified v nonce credentials t
      (.registrationFailed s!"could not persist identity: {(Store.failure e).message}") t₂

/-- Credentials that make no identity are those with a blank part. -/
theorem ofCredentials_error {c : Credentials} {f : Failure} :
    Identity.ofCredentials c = .error f ↔
      f = .registrationFailed "response is missing one or more credential fields" ∧
        ∃ s ∈ [c.organization, c.clientId, c.id, c.password], Text.isBlankText s := by
  unfold Identity.ofCredentials
  simp only
  split
  · next complete =>
    constructor
    · intro h
      cases h
    · rintro ⟨-, s, hs, blank⟩
      have filled := List.all_eq_true.mp complete s hs
      simp [blank] at filled
  · next incomplete =>
    simp only [Identity.isComplete, Identity.parts, List.all_eq_true, Bool.not_eq_true',
      Classical.not_forall, Bool.not_eq_false] at incomplete
    obtain ⟨s, hs, blank⟩ := incomplete
    constructor
    · intro h
      cases h
      exact ⟨rfl, s, hs, blank⟩
    · rintro ⟨rfl, -⟩
      rfl

/-- Credentials that were handed out make the identity. -/
theorem mapError_ok_bind (c : Credentials) :
    (Except.ok c : Except Failure Credentials).mapError Registration.failure >>=
      Identity.ofCredentials = Identity.ofCredentials c := rfl

theorem conclude_incomplete {c : Credentials} {f : Failure} (h : Identity.ofCredentials c = .error f) :
    Registration.conclude v nonce (.ok c) = pure (.error f) := by
  unfold Registration.conclude
  rw [mapError_ok_bind, h]

theorem conclude_saved {c : Credentials} {i : Identity} (complete : Identity.ofCredentials c = .ok i)
    (saved : v.save nonce i t = .ok () t') :
    Registration.conclude v nonce (.ok c) t = .ok (.ok i) t' := by
  unfold Registration.conclude
  rw [mapError_ok_bind, complete]
  exact Disk.bind_run (Disk.attempt_ok saved)

theorem conclude_unsaved {c : Credentials} {i : Identity} {e : OsError}
    (complete : Identity.ofCredentials c = .ok i) (refused : v.save nonce i t = .error e t') :
    Registration.conclude v nonce (.ok c) t =
      .ok (.error (.registrationFailed
        s!"could not persist identity: {(Store.failure e).message}")) t' := by
  unfold Registration.conclude
  rw [mapError_ok_bind, complete]
  exact Disk.bind_run (Disk.attempt_refused refused)

theorem Identified.run {calls : List Call} {i : Identity}
    (h : Identified v appId nonce answers.credentials t calls i t') :
    identify v appId nonce answers t = .ok (calls, .ok i) t' := by
  unfold identify
  cases h with
  | stored loaded => exact Disk.bind_run (Registration.kept_loaded loaded)
  | registered unknown answer complete saved =>
    rw [Disk.bind_run unknown.discarded]
    simp only [answer]
    exact Disk.bind_run (conclude_saved complete saved)

theorem Unidentified.run {f : Failure} (h : Unidentified v nonce answers.credentials t f t') :
    identify v appId nonce answers t = .ok ([.register appId], .failed f) t' := by
  unfold identify
  cases h with
  | refused unknown answer =>
    rw [Disk.bind_run unknown.discarded]
    simp only [answer]
    rfl
  | @failed _ f unknown answer other =>
    rw [Disk.bind_run unknown.discarded]
    simp only [answer]
    cases f with
    | registrationFailed reason => exact absurd rfl (other reason)
    | _ => rfl
  | incomplete unknown answer blank =>
    rw [Disk.bind_run unknown.discarded]
    simp only [answer]
    rw [conclude_incomplete (ofCredentials_error.mpr ⟨rfl, blank⟩)]
    rfl
  | unsaved unknown answer complete refused =>
    rw [Disk.bind_run unknown.discarded]
    simp only [answer]
    exact Disk.bind_run (conclude_unsaved complete refused)

theorem identify_panicked (unknown : Unknown v t t') (panics : answers.credentials = .panicked) :
    identify v appId nonce answers t = .ok ([.register appId], .panicked) t' := by
  unfold identify
  rw [Disk.bind_run unknown.discarded]
  simp only [panics]
  rfl

/-- A device is identified or not, unless the registration panics. -/
theorem identified_or (v : Vault) (appId : String) (nonce : Gcm.Nonce)
    (credentials : Outcome Credentials) (t : FileTree) :
    (∃ calls i t', Identified v appId nonce credentials t calls i t') ∨
      (∃ f t', Unidentified v nonce credentials t f t') ∨
        credentials = .panicked ∧ ∃ t', Unknown v t t' := by
  obtain ⟨known, t₁, loaded, kept, same⟩ := Registration.kept_run v t
  cases known with
  | some i => exact .inl ⟨_, _, _, .stored loaded⟩
  | none =>
    have unknown : Unknown v t t₁ := ⟨loaded, kept⟩
    cases answer : credentials with
    | panicked => exact .inr (.inr ⟨rfl, t₁, unknown⟩)
    | failed f =>
      cases f with
      | registrationFailed reason => exact .inr (.inl ⟨_, _, .refused unknown rfl⟩)
      | _ => exact .inr (.inl ⟨_, _, .failed unknown rfl fun _ h => nomatch h⟩)
    | ok c =>
      cases complete : Identity.ofCredentials c with
      | error f =>
        exact .inr (.inl ⟨_, _, .incomplete unknown rfl (ofCredentials_error.mp complete).2⟩)
      | ok i =>
        cases saving : v.save nonce i t₁ with
        | ok saved t₂ => exact .inl ⟨_, _, _, .registered unknown rfl complete saving⟩
        | error e t₂ => exact .inr (.inl ⟨_, _, .unsaved unknown rfl complete saving⟩)

/-! ## The policy -/

/-- There is a policy for a monitor. -/
inductive Governed (m : Usage.Monitor) (policy : Outcome Policy) (t : FileTree) :
    Usage.Monitor → FileTree → Prop where
  /-- The remote API hands one out, and a copy is kept as far as the system lets it. -/
  | fetched {p : Policy} {r : Except OsError Unit} {t₁ : FileTree} (answer : policy = .ok p)
      (copied : Disk.attempt (m.store.save Usage.Monitor.policyName p.toJson) t = .ok r t₁) :
    Governed m policy t (m.setPolicy p) t₁
  /-- It does not, but there is a copy. -/
  | copy {p : Policy} {f : Failure} (answer : policy = .failed f)
      (kept : m.store.load Policy.record.shape Usage.Monitor.policyName t = .ok (some p) t) :
    Governed m policy t (m.setPolicy p) t

/-- There is no policy: the remote API hands none out, and no copy can be read. -/
inductive Ungoverned (m : Usage.Monitor) (policy : Outcome Policy) (t : FileTree) :
    Failure → Prop where
  | intro {f : Failure} (answer : policy = .failed f)
      (uncopied : m.store.load Policy.record.shape Usage.Monitor.policyName t = .ok none t) :
    Ungoverned m policy t (.remoteApi s!"usage policy unavailable and no cached copy: {f.message}")

theorem Governed.run {m m' : Usage.Monitor} (h : Governed m answers.policy t m' t') :
    govern m answers t = .ok ([.fetchPolicy], .ok m') t' := by
  unfold govern
  cases h with
  | @fetched p _ _ answer copied =>
    have refreshed : m.refresh (.ok p) t = .ok (.ok (m.setPolicy p)) t' := Disk.bind_run copied
    have begun : m.begin (.ok p) t = .ok (.ok (m.setPolicy p)) t' := Disk.bind_run refreshed
    simp only [answer]
    exact Disk.bind_run begun
  | @copy p f answer kept =>
    have refreshed : m.refresh (.error f) t = .ok (.error f) t := rfl
    have begun : m.begin (.error f) t = .ok (.ok (m.setPolicy p)) t :=
      (Disk.bind_run refreshed).trans (Disk.bind_run kept)
    simp only [answer]
    exact Disk.bind_run begun

theorem Ungoverned.run {m : Usage.Monitor} {f : Failure} (h : Ungoverned m answers.policy t f) :
    govern m answers t = .ok ([.fetchPolicy], .failed f) t := by
  unfold govern
  cases h with
  | @intro f answer uncopied =>
    have refreshed : m.refresh (.error f) t = .ok (.error f) t := rfl
    have begun : m.begin (.error f) t = .ok (.error (.remoteApi
        s!"usage policy unavailable and no cached copy: {f.message}")) t :=
      (Disk.bind_run refreshed).trans (Disk.bind_run uncopied)
    simp only [answer]
    exact Disk.bind_run begun

theorem govern_panicked {m : Usage.Monitor} (panics : answers.policy = .panicked) :
    govern m answers t = .ok ([.fetchPolicy], .panicked) t := by
  unfold govern
  simp only [panics]
  rfl

/-- There is a policy or none, unless the question for one panics. -/
theorem governed_or (m : Usage.Monitor) (policy : Outcome Policy) (t : FileTree) :
    (∃ m' t', Governed m policy t m' t') ∨ (∃ f, Ungoverned m policy t f) ∨ policy = .panicked := by
  cases answer : policy with
  | panicked => exact .inr (.inr rfl)
  | ok p =>
    obtain ⟨r, t₁, copied⟩ := Disk.attempt_run (m.store.save Usage.Monitor.policyName p.toJson) t
    exact .inl ⟨_, _, .fetched rfl copied⟩
  | failed f =>
    obtain ⟨copy, loaded⟩ := m.store.load_run Policy.record.shape Usage.Monitor.policyName t
    cases copy with
    | some p => exact .inl ⟨_, _, .copy rfl loaded⟩
    | none => exact .inr (.inl ⟨_, .intro rfl loaded⟩)

/-! ## The parts of an agent -/

theorem andThen_ok {α β : Type} {calls more : List Call} {a : α} {o : Outcome β}
    {next : α → Disk (Asked β)} (h : next a t = .ok (more, o) t') :
    Asked.andThen (calls, .ok a) next t = .ok (calls ++ more, o) t' :=
  Disk.bind_run h

theorem lookUp_panicked (panics : answers.address = .panicked) :
    lookUp answers = ([.lookUpAddress], .panicked) := by
  simp only [lookUp, panics]

/-- The question for the address comes to one, unless it panics. -/
theorem lookUp_or (answers : Answers) :
    (∃ address, lookUp answers = ([.lookUpAddress], .ok address)) ∨ answers.address = .panicked := by
  unfold lookUp
  cases answers.address with
  | ok address => exact .inl ⟨address, rfl⟩
  | failed f => exact .inl ⟨"", rfl⟩
  | panicked => exact .inr rfl

/-- The parts of an agent that has a store are started, or one of them is not. -/
inductive Starts (settings : Settings) (sink : Sink) (m : Usage.Monitor) (nonce : Gcm.Nonce)
    (answers : Answers) (t : FileTree) : List Call → Outcome Agent → FileTree → Prop where
  /-- The question for the address panics. -/
  | unaddressed (panics : answers.address = .panicked) :
    Starts settings sink m nonce answers t [.lookUpAddress] .panicked t
  /-- The registration panics. -/
  | unanswered {t₁ : FileTree} {address : String}
      (asked : lookUp answers = ([.lookUpAddress], .ok address))
      (unknown : Unknown (.ofApp m.store settings.appId) t t₁)
      (panics : answers.credentials = .panicked) :
    Starts settings sink m nonce answers t [.lookUpAddress, .register settings.appId] .panicked t₁
  | unidentified {t₁ : FileTree} {address : String} {f : Failure}
      (asked : lookUp answers = ([.lookUpAddress], .ok address))
      (failed : Unidentified (.ofApp m.store settings.appId) nonce answers.credentials t f t₁) :
    Starts settings sink m nonce answers t [.lookUpAddress, .register settings.appId] (.failed f) t₁
  /-- The question for the policy panics. -/
  | unruled {t₁ : FileTree} {address : String} {calls : List Call} {i : Identity}
      (asked : lookUp answers = ([.lookUpAddress], .ok address))
      (identified : Identified (.ofApp m.store settings.appId) settings.appId nonce
        answers.credentials t calls i t₁)
      (panics : answers.policy = .panicked) :
    Starts settings sink m nonce answers t (.lookUpAddress :: (calls ++ [.fetchPolicy])) .panicked t₁
  | ungoverned {t₁ : FileTree} {address : String} {calls : List Call} {i : Identity} {f : Failure}
      (asked : lookUp answers = ([.lookUpAddress], .ok address))
      (identified : Identified (.ofApp m.store settings.appId) settings.appId nonce
        answers.credentials t calls i t₁)
      (failed : Ungoverned m answers.policy t₁ f) :
    Starts settings sink m nonce answers t (.lookUpAddress :: (calls ++ [.fetchPolicy])) (.failed f) t₁
  /-- All but the transport is there; it decides. -/
  | transport {t₁ t₂ : FileTree} {address : String} {calls : List Call} {i : Identity}
      {m' : Usage.Monitor} (asked : lookUp answers = ([.lookUpAddress], .ok address))
      (identified : Identified (.ofApp m.store settings.appId) settings.appId nonce
        answers.credentials t calls i t₁)
      (governed : Governed m answers.policy t₁ m' t₂) :
    Starts settings sink m nonce answers t
      (.lookUpAddress :: (calls ++ .fetchPolicy :: (sink.start i address answers.transport).1))
      ((sink.start i address answers.transport).2.map fun sink => { settings, monitor := m', sink }) t₂

section
variable {settings : Settings} {sink : Sink} {m : Usage.Monitor} {calls : List Call} {o : Outcome Agent}

theorem Starts.run (h : Starts settings sink m nonce answers t calls o t') :
    start settings sink m nonce answers t = .ok (calls, o) t' := by
  unfold start
  cases h with
  | unaddressed panics =>
    rw [lookUp_panicked panics]
    rfl
  | unanswered asked unknown panics =>
    rw [asked]
    exact andThen_ok (Disk.bind_run (identify_panicked unknown panics))
  | unidentified asked failed =>
    rw [asked]
    exact andThen_ok (Disk.bind_run failed.run)
  | unruled asked identified panics =>
    rw [asked]
    exact andThen_ok ((Disk.bind_run identified.run).trans
      (andThen_ok (Disk.bind_run (govern_panicked panics))))
  | ungoverned asked identified failed =>
    rw [asked]
    exact andThen_ok ((Disk.bind_run identified.run).trans (andThen_ok (Disk.bind_run failed.run)))
  | transport asked identified governed =>
    rw [asked]
    exact andThen_ok ((Disk.bind_run identified.run).trans
      (andThen_ok ((Disk.bind_run governed.run).trans (andThen_ok rfl))))

theorem exists_starts (settings : Settings) (sink : Sink) (m : Usage.Monitor) (nonce : Gcm.Nonce)
    (answers : Answers) (t : FileTree) :
    ∃ calls o t', Starts settings sink m nonce answers t calls o t' := by
  rcases lookUp_or answers with ⟨address, asked⟩ | panics
  · rcases identified_or (.ofApp m.store settings.appId) settings.appId nonce answers.credentials t
      with ⟨calls, i, t₁, identified⟩ | ⟨f, t₁, failed⟩ | ⟨panics, t₁, unknown⟩
    · rcases governed_or m answers.policy t₁ with ⟨m', t₂, governed⟩ | ⟨f, failed⟩ | panics
      · exact ⟨_, _, _, .transport asked identified governed⟩
      · exact ⟨_, _, _, .ungoverned asked identified failed⟩
      · exact ⟨_, _, _, .unruled asked identified panics⟩
    · exact ⟨_, _, _, .unidentified asked failed⟩
    · exact ⟨_, _, _, .unanswered asked unknown panics⟩
  · exact ⟨_, _, _, .unaddressed panics⟩

end

/-! ## The agent -/

/-- An agent is brought up, or not. -/
inductive Ends (settings : Settings) (candidates : List String) (custom alive : Bool)
    (nonce : Gcm.Nonce) (answers : Answers) (t : FileTree) :
    List Call → Outcome Agent → FileTree → Prop where
  | homeless {t₁ : FileTree} (opened : Store.openFirst candidates t = .ok none t₁) :
    Ends settings candidates custom alive nonce answers t [] (.failed (Store.noneUsable candidates)) t₁
  /-- Another agent is alive. -/
  | refused {t₁ : FileTree} {store : Store} (opened : Store.openFirst candidates t = .ok (some store) t₁)
      (taken : alive = true) :
    Ends settings candidates custom alive nonce answers t [] (.failed .alreadyInitialized) t₁
  /-- The settings name no transport. -/
  | unserved {t₁ : FileTree} {store : Store} {f : Failure}
      (opened : Store.openFirst candidates t = .ok (some store) t₁) (free : alive = false)
      (unknown : transportOf settings custom = .error f) :
    Ends settings candidates custom alive nonce answers t [] (.failed f) t₁
  /-- A part fails, and the transport is told. -/
  | gaveUp {t₁ t₂ : FileTree} {store : Store} {m : Usage.Monitor} {transport : Transport}
      {calls : List Call} {f : Failure}
      (opened : Store.openFirst candidates t = .ok (some store) t₁) (free : alive = false)
      (served : transportOf settings custom = .ok transport)
      (counted : Usage.Monitor.ofStore store t₁ = .ok m t₁)
      (starts : Starts settings { transport } m nonce answers t₁ calls (.failed f) t₂) :
    Ends settings candidates custom alive nonce answers t
      (calls ++ (giveUp { transport } answers f).1) (giveUp { transport } answers f).2 t₂
  /-- All parts are started, or one panics. -/
  | ended {t₁ t₂ : FileTree} {store : Store} {m : Usage.Monitor} {transport : Transport}
      {calls : List Call} {o : Outcome Agent}
      (opened : Store.openFirst candidates t = .ok (some store) t₁) (free : alive = false)
      (served : transportOf settings custom = .ok transport)
      (counted : Usage.Monitor.ofStore store t₁ = .ok m t₁)
      (starts : Starts settings { transport } m nonce answers t₁ calls o t₂)
      (unfailed : ∀ f, o ≠ .failed f) :
    Ends settings candidates custom alive nonce answers t calls o t₂

section
variable {settings : Settings} {candidates : List String} {custom alive : Bool} {calls : List Call}
  {o : Outcome Agent}

theorem Ends.run (h : Ends settings candidates custom alive nonce answers t calls o t') :
    Startup.run settings candidates custom alive nonce answers t = .ok (calls, o) t' := by
  unfold Startup.run
  cases h with
  | homeless opened =>
    rw [Disk.bind_run opened]
    rfl
  | refused opened taken =>
    subst taken
    rw [Disk.bind_run opened]
    rfl
  | unserved opened free unknown =>
    subst free
    rw [Disk.bind_run opened]
    simp only [unknown]
    rfl
  | gaveUp opened free served counted starts =>
    subst free
    rw [Disk.bind_run opened]
    simp only [served]
    exact (Disk.bind_run counted).trans (Disk.bind_run starts.run)
  | ended opened free served counted starts unfailed =>
    subst free
    rw [Disk.bind_run opened]
    simp only [served]
    refine (Disk.bind_run counted).trans ((Disk.bind_run starts.run).trans ?_)
    cases o with
    | ok a => rfl
    | failed f => exact absurd rfl (unfailed f)
    | panicked => rfl

theorem exists_ends (settings : Settings) (candidates : List String) (custom alive : Bool)
    (nonce : Gcm.Nonce) (answers : Answers) (t : FileTree) :
    ∃ calls o t', Ends settings candidates custom alive nonce answers t calls o t' := by
  obtain ⟨store, t₁, opened⟩ := Store.openFirst_run candidates t
  cases store with
  | none => exact ⟨_, _, _, .homeless opened⟩
  | some store =>
    cases alive with
    | true => exact ⟨_, _, _, .refused opened rfl⟩
    | false =>
      cases served : transportOf settings custom with
      | error f => exact ⟨_, _, _, .unserved opened rfl served⟩
      | ok transport =>
        obtain ⟨sent, counted⟩ := Usage.Monitor.ofStore_run store t₁
        obtain ⟨calls, o, t₂, starts⟩ :=
          exists_starts settings { transport } { store, meter := { sent } } nonce answers t₁
        cases o with
        | failed f => exact ⟨_, _, _, .gaveUp opened rfl served counted starts⟩
        | ok a => exact ⟨_, _, _, .ended opened rfl served counted starts fun _ h => nomatch h⟩
        | panicked => exact ⟨_, _, _, .ended opened rfl served counted starts fun _ h => nomatch h⟩

theorem ends_of_run
    (h : Startup.run settings candidates custom alive nonce answers t = .ok (calls, o) t') :
    Ends settings candidates custom alive nonce answers t calls o t' := by
  obtain ⟨calls', o', t'', ends⟩ := exists_ends settings candidates custom alive nonce answers t
  have same := h.symm.trans ends.run
  simp only [EStateM.Result.ok.injEq, Prod.mk.injEq] at same
  obtain ⟨⟨rfl, rfl⟩, rfl⟩ := same
  exact ends

/-- An agent is brought up, if one is that passes a check. -/
theorem up_of_any {passes : Agent → Bool}
    (h : ((Startup.run settings candidates custom alive nonce answers).answer? t).any
      (fun asked => asked.2.value?.any passes) = true) :
    ∃ calls a t', Startup.run settings candidates custom alive nonce answers t = .ok (calls, .ok a) t' ∧
      passes a = true := by
  unfold Disk.answer? at h
  split at h
  · next asked t' run =>
    obtain ⟨calls, o⟩ := asked
    cases o with
    | ok a => exact ⟨calls, a, t', run, h⟩
    | failed f => cases h
    | panicked => cases h
  · cases h

end

/-! ## An agent that was brought up -/

/-- What an agent is like once it was brought up: nothing is on its way, its sink can pack events, and its
transport was told to begin, and not to end. -/
structure Fresh (a : Agent) (settings : Settings) (calls : List Call) : Prop where
  settings : a.settings = settings
  scheduler : a.scheduler = {}
  deliveries : a.deliveries = []
  unclosed : a.sink.closed = false
  started : a.sink.transport.isStarted = true
  origin : a.sink.origin.isSome = true
  opens : calls.countP Call.opens = a.sink.transport.links
  closes : calls.countP Call.closes = 0

theorem Identified.noLink {calls : List Call} {i : Identity}
    (h : Identified v appId nonce credentials t calls i t') :
    calls.countP Call.opens = 0 ∧ calls.countP Call.closes = 0 := by
  cases h with
  | stored loaded => exact ⟨rfl, rfl⟩
  | registered unknown answer complete saved => exact ⟨rfl, rfl⟩

theorem Governed.sent {m m' : Usage.Monitor} (h : Governed m policy t m' t') :
    m'.store = m.store ∧ m'.meter.sent = m.meter.sent := by
  cases h with
  | fetched answer copied => exact ⟨rfl, rfl⟩
  | copy answer kept => exact ⟨rfl, rfl⟩

theorem Starts.fresh {settings : Settings} {transport : Transport} {m : Usage.Monitor}
    {calls : List Call} {a : Agent}
    (h : Starts settings { transport } m nonce answers t calls (.ok a) t') :
    Fresh a settings calls ∧ a.monitor.store = m.store ∧ a.monitor.meter.sent = m.meter.sent := by
  generalize ended : Outcome.ok a = o at h
  cases h with
  | @transport _ _ address calls i m' asked identified governed =>
    obtain ⟨noOpens, noCloses⟩ := identified.noLink
    cases outcome : (transport.start i answers.transport).2 with
    | ok begun =>
      obtain ⟨started, opens, closes⟩ := Transport.start_ok outcome
      simp only [Sink.start, outcome, Outcome.mapFailure, Outcome.map, Outcome.ok.injEq] at ended
      subst ended
      have asks : Call.opens .lookUpAddress = false ∧ Call.opens .fetchPolicy = false ∧
          Call.closes .lookUpAddress = false ∧ Call.closes .fetchPolicy = false := by decide
      refine ⟨⟨rfl, rfl, rfl, rfl, started, rfl, ?_, ?_⟩, governed.sent⟩
      · simp [noOpens, asks, Sink.start, opens]
      · simp [noCloses, asks, Sink.start, closes]
    | failed f => simp [Sink.start, outcome, Outcome.mapFailure, Outcome.map] at ended
    | panicked => simp [Sink.start, outcome, Outcome.mapFailure, Outcome.map] at ended
  | _ => cases ended

/-- An agent that was brought up goes on from the count that its store holds. -/
theorem Ends.fresh {settings : Settings} {candidates : List String} {custom alive : Bool}
    {calls : List Call} {a : Agent}
    (h : Ends settings candidates custom alive nonce answers t calls (.ok a) t') :
    Fresh a settings calls ∧ ∃ store m t₁, Store.openFirst candidates t = .ok (some store) t₁ ∧
      Usage.Monitor.ofStore store t₁ = .ok m t₁ ∧ a.monitor.store = m.store ∧
      a.monitor.meter.sent = m.meter.sent := by
  generalize ended : Outcome.ok a = o at h
  cases h with
  | gaveUp opened free served counted starts =>
    simp only [giveUp] at ended
    split at ended <;> cases ended
  | ended opened free served counted starts unfailed =>
    subst ended
    obtain ⟨fresh, kept, sent⟩ := starts.fresh
    exact ⟨fresh, _, _, _, opened, counted, kept, sent⟩
  | _ => cases ended

/-! ## Panics -/

/-- Whether the one who is called panics. -/
def Answers.panicsAt (answers : Answers) : Call → Bool
  | .lookUpAddress => answers.address.isPanicked
  | .register _ => answers.credentials.isPanicked
  | .fetchPolicy => answers.policy.isPanicked
  | .startTransport _ => answers.transport.custom.isPanicked
  | .discoverBroker => answers.transport.broker.isPanicked
  | .stopTransport => answers.stopped.isPanicked
  | _ => false

theorem not_panicked_of_asked {address : String}
    (asked : lookUp answers = ([.lookUpAddress], .ok address)) :
    answers.address.isPanicked = false := by
  cases h : answers.address with
  | ok a => rfl
  | failed f => rfl
  | panicked => simp [lookUp, h] at asked

theorem Identified.quiet {calls : List Call} {i : Identity}
    (h : Identified v appId nonce answers.credentials t calls i t') :
    calls.any answers.panicsAt = false := by
  cases h with
  | stored loaded => rfl
  | registered unknown answer complete saved => simp [Answers.panicsAt, answer]

theorem Unidentified.quiet {f : Failure} (h : Unidentified v nonce credentials t f t') :
    credentials.isPanicked = false := by
  cases h with
  | refused unknown answer => rw [answer]; rfl
  | failed unknown answer other => rw [answer]; rfl
  | incomplete unknown answer blank => rw [answer]; rfl
  | unsaved unknown answer complete refused => rw [answer]; rfl

theorem Governed.quiet {m m' : Usage.Monitor} (h : Governed m policy t m' t') :
    policy.isPanicked = false := by
  cases h with
  | fetched answer copied => rw [answer]; rfl
  | copy answer kept => rw [answer]; rfl

theorem Ungoverned.quiet {m : Usage.Monitor} {f : Failure} (h : Ungoverned m policy t f) :
    policy.isPanicked = false := by
  cases h with
  | intro answer uncopied => rw [answer]; rfl

/-- A transport's start panics exactly if one who is called does. -/
theorem isPanicked_transport (transport : Transport) (i : Identity) :
    (transport.start i answers.transport).2.isPanicked =
      (transport.start i answers.transport).1.any answers.panicsAt := by
  cases transport with
  | custom => simp [Transport.start, Answers.panicsAt]
  | https installation =>
    simp only [Transport.start]
    split <;> rfl
  | serial port isOpen =>
    cases answer : answers.transport.port <;> simp [Transport.start, answer, Answers.panicsAt]
  | mqtt session =>
    cases found : answers.transport.broker with
    | ok broker =>
      cases connected : answers.transport.session with
      | ok a => simp [Transport.start, found, Transport.openSession, connected, Answers.panicsAt]
      | error r =>
        cases r <;>
          simp [Transport.start, found, Transport.openSession, connected, Answers.panicsAt]
    | failed f => simp [Transport.start, found, Answers.panicsAt]
    | panicked => simp [Transport.start, found, Answers.panicsAt]

/-- The start of the parts panics exactly if one who is called does. -/
theorem Starts.isPanicked {settings : Settings} {sink : Sink} {m : Usage.Monitor} {calls : List Call}
    {o : Outcome Agent} {t' : FileTree} (h : Starts settings sink m nonce answers t calls o t') :
    o.isPanicked = calls.any answers.panicsAt := by
  cases h with
  | unaddressed panics => simp [Answers.panicsAt, panics]
  | unanswered asked unknown panics => simp [Answers.panicsAt, panics]
  | unidentified asked failed =>
    simp [Answers.panicsAt, not_panicked_of_asked asked, failed.quiet]
  | unruled asked identified panics => simp [Answers.panicsAt, panics]
  | ungoverned asked identified failed =>
    rw [List.any_cons, List.any_append, identified.quiet]
    simp [Answers.panicsAt, not_panicked_of_asked asked, failed.quiet]
  | transport asked identified governed =>
    rw [List.any_cons, List.any_append, List.any_cons, identified.quiet]
    simp [Answers.panicsAt, not_panicked_of_asked asked, governed.quiet, Sink.start,
      isPanicked_transport]

/-- The end of an agent that did not start panics exactly if the transport that is told does. -/
theorem isPanicked_giveUp {settings : Settings} {custom : Bool} {transport : Transport}
    (served : transportOf settings custom = .ok transport) (f : Failure) :
    (giveUp { transport } answers f).2.isPanicked =
      (giveUp { transport } answers f).1.any answers.panicsAt := by
  unfold transportOf at served
  split at served
  · cases served
    cases answer : answers.stopped <;>
      simp [giveUp, Sink.close, Transport.stop, Answers.panicsAt, answer]
  · cases kind : settings.transport with
    | error e => simp [kind, bind, Except.bind] at served
    | ok k =>
      -- A transport of the agent's own needs nothing to end before its start.
      simp only [kind, bind, Except.bind, pure, Except.pure, Except.ok.injEq] at served
      subst served
      cases k <;> rfl

/-- Bringing an agent up panics exactly if one who is called does. -/
theorem Ends.isPanicked {settings : Settings} {candidates : List String} {custom alive : Bool}
    {calls : List Call} {o : Outcome Agent} {t' : FileTree}
    (h : Ends settings candidates custom alive nonce answers t calls o t') :
    o.isPanicked = calls.any answers.panicsAt := by
  cases h with
  | homeless opened => rfl
  | refused opened taken => rfl
  | unserved opened free unknown => rfl
  | gaveUp opened free served counted starts =>
    rw [List.any_append, ← starts.isPanicked, isPanicked_giveUp served]
    rfl
  | ended opened free served counted starts unfailed => exact starts.isPanicked

/-! ## A start that goes well -/

/-- Everybody who is asked does what they are asked for. -/
def Answers.obliging : Answers :=
  { address := .ok "203.0.113.7", credentials := .ok ⟨"org", "client", "id", "secret"⟩, policy := .ok {},
    transport := {} }

theorem panicsAt_obliging (call : Call) : Answers.obliging.panicsAt call = false := by
  cases call <;> rfl

end Startup

/-- An agent with a transport of the host's, which has started, and a monitor that has counted nothing. -/
def Agent.least : Agent :=
  { settings := .least, monitor := { store := ⟨"/state"⟩ },
    sink := { transport := .custom, origin := some ⟨"installation", "203.0.113.7"⟩ } }

end CrashReporter
