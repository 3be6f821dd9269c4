import CrashReporter.Proofs.Agent.Startup
import CrashReporter.Proofs.Identity.Vault

/-!
# A device over its restarts

Agents of one application start one after the other in the same directory, and in between they keep their
other documents there (`Registration.Event`). Each start finds out who the device is: from the vault, or by
a registration (`Registration.Attempt`). What it may come to is said start by start
(`Registration.Attempt.Sound`, `Registration.sound_start`); an identity that was found once is found by
every later start, and nothing is asked for any more (`Registration.registered_once`).
-/

namespace CrashReporter

theorem Identity.isComplete_ofCredentials {c : Credentials} {i : Identity}
    (h : ofCredentials c = .ok i) : i.isComplete = true := by
  unfold ofCredentials at h
  simp only at h
  split at h
  · next complete =>
    cases h
    exact complete
  · cases h

/-- Whether the document decrypts to an identity without blank parts. -/
def Vault.Knows (v : Vault) (t : FileTree) (i : Identity) : Prop :=
  ∃ content e, v.store.bytes? documentName t = .ok (some content) t ∧
    Envelope.record.shape.ofText content = .ok e ∧ v.disclose e = .ok i ∧ i.isComplete = true

/-- What is known is what is loaded. -/
theorem Vault.knows_iff (v : Vault) (t : FileTree) (i : Identity) :
    v.Knows t i ↔ v.load t = .ok (some i) t := by
  unfold Knows
  simp only [v.store.bytes?_run plain_documentName.1, v.load_eq, EStateM.Result.ok.injEq, and_true,
    Option.bind_eq_some_iff, v.read?_eq_some]
  constructor
  · rintro ⟨content, e, held, read⟩
    exact ⟨content, held, e, read⟩
  · rintro ⟨content, held, e, read⟩
    exact ⟨content, e, held, read⟩

namespace Registration

/-- What agents do in their directory besides. -/
inductive Aside where
  /-- An agent opens the directory. -/
  | opening
  /-- An agent keeps its count. -/
  | count (sent : UInt64)
  /-- An agent keeps a copy of a policy. -/
  | policy (p : Policy)

/-- What happens in the directory of an application's agents. -/
inductive Event where
  /-- An agent finds out who the device is. -/
  | start (nonce : Gcm.Nonce) (answers : Startup.Answers)
  | aside (act : Aside)

/-- A start: what it found, what would have been answered to a registration, what it asked for, how it
ended, and what it left. -/
structure Attempt where
  found : FileTree
  credentials : Outcome Credentials
  calls : List Call
  outcome : Outcome Identity
  left : FileTree

/-- What an agent does besides; nobody looks at its outcome. -/
def Aside.run (v : Vault) : Aside → Disk Unit
  | .opening => do let _ ← Disk.attempt (Store.openIn v.store.dir)
  | .count sent => ({ store := v.store, meter := { sent } } : Usage.Monitor).persist
  | .policy p => do let _ ← Disk.attempt (v.store.save Usage.Monitor.policyName p.toJson)

/-- A start. -/
def attempt (v : Vault) (appId : String) (nonce : Gcm.Nonce) (answers : Startup.Answers) :
    Disk Attempt := do
  let found ← get
  let (calls, outcome) ← Startup.identify v appId nonce answers
  return ⟨found, answers.credentials, calls, outcome, ← get⟩

/-- The starts among events, in their order. -/
def history (v : Vault) (appId : String) : List Event → Disk (List Attempt)
  | [] => return []
  | .start nonce answers :: events => do
    let first ← attempt v appId nonce answers
    return first :: (← history v appId events)
  | .aside act :: events => do
    act.run v
    history v appId events

/-- What a start may come to. -/
structure Attempt.Sound (v : Vault) (appId : String) (a : Attempt) : Prop where
  /-- Loading comes to an end, whatever there is. -/
  loads : ∃ kept, v.load a.found = .ok kept a.found
  /-- A known identity is used. -/
  known : ∀ i, v.Knows a.found i → a.calls = [] ∧ a.outcome = .ok i
  /-- Without one, the device is registered. -/
  unknown : (∀ i, ¬ v.Knows a.found i) → a.calls = [.register appId]
  identified : ∀ i, a.outcome = .ok i → i.isComplete = true ∧ v.load a.left = .ok (some i) a.left
  failed : ∀ f, a.outcome = .failed f →
    (∃ reason, f = .registrationFailed reason) ∧ v.load a.left = .ok none a.left
  /-- Nothing but the registration panics. -/
  panicked : a.outcome = .panicked → a.credentials = .panicked ∧ v.load a.left = .ok none a.left

variable {v : Vault} {appId : String} {t t' : FileTree}

/-- A document that is passed over leaves no identity behind. -/
theorem unloaded_kept (unknown : Startup.Unknown v t t') : v.load t' = .ok none t' := by
  have discarded := unknown.discarded
  unfold kept at discarded
  rw [Disk.bind_run unknown.unloaded] at discarded
  obtain ⟨held, contains⟩ := v.store.contains_run Vault.documentName t
  simp only [Vault.holds, Disk.bind_run contains] at discarded
  cases held with
  | false =>
    cases discarded
    exact unknown.unloaded
  | true =>
    obtain ⟨r, t₁, cleared⟩ := Disk.attempt_run v.clear t
    obtain rfl : t₁ = t' := by
      rw [if_pos rfl, Disk.bind_run cleared] at discarded
      cases discarded
      rfl
    exact v.load_clear unknown.unloaded cleared

theorem complete_of_load {i : Identity} (loaded : v.load t = .ok (some i) t) : i.isComplete = true := by
  obtain ⟨-, -, -, -, -, complete⟩ := (v.knows_iff t i).mpr loaded
  exact complete

/-- An identity that is known is the only one, and none is known if none is loaded. -/
theorem eq_of_knows {kept : Option Identity} (loaded : v.load t = .ok kept t) {i : Identity}
    (known : v.Knows t i) : kept = some i := by
  have same := loaded.symm.trans ((v.knows_iff t i).mp known)
  cases same
  rfl

theorem left_identified {nonce : Gcm.Nonce} {credentials : Outcome Credentials} {calls : List Call}
    {i : Identity} (identified : Startup.Identified v appId nonce credentials t calls i t') :
    v.load t' = .ok (some i) t' := by
  cases identified with
  | stored loaded => exact loaded
  | @registered t₁ _ c _ unknown answer complete saved =>
    rcases v.load_save nonce (Identity.isComplete_ofCredentials complete) t₁ with
      ⟨t₂, saved', loaded⟩ | ⟨e, t₂, refused, -⟩
    · rw [saved] at saved'
      cases saved'
      exact loaded
    · rw [saved] at refused
      cases refused

/-- A registration that fails is said to have failed, and leaves no identity where none was. -/
theorem left_unidentified {nonce : Gcm.Nonce} {credentials : Outcome Credentials} {f : Failure}
    (unidentified : Startup.Unidentified v nonce credentials t f t') :
    v.load t = .ok none t ∧ (∃ reason, f = .registrationFailed reason) ∧ v.load t' = .ok none t' := by
  cases unidentified with
  | refused unknown _ => exact ⟨unknown.unloaded, ⟨_, rfl⟩, unloaded_kept unknown⟩
  | failed unknown _ _ => exact ⟨unknown.unloaded, ⟨_, rfl⟩, unloaded_kept unknown⟩
  | incomplete unknown _ _ => exact ⟨unknown.unloaded, ⟨_, rfl⟩, unloaded_kept unknown⟩
  | @unsaved t₁ _ c i e unknown _ complete refused =>
    refine ⟨unknown.unloaded, ⟨_, rfl⟩, ?_⟩
    rcases v.load_save nonce (Identity.isComplete_ofCredentials complete) t₁ with
      ⟨t₂, saved, -⟩ | ⟨e', t₂, refused', same⟩
    · rw [refused] at saved
      cases saved
    · rw [refused] at refused'
      cases refused'
      exact same none (unloaded_kept unknown)

/-- Every start comes to what it may come to. -/
theorem sound_start (v : Vault) (appId : String) (nonce : Gcm.Nonce) (answers : Startup.Answers)
    (t : FileTree) :
    ∃ a : Attempt, attempt v appId nonce answers t = .ok a a.left ∧ a.found = t ∧ a.Sound v appId := by
  have ended {calls : List Call} {o : Outcome Identity} {t' : FileTree}
      (run : Startup.identify v appId nonce answers t = .ok (calls, o) t') :
      attempt v appId nonce answers t = .ok ⟨t, answers.credentials, calls, o, t'⟩ t' := by
    have found : (get : Disk FileTree) t = .ok t t := rfl
    unfold attempt
    rw [Disk.bind_run found, Disk.bind_run run]
    rfl
  rcases Startup.identified_or v appId nonce answers.credentials t with
    ⟨calls, i, t', identified⟩ | ⟨f, t', unidentified⟩ | ⟨panics, t', unknown⟩
  · have loaded := left_identified identified
    refine ⟨_, ended identified.run, rfl, ?_⟩
    refine {
      loads := ⟨_, v.load_eq t⟩
      known := fun j h => ?_
      unknown := fun h => ?_
      identified := fun j h => ?_
      failed := fun f h => nomatch h
      panicked := fun h => nomatch h }
    · cases identified with
      | stored stored =>
        cases eq_of_knows stored h
        exact ⟨rfl, rfl⟩
      | registered unknown _ _ _ => exact nomatch eq_of_knows unknown.unloaded h
    · cases identified with
      | stored stored => exact absurd ((v.knows_iff t i).mpr stored) (h i)
      | registered _ _ _ _ => rfl
    · cases h
      exact ⟨complete_of_load loaded, loaded⟩
  · obtain ⟨unloaded, registration, left⟩ := left_unidentified unidentified
    refine ⟨_, ended unidentified.run, rfl, ?_⟩
    refine {
      loads := ⟨_, unloaded⟩
      known := fun i h => nomatch eq_of_knows unloaded h
      unknown := fun _ => rfl
      identified := fun i h => nomatch h
      failed := fun g h => ?_
      panicked := fun h => nomatch h }
    cases h
    exact ⟨registration, left⟩
  · refine ⟨_, ended (Startup.identify_panicked unknown panics), rfl, ?_⟩
    exact {
      loads := ⟨_, unknown.unloaded⟩
      known := fun i h => nomatch eq_of_knows unknown.unloaded h
      unknown := fun _ => rfl
      identified := fun i h => nomatch h
      failed := fun f h => nomatch h
      panicked := fun _ => ⟨panics, unloaded_kept unknown⟩ }

/-- A known identity stays known while nobody writes its document. -/
theorem load_of_spares {names : List String} (spares : Store.Spares names t t')
    (other : Vault.documentName ∉ names) {i : Identity} (loaded : v.load t = .ok (some i) t) :
    v.load t' = .ok (some i) t' := by
  rw [v.load_eq] at loaded
  obtain ⟨content, held, read⟩ := Option.bind_eq_some_iff.mp (EStateM.Result.ok.inj loaded).1
  rw [v.load_eq, spares v.store Vault.plain_documentName.1 other held, Option.bind_some, read]

/-- What agents do besides comes to an end, and a known identity stays known. -/
theorem aside_run (v : Vault) (act : Aside) (t : FileTree) :
    ∃ t', act.run v t = .ok () t' ∧ ∀ i, v.load t = .ok (some i) t → v.load t' = .ok (some i) t' := by
  have silent {α : Type} {x : Disk α} {names : List String} (leaves : x.Leaves (Store.Spares names))
      (other : Vault.documentName ∉ names) :
      ∃ t', (do let _ ← Disk.attempt x : Disk Unit) t = .ok () t' ∧
        ∀ i, v.load t = .ok (some i) t → v.load t' = .ok (some i) t' := by
    obtain ⟨r, t', run⟩ := Disk.attempt_run x t
    exact ⟨t', Disk.bind_run run, fun i loaded => load_of_spares (leaves.attempt.of_run run) other loaded⟩
  cases act with
  | opening => exact silent (Store.leaves_openIn v.store.dir) (by decide)
  | count sent =>
    have names : Store.Plain Usage.Monitor.countName ∧
        Store.Plain (Store.draftName Usage.Monitor.countName) := by decide
    have saved := v.store.leaves_save names.1 names.2
    exact silent ((saved _).mono Store.spares_of_confined) (by decide)
  | policy p =>
    have names : Store.Plain Usage.Monitor.policyName ∧
        Store.Plain (Store.draftName Usage.Monitor.policyName) := by decide
    have saved := v.store.leaves_save names.1 names.2
    exact silent ((saved _).mono Store.spares_of_confined) (by decide)

theorem history_start {nonce : Gcm.Nonce} {answers : Startup.Answers} {events : List Event} {a : Attempt}
    {attempts : List Attempt} {t₁ : FileTree} (run : attempt v appId nonce answers t = .ok a t₁)
    (rest : history v appId events t₁ = .ok attempts t') :
    history v appId (.start nonce answers :: events) t = .ok (a :: attempts) t' :=
  (Disk.bind_run run).trans (Disk.bind_run rest)

theorem history_aside {act : Aside} {events : List Event} {attempts : List Attempt} {t₁ : FileTree}
    (run : act.run v t = .ok () t₁) (rest : history v appId events t₁ = .ok attempts t') :
    history v appId (.aside act :: events) t = .ok attempts t' :=
  (Disk.bind_run run).trans rest

/-- Once an identity is known, every start yields it and asks for nothing, by induction on the events. -/
theorem history_known (v : Vault) (appId : String) {i : Identity} (events : List Event)
    (loaded : v.load t = .ok (some i) t) :
    ∃ attempts t', history v appId events t = .ok attempts t' ∧
      ∀ a ∈ attempts, a.calls = [] ∧ a.outcome = .ok i := by
  induction events generalizing t with
  | nil => exact ⟨[], t, rfl, List.forall_mem_nil _⟩
  | cons event events ih =>
    cases event with
    | start nonce answers =>
      obtain ⟨a, run, found, sound⟩ := sound_start v appId nonce answers t
      have known : v.Knows a.found i := (v.knows_iff _ i).mpr (by rwa [found])
      obtain ⟨quiet, same⟩ := sound.known i known
      obtain ⟨attempts, t', rest, all⟩ := ih (sound.identified i same).2
      exact ⟨a :: attempts, t', history_start run rest, List.forall_mem_cons.mpr ⟨⟨quiet, same⟩, all⟩⟩
    | aside act =>
      obtain ⟨t₁, run, kept⟩ := aside_run v act t
      obtain ⟨attempts, t', rest, all⟩ := ih (kept i loaded)
      exact ⟨attempts, t', history_aside run rest, all⟩

/-- A device registers once and keeps its identity. Whatever an application's directory holds at first and
however its agents start in it: a start asks for a registration exactly if the document does not decrypt to
an identity without blank parts; one that succeeds yields such an identity and leaves it to be loaded, and
every later start yields the same and asks for nothing; one that fails says that the registration failed
and leaves no identity. -/
theorem registered_once (store : Store) (appId : String) (events : List Event) (t : FileTree) :
    let v := Vault.ofApp store appId
    ∃ attempts t', history v appId events t = .ok attempts t' ∧
      (∀ a ∈ attempts, a.Sound v appId) ∧
      attempts.Pairwise fun a b => ∀ i, a.outcome = .ok i → b.calls = [] ∧ b.outcome = .ok i := by
  intro v
  induction events generalizing t with
  | nil => exact ⟨[], t, rfl, List.forall_mem_nil _, .nil⟩
  | cons event events ih =>
    cases event with
    | start nonce answers =>
      -- If this start finds an identity, what it leaves makes the later ones find the same.
      obtain ⟨a, run, -, sound⟩ := sound_start v appId nonce answers t
      obtain ⟨attempts, t', rest, all, later⟩ := ih a.left
      refine ⟨a :: attempts, t', history_start run rest, List.forall_mem_cons.mpr ⟨sound, all⟩, ?_⟩
      refine List.pairwise_cons.mpr ⟨fun b hb i same => ?_, later⟩
      obtain ⟨attempts', t'', rest', known⟩ := history_known v appId events (sound.identified i same).2
      rw [rest] at rest'
      cases rest'
      exact known b hb
    | aside act =>
      obtain ⟨t₁, run, -⟩ := aside_run v act t
      obtain ⟨attempts, t', rest, all, later⟩ := ih t₁
      exact ⟨attempts, t', history_aside run rest, all, later⟩

end Registration

end CrashReporter
