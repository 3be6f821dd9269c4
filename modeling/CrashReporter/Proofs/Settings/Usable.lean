import CrashReporter.Agent.Startup
import CrashReporter.Proofs.Settings.Blank

/-!
# Settings that an agent can run with

Options are accepted only if the agent can run with the settings that they make (`Settings.Usable`): nothing
that has to be there is blank, somebody works, and a port means a serial transport. Those who choose a
transport by these settings rely on it. A serial transport finds its port, so there is always a transport of
the kind that is asked for (`Settings.exists_transport`).

Settings are shown without the key. So two hosts that differ in nothing but a key are shown alike
(`Options.AlikeBut.refusal?_key`, `Settings.AlikeBut.describe_eq`).
-/

namespace CrashReporter

/-- Whether a transport is of the kind that settings ask for, and over their port if it is serial. -/
def Transport.Serves (t : Transport) (s : Settings) : Prop :=
  match t with
  | .custom => False
  | .https _ => s.transportKind = .https
  | .serial port _ => s.transportKind = .serial ∧ s.serialPort = some port
  | .mqtt _ => s.transportKind = .mqtt

namespace Settings

variable {s s' : Settings}

/-- Settings that those who read them can use. -/
structure Usable (s : Settings) : Prop where
  appId : Text.isBlankText s.appId = false
  apiKey : Text.isBlankText s.apiKey = false
  baseUrl : s.baseUrl ≠ ""
  /-- Paths are put behind an address with a slash of their own. -/
  slashless : s.baseUrl.toList.getLast? ≠ some '/'
  workerThreads : 1 ≤ s.workerThreads
  serialPort : ∀ port, s.serialPort = some port → Text.isBlankText port = false ∧ s.transportKind = .serial

/-- Settings that differ in the key are shown alike. -/
theorem AlikeBut.describe_eq (alike : s.AlikeBut [.apiKey] s') : s.describe = s'.describe := by
  simp only [describe, alike.appId (by decide), alike.baseUrl (by decide), alike.configDir (by decide),
    alike.autoShutdown (by decide), alike.panicHook (by decide), alike.workerThreads (by decide),
    alike.serialPort (by decide), alike.transportKind (by decide) (by decide), alike.shutdownGrace (by decide)]

/-- Settings with a port for a serial transport name a transport of their kind. -/
theorem exists_transport (ported : s.transportKind = .serial → s.serialPort.isSome = true) :
    s.transport = .ok s.transportKind ∧ ∃ t, Startup.transportOf s false = .ok t ∧ t.Serves s := by
  have chosen : s.transport = .ok s.transportKind := by
    unfold transport
    split
    next serial portless =>
      have port := ported serial
      rw [portless] at port
      cases port
    · rfl
  refine ⟨chosen, .ofKind s.transportKind s.serialPort, ?_, ?_⟩
  · rw [Startup.transportOf, chosen]
    rfl
  · cases kind : s.transportKind with
    | mqtt => exact kind
    | https => exact kind
    | serial =>
      obtain ⟨port, set⟩ := Option.isSome_iff_exists.mp (ported kind)
      rw [set]
      exact ⟨kind, set⟩

end Settings

namespace Options

variable {o o' : Options} {env env' : Environment} {custom : Bool} {settings : Settings}

/-- A text that counts is not blank, wherever it comes from. -/
theorem textOr_filled {v : Variable} {option : Option String} {text : String}
    (counts : textOr env v option = some text) : Text.isBlankText text = false := by
  obtain set | ⟨-, read⟩ := Option.or_eq_some_iff.mp counts
  · obtain ⟨given, -, left⟩ := Option.bind_eq_some_iff.mp set
    unfold Text.nonBlank? at left
    split at left
    · cases left
    next filled =>
      cases left
      exact Bool.eq_false_iff.mpr filled
  · obtain ⟨c, rest, chars, filled⟩ := Environment.string?_filled read
    exact Text.filled_of_head chars filled

theorem resolveWorkers_pos (o : Options) (env : Environment) : 1 ≤ o.resolveWorkers env := by
  unfold resolveWorkers
  split
  · split
    · assumption
    · decide
  · decide

theorem Makes.usable (made : o.Makes env custom settings) : settings.Usable where
  appId := textOr_filled made.appId
  apiKey := textOr_filled made.apiKey
  baseUrl := made.baseUrl ▸ o.resolveBaseUrl_ne_empty env
  slashless := made.baseUrl ▸ o.resolveBaseUrl_last env
  workerThreads := made.workerThreads ▸ o.resolveWorkers_pos env
  serialPort port set := by
    refine ⟨textOr_filled (made.serialPort ▸ set), ?_⟩
    have kind := made.transportKind
    rw [set] at kind
    exact (Except.ok.inj kind).symm

/-- Without a transport of the host's own, a serial one has a port. -/
theorem Makes.portOfSerial (made : o.Makes env false settings) (serial : settings.transportKind = .serial) :
    settings.serialPort.isSome = true := by
  rw [Option.isSome_iff_ne_none]
  exact fun portless => made.ported ⟨serial, portless, rfl⟩

/-- Another key is as good as the first. -/
theorem AlikeBut.refusal?_key (alike : AlikeBut [.apiKey] o env o' env')
    (keyed : textOr env .apiKey o.apiKey ≠ none) (keyed' : textOr env' .apiKey o'.apiKey ≠ none) :
    o.refusal? env custom = o'.refusal? env' custom := by
  have misnamed : o.misnamed? env = o'.misnamed? env' := by
    simp only [misnamed?, alike.textOr_serialPort (by decide), alike.transportKind (by decide),
      alike.environment .transport (by decide)]
  simp only [refusal?, keyed, keyed', misnamed, alike.textOr_appId (by decide), alike.textOr_serialPort (by decide),
    alike.resolveTransport (by decide), if_false]

/-- Settings that are made of accepted options can be used, also to choose a transport where the host does not
bring its own, and are shown as they would be with any other key that is not blank. -/
theorem usable_of_resolve (accepted : o.resolve env custom = .ok settings) :
    settings.Usable ∧
    (custom = false →
      (settings.transportKind = .serial → settings.serialPort.isSome = true) ∧
      settings.transport = .ok settings.transportKind ∧
      ∃ t, Startup.transportOf settings false = .ok t ∧ t.Serves settings) ∧
    ∀ o' env', AlikeBut [.apiKey] o env o' env' → textOr env' .apiKey o'.apiKey ≠ none →
      ∃ settings', o'.resolve env' custom = .ok settings' ∧ settings'.describe = settings.describe := by
  have made := resolve_eq_ok.mp accepted
  refine ⟨made.usable, ?_, fun o' env' alike keyed => ?_⟩
  · rintro rfl
    exact ⟨made.portOfSerial, Settings.exists_transport made.portOfSerial⟩
  · have key : textOr env .apiKey o.apiKey ≠ none := by
      rw [made.apiKey]
      exact Option.some_ne_none _
    have same : AnsweredAlike [.apiKey] (o.resolve env custom) (o'.resolve env' custom) :=
      (answeredAlike_iff alike).mpr (alike.refusal?_key key keyed)
    rw [accepted] at same
    generalize answer : o'.resolve env' custom = r at same
    cases same with
    | accepted alike => exact ⟨_, rfl, alike.describe_eq.symm⟩

/-- A host whose port comes from the environment, between blanks, and whose key is then another. -/
theorem usable_of_resolve_port :
    let o (key : String) : Options := { least with apiKey := some key, workerThreads := some 0 }
    let env : Environment := [("FAULTLINE_SERIAL_PORT", Text.utf8 " /dev/ttyS0\n"), ("FAULTLINE_BASE_URL", [0xFF])]
    ∃ settings settings', (o "key").resolve env false = .ok settings ∧ (o "other").resolve env false = .ok settings' ∧
      1 ≤ settings.workerThreads ∧ (∃ t, Startup.transportOf settings false = .ok t ∧ t.Serves settings) ∧
      settings'.describe = settings.describe := by
  intro o env
  have accepted : (o "key").resolve env false =
      .ok ⟨"app", "key", "https://api.faultline.io", none, true, true, 3, some "/dev/ttyS0", .serial, .ofSeconds 3⟩ := by
    decide +kernel
  obtain ⟨usable, served, shown⟩ := usable_of_resolve accepted
  have alike : AlikeBut [.apiKey] (o "key") env (o "other") env :=
    ⟨fun _ _ => rfl, fun _ => rfl, fun kept => absurd List.mem_cons_self kept, fun _ => rfl, fun _ => rfl, fun _ => rfl,
      fun _ => rfl, fun _ => rfl, fun _ => rfl, fun _ => rfl, fun _ => rfl⟩
  obtain ⟨settings', accepted', same⟩ := shown (o "other") env alike (by decide +kernel)
  exact ⟨_, settings', accepted, accepted', usable.workerThreads, (served rfl).2.2, same⟩

end Options

end CrashReporter
