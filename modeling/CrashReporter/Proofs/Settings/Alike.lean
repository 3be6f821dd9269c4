import CrashReporter.Proofs.Settings

/-!
# Hosts that differ in a few options

Two hosts may set some options differently, in environments where the variables of these options differ as
well, and have everything else in common (`Options.AlikeBut`). What such options are refused for is told by
`Options.refusal?`, exactly (`Options.resolve_eq_error`). If both are accepted, their settings differ only in
the parts made of those options (`Options.AlikeBut.parts`). So they are answered alike exactly if they are
to be refused alike (`Options.answeredAlike_iff`).

A host that brings its own transport means to have said all there is to say about it. The other options on
the transport do not count then, but for one: the name of an unknown kind is refused where it would decide
the kind (`Options.misnamed?`, `Options.alike_unless_misnamed`).
-/

namespace CrashReporter

/-! ## Having the rest in common -/

/-- Settings with the same parts, but for those made of the options that have `changed`. -/
structure Settings.AlikeBut (changed : List Variable) (s s' : Settings) : Prop where
  appId : .appId ∉ changed → s.appId = s'.appId
  apiKey : .apiKey ∉ changed → s.apiKey = s'.apiKey
  baseUrl : .baseUrl ∉ changed → s.baseUrl = s'.baseUrl
  configDir : .configDir ∉ changed → s.configDir = s'.configDir
  autoShutdown : .autoShutdown ∉ changed → s.autoShutdown = s'.autoShutdown
  panicHook : .panicHook ∉ changed → s.panicHook = s'.panicHook
  workerThreads : .workerThreads ∉ changed → s.workerThreads = s'.workerThreads
  serialPort : .serialPort ∉ changed → s.serialPort = s'.serialPort
  /-- A port decides the kind as well. -/
  transportKind : .serialPort ∉ changed → .transport ∉ changed → s.transportKind = s'.transportKind
  shutdownGrace : .shutdownGrace ∉ changed → s.shutdownGrace = s'.shutdownGrace

namespace Options

variable {o o' : Options} {env env' : Environment} {custom custom' : Bool} {settings settings' : Settings}
  {changed : List Variable}

/-- The same options in environments that read the same, but for the options that have `changed` and the
variables that stand for them. -/
structure AlikeBut (changed : List Variable) (o : Options) (env : Environment) (o' : Options)
    (env' : Environment) : Prop where
  environment : ∀ v ∉ changed, env.string? v.name = env'.string? v.name
  appId : .appId ∉ changed → o.appId = o'.appId
  apiKey : .apiKey ∉ changed → o.apiKey = o'.apiKey
  baseUrl : .baseUrl ∉ changed → o.baseUrl = o'.baseUrl
  configDir : .configDir ∉ changed → o.configDir = o'.configDir
  autoShutdown : .autoShutdown ∉ changed → o.autoShutdown = o'.autoShutdown
  panicHook : .panicHook ∉ changed → o.panicHook = o'.panicHook
  workerThreads : .workerThreads ∉ changed → o.workerThreads = o'.workerThreads
  serialPort : .serialPort ∉ changed → o.serialPort = o'.serialPort
  transportKind : .transport ∉ changed → o.transportKind = o'.transportKind
  shutdownGrace : .shutdownGrace ∉ changed → o.shutdownGrace = o'.shutdownGrace

namespace AlikeBut

variable (alike : AlikeBut changed o env o' env')
include alike

theorem textOr_appId (kept : .appId ∉ changed) : textOr env .appId o.appId = textOr env' .appId o'.appId := by
  rw [textOr, textOr, alike.appId kept, alike.environment _ kept]

theorem textOr_apiKey (kept : .apiKey ∉ changed) :
    textOr env .apiKey o.apiKey = textOr env' .apiKey o'.apiKey := by
  rw [textOr, textOr, alike.apiKey kept, alike.environment _ kept]

theorem textOr_serialPort (kept : .serialPort ∉ changed) :
    textOr env .serialPort o.serialPort = textOr env' .serialPort o'.serialPort := by
  rw [textOr, textOr, alike.serialPort kept, alike.environment _ kept]

theorem resolveTransport (kept : .transport ∉ changed) (port : Option String) :
    o.resolveTransport env port = o'.resolveTransport env' port := by
  simp only [Options.resolveTransport, alike.transportKind kept, alike.environment _ kept]

/-- Where both are accepted, the settings have the rest in common. -/
theorem parts (made : o.Makes env custom settings) (made' : o'.Makes env' custom' settings') :
    settings.AlikeBut changed settings' where
  appId kept := by
    apply Option.some.inj
    rw [← made.appId, ← made'.appId, alike.textOr_appId kept]
  apiKey kept := by
    apply Option.some.inj
    rw [← made.apiKey, ← made'.apiKey, alike.textOr_apiKey kept]
  baseUrl kept := by
    rw [made.baseUrl, made'.baseUrl, resolveBaseUrl, resolveBaseUrl, alike.baseUrl kept, alike.environment _ kept]
  configDir kept := by rw [made.configDir, made'.configDir, alike.configDir kept, alike.environment _ kept]
  autoShutdown kept := by
    rw [made.autoShutdown, made'.autoShutdown, Environment.flag?, Environment.flag?, alike.autoShutdown kept,
      alike.environment _ kept]
  panicHook kept := by
    rw [made.panicHook, made'.panicHook, Environment.flag?, Environment.flag?, alike.panicHook kept,
      alike.environment _ kept]
  workerThreads kept := by
    rw [made.workerThreads, made'.workerThreads, resolveWorkers, resolveWorkers, Environment.natural?,
      Environment.natural?, alike.workerThreads kept, alike.environment _ kept]
  serialPort kept := by rw [made.serialPort, made'.serialPort, alike.textOr_serialPort kept]
  transportKind portKept kept := by
    have port : settings.serialPort = settings'.serialPort := by
      rw [made.serialPort, made'.serialPort, alike.textOr_serialPort portKept]
    apply Except.ok.inj
    rw [← made.transportKind, ← made'.transportKind, port, alike.resolveTransport kept]
  shutdownGrace kept := by
    rw [made.shutdownGrace, made'.shutdownGrace, resolveGrace, resolveGrace, Environment.natural?,
      Environment.natural?, alike.shutdownGrace kept, alike.environment _ kept]

end AlikeBut

/-! ## What options are refused for -/

/-- The name that would decide the kind of transport, if it is the name of none: neither a port nor a kind is
set, and the environment has the name. -/
def misnamed? (o : Options) (env : Environment) : Option String :=
  if (textOr env .serialPort o.serialPort).isSome ∨ o.transportKind.isSome then none
  else (env.string? Variable.transport.name).filter fun name => (TransportKind.ofName? name).isNone

/-- The refusal of a name that no kind of transport has. -/
def unknownTransport (name : String) : Failure := .configuration s!"unknown transport '{name}'"

/-- What options are refused for: the first of what is missing or not known. -/
def refusal? (o : Options) (env : Environment) (custom : Bool) : Option Failure :=
  if textOr env .appId o.appId = none then some (.configuration "app ID is missing or empty")
  else if textOr env .apiKey o.apiKey = none then some (.configuration "API key is missing or empty")
  else match o.misnamed? env with
    | some name => some (unknownTransport name)
    | none =>
      if custom = false ∧ textOr env .serialPort o.serialPort = none ∧
          o.resolveTransport env none = .ok .serial then
        some (.configuration "serial transport selected without a serial port")
      else none

/-- The name of no kind is what the choice of a transport fails for. -/
theorem resolveTransport_of_misnamed {name : String} (misnamed : o.misnamed? env = some name) :
    o.resolveTransport env (textOr env .serialPort o.serialPort) =
      .error (unknownTransport name) := by
  unfold misnamed? at misnamed
  split at misnamed
  · cases misnamed
  next unset =>
  obtain ⟨port, kind⟩ := not_or.mp unset
  obtain ⟨named, unknown⟩ := Option.filter_eq_some_iff.mp misnamed
  rw [Bool.not_eq_true, Option.isSome_eq_false_iff, Option.isNone_iff_eq_none] at kind
  rw [resolveTransport, if_neg port, kind, named]
  simp only [Option.isNone_iff_eq_none.mp unknown, unknownTransport]

/-- Otherwise there is a kind: serial with a port, and what is chosen without one. -/
theorem resolveTransport_of_named (named : o.misnamed? env = none) :
    ∃ kind, o.resolveTransport env (textOr env .serialPort o.serialPort) = .ok kind := by
  unfold misnamed? at named
  unfold resolveTransport
  cases port : textOr env .serialPort o.serialPort with
  | some p => exact ⟨.serial, rfl⟩
  | none =>
    cases chosen : o.transportKind with
    | some kind => exact ⟨kind, rfl⟩
    | none =>
      cases read : env.string? Variable.transport.name with
      | none => exact ⟨.mqtt, rfl⟩
      | some name =>
        cases known : TransportKind.ofName? name with
        | some kind => exact ⟨kind, by simp [known]⟩
        | none => simp [port, chosen, read, known] at named

/-- Options are refused for exactly that. -/
theorem resolve_eq_error {f : Failure} :
    o.resolve env custom = .error f ↔ o.refusal? env custom = some f := by
  unfold resolve refusal?
  cases textOr env .appId o.appId with
  | none => simp [required, bind, Except.bind]
  | some app =>
    cases textOr env .apiKey o.apiKey with
    | none => simp [required, bind, Except.bind]
    | some key =>
      cases misnamed : o.misnamed? env with
      | some name => simp [required, bind, Except.bind, resolveTransport_of_misnamed misnamed]
      | none =>
        obtain ⟨kind, chosen⟩ := resolveTransport_of_named misnamed
        cases port : textOr env .serialPort o.serialPort with
        | some p => simp [required, bind, Except.bind, pure, Except.pure, port ▸ chosen]
        | none =>
          rw [port] at chosen
          cases kind <;> cases custom <;>
            simp [required, bind, Except.bind, pure, Except.pure, throw, throwThe, MonadExceptOf.throw, chosen]

/-- Options that nothing is wrong with make settings. -/
theorem refusal?_eq_none : o.refusal? env custom = none ↔ ∃ settings, o.Makes env custom settings := by
  constructor
  · intro unrefused
    cases answer : o.resolve env custom with
    | ok settings => exact ⟨settings, resolve_eq_ok.mp answer⟩
    | error f =>
      rw [resolve_eq_error.mp answer] at unrefused
      cases unrefused
  · rintro ⟨settings, made⟩
    cases refusal : o.refusal? env custom with
    | none => rfl
    | some f =>
      rw [← resolve_eq_error, resolve_eq_ok.mpr made] at refusal
      cases refusal

/-! ## Answers -/

/-- The same refusal, or settings with the same parts but for those made of the options that have `changed`. -/
inductive AnsweredAlike (changed : List Variable) : Except Failure Settings → Except Failure Settings → Prop
  | refused (f : Failure) : AnsweredAlike changed (.error f) (.error f)
  | accepted {s s' : Settings} (alike : s.AlikeBut changed s') : AnsweredAlike changed (.ok s) (.ok s')

/-- Hosts that have the rest in common are answered alike exactly if they are to be refused alike. -/
theorem answeredAlike_iff (alike : AlikeBut changed o env o' env') :
    AnsweredAlike changed (o.resolve env custom) (o'.resolve env' custom') ↔
      o.refusal? env custom = o'.refusal? env' custom' := by
  constructor
  · intro same
    generalize answer : o.resolve env custom = r, answer' : o'.resolve env' custom' = r' at same
    cases same with
    | refused f => rw [resolve_eq_error.mp answer, resolve_eq_error.mp answer']
    | accepted =>
      rw [refusal?_eq_none.mpr ⟨_, resolve_eq_ok.mp answer⟩, refusal?_eq_none.mpr ⟨_, resolve_eq_ok.mp answer'⟩]
  · intro same
    cases refusal : o.refusal? env custom with
    | some f =>
      rw [resolve_eq_error.mpr refusal, resolve_eq_error.mpr (same ▸ refusal)]
      exact .refused f
    | none =>
      obtain ⟨settings, made⟩ := refusal?_eq_none.mp refusal
      obtain ⟨settings', made'⟩ := refusal?_eq_none.mp (same ▸ refusal)
      rw [resolve_eq_ok.mpr made, resolve_eq_ok.mpr made']
      exact .accepted (alike.parts made made')

/-! ## A transport of the host's own -/

/-- The reason for a refusal tells the name. -/
theorem unknownTransport_inj {name name' : String} (same : unknownTransport name = unknownTransport name') : name = name' := by
  have text : "unknown transport '" ++ name ++ "'" = "unknown transport '" ++ name' ++ "'" :=
    Failure.configuration.inj same
  have chars := congrArg String.toList text
  simp only [String.toList_append, List.append_assoc] at chars
  exact String.ext (List.append_cancel_right (List.append_cancel_left chars))

/-- With a transport of the host's own, only three things can be wrong. -/
theorem refusal?_custom : o.refusal? env true =
    if textOr env .appId o.appId = none then some (.configuration "app ID is missing or empty")
    else if textOr env .apiKey o.apiKey = none then some (.configuration "API key is missing or empty")
    else (o.misnamed? env).map unknownTransport := by
  unfold refusal?
  cases o.misnamed? env <;> simp

/-- Hosts that bring their own transport, and differ only in what they and their environments say of the
transport, are answered alike exactly if none of them names an unknown kind where that would decide the kind,
or both name the same one, or they are refused for their application's id or their key before that counts. -/
theorem alike_unless_misnamed (alike : AlikeBut [.serialPort, .transport] o env o' env') :
    AnsweredAlike [.serialPort, .transport] (o.resolve env true) (o'.resolve env' true) ↔
      (textOr env .appId o.appId ≠ none → textOr env .apiKey o.apiKey ≠ none →
        o.misnamed? env = o'.misnamed? env') := by
  have app := alike.textOr_appId (by decide)
  have key := alike.textOr_apiKey (by decide)
  rw [answeredAlike_iff alike, refusal?_custom, refusal?_custom, ← app, ← key]
  by_cases unnamed : textOr env .appId o.appId = none
  · simp [unnamed]
  by_cases keyless : textOr env .apiKey o.apiKey = none
  · simp [keyless]
  simp only [unnamed, keyless, if_false, ne_eq, not_false_eq_true, forall_const]
  constructor
  · intro same
    exact Option.map_injective (fun _ _ => unknownTransport_inj) same
  · intro same
    rw [same]

/-- A serial transport without a port in an environment that names an unknown kind is answered as nothing at
all is; the unknown kind alone is not. -/
theorem alike_unless_misnamed_serial :
    let host (kind : Option TransportKind) : Options := { least with transportKind := kind }
    let env : Environment := [("FAULTLINE_TRANSPORT", Text.utf8 "pigeon")]
    AnsweredAlike [.serialPort, .transport] ((host (some .serial)).resolve env true)
        ((host none).resolve [] true) ∧
      ¬ AnsweredAlike [.serialPort, .transport] ((host none).resolve env true) ((host none).resolve [] true) := by
  intro host env
  have alike (kind : Option TransportKind) : AlikeBut [.serialPort, .transport] (host kind) env (host none) [] := by
    refine ⟨fun v kept => ?_, fun _ => rfl, fun _ => rfl, fun _ => rfl, fun _ => rfl, fun _ => rfl, fun _ => rfl,
      fun _ => rfl, fun _ => rfl, fun kept => absurd (by decide) kept, fun _ => rfl⟩
    cases v with
    | transport => exact absurd (by decide) kept
    | _ => rfl
  constructor
  · rw [alike_unless_misnamed (alike (some .serial))]
    decide +kernel
  · rw [alike_unless_misnamed (alike none)]
    decide +kernel

/-- The name of an unknown kind is refused, though the host brings its own transport and would be accepted
without the name. -/
theorem unknown_kind_refused :
    least.resolve [("FAULTLINE_TRANSPORT", Text.utf8 "pigeon")] true =
        .error (.configuration "unknown transport 'pigeon'") ∧
      (least.resolve [] true).isOk = true := by
  decide +kernel

end Options

end CrashReporter
