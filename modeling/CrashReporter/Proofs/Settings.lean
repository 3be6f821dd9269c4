import CrashReporter.Settings
import Mathlib.Data.List.TakeWhile

/-!
# What settings are made of

Settings are made from options and an environment part by part (`Options.Makes`,
`Options.resolve_eq_ok`): each part comes from its option, or from the variable that stands for it, or from
a default. An option that the host has set to something usable is what the settings hold, whatever the
environment is (`Options.Makes.honoured`). The kind of transport is the one exception: a port that only the
environment names makes it serial, so the host's kind holds in every environment that names none, and in
the others only if it is serial (`Options.explicit_unless_port`).
-/

namespace CrashReporter

/-- A text of which something is left. -/
theorem Text.nonBlank?_of_filled {s : String} (filled : isBlankText s = false) : nonBlank? s = some s := by
  simp only [nonBlank?, filled, Bool.false_eq_true, if_false]

/-- Something is left of a text without the slashes at its end if it is not slashes only. -/
theorem trimSlashes_ne_empty {url : String} (filled : ∃ c ∈ url.toList, c ≠ '/') : trimSlashes url ≠ "" := by
  obtain ⟨c, member, other⟩ := filled
  intro empty
  rw [trimSlashes, String.ofList_eq_empty_iff, List.reverse_eq_nil_iff, List.dropWhile_eq_nil_iff] at empty
  exact other (beq_iff_eq.mp (empty c (List.mem_reverse.mpr member)))

/-- The options that no default stands for. -/
def Options.least : Options := { appId := some "app", apiKey := some "key" }

/-- What they come to where no variable is set. -/
def Settings.least : Settings :=
  { appId := "app", apiKey := "key", baseUrl := defaultBaseUrl, configDir := none, autoShutdown := true,
    panicHook := true, workerThreads := defaultWorkerThreads, serialPort := none, transportKind := .mqtt,
    shutdownGrace := defaultShutdownGrace }

namespace Options

variable {o : Options} {env env' : Environment} {custom : Bool} {settings settings' : Settings}

/-- What the parts of settings are that options and an environment make. -/
structure Makes (o : Options) (env : Environment) (custom : Bool) (settings : Settings) : Prop where
  appId : textOr env .appId o.appId = some settings.appId
  apiKey : textOr env .apiKey o.apiKey = some settings.apiKey
  baseUrl : settings.baseUrl = o.resolveBaseUrl env
  configDir : settings.configDir = o.configDir.or (env.string? Variable.configDir.name)
  autoShutdown : settings.autoShutdown =
    (o.autoShutdown.or (env.flag? Variable.autoShutdown.name)).getD true
  panicHook : settings.panicHook = (o.panicHook.or (env.flag? Variable.panicHook.name)).getD true
  workerThreads : settings.workerThreads = o.resolveWorkers env
  serialPort : settings.serialPort = textOr env .serialPort o.serialPort
  transportKind : o.resolveTransport env settings.serialPort = .ok settings.transportKind
  shutdownGrace : settings.shutdownGrace = o.resolveGrace env
  /-- Who delivers over a serial port names one, or supplies the transport. -/
  ported : ¬ (settings.transportKind = .serial ∧ settings.serialPort = none ∧ custom = false)

theorem required_eq_ok {what : String} {text : Option String} {s : String} :
    required what text = .ok s ↔ text = some s := by
  cases text <;> simp [required]

/-- Options are accepted exactly if all parts can be made, and the settings have these parts. -/
theorem resolve_eq_ok : o.resolve env custom = .ok settings ↔ o.Makes env custom settings := by
  constructor
  · intro accepted
    simp only [resolve, bind, Except.bind, pure, Except.pure] at accepted
    split at accepted
    · cases accepted
    next app =>
    split at accepted
    · cases accepted
    next key =>
    split at accepted
    · cases accepted
    next kind =>
    split at accepted
    · cases accepted
    next ported =>
    cases accepted
    exact ⟨required_eq_ok.mp app, required_eq_ok.mp key, rfl, rfl, rfl, rfl, rfl, rfl, kind, rfl, ported⟩
  · intro made
    obtain ⟨appId, apiKey, baseUrl, configDir, autoShutdown, panicHook, workerThreads, serialPort,
      transportKind, shutdownGrace, ported⟩ := made
    rw [serialPort] at transportKind ported
    simp only [resolve, required_eq_ok.mpr appId, required_eq_ok.mpr apiKey, transportKind, ported, bind,
      Except.bind, pure, Except.pure, if_false]
    rw [← baseUrl, ← configDir, ← autoShutdown, ← panicHook, ← workerThreads, ← serialPort, ← shutdownGrace]

theorem resolve_least (custom : Bool) : least.resolve [] custom = .ok .least := by
  cases custom <;> decide +kernel

/-! ## What the host has set -/

/-- Whether settings hold what the host has set to something usable: texts of which something is left
without blanks, an address that is more than slashes, at least one worker, and any other option. -/
structure Honoured (o : Options) (settings : Settings) : Prop where
  appId : ∀ text, o.appId = some text → Text.isBlankText text = false → settings.appId = text
  apiKey : ∀ text, o.apiKey = some text → Text.isBlankText text = false → settings.apiKey = text
  baseUrl : ∀ url, o.baseUrl = some url → (∃ c ∈ url.toList, c ≠ '/') →
    settings.baseUrl = trimSlashes url
  configDir : ∀ dir, o.configDir = some dir → settings.configDir = some dir
  autoShutdown : ∀ flag, o.autoShutdown = some flag → settings.autoShutdown = flag
  panicHook : ∀ flag, o.panicHook = some flag → settings.panicHook = flag
  workerThreads : ∀ n, o.workerThreads = some n → 1 ≤ n → settings.workerThreads = n
  serialPort : ∀ port, o.serialPort = some port → Text.isBlankText port = false →
    settings.serialPort = some port
  shutdownGrace : ∀ grace, o.shutdownGrace = some grace → settings.shutdownGrace = grace

/-- A usable text counts, and not the variable. -/
theorem textOr_of_filled (env : Environment) (v : Variable) {text : String}
    (filled : Text.isBlankText text = false) : textOr env v (some text) = some text := by
  rw [textOr, Option.bind_some, Text.nonBlank?_of_filled filled, Option.some_or]

/-- An address that is more than slashes counts, and not the variable. -/
theorem resolveBaseUrl_of_filled (env : Environment) {url : String} (set : o.baseUrl = some url)
    (filled : ∃ c ∈ url.toList, c ≠ '/') : o.resolveBaseUrl env = trimSlashes url := by
  have left : (trimSlashes url).isEmpty = false :=
    Bool.eq_false_iff.mpr fun empty => trimSlashes_ne_empty filled (String.isEmpty_iff.mp empty)
  simp only [resolveBaseUrl, set, Option.some_or, Option.map_some, left, Bool.false_eq_true, if_false]

/-- At least one worker counts, and not the variable. -/
theorem resolveWorkers_of_some (env : Environment) {n : Nat} (set : o.workerThreads = some n)
    (some : 1 ≤ n) : o.resolveWorkers env = n := by
  simp only [resolveWorkers, set, Option.some_or, some, if_true]

theorem Makes.honoured (made : o.Makes env custom settings) : o.Honoured settings where
  appId text set filled := by
    have part := made.appId
    rw [set, textOr_of_filled env _ filled] at part
    exact (Option.some.inj part).symm
  apiKey text set filled := by
    have part := made.apiKey
    rw [set, textOr_of_filled env _ filled] at part
    exact (Option.some.inj part).symm
  baseUrl url set filled := by rw [made.baseUrl, resolveBaseUrl_of_filled env set filled]
  configDir dir set := by rw [made.configDir, set, Option.some_or]
  autoShutdown flag set := by rw [made.autoShutdown, set, Option.some_or, Option.getD_some]
  panicHook flag set := by rw [made.panicHook, set, Option.some_or, Option.getD_some]
  workerThreads n set some := by rw [made.workerThreads, resolveWorkers_of_some env set some]
  serialPort port set filled := by rw [made.serialPort, set, textOr_of_filled env _ filled]
  shutdownGrace grace set := by
    rw [made.shutdownGrace, resolveGrace, set, Option.some_or, Option.getD_some]

/-! ## The kind of transport -/

/-- The kind that the host has set gives way to a port that the environment names, if the host names none. -/
theorem Makes.transportKind_of_explicit (made : o.Makes env custom settings) {kind : TransportKind}
    (set : o.transportKind = some kind) (portless : o.serialPort.bind Text.nonBlank? = none) :
    settings.transportKind =
      if (env.string? Variable.serialPort.name).isSome then .serial else kind := by
  have port : settings.serialPort = env.string? Variable.serialPort.name := by
    rw [made.serialPort, textOr, portless, Option.none_or]
  have chosen := made.transportKind
  simp only [resolveTransport, port, set] at chosen
  split at chosen <;> (rw [← Except.ok.inj chosen]; simp [*])

/-- In any two environments in which the same options are accepted, the settings hold what the host has set
to something usable. So does the kind of transport that a host has set which names no port, exactly if it is
serial or neither environment names one. -/
theorem explicit_unless_port (accepted : o.resolve env custom = .ok settings)
    (accepted' : o.resolve env' custom = .ok settings') :
    o.Honoured settings ∧ o.Honoured settings' ∧
      ∀ kind, o.transportKind = some kind → o.serialPort.bind Text.nonBlank? = none →
        (settings.transportKind = kind ∧ settings'.transportKind = kind ↔
          kind = .serial ∨ env.string? Variable.serialPort.name = none ∧
            env'.string? Variable.serialPort.name = none) := by
  have made := resolve_eq_ok.mp accepted
  have made' := resolve_eq_ok.mp accepted'
  refine ⟨made.honoured, made'.honoured, fun kind set portless => ?_⟩
  rw [made.transportKind_of_explicit set portless, made'.transportKind_of_explicit set portless]
  cases env.string? Variable.serialPort.name <;> cases env'.string? Variable.serialPort.name <;>
    cases kind <;> simp

/-- A host with an address, a kind of transport and a blank port, first where the environment has values of
its own for all of them but the port, then where it names a port. -/
theorem explicit_unless_port_named :
    let o : Options := {
      appId := some " app ", apiKey := some "key", baseUrl := some "https://host//", serialPort := some " ",
      workerThreads := some 1, transportKind := some .https }
    let env : Environment := [("FAULTLINE_BASE_URL", Text.utf8 "http://other"),
      ("FAULTLINE_APP_ID", Text.utf8 "other"), ("FAULTLINE_THREADS", Text.utf8 "9"),
      ("FAULTLINE_TRANSPORT", Text.utf8 "mqtt"), ("FAULTLINE_SERIAL_PORT", [0xFF])]
    let env' : Environment := [("FAULTLINE_SERIAL_PORT", Text.utf8 "/dev/ttyS0")]
    ∃ settings settings', o.resolve env false = .ok settings ∧ o.resolve env' false = .ok settings' ∧
      settings.appId = " app " ∧ settings'.appId = " app " ∧
      settings.baseUrl = "https://host" ∧ settings'.baseUrl = "https://host" ∧
      settings.workerThreads = 1 ∧ settings'.workerThreads = 1 ∧
      ¬ (settings.transportKind = .https ∧ settings'.transportKind = .https) := by
  intro o env env'
  have accepted : ∃ settings, o.resolve env false = .ok settings :=
    ⟨⟨" app ", "key", "https://host", none, true, true, 1, none, .https, .ofSeconds 3⟩, by decide +kernel⟩
  have accepted' : ∃ settings, o.resolve env' false = .ok settings :=
    ⟨⟨" app ", "key", "https://host", none, true, true, 1, some "/dev/ttyS0", .serial, .ofSeconds 3⟩,
      by decide +kernel⟩
  obtain ⟨settings, accepted⟩ := accepted
  obtain ⟨settings', accepted'⟩ := accepted'
  obtain ⟨honoured, honoured', kind⟩ := explicit_unless_port accepted accepted'
  have url : trimSlashes "https://host//" = "https://host" := by decide
  have filled : ∃ c ∈ "https://host//".toList, c ≠ '/' := ⟨'h', by decide, by decide⟩
  refine ⟨settings, settings', accepted, accepted', honoured.appId _ rfl (by decide),
    honoured'.appId _ rfl (by decide), ?_, ?_, honoured.workerThreads 1 rfl (by decide),
    honoured'.workerThreads 1 rfl (by decide), ?_⟩
  · rw [honoured.baseUrl _ rfl filled, url]
  · rw [honoured'.baseUrl _ rfl filled, url]
  · rw [kind .https rfl (by decide)]
    decide +kernel

/-- A port that the environment names makes the transport serial, though the host has set another kind and
no port. -/
theorem port_overrides_kind :
    let o : Options := { least with transportKind := some .https }
    (o.resolve [("FAULTLINE_SERIAL_PORT", Text.utf8 "/dev/ttyS0")] false).toOption.map (·.transportKind) =
        some .serial ∧
      (o.resolve [] false).toOption.map (·.transportKind) = some .https := by
  decide +kernel

end Options

end CrashReporter
