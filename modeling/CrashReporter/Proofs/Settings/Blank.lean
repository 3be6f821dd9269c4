import CrashReporter.Proofs.Settings.Alike
import Mathlib.Data.List.DropRight

/-!
# Blank options

A variable that is set to something starts with a character that is not blank (`Environment.string?_filled`).
So a text that comes from the environment is never blank, and neither is an address that does, once the slashes
at its end are gone.

A blank option counts as one that is not set, for the application's id, the key and the port
(`Options.textOr_of_blank`). The address of the remote API is the exception: a blank one is taken as it is, or,
if it is empty, the default in its place and never the variable (`Options.resolve_blank_iff`). No address ends
with a slash (`Options.resolveBaseUrl_last`), and one is blank only if the host has set it so.
-/

namespace CrashReporter

/-! ## Texts without something at their ends -/

/-- A text without blanks at its ends begins with something else. -/
theorem Text.head_trimChars {cs : List Char} {c : Char} {rest : List Char} (cons : trimChars cs = c :: rest) :
    isBlank c = false := by
  have front : trimChars cs <+: cs.dropWhile isBlank := List.rdropWhile_prefix isBlank _
  rw [cons] at front
  obtain ⟨back, whole⟩ := front
  have first := List.head?_dropWhile_not isBlank cs
  rw [← whole] at first
  exact first

theorem toList_trimSlashes (s : String) : (trimSlashes s).toList = s.toList.rdropWhile (· == '/') :=
  String.toList_ofList

/-- No slash is left at the end. -/
theorem getLast?_trimSlashes (s : String) : (trimSlashes s).toList.getLast? ≠ some '/' := by
  rw [toList_trimSlashes]
  intro slash
  by_cases empty : s.toList.rdropWhile (· == '/') = []
  · rw [empty] at slash
    cases slash
  · rw [List.getLast?_eq_some_getLast empty] at slash
    have other := List.rdropWhile_last_not (· == '/') s.toList empty
    rw [Option.some.inj slash] at other
    exact other rfl

/-- A blank text has no slashes to lose. -/
theorem trimSlashes_of_blank {s : String} (blank : Text.isBlankText s = true) : trimSlashes s = s := by
  have whole : s.toList.rdropWhile (· == '/') = s.toList := by
    rw [List.rdropWhile_eq_self_iff]
    intro filled slash
    have member := List.all_eq_true.mp blank _ (List.getLast_mem filled)
    rw [beq_iff_eq.mp slash] at member
    exact absurd member (by decide)
  apply String.ext
  rw [toList_trimSlashes, whole]

/-- A variable that is read begins with something that is not blank. -/
theorem Environment.string?_filled {env : Environment} {name s : String} (read : env.string? name = some s) :
    ∃ c rest, s.toList = c :: rest ∧ Text.isBlank c = false := by
  obtain ⟨value, -, said⟩ := Option.bind_eq_some_iff.mp read
  obtain ⟨text, -, trimmed⟩ := Option.bind_eq_some_iff.mp said
  change (if (Text.trim text).isEmpty then none else some (Text.trim text)) = some s at trimmed
  split at trimmed
  · cases trimmed
  next filled =>
  cases trimmed
  have chars : (Text.trim text).toList = Text.trimChars text.toList := String.toList_ofList
  cases shape : Text.trimChars text.toList with
  | nil =>
    rw [Text.trim, shape] at filled
    exact absurd rfl filled
  | cons c rest => exact ⟨c, rest, chars.trans shape, Text.head_trimChars shape⟩

/-- A text is not blank if it begins with something that is not. -/
theorem Text.filled_of_head {s : String} {c : Char} {rest : List Char} (chars : s.toList = c :: rest)
    (filled : isBlank c = false) : isBlankText s = false := by
  rw [isBlankText, chars, List.all_cons, filled, Bool.false_and]

/-- An address begins with what it began with before it lost its slashes, if something is left. -/
theorem filled_trimSlashes {s : String} {c : Char} {rest : List Char} (chars : s.toList = c :: rest)
    (filled : Text.isBlank c = false) (left : trimSlashes s ≠ "") : Text.isBlankText (trimSlashes s) = false := by
  have front := List.rdropWhile_prefix (· == '/') s.toList
  rw [← toList_trimSlashes, chars] at front
  cases shape : (trimSlashes s).toList with
  | nil => exact absurd (String.toList_eq_nil_iff.mp shape) left
  | cons d more =>
    rw [shape, List.cons_prefix_cons] at front
    exact Text.filled_of_head shape (front.1 ▸ filled)

/-- A blank text counts for nothing. -/
theorem Text.nonBlank?_of_blank {s : String} (blank : isBlankText s = true) : nonBlank? s = none := by
  rw [nonBlank?, if_pos blank]

namespace Options

variable {o : Options} {env : Environment} {custom : Bool} {settings : Settings} {text : String}

/-! ## The address -/

/-- The address as the host or the environment has it, if that is more than slashes, and otherwise the
default. -/
theorem resolveBaseUrl_cases (o : Options) (env : Environment) :
    o.resolveBaseUrl env = defaultBaseUrl ∨
      ∃ url, o.baseUrl.or (env.string? Variable.baseUrl.name) = some url ∧ trimSlashes url ≠ "" ∧
        o.resolveBaseUrl env = trimSlashes url := by
  unfold resolveBaseUrl
  cases o.baseUrl.or (env.string? Variable.baseUrl.name) with
  | none => exact .inl rfl
  | some url =>
    simp only [Option.map_some]
    split
    · exact .inl rfl
    next filled => exact .inr ⟨url, rfl, fun empty => filled (String.isEmpty_iff.mpr empty), rfl⟩

theorem resolveBaseUrl_ne_empty (o : Options) (env : Environment) : o.resolveBaseUrl env ≠ "" := by
  obtain default | ⟨url, -, filled, same⟩ := o.resolveBaseUrl_cases env
  · rw [default]
    decide
  · rw [same]
    exact filled

theorem resolveBaseUrl_last (o : Options) (env : Environment) :
    (o.resolveBaseUrl env).toList.getLast? ≠ some '/' := by
  obtain default | ⟨url, -, -, same⟩ := o.resolveBaseUrl_cases env
  · rw [default]
    decide
  · rw [same]
    exact getLast?_trimSlashes url

/-- An address is blank exactly if the host has set one that is, apart from slashes at its end. -/
theorem resolveBaseUrl_blank_iff :
    Text.isBlankText (o.resolveBaseUrl env) = true ↔
      ∃ url, o.baseUrl = some url ∧ trimSlashes url ≠ "" ∧ Text.isBlankText (trimSlashes url) = true := by
  constructor
  · intro blank
    obtain default | ⟨url, source, filled, same⟩ := o.resolveBaseUrl_cases env
    · rw [default] at blank
      exact absurd blank (by decide)
    rw [same] at blank
    cases set : o.baseUrl with
    | some given =>
      rw [set, Option.some_or, Option.some.injEq] at source
      exact ⟨given, rfl, source ▸ filled, source ▸ blank⟩
    | none =>
      rw [set, Option.none_or] at source
      obtain ⟨c, rest, chars, head⟩ := Environment.string?_filled source
      rw [filled_trimSlashes chars head filled] at blank
      cases blank
  · rintro ⟨url, set, filled, blank⟩
    have left : (trimSlashes url).isEmpty = false :=
      Bool.eq_false_iff.mpr fun empty => filled (String.isEmpty_iff.mp empty)
    simp only [resolveBaseUrl, set, Option.some_or, Option.map_some, left, Bool.false_eq_true, if_false]
    exact blank

/-- The address of a host that has set a blank one. -/
theorem resolveBaseUrl_of_blank (set : o.baseUrl = some text) (blank : Text.isBlankText text = true) :
    o.resolveBaseUrl env = if text = "" then defaultBaseUrl else text := by
  simp only [resolveBaseUrl, set, Option.some_or, Option.map_some, trimSlashes_of_blank blank, String.isEmpty_iff]

/-! ## Blank options -/

/-- A blank option counts as one that is not set. -/
theorem textOr_of_blank (blank : Text.isBlankText text = true) (v : Variable) :
    textOr env v (some text) = textOr env v none := by
  rw [textOr, textOr, Option.bind_some, Text.nonBlank?_of_blank blank, Option.bind_none]

/-- An option that is a text, and that has a default or has to be there, or names a port. -/
inductive TextOption where
  | appId
  | apiKey
  | baseUrl
  | serialPort
  deriving DecidableEq

/-- The options with one of them set to a text, or not set. -/
def TextOption.put (option : TextOption) (text : Option String) (o : Options) : Options :=
  match option with
  | .appId => { o with appId := text }
  | .apiKey => { o with apiKey := text }
  | .baseUrl => { o with baseUrl := text }
  | .serialPort => { o with serialPort := text }

/-- What the host has set for an address counts for nothing else. -/
theorem alike_put_baseUrl (url url' : Option String) :
    AlikeBut [.baseUrl] (TextOption.baseUrl.put url o) env (TextOption.baseUrl.put url' o) env where
  environment _ _ := rfl
  appId _ := rfl
  apiKey _ := rfl
  baseUrl kept := absurd List.mem_cons_self kept
  configDir _ := rfl
  autoShutdown _ := rfl
  panicHook _ := rfl
  workerThreads _ := rfl
  serialPort _ := rfl
  transportKind _ := rfl
  shutdownGrace _ := rfl

/-- Settings that have all but the address in common are the same if that is. -/
theorem eq_of_alikeBut_baseUrl {s s' : Settings} (alike : s.AlikeBut [.baseUrl] s') : s = s' ↔ s.baseUrl = s'.baseUrl := by
  constructor
  · rintro rfl
    rfl
  · intro address
    obtain ⟨appId, apiKey, -, configDir, autoShutdown, panicHook, workerThreads, serialPort, transportKind,
      shutdownGrace⟩ := alike
    cases s
    cases s'
    rw [Settings.mk.injEq]
    exact ⟨appId (by decide), apiKey (by decide), address, configDir (by decide), autoShutdown (by decide),
      panicHook (by decide), workerThreads (by decide), serialPort (by decide),
      transportKind (by decide) (by decide), shutdownGrace (by decide)⟩

/-- Options with two addresses are answered the same exactly if they are refused anyway, or both addresses come
to the same. -/
theorem resolve_put_baseUrl (url url' : Option String) :
    (TextOption.baseUrl.put url o).resolve env custom = (TextOption.baseUrl.put url' o).resolve env custom ↔
      o.refusal? env custom ≠ none ∨
        (TextOption.baseUrl.put url o).resolveBaseUrl env = (TextOption.baseUrl.put url' o).resolveBaseUrl env := by
  have unseen (url : Option String) : (TextOption.baseUrl.put url o).refusal? env custom = o.refusal? env custom := rfl
  cases refusal : o.refusal? env custom with
  | some f =>
    rw [resolve_eq_error.mpr ((unseen url).trans refusal), resolve_eq_error.mpr ((unseen url').trans refusal)]
    simp
  | none =>
    obtain ⟨s, made⟩ := refusal?_eq_none.mp ((unseen url).trans refusal)
    obtain ⟨s', made'⟩ := refusal?_eq_none.mp ((unseen url').trans refusal)
    rw [resolve_eq_ok.mpr made, resolve_eq_ok.mpr made', Except.ok.injEq,
      eq_of_alikeBut_baseUrl ((alike_put_baseUrl url url').parts made made'), made.baseUrl, made'.baseUrl]
    simp

/-- Options with a blank text are answered as options without it exactly if the text is not the address, or they
are refused anyway, or the address is empty and the environment has no other than the default. An address in
settings does not end with a slash, and is blank exactly if the host has set one that is, apart from slashes at
its end. -/
theorem resolve_blank_iff (option : TextOption) (blank : Text.isBlankText text = true) :
    ((option.put (some text) o).resolve env custom = (option.put none o).resolve env custom ↔
      option ≠ .baseUrl ∨ o.refusal? env custom ≠ none ∨
        text = "" ∧ ({} : Options).resolveBaseUrl env = defaultBaseUrl) ∧
    ∀ settings, o.resolve env custom = .ok settings →
      settings.baseUrl.toList.getLast? ≠ some '/' ∧
      (Text.isBlankText settings.baseUrl = true ↔
        ∃ url, o.baseUrl = some url ∧ trimSlashes url ≠ "" ∧ Text.isBlankText (trimSlashes url) = true) := by
  refine ⟨?_, fun settings accepted => ?_⟩
  · cases option with
    | appId =>
      refine iff_of_true ?_ (.inl (by decide))
      simp only [resolve, TextOption.put, textOr_of_blank blank]
      rfl
    | apiKey =>
      refine iff_of_true ?_ (.inl (by decide))
      simp only [resolve, TextOption.put, textOr_of_blank blank]
      rfl
    | serialPort =>
      refine iff_of_true ?_ (.inl (by decide))
      simp only [resolve, TextOption.put, textOr_of_blank blank]
      rfl
    | baseUrl =>
      have unset : (TextOption.baseUrl.put none o).resolveBaseUrl env = ({} : Options).resolveBaseUrl env := rfl
      have given : (TextOption.baseUrl.put (some text) o).resolveBaseUrl env =
        if text = "" then defaultBaseUrl else text := resolveBaseUrl_of_blank rfl blank
      rw [resolve_put_baseUrl, unset, given]
      by_cases empty : text = ""
      · simp only [empty, if_true, true_and, ne_eq, not_true_eq_false, false_or]
        exact or_congr_right eq_comm
      · have other : text ≠ ({} : Options).resolveBaseUrl env := by
          intro same
          obtain ⟨url, set, -⟩ := resolveBaseUrl_blank_iff.mp (same ▸ blank)
          cases set
        simp only [empty, if_false, other, false_and, or_false, ne_eq, not_true_eq_false, false_or]
  · rw [(resolve_eq_ok.mp accepted).baseUrl]
    exact ⟨o.resolveBaseUrl_last env, resolveBaseUrl_blank_iff⟩

/-- A blank id gives way to the variable, and an empty address does not. -/
theorem resolve_blank_iff_empty :
    let o : Options := { apiKey := some "key" }
    let env : Environment := [("FAULTLINE_APP_ID", Text.utf8 "app"), ("FAULTLINE_BASE_URL", Text.utf8 "http://other/")]
    Text.isBlankText "\t\u3000" = true ∧ Text.isBlankText "" = true ∧
      (TextOption.appId.put (some "\t\u3000") o).resolve env false = (TextOption.appId.put none o).resolve env false ∧
      (TextOption.baseUrl.put (some "") o).resolve env false ≠ (TextOption.baseUrl.put none o).resolve env false := by
  intro o env
  have blank : Text.isBlankText "\t\u3000" = true := by decide
  have empty : Text.isBlankText "" = true := by decide
  refine ⟨blank, empty, (resolve_blank_iff .appId blank).1.mpr (.inl (by decide)), fun same => ?_⟩
  have decided := (resolve_blank_iff .baseUrl empty).1.mp same
  revert decided
  decide +kernel

/-- An address of two blanks stays the address, though the environment has one, which counts if none is set. -/
theorem blank_address_kept :
    let o (url : Option String) : Options := { least with baseUrl := url }
    let env : Environment := [("FAULTLINE_BASE_URL", Text.utf8 "http://other")]
    ((o (some "  ")).resolve env false).toOption.map (·.baseUrl) = some "  " ∧
      ((o none).resolve env false).toOption.map (·.baseUrl) = some "http://other" := by
  decide +kernel

end Options

end CrashReporter
