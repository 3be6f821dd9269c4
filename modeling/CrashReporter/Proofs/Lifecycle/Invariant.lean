import CrashReporter.Proofs.Lifecycle.Process

/-!
# The lifecycle of any process

Whatever the threads of a process do, and in whatever order: as long as nobody panics who is asked for
an agent and the clock can name the end of each grace, the process is in order whenever the lock is free
(`Process.orderly_run`).

* `Process.Accounted`: a transport was told to begin once for its connection, is told to end once when
  its agent does not run any more, and no later agent asks for anything before that;
* `Process.Sound`: what holds of a process whenever the lock is free, beyond what holds of any;
* `Process.Sound.change`, `Process.Sound.run`: every calm move keeps it.
-/

namespace CrashReporter.Process

/-! ## Told once to begin, and once to end -/

section

variable {log : List (Nat × Call)} {n m : Nat} {calls : List Call} {transport : Transport} {live : Bool}

/-- What stands on a longer record stood on it before, or is new. -/
theorem noted_before {past : List (Nat × Call)} {e : Nat × Call}
    (h : past ++ [e] <+: log ++ calls.map fun call => (m, call)) :
    past ++ [e] <+: log ∨ e.1 = m ∧ ∃ more, past = log ++ more ∧
      more <+: calls.map fun call => (m, call) := by
  rcases List.prefix_or_prefix_of_prefix h (List.prefix_append _ _) with earlier | later
  · exact .inl earlier
  · rcases List.prefix_concat_iff.mp later with rfl | ⟨more, rfl⟩
    · exact .inl (List.prefix_refl _)
    · rw [List.append_assoc, List.prefix_append_right_inj] at h
      have new : e ∈ calls.map fun call => (m, call) := h.subset (by simp)
      obtain ⟨call, -, rfl⟩ := List.mem_map.mp new
      exact .inr ⟨rfl, more, rfl, (List.prefix_append _ _).trans h⟩

/-- On record, the transport of agent `n` was told to begin once for its connection. It was not told to
end if the agent is `live`, and once for its connection otherwise; and that was before a later agent
asked for anything. -/
structure Accounted (log : List (Nat × Call)) (n : Nat) (transport : Transport) (live : Bool) :
    Prop where
  opens : count Call.opens n log = transport.links
  closes : count Call.closes n log = if live then 0 else transport.links
  before : ∀ past e, past ++ [e] <+: log → n < e.1 → count Call.closes n past = transport.links

/-- A later agent asks only when this one has ended. -/
theorem Accounted.other (h : Accounted log n transport live) (other : m ≠ n)
    (settled : n < m → live = false) (calls : List Call) :
    Accounted (log ++ calls.map fun call => (m, call)) n transport live where
  opens := by rw [count_append, count_other other, h.opens, Nat.add_zero]
  closes := by rw [count_append, count_other other, h.closes, Nat.add_zero]
  before past e noted later := by
    rcases noted_before noted with noted | ⟨rfl, more, rfl, new⟩
    · exact h.before past e noted later
    · have none : count Call.closes n more = 0 :=
        Nat.le_zero.mp (Nat.le_trans new.sublist.countP_le (Nat.le_of_eq (count_other other)))
      rw [count_append, none, h.closes, settled later]
      simp

/-- An agent that asks to end its transport is not `live` any more. -/
theorem Accounted.own {live' : Bool} (h : Accounted log n transport live)
    (opens : calls.countP Call.opens = 0)
    (closes : (if live then 0 else transport.links) + calls.countP Call.closes =
      if live' then 0 else transport.links) :
    Accounted (log ++ calls.map fun call => (n, call)) n transport live' where
  opens := by rw [count_more, opens, h.opens, Nat.add_zero]
  closes := by rw [count_more, h.closes, closes]
  before past e noted later := by
    rcases noted_before noted with noted | ⟨rfl, -⟩
    · exact h.before past e noted later
    · exact absurd later (Nat.lt_irrefl _)

/-- An agent that runs has told its transport to begin. -/
theorem accounted_new (earlier : ∀ e ∈ log, e.1 < n) (opens : calls.countP Call.opens = transport.links)
    (closes : calls.countP Call.closes = 0) :
    Accounted (log ++ calls.map fun call => (n, call)) n transport true where
  opens := by rw [count_more, count_of_lt earlier, opens, Nat.zero_add]
  closes := by rw [count_more, count_of_lt earlier, closes]; rfl
  before past e noted later := by
    rcases noted_before noted with noted | ⟨rfl, -⟩
    · have := earlier e (noted.subset (by simp))
      omega
    · exact absurd later (Nat.lt_irrefl _)

end

/-! ## Whenever the lock is free -/

variable {fit : Settings → Prop} {p p' : Process}

/-- What holds of a process whenever the lock is free, beyond what holds of any, if its moves are calm. -/
structure Sound (fit : Settings → Prop) (p : Process) : Prop extends Lively fit p where
  /-- The process is starting only while an agent is being brought up. -/
  starting : p.life.phase = .starting → p.life.pending.isSome = true
  recorded : p.life.phase = .running → ∀ a, p.life.agent = some a →
    ∀ transport, (p.latest, transport) ∈ p.ran ↔ transport = a.sink.transport
  /-- An agent that does not run any more is one whose sink is closed. -/
  stopped : p.life.phase ≠ .running → ∀ a, p.life.agent = some a → a.sink.closed = true
  ranEarlier : ∀ r ∈ p.ran, r.1 + p.underway ≤ p.asked
  accounted : ∀ n transport, (n, transport) ∈ p.ran →
    Accounted p.log n transport (p.life.phase = .running ∧ n = p.latest)

theorem sound_empty (fit : Settings → Prop) : ({} : Process).Sound fit where
  toLively := lively_empty fit
  starting h := nomatch h
  recorded h := nomatch h
  stopped _ _ h := nomatch h
  ranEarlier _ h := nomatch h
  accounted _ _ h := nomatch h

theorem Sound.ranOlder (h : p.Sound fit) (busy : p.life.pending.isSome = true) : ∀ r ∈ p.ran, r.1 < p.asked := by
  have := h.ranEarlier
  rwa [h.one_underway busy] at this

/-- Whatever the agent that is being brought up asks for, the transports of those before it have been
told to end. -/
theorem Sound.othersEnded (h : p.Sound fit) (busy : p.life.pending.isSome = true) (calls : List Call) :
    ∀ n transport, (n, transport) ∈ p.ran →
      Accounted (p.log ++ calls.map fun call => (p.asked, call)) n transport false := by
  intro n transport ran
  have accounted := h.accounted n transport ran
  simp only [h.held.pending busy, reduceCtorEq, false_and, decide_false] at accounted
  exact accounted.other (Nat.ne_of_gt (h.ranOlder busy _ ran)) (fun _ => rfl) calls

/-- The agent that ran last may ask for more, but not for its transport to begin or to end. -/
theorem Sound.tended (h : p.Sound fit) {act : Lifecycle.Act} {calls : List Call} {life : Lifecycle}
    (tended : p.life.Tended act calls life) : ({ p.note p.latest calls with life } : Process).Sound fit where
  toLively := h.toLively.tended tended
  starting starting := tended.pending ▸ h.starting (tended.phase ▸ starting)
  recorded running a' here := by
    obtain ⟨a, there, alike⟩ := tended.agent a' here
    rw [alike.sink]
    exact h.recorded (tended.phase ▸ running) a there
  stopped idle a' here := by
    obtain ⟨a, there, alike⟩ := tended.agent a' here
    rw [alike.sink]
    exact h.stopped (tended.phase ▸ idle) a there
  ranEarlier := h.ranEarlier
  accounted n transport ran := by
    rw [tended.phase]
    by_cases own : n = p.latest
    · subst own
      exact (h.accounted _ _ ran).own tended.opens (by rw [tended.closes, Nat.add_zero]; rfl)
    · exact (h.accounted n transport ran).other (Ne.symm own) (by simp [own]) calls

/-- The agent that was being brought up runs. -/
theorem Sound.began (h : p.Sound fit) {settings : Settings} {custom : Bool} {a : Agent} {calls : List Call}
    (asked : p.life.pending = some (settings, custom)) (fresh : Startup.Fresh a settings calls) :
    ({ p.note p.asked calls with
      life := p.life.conclude settings (.ok a)
      underway := p.underway - 1
      latest := p.asked
      ran := (p.asked, a.sink.transport) :: p.ran } : Process).Sound fit := by
  have busy : p.life.pending.isSome = true := by rw [asked]; rfl
  have alone : p.underway - 1 = 0 := by rw [h.one_underway busy]
  exact {
    toLively := h.toLively.began asked fresh _
    starting := fun h => nomatch h
    recorded := by
      rintro - b ⟨⟩ transport
      simp only [List.mem_cons, Prod.mk.injEq, true_and]
      exact or_iff_left fun ran => Nat.lt_irrefl _ (h.ranOlder busy _ ran)
    stopped := fun idle => absurd rfl idle
    ranEarlier := by
      intro r ran
      rw [alone]
      rcases List.mem_cons.mp ran with rfl | ran
      · exact Nat.le_refl _
      · exact Nat.le_of_lt (h.ranOlder busy r ran)
    accounted := by
      intro n transport ran
      rcases List.mem_cons.mp ran with ran | ran
      · cases ran
        simpa [Lifecycle.conclude] using accounted_new (h.older busy) fresh.opens fresh.closes
      · have other := Nat.ne_of_lt (h.ranOlder busy _ ran)
        simpa [Lifecycle.conclude, other] using h.othersEnded busy calls n transport ran }

/-- The agent that ran is shut down, and the end of its grace can be named. -/
theorem Sound.shutDown (h : p.Sound fit) {now : Nat} {calls : List Call} {life : Lifecycle}
    (waits : ∀ settings, fit settings → Lifecycle.canWait now settings.shutdownGrace = true)
    (running : p.life.phase = .running) (stops : p.life.beginShutdown.stopAgent now = (calls, life)) :
    ({ p.note p.latest calls with
      life := ({ life with phase := .uninitialized } : Lifecycle).release } : Process).Sound fit := by
  obtain ⟨a, here, untold⟩ := h.agent running
  obtain ⟨calls', stopped, stops', closed, opens, closes⟩ :=
    untold.stopAgent (l := p.life.beginShutdown) here now
  obtain ⟨rfl, rfl⟩ := Prod.mk.inj (stops.symm.trans stops')
  rw [waits _ untold.settings] at closed closes
  obtain ⟨agent, ended, same⟩ := Lifecycle.stopped_eq stops
  have lively := h.toLively.change (.stopped running stops) trivial
  rw [ended] at lively ⊢
  exact {
    toLively := lively
    starting := fun starting => nomatch starting
    recorded := fun running => nomatch running
    stopped := by
      intro idle b there
      obtain rfl := Option.some.inj (same b there)
      exact closed
    ranEarlier := h.ranEarlier
    accounted := by
      intro n transport ran
      have accounted := h.accounted n transport ran
      by_cases own : n = p.latest
      · subst own
        obtain rfl := (h.recorded running a here transport).mp ran
        simp only [running, decide_true, and_self] at accounted
        exact accounted.own opens (by simp [closes])
      · simp only [own, and_false, decide_false] at accounted
        exact accounted.other (Ne.symm own) (fun _ => rfl) _ }

/-! ## Calm moves -/

/-- Nobody panics who is asked, if an agent is brought up, and the end of its grace can be named, if one is shut
down whose settings `fit`. -/
def Move.Calm (fit : Settings → Prop) : Move → Prop
  | .act (.bringUp paths _ answers) =>
    (∀ configured, (paths configured).isSome = true) ∧ ∀ call, answers.panicsAt call = false
  | .shutdown now =>
    ∀ settings, fit settings → Lifecycle.canWait now settings.shutdownGrace = true
  | _ => True

theorem Sound.change (h : p.Sound fit) {m : Move} (change : p.Change m p') (fits : m.Fits fit)
    (calm : m.Calm fit) : p'.Sound fit := by
  have lively := h.toLively.change change fits
  cases change with
  | same => exact h
  | begun idle resolved =>
    have none := h.none_underway (by simp [idle])
    exact {
      toLively := lively
      starting := fun _ => rfl
      recorded := fun running => nomatch running
      stopped := fun _ => h.stopped (by simp [idle])
      ranEarlier := by simpa [none] using h.ranEarlier
      accounted := by simpa [idle] using h.accounted }
  | failed asked =>
    have busy : p.life.pending.isSome = true := by rw [asked]; rfl
    exact {
      toLively := lively
      starting := fun starting => nomatch starting
      recorded := fun running => nomatch running
      stopped := fun _ => h.stopped (by simp [h.held.pending busy])
      ranEarlier := fun r ran => Nat.le_trans (Nat.add_le_add_left (Nat.sub_le _ _) _) (h.ranEarlier r ran)
      accounted := h.othersEnded busy _ }
  | @lost _ _ _ _ settings _ asked panicked =>
    obtain ⟨placed, quiet⟩ := calm
    rcases panicked with lost | ⟨call, -, panics⟩
    · simpa [lost] using placed settings.configDir
    · cases panics.symm.trans (quiet call)
  | ran asked fresh => exact h.began asked fresh
  | tended tended => exact h.tended tended
  | stopped running stops => exact h.shutDown calm running stops

/-- Whatever the moves of a process, if they are calm. -/
theorem Sound.run {moves : List Move} (calm : ∀ m ∈ moves, m.Calm (AskedFor moves)) :
    (({} : Process).run moves).Ensures (Sound (AskedFor moves)) :=
  Disk.ensures_foldlM
    (fun h m member => (change_step h.held m).mono fun _ change =>
      h.change change (fits_askedFor member) (calm m member))
    (sound_empty _)

/-! ## In order -/

/-- A process whose lock is free is in order. -/
structure Orderly (p : Process) : Prop where
  /-- An agent runs exactly if senders find one. -/
  running : p.life.phase = .running ↔ p.life.hasAgent = true
  /-- One agent is being brought up if the process is starting, and none otherwise. -/
  starting : p.underway = if p.life.phase = .starting then 1 else 0
  otherwise : p.life.phase = .running ∨ p.life.phase = .starting ∨ p.life.phase = .uninitialized
  /-- Where an agent runs or is being brought up, nobody gets another, and nothing changes. -/
  refused : p.life.phase ≠ .uninitialized → ∀ o env custom,
    p.life.begin o env custom = .error .alreadyInitialized ∧ p.step (.act (.begin o env custom)) = pure p
  /-- Where no agent runs, a shutdown changes nothing. -/
  idle : p.life.phase ≠ .running → ∀ now, p.step (.shutdown now) = pure p
  /-- The transport of the agent that runs is on record. -/
  recorded : p.life.phase = .running → ∀ a, p.life.agent = some a →
    (p.latest, a.sink.transport) ∈ p.ran
  /-- It was started, and not ended. -/
  live : p.life.phase = .running → ∀ a, p.life.agent = some a →
    a.sink.transport.isStarted = true ∧ a.sink.closed = false
  /-- The transport of an agent that does not run any more, but is still held, was ended. -/
  ended : p.life.phase ≠ .running → ∀ a, p.life.agent = some a → a.sink.closed = true
  /-- The transport of each agent that has run was told once to begin. -/
  opened : ∀ n transport, (n, transport) ∈ p.ran → count Call.opens n p.log = transport.links
  /-- It was told once to end, unless the agent still runs. -/
  closed : ∀ n transport, (n, transport) ∈ p.ran → count Call.closes n p.log =
    if p.life.phase = .running ∧ n = p.latest then 0 else transport.links
  /-- No later agent asks for anything before it was told to end. -/
  ordered : ∀ n transport, (n, transport) ∈ p.ran → ∀ past e, past ++ [e] <+: p.log → n < e.1 →
    count Call.closes n past = transport.links

theorem Sound.orderly (h : p.Sound fit) : p.Orderly where
  running := by
    simp only [Lifecycle.hasAgent, Bool.and_eq_true, h.held.offered]
    exact iff_self_and.mpr fun running => h.held.alive.mpr (.inl (h.held.offered.mpr running))
  starting := by
    have iff : p.life.pending.isSome = true ↔ p.life.phase = .starting := ⟨h.held.pending, h.starting⟩
    simpa only [iff] using h.underway
  otherwise := by
    have unlocked := h.unlocked
    cases phase : p.life.phase <;> simp_all
  refused taken o env custom := by
    have refused := Lifecycle.begin_taken taken o env custom
    refine ⟨refused, ?_⟩
    simp only [Process.step, Lifecycle.act_begin_taken taken, pure_bind, record_refused refused]
  idle := step_shutdown_idle
  recorded running a here := (h.recorded running a here _).mpr rfl
  live running a here := ⟨(h.runs running a here).started, (h.runs running a here).unclosed⟩
  ended := h.stopped
  opened n transport ran := (h.accounted n transport ran).opens
  closed n transport ran := by
    simpa using (h.accounted n transport ran).closes
  ordered n transport ran := (h.accounted n transport ran).before

/-- Whatever the moves of a process and the files: as long as nobody panics who is asked for an agent,
and the clock can name the end of each grace, they are carried out and leave the process in order. -/
theorem orderly_run (moves : List Move)
    (calm : ∀ paths nonce answers, .act (.bringUp paths nonce answers) ∈ moves →
      (∀ configured, (paths configured).isSome = true) ∧ ∀ call, answers.panicsAt call = false)
    (waits : ∀ now settings, .shutdown now ∈ moves → AskedFor moves settings →
      Lifecycle.canWait now settings.shutdownGrace = true) (t : FileTree) :
    ∃ p t', ({} : Process).run moves t = .ok p t' ∧ p.Orderly := by
  have calm' : ∀ m ∈ moves, m.Calm (AskedFor moves) := by
    intro m member
    cases m with
    | act a =>
      cases a with
      | bringUp paths nonce answers => exact calm paths nonce answers member
      | _ => trivial
    | shutdown now => exact fun settings asked => waits now settings member asked
  obtain ⟨p, t', run, sound⟩ := Sound.run calm' t
  exact ⟨p, t', run, sound.orderly⟩

/-- Two agents run one after the other; a thread holds the first while it is shut down, and so the
second cannot be brought up before it lets go. -/
theorem orderly_run_held :
    let o : Options := .least
    let ask : Move := .act (.begin o [] true)
    let up : Move := .act (.bringUp (fun _ => some ["/state"]) default .obliging)
    let moves : List Move := [ask, ask, up, .act .take,
      .act (.dispatch { excType := "boom" } [] "id" default), .act (.work 0), .shutdown 0, ask, up,
      .act .letGo, ask, up]
    (∀ paths nonce answers, .act (.bringUp paths nonce answers) ∈ moves →
      (∀ configured, (paths configured).isSome = true) ∧ ∀ call, answers.panicsAt call = false) ∧
    (∀ now settings, .shutdown now ∈ moves → AskedFor moves settings →
      Lifecycle.canWait now settings.shutdownGrace = true) ∧
    ∃ p t', ({} : Process).run moves {} = .ok p t' ∧ p.Orderly := by
  intro o ask up moves
  have calm : ∀ paths nonce answers, .act (.bringUp paths nonce answers) ∈ moves →
      (∀ configured, (paths configured).isSome = true) ∧
        ∀ call, answers.panicsAt call = false := by
    intro paths nonce answers h
    have same : (fun _ => some ["/state"]) = paths ∧ default = nonce ∧ .obliging = answers := by
      simpa [moves, ask, up, eq_comm] using h
    obtain ⟨rfl, -, rfl⟩ := same
    exact ⟨fun _ => rfl, Startup.panicsAt_obliging⟩
  have waits : ∀ now settings, .shutdown now ∈ moves → AskedFor moves settings →
      Lifecycle.canWait now settings.shutdownGrace = true := by
    rintro now settings h ⟨o', env, custom, asked, resolved⟩
    have same : now = 0 := by simpa [moves, ask, up] using h
    have same' : o' = o ∧ env = [] ∧ custom = true := by simpa [moves, ask, up] using asked
    obtain ⟨rfl, rfl, rfl⟩ := same'
    subst same
    cases resolved
    exact (by decide : Lifecycle.canWait 0 (.ofSeconds 3) = true)
  exact ⟨calm, waits, orderly_run moves calm waits {}⟩

end CrashReporter.Process
