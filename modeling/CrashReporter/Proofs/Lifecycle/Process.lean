import CrashReporter.Proofs.Lifecycle.Acts

/-!
# A process and its agents

The threads of a process ask for agents, send through them and shut them down, in any order; agents are
brought up in the background, and their own threads carry deliveries on. A process (`Process`) keeps a
record of that: how many agents were asked for, which of them ran, and what each of them asked of those
around it. Its moves are acts, which are put on record (`Process.record`), and whole shutdowns.

* `Process.change_step`: what a move may change (`Process.Change`);
* `Process.Lively`: what holds whenever the lock is free, whatever the agents have been through: the one that runs
  was told to begin once for its connection, and not to end;
* `Process.Lively.change`, `Process.Lively.run`: every move keeps it.
-/

namespace CrashReporter

/-- A process, with a record of its agents, which are numbered from one as they are asked for. -/
structure Process where
  life : Lifecycle := {}
  /-- How many agents were asked for. -/
  asked : Nat := 0
  /-- How many of them are being brought up. -/
  underway : Nat := 0
  /-- The agent that ran last. -/
  latest : Nat := 0
  /-- The agents that have run, and their transports. -/
  ran : List (Nat × Transport) := []
  /-- What the agents have asked for. -/
  log : List (Nat × Call) := []

namespace Process

/-- What a process may do next. -/
inductive Move where
  /-- Something goes on but for a shutdown. -/
  | act (a : Lifecycle.Act)
  /-- A thread shuts the agent down, when the clock shows `now`. -/
  | shutdown (now : Nat)

/-- What agent `n` has asked for is put on record. -/
def note (p : Process) (n : Nat) (calls : List Call) : Process :=
  { p with log := p.log ++ calls.map fun call => (n, call) }

@[simp] theorem note_life (p : Process) (n : Nat) (calls : List Call) :
    (p.note n calls).life = p.life := rfl

@[simp] theorem note_asked (p : Process) (n : Nat) (calls : List Call) :
    (p.note n calls).asked = p.asked := rfl

@[simp] theorem note_underway (p : Process) (n : Nat) (calls : List Call) :
    (p.note n calls).underway = p.underway := rfl

@[simp] theorem note_latest (p : Process) (n : Nat) (calls : List Call) :
    (p.note n calls).latest = p.latest := rfl

@[simp] theorem note_ran (p : Process) (n : Nat) (calls : List Call) :
    (p.note n calls).ran = p.ran := rfl

@[simp] theorem note_log (p : Process) (n : Nat) (calls : List Call) :
    (p.note n calls).log = p.log ++ calls.map fun call => (n, call) := rfl

@[simp] theorem note_nil (p : Process) (n : Nat) : p.note n [] = p := by
  rw [note, List.map_nil, List.append_nil]

/-- The record, once an act has come to calls and to another state of the process. An agent that is asked for is
counted, unless it is refused. The calls that are made for its sake are its own, and it is one of those that have run
if it runs. All other calls are those of the agent that ran last. -/
def record (p : Process) (calls : List Call) (life : Lifecycle) : Lifecycle.Act → Process
  | .begin o env custom =>
    if (p.life.begin o env custom).isOk then { p with life, asked := p.asked + 1, underway := p.underway + 1 }
    else { p with life }
  | .bringUp _ _ _ =>
    if p.life.pending.isSome then
      let p' := { p.note p.asked calls with life, underway := p.underway - 1 }
      match life.phase, life.agent with
      | .running, some a => { p' with latest := p.asked, ran := (p.asked, a.sink.transport) :: p.ran }
      | _, _ => p'
    else { p with life }
  | _ => { p.note p.latest calls with life }

/-- The process after a move. -/
def step (p : Process) : Move → Disk Process
  | .act a => do
    let (calls, life) ← p.life.act a
    return p.record calls life a
  | .shutdown now => do
    let (calls, life) ← p.life.shutdown now
    return { p.note p.latest calls with life }

/-- The process after moves, one after the other. -/
def run (p : Process) (moves : List Move) : Disk Process := moves.foldlM step p

/-! ## What is on record -/

/-- How often agent `n` asked for something of a kind. -/
def count (kind : Call → Bool) (n : Nat) (log : List (Nat × Call)) : Nat :=
  log.countP fun e => e.1 == n && kind e.2

variable {log : List (Nat × Call)} {kind : Call → Bool} {n m : Nat} {calls : List Call}

theorem count_append (log more : List (Nat × Call)) :
    count kind n (log ++ more) = count kind n log + count kind n more :=
  List.countP_append

theorem count_own : count kind n (calls.map fun call => (n, call)) = calls.countP kind := by
  rw [count, List.countP_map]
  congr 1
  funext call
  simp

theorem count_more : count kind n (log ++ calls.map fun call => (n, call)) = count kind n log + calls.countP kind := by
  rw [count_append, count_own]

theorem count_other (other : m ≠ n) : count kind n (calls.map fun call => (m, call)) = 0 := by
  rw [count, List.countP_map, List.countP_eq_zero]
  simp [other]

theorem count_of_lt (earlier : ∀ e ∈ log, e.1 < n) : count kind n log = 0 := by
  rw [count, List.countP_eq_zero]
  intro e he
  have := earlier e he
  simp
  omega

/-- What stands on record after agent `n` has asked for more is of agents up to `m`, if it was before. -/
theorem noted_le {extra : Nat} (old : ∀ e ∈ log, e.1 + extra ≤ m) (own : n + extra ≤ m) :
    ∀ e ∈ log ++ calls.map fun call => (n, call), e.1 + extra ≤ m := by
  intro e he
  rcases List.mem_append.mp he with he | he
  · exact old e he
  · obtain ⟨call, -, rfl⟩ := List.mem_map.mp he
    exact own

/-! ## What a move may change -/

section

variable {p p' : Process} {life : Lifecycle} {a : Lifecycle.Act} {o : Options} {env : Environment} {custom : Bool}
  {paths : Option String → Option (List String)} {nonce : Gcm.Nonce} {answers : Startup.Answers}

theorem record_refused {f : Failure} (refused : p.life.begin o env custom = .error f) :
    p.record [] p.life (.begin o env custom) = p := by
  simp only [record, refused, Except.isOk, Except.toBool, Bool.false_eq_true, if_false]

theorem record_begun (begun : p.life.begin o env custom = .ok life) :
    p.record [] life (.begin o env custom) =
      { p with life, asked := p.asked + 1, underway := p.underway + 1 } := by
  simp only [record, begun, Except.isOk, Except.toBool, if_true]

theorem record_unasked (free : p.life.pending = none) : p.record [] p.life (.bringUp paths nonce answers) = p := by
  simp only [record, free, Option.isSome_none, Bool.false_eq_true, if_false]

/-- Nothing else is on record of an agent that does not run in the end. -/
theorem record_unmade (busy : p.life.pending.isSome = true) (idle : life.phase ≠ .running) :
    p.record calls life (.bringUp paths nonce answers) =
      { p.note p.asked calls with life, underway := p.underway - 1 } := by
  simp only [record, busy, if_true]
  split
  · next running _ => exact absurd running idle
  · rfl

theorem record_tended (tends : a.tends = true) :
    p.record calls life a = { p.note p.latest calls with life } := by
  cases a with
  | begin | bringUp => cases tends
  | _ => rfl

/-- What a move may change in a process whose lock is free. -/
inductive Change (p : Process) : Move → Process → Prop where
  /-- Nothing changes. -/
  | same {m : Move} : Change p m p
  /-- An agent is asked for where there is none, with options that make settings. -/
  | begun {o : Options} {env : Environment} {custom : Bool} {settings : Settings} (idle : p.life.phase = .uninitialized)
      (resolved : o.resolve env custom = .ok settings) :
    Change p (.act (.begin o env custom)) { p with
      life := { p.life with phase := .starting, pending := some (settings, custom) }
      asked := p.asked + 1
      underway := p.underway + 1 }
  /-- The agent that was asked for fails. -/
  | failed {paths : Option String → Option (List String)} {nonce : Gcm.Nonce} {answers : Startup.Answers}
      {calls : List Call} {settings : Settings} {custom : Bool} {f : Failure}
      (asked : p.life.pending = some (settings, custom)) :
    Change p (.act (.bringUp paths nonce answers)) { p.note p.asked calls with
      life := p.life.conclude settings (.failed f)
      underway := p.underway - 1 }
  /-- One who is asked for its sake panics. -/
  | lost {paths : Option String → Option (List String)} {nonce : Gcm.Nonce} {answers : Startup.Answers}
      {calls : List Call} {settings : Settings} {custom : Bool} (asked : p.life.pending = some (settings, custom))
      (panicked : paths settings.configDir = none ∨ ∃ call ∈ calls, answers.panicsAt call = true) :
    Change p (.act (.bringUp paths nonce answers)) { p.note p.asked calls with
      life := p.life.conclude settings .panicked
      underway := p.underway - 1 }
  /-- It runs. -/
  | ran {paths : Option String → Option (List String)} {nonce : Gcm.Nonce} {answers : Startup.Answers}
      {calls : List Call} {settings : Settings} {custom : Bool} {a : Agent}
      (asked : p.life.pending = some (settings, custom)) (fresh : Startup.Fresh a settings calls) :
    Change p (.act (.bringUp paths nonce answers)) { p.note p.asked calls with
      life := p.life.conclude settings (.ok a)
      underway := p.underway - 1
      latest := p.asked
      ran := (p.asked, a.sink.transport) :: p.ran }
  /-- Something goes on around the agent that there is. -/
  | tended {a : Lifecycle.Act} {calls : List Call} {life : Lifecycle} (tended : p.life.Tended a calls life) :
    Change p (.act a) { p.note p.latest calls with life }
  /-- The agent that runs is stopped, and goes away once nobody holds it. -/
  | stopped {now : Nat} {calls : List Call} {life : Lifecycle} (running : p.life.phase = .running)
      (stops : p.life.beginShutdown.stopAgent now = (calls, life)) :
    Change p (.shutdown now) { p.note p.latest calls with
      life := ({ life with phase := .uninitialized } : Lifecycle).release }

/-- An act comes to what it does to the lifecycle, and a record of that. -/
theorem step_act (p : Process) (a : Lifecycle.Act) :
    (p.step (.act a)).Ensures fun p' => ∃ calls life, p.life.Acted a calls life ∧ p' = p.record calls life a :=
  (p.life.acted_act a).bind fun _ acted => Disk.ensures_pure ⟨_, _, acted, rfl⟩

/-- A shutdown of the agent that runs puts on record what stopping it asks for. -/
theorem step_shutdown {now : Nat} (running : p.life.phase = .running)
    (stops : p.life.beginShutdown.stopAgent now = (calls, life)) :
    (p.step (.shutdown now)).Gives { p.note p.latest calls with
      life := ({ life with phase := .uninitialized } : Lifecycle).release } :=
  (Lifecycle.shutdown_of_stopAgent running stops).bind (Disk.gives_pure _)

/-- Where no agent runs, a shutdown changes nothing. -/
theorem step_shutdown_idle (idle : p.life.phase ≠ .running) (now : Nat) : p.step (.shutdown now) = pure p := by
  simp only [step, Lifecycle.shutdown_idle idle, pure_bind, note_nil]

/-- Every move comes to one of these. -/
theorem change_step (held : p.life.Held) (m : Move) : (p.step m).Ensures (p.Change m) := by
  cases m with
  | act a =>
    refine (p.step_act a).mono ?_
    rintro _ ⟨calls, life, acted, rfl⟩
    cases acted with
    | refused refused =>
      rw [record_refused refused]
      exact .same
    | unasked free =>
      rw [record_unasked free]
      exact .same
    | begun idle resolved =>
      rw [record_begun (Lifecycle.begin_idle idle resolved)]
      exact .begun idle resolved
    | @ended _ _ _ settings _ _ o asked panicked fresh =>
      have busy : p.life.pending.isSome = true := by rw [asked]; rfl
      cases o with
      | ok a =>
        simp only [record, busy, if_true, Lifecycle.conclude]
        exact .ran asked (fresh a rfl)
      | failed f =>
        have idle : (p.life.conclude settings (.failed f)).phase ≠ .running := by simp [Lifecycle.conclude]
        rw [record_unmade busy idle]
        exact .failed asked
      | panicked =>
        have idle : (p.life.conclude settings .panicked).phase ≠ .running := by
          simp [Lifecycle.conclude, held.pending busy]
        rw [record_unmade busy idle]
        exact .lost asked (panicked.mp rfl)
    | tended tends tended =>
      rw [record_tended tends]
      exact .tended tended
  | shutdown now =>
    by_cases running : p.life.phase = .running
    · exact (step_shutdown running rfl).ensures (.stopped running rfl)
    · rw [step_shutdown_idle running]
      exact Disk.ensures_pure .same

end

/-! ## The agent that runs -/

section

variable {fit : Settings → Prop} {p p' : Process}

/-- What holds of the agent that runs, `fit` being what is known of all settings: it was told to begin once
for its connection, and not to end. -/
structure Untold (fit : Settings → Prop) (p : Process) (a : Agent) : Prop where
  settings : fit a.settings
  unclosed : a.sink.closed = false
  unstopped : a.scheduler.closed = false
  started : a.sink.transport.isStarted = true
  opens : count Call.opens p.latest p.log = a.sink.transport.links
  closes : count Call.closes p.latest p.log = 0

/-- It may go on, and ask for what neither begins nor ends a connection. -/
theorem Untold.alike {a a' : Agent} (h : p.Untold fit a) (alike : a.Alike a')
    (opens : calls.countP Call.opens = 0) (closes : calls.countP Call.closes = 0) (life : Lifecycle) :
    ({ p.note p.latest calls with life } : Process).Untold fit a' where
  settings := alike.settings ▸ h.settings
  unclosed := by rw [alike.sink, h.unclosed]
  unstopped := by rw [alike.closed, h.unstopped]
  started := by rw [alike.sink, h.started]
  opens := (count_more (n := p.latest)).trans (by rw [h.opens, opens, alike.sink, Nat.add_zero])
  closes := (count_more (n := p.latest)).trans (by rw [h.closes, closes])

/-- A stopped agent has closed its sink, and told its transport to end, exactly if the end of its grace can
be named. -/
theorem Untold.stopAgent {a : Agent} (h : p.Untold fit a) {l : Lifecycle} (here : l.agent = some a)
    (now : Nat) :
    ∃ calls stopped, l.stopAgent now = (calls, { l with agent := some stopped }) ∧
      stopped.sink.closed = Lifecycle.canWait now a.settings.shutdownGrace ∧
      calls.countP Call.opens = 0 ∧
      calls.countP Call.closes =
        if Lifecycle.canWait now a.settings.shutdownGrace then a.sink.transport.links else 0 := by
  cases waits : Lifecycle.canWait now a.settings.shutdownGrace with
  | true =>
    obtain ⟨closes, opens⟩ := Transport.stop_of_isStarted h.started
    exact ⟨_, _, Lifecycle.stopAgent_eq here h.unstopped h.unclosed waits, a.closed_stopped, opens, closes⟩
  | false =>
    obtain ⟨c, closed, settings, sink⟩ := Lifecycle.close?_of_open h.unstopped
    refine ⟨[], c.halt, ?_, ?_, rfl, rfl⟩
    · simp only [Lifecycle.stopAgent, here, Option.bind_some, closed, settings, waits, Bool.false_eq_true,
        if_false]
    · rw [c.alike_halt.sink, sink, h.unclosed]

/-! ## Whenever the lock is free -/

/-- What holds of a process whenever the lock is free, whatever its agents have been through. -/
structure Lively (fit : Settings → Prop) (p : Process) : Prop where
  held : p.life.Held
  unlocked : p.life.phase ≠ .shuttingDown
  fits : ∀ settings custom, p.life.pending = some (settings, custom) → fit settings
  underway : p.underway = if p.life.pending.isSome then 1 else 0
  /-- What is on record is of the agents before the one that is being brought up. -/
  latest : p.latest + p.underway ≤ p.asked
  earlier : ∀ e ∈ p.log, e.1 + p.underway ≤ p.asked
  runs : p.life.phase = .running → ∀ a, p.life.agent = some a → p.Untold fit a

theorem lively_empty (fit : Settings → Prop) : ({} : Process).Lively fit where
  held := Lifecycle.held_empty
  unlocked h := nomatch h
  fits _ _ h := nomatch h
  underway := rfl
  latest := Nat.le_refl 0
  earlier _ h := nomatch h
  runs h := nomatch h

theorem Lively.agent (h : p.Lively fit) (running : p.life.phase = .running) :
    ∃ a, p.life.agent = some a ∧ p.Untold fit a := by
  obtain ⟨a, here⟩ := Option.isSome_iff_exists.mp (h.held.alive.mpr (.inl (h.held.offered.mpr running)))
  exact ⟨a, here, h.runs running a here⟩

theorem Lively.none_underway (h : p.Lively fit) (settled : p.life.phase ≠ .starting) : p.underway = 0 := by
  rw [h.underway, h.held.free settled]
  rfl

theorem Lively.one_underway (h : p.Lively fit) (busy : p.life.pending.isSome = true) : p.underway = 1 := by
  rw [h.underway, if_pos busy]

/-- What is on record is not of the agent that is being brought up. -/
theorem Lively.older (h : p.Lively fit) (busy : p.life.pending.isSome = true) : ∀ e ∈ p.log, e.1 < p.asked := by
  have := h.earlier
  rwa [h.one_underway busy] at this

/-- A process that does not run an agent, and brings none up, is as lively as what is on record. -/
theorem Lively.quiet (h : p.Lively fit) {life : Lifecycle} (held : life.Held) (unlocked : life.phase ≠ .shuttingDown)
    (idle : life.phase ≠ .running) (free : life.pending = none) {n underway : Nat} (own : n ≤ p.asked)
    (alone : underway = 0) (calls : List Call) : ({ p.note n calls with life, underway } : Process).Lively fit where
  held := held
  unlocked := unlocked
  fits settings custom asked := nomatch free.symm.trans asked
  underway := by rw [alone, free]; rfl
  latest := by rw [alone]; exact Nat.le_of_add_right_le h.latest
  earlier := by
    rw [alone]
    exact noted_le (fun e he => Nat.le_of_add_right_le (h.earlier e he)) own
  runs running := absurd running idle

/-- The agent that was being brought up runs. -/
theorem Lively.began (h : p.Lively fit) {settings : Settings} {custom : Bool} {a : Agent} {calls : List Call}
    (asked : p.life.pending = some (settings, custom)) (fresh : Startup.Fresh a settings calls)
    (ran : List (Nat × Transport)) :
    ({ p.note p.asked calls with
      life := p.life.conclude settings (.ok a)
      underway := p.underway - 1
      latest := p.asked
      ran } : Process).Lively fit := by
  have busy : p.life.pending.isSome = true := by rw [asked]; rfl
  have alone : p.underway - 1 = 0 := by rw [h.one_underway busy]
  rw [alone]
  exact {
    held := h.held.conclude (h.held.pending busy) settings (.ok a)
    unlocked := fun h => nomatch h
    fits := fun _ _ asked => nomatch asked
    underway := rfl
    latest := Nat.le_refl _
    earlier := noted_le (fun e he => Nat.le_of_add_right_le (h.earlier e he)) (Nat.le_refl _)
    runs := by
      rintro - b ⟨⟩
      exact {
        settings := fresh.settings ▸ h.fits settings custom asked
        unclosed := fresh.unclosed
        unstopped := by rw [fresh.scheduler]
        started := fresh.started
        opens := by rw [note_log, count_more, count_of_lt (h.older busy), fresh.opens, Nat.zero_add]
        closes := by rw [note_log, count_more, count_of_lt (h.older busy), fresh.closes] } }

theorem Lively.tended (h : p.Lively fit) {act : Lifecycle.Act} {calls : List Call} {life : Lifecycle}
    (tended : p.life.Tended act calls life) : ({ p.note p.latest calls with life } : Process).Lively fit where
  held := h.held.tended tended
  unlocked := tended.phase ▸ h.unlocked
  fits settings custom asked := h.fits settings custom (tended.pending ▸ asked)
  underway := by rw [tended.pending]; exact h.underway
  latest := h.latest
  earlier := noted_le h.earlier h.latest
  runs running a' here := by
    obtain ⟨a, there, alike⟩ := tended.agent a' here
    exact (h.runs (tended.phase ▸ running) a there).alike alike tended.opens tended.closes life

/-- If an agent is asked for, its settings `fit`. -/
def Move.Fits (fit : Settings → Prop) : Move → Prop
  | .act (.begin o env custom) => ∀ settings, o.resolve env custom = .ok settings → fit settings
  | _ => True

/-- Whatever becomes of an agent, and even if one who is asked for its sake panics. -/
theorem Lively.change (h : p.Lively fit) {m : Move} (change : p.Change m p') (fits : m.Fits fit) :
    p'.Lively fit := by
  have busy {settings : Settings} {custom : Bool} (asked : p.life.pending = some (settings, custom)) :
      p.life.phase = .starting ∧ p.underway - 1 = 0 := by
    have busy : p.life.pending.isSome = true := by rw [asked]; rfl
    exact ⟨h.held.pending busy, by rw [h.one_underway busy]⟩
  cases change with
  | same => exact h
  | begun idle resolved =>
    have none := h.none_underway (by simp [idle])
    exact {
      held := h.held.starts idle _
      unlocked := fun h => nomatch h
      fits := by
        rintro _ _ ⟨⟩
        exact fits _ resolved
      underway := by rw [none]; rfl
      latest := by simpa [none] using h.latest
      earlier := by simpa [none] using h.earlier
      runs := fun running => nomatch running }
  | failed asked =>
    obtain ⟨starting, alone⟩ := busy asked
    refine h.quiet (h.held.conclude starting _ _) ?_ ?_ rfl (Nat.le_refl _) alone _
    · simp [Lifecycle.conclude]
    · simp [Lifecycle.conclude]
  | lost asked panicked =>
    obtain ⟨starting, alone⟩ := busy asked
    refine h.quiet (h.held.conclude starting _ _) ?_ ?_ rfl (Nat.le_refl _) alone _
    · simp [Lifecycle.conclude, starting]
    · simp [Lifecycle.conclude, starting]
  | ran asked fresh => exact h.began asked fresh _
  | tended tended => exact h.tended tended
  | stopped running stops =>
    have none := h.none_underway (by simp [running])
    obtain ⟨agent, ended, -⟩ := Lifecycle.stopped_eq stops
    refine h.quiet (h.held.stopped running stops) ?_ ?_ ?_ (Nat.le_of_add_right_le h.latest) none _
    · simp [ended]
    · simp [ended]
    · rw [ended]
      exact h.held.free (by simp [running])

/-- Some move asks for an agent with options that make the settings. -/
def AskedFor (moves : List Move) (settings : Settings) : Prop :=
  ∃ o env custom, .act (.begin o env custom) ∈ moves ∧ o.resolve env custom = .ok settings

theorem fits_askedFor {moves : List Move} {m : Move} (member : m ∈ moves) : m.Fits (AskedFor moves) := by
  cases m with
  | act a =>
    cases a with
    | begin o env custom => exact fun settings resolved => ⟨o, env, custom, member, resolved⟩
    | _ => trivial
  | shutdown now => trivial

/-- Whatever the moves of a process, the agent that runs was not told to end. -/
theorem Lively.run (moves : List Move) : (({} : Process).run moves).Ensures (Lively (AskedFor moves)) :=
  Disk.ensures_foldlM
    (fun h m member => (change_step h.held m).mono fun _ change => h.change change (fits_askedFor member))
    (lively_empty _)

end

end Process

end CrashReporter
