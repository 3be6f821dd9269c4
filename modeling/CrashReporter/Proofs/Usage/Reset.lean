import CrashReporter.Proofs.Calendar
import CrashReporter.Proofs.Usage.Action
import Mathlib.Data.List.Chain

/-!
# When a cycle begins

A monitor does not know when it last began a cycle. It only remembers, as long as its process goes on,
whether a cycle was due on the day that it saw last (`Awaits`). Where no day of the calendar is left
out, that is enough: a cycle is never due on two days in a row (`isDue_next`), so the first check of
its day comes after a day on which none was due.

* `awaits_run`: every action keeps what is remembered in step with the days that are seen;
* `resetsOn_iff`: a check begins a cycle exactly if it is the first one on its day, another day was
  seen before, and no other process has begun in between.

So one process begins a cycle once in every month, and another process that begins just before makes
it miss one.
-/

namespace CrashReporter.Usage

/-- The day of a date's month on which a cycle is due: the plan's, or the nearest that there is. -/
def dueDay (plan : UInt32) (d : Date) : Nat := max 1 (min plan.toNat d.monthDays)

/-- Whether a cycle is due on a day. -/
def isDue (plan : UInt32) (d : Date) : Bool := d.day == dueDay plan d

/-- The days that are seen, in turn. -/
def days (actions : List Action) : List Date := actions.filterMap Action.day?

/-- Days of the calendar, none left out: each is the one before it again, or the next. -/
structure Daily (ds : List Date) : Prop where
  valid : ∀ d ∈ ds, d.Valid ∧ (d.month = 12 → d.year < Calendar.lastYear)
  next : ds.IsChain fun d e => e = d ∨ e.number = d.number + 1

instance (ds : List Date) : Decidable (Daily ds) :=
  decidable_of_iff (_ ∧ _) ⟨fun h => ⟨h.1, h.2⟩, fun h => ⟨h.valid, h.next⟩⟩

/-- The day last seen by the process, if an action follows that day. -/
def sees (last : Option Date) : Action → Option Date
  | .restart => none
  | a => a.day?.or last

/-- Whether another process has begun since a day was last seen. -/
def interrupted (actions : List Action) : Bool :=
  (actions.reverse.takeWhile fun a => a.day?.isNone).any Action.isRestart

/-- The monitor of a process that begins with a store and a policy, after actions. -/
def lifetime (store : Store) (policy : Policy) (actions : List Action) : Disk Monitor := do
  (← Monitor.fresh store policy).run actions

/-- The first sight of a day on which a cycle is due, with other days seen before. -/
def Begins (plan : UInt32) (first : List Action) (d : Date) : Prop :=
  d.day = dueDay plan d ∧ d ∉ days first ∧ days first ≠ []

instance (plan : UInt32) (first : List Action) (d : Date) : Decidable (Begins plan first d) :=
  inferInstanceAs (Decidable (_ ∧ _ ∧ _))

/-! ## Days -/

/-- A cycle is never due on two days in a row. -/
theorem isDue_next {plan : UInt32} {d e : Date} (hd : d.Valid) (he : e.Valid)
    (next : e.number = d.number + 1) (due : isDue plan e = true) : isDue plan d = false := by
  rw [isDue, beq_eq_false_iff_ne, dueDay]
  rw [isDue, beq_iff_eq, dueDay] at due
  have len := Date.monthDays_bounds hd.month
  have len' := Date.monthDays_bounds he.month
  rcases Date.eq_of_number_succ hd he next with rfl | ⟨last, rfl⟩
  · have same : Date.monthDays { d with day := d.day + 1 } = d.monthDays := rfl
    rw [same] at due
    simp only at due
    omega
  · have first : d.nextMonth.day = 1 := by
      unfold Date.nextMonth
      split <;> rfl
    omega

theorem Daily.number_le_last {ds : List Date} {d e : Date} (h : Daily ds)
    (last : ds.getLast? = some e) (hd : d ∈ ds) : d.number ≤ e.number := by
  obtain ⟨init, rfl⟩ := List.getLast?_eq_some_iff.mp last
  have ordered : (init ++ [e]).IsChain fun d e => d.number ≤ e.number :=
    h.next.imp fun d e next => by rcases next with rfl | next <;> omega
  have : Trans (fun d e : Date => d.number ≤ e.number) (fun d e : Date => d.number ≤ e.number)
      (fun d e : Date => d.number ≤ e.number) := ⟨Int.le_trans⟩
  have := List.isChain_iff_pairwise.mp ordered
  rw [List.pairwise_append] at this
  rcases List.mem_append.mp hd with hd | hd
  · exact this.2.2 d hd e List.mem_cons_self
  · rw [List.mem_singleton.mp hd]

/-- A day that comes after others is new exactly if it is the day after the last of them. -/
theorem Daily.not_mem_iff {ds : List Date} {d e : Date} (h : Daily (ds ++ [d]))
    (last : ds.getLast? = some e) : d ∉ ds ↔ d.number = e.number + 1 := by
  have earlier : Daily ds :=
    ⟨fun d hd => h.valid d (List.mem_append_left _ hd), h.next.left_of_append⟩
  constructor
  · intro new
    rcases (List.isChain_append.mp h.next).2.2 e last d rfl with rfl | next
    · exact absurd (List.mem_of_getLast? last) new
    · exact next
  · intro next hd
    have := earlier.number_le_last last hd
    omega

/-! ## The day last seen -/

theorem days_concat (actions : List Action) (a : Action) :
    days (actions ++ [a]) = days actions ++ a.day?.toList := by
  rw [days, List.filterMap_append]
  cases h : a.day? <;> simp [days, h]

theorem interrupted_concat (actions : List Action) (a : Action) :
    interrupted (actions ++ [a]) = (a.day?.isNone && (a.isRestart || interrupted actions)) := by
  simp only [interrupted, List.reverse_append, List.reverse_singleton, List.singleton_append,
    List.takeWhile_cons]
  cases a.day?.isNone <;> simp

/-- A process remembers the last day that was seen, unless it began since. -/
theorem foldl_sees (actions : List Action) :
    actions.foldl sees none = if interrupted actions then none else (days actions).getLast? := by
  induction actions using List.reverseRecOn with
  | nil => rfl
  | append_singleton actions a ih =>
    rw [List.foldl_append, ih, days_concat, interrupted_concat]
    simp only [List.foldl_cons, List.foldl_nil]
    cases a with
    | restart => rfl
    | keepUp u =>
      simp only [sees, Action.isRestart, Bool.false_or]
      cases h : Action.day? (.keepUp u) with
      | some d => simp
      | none => simp
    | reserve _ | release _ | add _ =>
      simp [sees, Action.day?, Action.isRestart]

/-! ## The wait for a cycle -/

/-- The meter waits for a cycle exactly if none was due on the day last seen. -/
structure Awaits (plan : UInt32) (last : Option Date) (m : Meter) : Prop where
  resetDay : m.policy.resetDay = plan
  awaitingReset : m.awaitingReset = last.any fun d => !isDue plan d

/-- The action keeps the plan's day, and what it sees is a day of the calendar. -/
structure Regular (plan : UInt32) (a : Action) : Prop where
  policy : ∀ p, a.policy? = some p → p.resetDay = plan
  day : ∀ d, a.day? = some d → d.Valid ∧ (d.month = 12 → d.year < Calendar.lastYear)

section

variable {plan : UInt32} {last : Option Date} {m : Meter} {d : Date}

theorem beq_cycleDay (h : m.policy.resetDay = plan) (hd : d.Valid)
    (hl : d.month = 12 → d.year < Calendar.lastYear) : (d.day == m.cycleDay d) = isDue plan d := by
  rw [Meter.cycleDay, Date.monthLength_eq hd hl, h]
  rfl

/-- The first sight of a day on which a cycle is due begins one, if another day was seen before. -/
theorem Awaits.resetsOn (h : Awaits plan last m) (hd : d.Valid)
    (hl : d.month = 12 → d.year < Calendar.lastYear) :
    m.resetsOn d = ((last.any fun e => !isDue plan e) && isDue plan d) := by
  rw [Meter.resetsOn, h.awaitingReset, beq_cycleDay h.resetDay hd hl]

theorem Awaits.keepUp {u : Upkeep} (h : Awaits plan last m) (regular : Regular plan (.keepUp u)) :
    Awaits plan (u.day?.or last) (m.keepUp u) where
  resetDay := by
    rcases m.policy_keepUp u with same | new
    · rw [same]
      exact h.resetDay
    · exact regular.policy _ new
  awaitingReset := by
    rw [m.awaitingReset_keepUp]
    cases day : u.day? with
    | none => exact h.awaitingReset
    | some d =>
      obtain ⟨hd, hl⟩ := regular.day d day
      exact congrArg not (beq_cycleDay h.resetDay hd hl)

theorem Awaits.perform {a : Action} (h : Awaits plan last m) (regular : Regular plan a)
    (kept : UInt64) : Awaits plan (sees last a) (m.perform kept a) := by
  cases a with
  | reserve size =>
    simp only [Meter.perform, Meter.reserve?]
    split <;> exact ⟨h.resetDay, h.awaitingReset⟩
  | release size =>
    simp only [Meter.perform, Meter.release?]
    split <;> exact ⟨h.resetDay, h.awaitingReset⟩
  | add size =>
    simp only [Meter.perform, Meter.add?]
    split <;> exact ⟨h.resetDay, h.awaitingReset⟩
  | keepUp u => exact h.keepUp regular
  | restart => exact ⟨h.resetDay, rfl⟩

end

theorem awaits_run {plan : UInt32} {last : Option Date} {m : Monitor} {actions : List Action}
    (regular : ∀ a ∈ actions, Regular plan a) (h : Awaits plan last m.meter) (t : FileTree) :
    ∃ m' t', m.run actions t = .ok m' t' ∧ Awaits plan (actions.foldl sees last) m'.meter := by
  induction actions generalizing m last t with
  | nil => exact ⟨m, t, rfl, h⟩
  | cons a actions ih =>
    obtain ⟨kept, t₁, h₁⟩ := m.perform_run a t
    obtain ⟨m', t', h', awaits⟩ := ih (m := { m with meter := m.meter.perform kept a })
      (fun a ha => regular a (List.mem_cons_of_mem _ ha))
      (h.perform (regular a List.mem_cons_self) kept) t₁
    exact ⟨m', t', (Disk.bind_run h₁).trans h', awaits⟩

section

variable {store : Store} {policy : Policy} {first rest : List Action} {d : Date}

theorem lifetime_run (regular : ∀ a ∈ first, Regular policy.resetDay a) (t : FileTree) :
    ∃ m t', lifetime store policy first t = .ok m t' ∧
      Awaits policy.resetDay (if interrupted first then none else (days first).getLast?) m.meter := by
  obtain ⟨sent, t₁, h₁⟩ := Monitor.fresh_run store policy t
  have start : Awaits policy.resetDay none { policy, sent } := ⟨rfl, rfl⟩
  obtain ⟨m, t', h', awaits⟩ := awaits_run (m := ⟨store, { policy, sent }⟩) regular start t₁
  exact ⟨m, t', (Disk.bind_run h₁).trans h', foldl_sees first ▸ awaits⟩

/-- A cycle begins on the first sight of its day, unless the process has begun since the day before. -/
theorem resetsOn_iff {plan : UInt32} {m : Meter}
    (h : Awaits plan (if interrupted first then none else (days first).getLast?) m)
    (daily : Daily (days first ++ [d])) :
    m.resetsOn d = true ↔ Begins plan first d ∧ interrupted first = false := by
  have hd := daily.valid d (List.mem_append_right _ List.mem_cons_self)
  rw [h.resetsOn hd.1 hd.2]
  cases interrupted first with
  | true => simp
  | false =>
    cases last : (days first).getLast? with
    | none => simp [Begins, List.getLast?_eq_none_iff.mp last]
    | some e =>
      have he := daily.valid e (List.mem_append_left _ (List.mem_of_getLast? last))
      have seen : days first ≠ [] := List.ne_nil_of_mem (List.mem_of_getLast? last)
      have new := daily.not_mem_iff last
      simp only [Begins, new, seen, Bool.false_eq_true, if_false, Option.any_some,
        Bool.and_eq_true, Bool.not_eq_true', ne_eq, not_false_eq_true, and_true]
      constructor
      · rintro ⟨notDue, due⟩
        refine ⟨beq_iff_eq.mp due, ?_⟩
        rcases (List.isChain_append.mp daily.next).2.2 e last d rfl with rfl | next
        · rw [due] at notDue
          cases notDue
        · exact next
      · rintro ⟨due, next⟩
        exact ⟨isDue_next he.1 hd.1 next (beq_iff_eq.mpr due), beq_iff_eq.mpr due⟩

/-- The first check of a day, in a run of days of the calendar. -/
theorem check_run (fixed : ∀ a ∈ first, ∀ p, a.policy? = some p → p.resetDay = policy.resetDay)
    (daily : Daily (days first ++ [d])) (t : FileTree) :
    ∃ m t₁ m' t₂, lifetime store policy first t = .ok m t₁ ∧ m.check d t₁ = .ok m' t₂ ∧
      m'.meter.sent =
        if Begins policy.resetDay first d ∧ interrupted first = false then 0 else m.meter.sent := by
  have regular : ∀ a ∈ first, Regular policy.resetDay a := fun a ha =>
    ⟨fixed a ha, fun e he =>
      daily.valid e (List.mem_append_left _ (List.mem_filterMap.mpr ⟨a, ha, he⟩))⟩
  obtain ⟨m, t₁, h₁, awaits⟩ := lifetime_run regular t
  obtain ⟨t₂, h₂⟩ := m.check_gives d t₁
  refine ⟨m, t₁, _, t₂, h₁, h₂, ?_⟩
  rw [Meter.sent_check]
  simp only [resetsOn_iff awaits daily]

/-- The days up to a check, and its own. -/
theorem days_split : days (first ++ .keepUp (.check d) :: rest) = days first ++ d :: days rest := by
  rw [days, List.filterMap_append]
  rfl

theorem Daily.split (h : Daily (days (first ++ .keepUp (.check d) :: rest))) :
    Daily (days first ++ [d]) := by
  rw [days_split, List.append_cons] at h
  exact ⟨fun e he => h.valid e (List.mem_append_left _ he), h.next.left_of_append⟩

end

/-! ## One cycle a month -/

/-- Every day that is seen has a first check. -/
theorem exists_first_check {actions : List Action} {d : Date} (h : d ∈ days actions) :
    ∃ first rest, actions = first ++ .keepUp (.check d) :: rest ∧ d ∉ days first := by
  induction actions with
  | nil => exact absurd h List.not_mem_nil
  | cons a actions ih =>
    by_cases now : a.day? = some d
    · have : a = .keepUp (.check d) := by
        cases a with
        | keepUp u =>
          cases u with
          | check today => rw [Option.some.inj now]
          | _ => cases now
        | _ => cases now
      exact ⟨[], actions, by rw [this]; rfl, List.not_mem_nil⟩
    · have later : d ∈ days actions := by
        obtain ⟨b, hb, hd⟩ := List.mem_filterMap.mp h
        rcases List.mem_cons.mp hb with rfl | hb
        · exact absurd hd now
        · exact List.mem_filterMap.mpr ⟨b, hb, hd⟩
      obtain ⟨first, rest, rfl, new⟩ := ih later
      refine ⟨a :: first, rest, rfl, fun seen => ?_⟩
      obtain ⟨b, hb, hd⟩ := List.mem_filterMap.mp seen
      rcases List.mem_cons.mp hb with rfl | hb
      · exact now hd
      · exact new (List.mem_filterMap.mpr ⟨b, hb, hd⟩)

/-- A day that is in a later check's past is not new there. -/
theorem first_check_le {first first' rest rest' : List Action} {d : Date}
    (h : first ++ .keepUp (.check d) :: rest = first' ++ .keepUp (.check d) :: rest')
    (new : d ∉ days first') : ∃ between, first = first' ++ between := by
  rcases List.append_eq_append_iff.mp h with ⟨between, rfl, hb⟩ | ⟨between, rfl, -⟩
  · cases between with
    | nil => exact ⟨[], by simp⟩
    | cons a between =>
      obtain ⟨rfl, -⟩ := List.cons.inj hb
      rw [days_split] at new
      exact absurd (List.mem_append_right _ List.mem_cons_self) new
  · exact ⟨between, rfl⟩

theorem first_check_unique {first first' rest rest' : List Action} {d : Date}
    (h : first ++ .keepUp (.check d) :: rest = first' ++ .keepUp (.check d) :: rest')
    (new : d ∉ days first) (new' : d ∉ days first') : first = first' := by
  obtain ⟨xs, hxs⟩ := first_check_le h new'
  obtain ⟨ys, hys⟩ := first_check_le h.symm new
  rw [hys, List.append_assoc] at hxs
  have none : ys ++ xs = [] := List.append_right_eq_self.mp hxs.symm
  rw [hys, (List.append_eq_nil_iff.mp none).1, List.append_nil]

/-- A month has one day on which a cycle is due. -/
theorem due_unique {plan : UInt32} {d e : Date} (hd : d.day = dueDay plan d)
    (he : e.day = dueDay plan e) (year : e.year = d.year) (month : e.month = d.month) : e = d := by
  obtain ⟨y, m, day⟩ := d
  obtain ⟨y', m', day'⟩ := e
  obtain rfl : y' = y := year
  obtain rfl : m' = m := month
  obtain rfl : day' = day := he.trans hd.symm
  rfl

theorem interrupted_eq_false {actions : List Action}
    (whole : ∀ a ∈ actions, a.isRestart = false) : interrupted actions = false := by
  rw [interrupted, List.any_eq_false]
  intro a ha
  rw [whole a (List.mem_reverse.mp ((List.takeWhile_sublist _).subset ha))]
  exact Bool.false_ne_true

/-- One cycle a month. In a process that sees every day of the calendar and keeps the plan's day, the
count starts again with the first check of the day that the plan's falls on in a month, unless no
other day was seen before, and no other check changes the count; so in every month whose day is seen,
but not as the first one, exactly one check starts it again. -/
theorem begins_once_a_month (store : Store) (policy : Policy) (actions : List Action) (t : FileTree)
    (fixed : ∀ a ∈ actions, ∀ p, a.policy? = some p → p.resetDay = policy.resetDay)
    (whole : ∀ a ∈ actions, a.isRestart = false) (daily : Daily (days actions)) :
    (∀ first d rest, actions = first ++ .keepUp (.check d) :: rest →
      ∃ m t₁ m' t₂, lifetime store policy first t = .ok m t₁ ∧ m.check d t₁ = .ok m' t₂ ∧
        m'.meter.sent = if Begins policy.resetDay first d then 0 else m.meter.sent) ∧
    ∀ d ∈ days actions, d.day = dueDay policy.resetDay d → (days actions).head? ≠ some d →
      ∃! first, ∃ e rest, actions = first ++ .keepUp (.check e) :: rest ∧
        e.year = d.year ∧ e.month = d.month ∧ Begins policy.resetDay first e := by
  constructor
  · rintro first d rest rfl
    obtain ⟨m, t₁, m', t₂, h₁, h₂, sent⟩ :=
      check_run (fun a ha => fixed a (List.mem_append_left _ ha)) daily.split t
    refine ⟨m, t₁, m', t₂, h₁, h₂, ?_⟩
    have := interrupted_eq_false fun a ha => whole a (List.mem_append_left _ ha)
    simpa only [this, and_true] using sent
  · intro d hd due head
    obtain ⟨first, rest, rfl, new⟩ := exists_first_check hd
    have seen : days first ≠ [] := by
      intro none
      rw [days_split, none] at head
      exact head rfl
    refine ⟨first, ⟨d, rest, rfl, rfl, rfl, due, new, seen⟩, ?_⟩
    rintro first' ⟨e, rest', split, year, month, due', new', -⟩
    obtain rfl : e = d := due_unique due due' year month
    exact (first_check_unique split new new').symm

/-- A whole month with a leap day, whose plan's day it does not have, and the beginning of the next. -/
theorem begins_once_a_month_leap :
    let policy : Policy := { resetDay := 31 }
    let first : List Action :=
      [.keepUp (.check ⟨2024, 2, 27⟩), .reserve 500, .keepUp (.check ⟨2024, 2, 28⟩)]
    let rest : List Action := [.add 70, .keepUp (.check ⟨2024, 2, 29⟩), .keepUp (.check ⟨2024, 3, 1⟩)]
    let actions := first ++ .keepUp (.check ⟨2024, 2, 29⟩) :: rest
    (∀ a ∈ actions, ∀ p, a.policy? = some p → p.resetDay = policy.resetDay) ∧
      (∀ a ∈ actions, a.isRestart = false) ∧ Daily (days actions) ∧
      (∃ m t₁ m' t₂, lifetime ⟨"/state"⟩ policy first {} = .ok m t₁ ∧
        m.check ⟨2024, 2, 29⟩ t₁ = .ok m' t₂ ∧ m'.meter.sent = 0) ∧
      ∃! first, ∃ e rest, actions = first ++ .keepUp (.check e) :: rest ∧
        e.year = 2024 ∧ e.month = 2 ∧ Begins policy.resetDay first e := by
  intro policy first rest actions
  have fixed : ∀ a ∈ actions, ∀ p, a.policy? = some p → p.resetDay = policy.resetDay := by
    intro a ha p hp
    simp only [actions, first, rest, List.cons_append, List.nil_append, List.mem_cons,
      List.not_mem_nil, or_false] at ha
    rcases ha with rfl | rfl | rfl | rfl | rfl | rfl | rfl <;> cases hp
  have whole : ∀ a ∈ actions, a.isRestart = false := by decide +kernel
  have daily : Daily (days actions) := by decide +kernel
  obtain ⟨each, once⟩ := begins_once_a_month ⟨"/state"⟩ policy actions {} fixed whole daily
  obtain ⟨m, t₁, m', t₂, h₁, h₂, sent⟩ := each first ⟨2024, 2, 29⟩ rest rfl
  refine ⟨fixed, whole, daily, ⟨m, t₁, m', t₂, h₁, h₂, ?_⟩, ?_⟩
  · rw [sent, if_pos (by decide +kernel)]
  · exact once ⟨2024, 2, 29⟩ (by decide +kernel) (by decide +kernel) (by decide +kernel)

/-! ## Processes that begin anew -/

theorem days_filter (actions : List Action) :
    days (actions.filter (!·.isRestart)) = days actions := by
  rw [days, List.filterMap_filter, days]
  congr 1
  funext a
  cases a <;> rfl

/-- A cycle that is due begins with the first check of its day exactly if the process has not begun
anew since the last check before; otherwise the count goes on. Had the process not begun anew, every
cycle would have begun. -/
theorem begins_unless_interrupted (store : Store) (policy : Policy) (actions : List Action)
    (t : FileTree) (fixed : ∀ a ∈ actions, ∀ p, a.policy? = some p → p.resetDay = policy.resetDay)
    (daily : Daily (days actions)) :
    ∀ first d rest, actions = first ++ .keepUp (.check d) :: rest → Begins policy.resetDay first d →
      (∃ m t₁ m' t₂, lifetime store policy first t = .ok m t₁ ∧ m.check d t₁ = .ok m' t₂ ∧
        m'.meter.sent = if interrupted first then m.meter.sent else 0) ∧
      ∃ m t₁ m' t₂, lifetime store policy (first.filter (!·.isRestart)) t = .ok m t₁ ∧
        m.check d t₁ = .ok m' t₂ ∧ m'.meter.sent = 0 := by
  rintro first d rest rfl begins
  have fixed : ∀ a ∈ first, ∀ p, a.policy? = some p → p.resetDay = policy.resetDay :=
    fun a ha => fixed a (List.mem_append_left _ ha)
  constructor
  · obtain ⟨m, t₁, m', t₂, h₁, h₂, sent⟩ := check_run fixed daily.split t
    refine ⟨m, t₁, m', t₂, h₁, h₂, ?_⟩
    rw [sent]
    cases interrupted first <;> simp [begins]
  · have whole : ∀ a ∈ first.filter (!·.isRestart), a.isRestart = false := fun a ha =>
      (Bool.not_eq_true' _).mp (List.mem_filter.mp ha).2
    have same := days_filter first
    obtain ⟨m, t₁, m', t₂, h₁, h₂, sent⟩ := check_run
      (fun a ha => fixed a (List.mem_filter.mp ha).1) (same.symm ▸ daily.split) t
    have begins' : Begins policy.resetDay (first.filter (!·.isRestart)) d := by
      rw [Begins, same]
      exact begins
    exact ⟨m, t₁, m', t₂, h₁, h₂, sent.trans (if_pos ⟨begins', interrupted_eq_false whole⟩)⟩

/-- A process that begins before the last check changes nothing. -/
theorem begins_unless_interrupted_before :
    let policy : Policy := { resetDay := 15 }
    let first : List Action := [.keepUp (.check ⟨2024, 3, 13⟩), .restart, .reserve 500,
      .keepUp (.check ⟨2024, 3, 14⟩)]
    let actions := first ++ [.keepUp (.check ⟨2024, 3, 15⟩)]
    (∀ a ∈ actions, ∀ p, a.policy? = some p → p.resetDay = policy.resetDay) ∧
      Daily (days actions) ∧ Begins policy.resetDay first ⟨2024, 3, 15⟩ ∧
      ∃ m t₁ m' t₂, lifetime ⟨"/state"⟩ policy first {} = .ok m t₁ ∧
        m.check ⟨2024, 3, 15⟩ t₁ = .ok m' t₂ ∧ m'.meter.sent = 0 := by
  intro policy first actions
  have fixed : ∀ a ∈ actions, ∀ p, a.policy? = some p → p.resetDay = policy.resetDay := by
    intro a ha p hp
    simp only [actions, first, List.cons_append, List.nil_append, List.mem_cons,
      List.not_mem_nil, or_false] at ha
    rcases ha with rfl | rfl | rfl | rfl | rfl <;> cases hp
  have daily : Daily (days actions) := by decide +kernel
  have begins : Begins policy.resetDay first ⟨2024, 3, 15⟩ := by decide +kernel
  exact ⟨fixed, daily, begins,
    (begins_unless_interrupted ⟨"/state"⟩ policy actions {} fixed daily first _ [] rfl begins).1⟩

/-- A process that begins between the last check before a cycle's day and the first one on it: the
cycle is missed, which would have begun had the process gone on. -/
theorem restart_misses_cycle :
    let policy : Policy := { resetDay := 15 }
    let first : List Action := [.reserve 500, .keepUp (.check ⟨2024, 3, 14⟩), .restart]
    let actions := first ++ [.keepUp (.check ⟨2024, 3, 15⟩)]
    let t : FileTree := ⟨[(["state"], .directory)]⟩
    Daily (days actions) ∧ Begins policy.resetDay first ⟨2024, 3, 15⟩ ∧
      ((lifetime ⟨"/state"⟩ policy actions).answer? t).map (·.meter.sent) = some 500 ∧
      ((lifetime ⟨"/state"⟩ policy (actions.filter (!·.isRestart))).answer? t).map
        (·.meter.sent) = some 0 := by
  decide +kernel

end CrashReporter.Usage
