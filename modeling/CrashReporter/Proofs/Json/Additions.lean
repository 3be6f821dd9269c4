import CrashReporter.Proofs.Json.Members

/-!
# Members put into a value

A path of keys leads to an object inside a value, and `addAt` puts a member in there, where none of its key
is yet (`lacks`). One addition leaves room for another elsewhere (`lacks_addAt`).

What an addition does to what is read is said for a shape and a path (`Shape.Absorbs`): both values are read, and
come to related values, or both are refused alike. A record absorbs a member of a key that it does not know
(`Record.absorbs_unknown`), and `null` in a place that may be left empty (`Record.Place.absorbs_null`); a table
absorbs `null` as an entry more (`Shape.table_absorbs_null`). What the value of a member absorbs, the record
absorbs further down (`Record.Place.absorbs_under`). Where a member must not be `null`, the record refuses the
addition (`Record.Place.refuses_null`, `Record.Place.refuses_under`).
-/

namespace CrashReporter

/-! ## Entries put in one after the other -/

namespace Table

variable {β : Type}

/-- Two entries are put in alike in either order, the one with the lesser key first. -/
theorem insertEntry_comm_of_lt {key key' : String} (before : key < key') (v v' : β) (entries : List (String × β)) :
    insertEntry key v (insertEntry key' v' entries) = insertEntry key' v' (insertEntry key v entries) := by
  have notAfter : ¬ key' < key := fun h => String.lt_irrefl _ (String.lt_trans h before)
  have other : key' ≠ key := fun h => String.lt_irrefl _ (h ▸ before)
  induction entries with
  | nil => simp [insertEntry, before, notAfter, other]
  | cons e entries ih =>
    obtain ⟨k, w⟩ := e
    by_cases stops : key' < k ∨ key' = k
    · -- the lesser key stops here as well
      have below : key < k := by
        rcases stops with h | rfl
        · exact String.lt_trans before h
        · exact before
      rcases stops with h | rfl
      · simp [insertEntry, before, below, notAfter, other, h]
      · simp [insertEntry, before, notAfter, other]
    · obtain ⟨notBelow, different⟩ := not_or.mp stops
      by_cases below : key < k
      · simp [insertEntry, below, notBelow, different, notAfter, other]
      · by_cases same : key = k
        · simp [insertEntry, same, notBelow, different]
        · simp [insertEntry, below, same, notBelow, different, ih]

theorem insert_comm {key key' : String} (other : key ≠ key') (v v' : β) (t : Table β) :
    (t.insert key' v').insert key v = (t.insert key v).insert key' v' := by
  refine (mk.injEq ..).mpr ?_
  rcases Std.lt_trichotomy key key' with before | same | after
  · exact insertEntry_comm_of_lt before v v' t.entries
  · exact absurd same other
  · exact (insertEntry_comm_of_lt after v' v t.entries).symm

theorem get?_map {γ : Type} (f : β → γ) (t : Table β) (key : String) : (t.map f).get? key = (t.get? key).map f := by
  have entries (entries : List (String × β)) :
      (entries.map fun e => (e.1, f e.2)).lookup key = (entries.lookup key).map f := by
    induction entries with
    | nil => rfl
    | cons e entries ih =>
      rw [List.map_cons, lookup_cons_eq_if, lookup_cons_eq_if, ih]
      split <;> rfl
  exact entries t.entries

end Table

namespace Json

variable {β γ δ α : Type}

/-! ## Paths into a value -/

/-- A value with a member put into the object that a path leads to. -/
def addAt (key : String) (x : Value) : List String → Value → Value
  | [], .object ms => .object (Table.insertEntry key x ms)
  | step :: path, .object ms => .object (ms.map (changeUnder step (addAt key x path)))
  | _, v => v

/-- Whether a path leads to an object without a member of a key. -/
def lacks (key : String) : List String → Value → Bool
  | [], .object ms => !hasMember key ms
  | step :: path, .object ms => hasMember step ms && ms.all fun m => m.1 != step || lacks key path m.2
  | _, _ => false

variable {key key' step : String} {path path' : List String} {x v : Value} {ms : List (String × Value)}

theorem lacks_nil_iff : lacks key [] v = true ↔ ∃ ms, v = .object ms ∧ hasMember key ms = false := by
  cases v <;> simp [lacks]

theorem lacks_cons_iff : lacks key (step :: path) v = true ↔
    ∃ ms, v = .object ms ∧ hasMember step ms = true ∧ ∀ w, (step, w) ∈ ms → lacks key path w = true := by
  cases v with
  | object ms =>
    simp only [lacks, Bool.and_eq_true, List.all_eq_true, Bool.or_eq_true, bne_iff_ne, ne_eq, Value.object.injEq,
      exists_eq_left']
    refine and_congr_right fun _ => ⟨fun h w member => ?_, fun h m member => ?_⟩
    · exact (h (step, w) member).resolve_left fun other => other rfl
    · by_cases same : m.1 = step
      · exact .inr (h m.2 (same ▸ member))
      · exact .inl same
  | _ => simp [lacks]

theorem others_of_absent (absent : hasMember key ms = false) : others key ms = ms := by
  refine List.filter_eq_self.mpr fun m member => ?_
  have := List.any_eq_false.mp absent m member
  simpa using this

theorem ne_null_of_lacks (h : lacks key path v = true) : v ≠ .null := by
  rintro rfl
  cases path <;> cases h

theorem hasMember_insertEntry (other : key ≠ key') :
    hasMember key (Table.insertEntry key' x ms) = hasMember key ms := by
  have apart : (key' == key) = false := beq_eq_false_iff_ne.mpr (Ne.symm other)
  induction ms with
  | nil => simp [Table.insertEntry, hasMember, apart]
  | cons m ms ih =>
    obtain ⟨k, w⟩ := m
    rw [Table.insertEntry]
    split
    · simp [hasMember, apart]
    split
    · next same => simp [hasMember, apart, ← same]
    · simpa [hasMember] using congrArg (k == key || ·) ih

theorem hasMember_map_changeUnder (f : Value → Value) :
    hasMember key (ms.map (changeUnder step f)) = hasMember key ms := by
  have keyOf (m : String × Value) : (changeUnder step f m).1 = m.1 := by
    unfold changeUnder
    split
    · next same => exact same.symm
    · rfl
  simp [hasMember, List.any_map, Function.comp_def, keyOf]

/-- A member put in at one place leaves another place without its member. -/
theorem lacks_addAt (here : lacks key path v = true) (there : lacks key' path' v = true)
    (other : path = path' → key ≠ key') : lacks key path (addAt key' x path' v) = true := by
  induction path generalizing path' v with
  | nil =>
    obtain ⟨ms, rfl, absent⟩ := lacks_nil_iff.mp here
    refine lacks_nil_iff.mpr ?_
    cases path' with
    | nil => exact ⟨_, rfl, (hasMember_insertEntry (other rfl)).trans absent⟩
    | cons step' path' => exact ⟨_, rfl, (hasMember_map_changeUnder _).trans absent⟩
  | cons step path ih =>
    obtain ⟨ms, rfl, present, below⟩ := lacks_cons_iff.mp here
    refine lacks_cons_iff.mpr ?_
    cases path' with
    | nil =>
      obtain ⟨_, ⟨⟩, absent⟩ := lacks_nil_iff.mp there
      have apart : step ≠ key' := fun same => by
        rw [same, absent] at present
        cases present
      refine ⟨_, rfl, (hasMember_insertEntry apart).trans present, fun w member => ?_⟩
      rcases Table.mem_insertEntry member with added | old
      · exact absurd (congrArg Prod.fst added) apart
      · exact below w old
    | cons step' path' =>
      obtain ⟨_, ⟨⟩, -, below'⟩ := lacks_cons_iff.mp there
      refine ⟨_, rfl, (hasMember_map_changeUnder _).trans present, fun w member => ?_⟩
      obtain ⟨⟨k, w₀⟩, old, changed⟩ := List.mem_map.mp member
      unfold changeUnder at changed
      split at changed
      · next same =>
        obtain rfl : k = step' := same
        obtain ⟨rfl, value⟩ := Prod.mk.inj changed
        rw [← value]
        exact ih (below w₀ old) (below' w₀ old) fun samePath => other (by rw [samePath])
      · exact below w (changed ▸ old)

/-! ## Readings that agree -/

/-- Whether two readings come to related values, or fail alike. -/
inductive Agree (R : β → γ → Prop) : Except Mismatch β → Except Mismatch γ → Prop where
  | ok {b : β} {c : γ} (related : R b c) : Agree R (.ok b) (.ok c)
  | error (m : Mismatch) : Agree R (.error m) (.error m)

section

variable {R : β → β → Prop} {S : γ → γ → Prop} {y z : Except Mismatch β}

theorem Agree.of_eq (same : y = z) (refl : ∀ b, R b b) : Agree R y z := by
  subst same
  cases y with
  | error m => exact .error m
  | ok b => exact .ok (refl b)

theorem Agree.eq (agree : Agree Eq y z) : y = z := by
  cases agree with
  | ok same => rw [same]
  | error m => rfl

theorem Agree.imp {R' : β → β → Prop} (agree : Agree R y z) (weaker : ∀ b c, R b c → R' b c) : Agree R' y z := by
  cases agree with
  | ok related => exact .ok (weaker _ _ related)
  | error m => exact .error m

theorem Agree.trans {R' : β → β → Prop} {w : Except Mismatch β} (first : Agree R y z) (second : Agree R' z w) :
    Agree (fun b d => ∃ c, R b c ∧ R' c d) y w := by
  cases first with
  | error m =>
    cases second
    exact .error m
  | ok related =>
    cases second with
    | ok related' => exact .ok ⟨_, related, related'⟩

theorem Agree.exists_ok {b : β} (agree : Agree R (.ok b) z) : ∃ c, z = .ok c ∧ R b c := by
  cases agree with
  | ok related => exact ⟨_, rfl, related⟩

theorem Agree.error_eq {m : Mismatch} (agree : Agree R (.error m) z) : z = .error m := by
  cases agree
  rfl

theorem Agree.bind (agree : Agree R y z) {next next' : β → Except Mismatch γ}
    (go : ∀ b c, R b c → Agree S (next b) (next' c)) : Agree S (y >>= next) (z >>= next') := by
  cases agree with
  | ok related => exact go _ _ related
  | error m => exact .error m

/-- Whether a shape reads a value with a member put in as it reads the value without it, the values being
related. -/
def Shape.Absorbs (shape : Shape β) (path : List String) (key : String) (x : Value) (R : β → β → Prop) : Prop :=
  ∀ v, lacks key path v = true → Agree R (shape.ofValue v) (shape.ofValue (addAt key x path v))

/-- Whether a member put into a value that a shape reads makes it a value that is refused. -/
def Shape.Refuses (shape : Shape β) (path : List String) (key : String) (x : Value) (m : Mismatch) : Prop :=
  ∀ v a, lacks key path v = true → shape.ofValue v = .ok a → shape.ofValue (addAt key x path v) = .error m

end

/-- Values under a key that are refused once changed, where there are any. -/
theorem column_changeUnder_refused {shape : Shape β} {f : Value → Value} {m : Mismatch} {c : Option β}
    (inner : ∀ v a, (key, v) ∈ ms → shape.ofValue v = .ok a → shape.ofValue (f v) = .error m)
    (present : hasMember key ms = true) (read : column key shape ms = .ok c) :
    column key shape (ms.map (changeUnder key f)) = .error m := by
  induction ms generalizing c with
  | nil => cases present
  | cons e ms ih =>
    obtain ⟨k, v⟩ := e
    rw [List.map_cons, changeUnder]
    split
    · next same =>
      change k = key at same
      subst same
      rw [column_same] at read
      obtain ⟨a, value, -⟩ := bind_eq_ok.mp read
      rw [column_same, inner v a List.mem_cons_self value]
      rfl
    · next other =>
      rw [column_cons other] at read ⊢
      have present : hasMember key ms = true := by simpa [hasMember, other] using present
      exact ih (fun v a member => inner v a (List.mem_cons_of_mem _ member)) present read

/-! ## What a record absorbs -/

namespace Record

variable {r : Record δ α} {key step : String} {path : List String} {x : Value} {ms : List (String × Value)}
  {R : β → β → Prop} {S : α → α → Prop}

/-- A record passes over a member of a key that it does not know. -/
theorem gather_unknown_insertEntry (unknown : r.member? key = none) (d : δ) :
    r.gather d (Table.insertEntry key x ms) = r.gather d ms := by
  induction ms generalizing d with
  | nil => exact gather_unknown unknown x
  | cons m ms ih =>
    obtain ⟨k, v⟩ := m
    rw [Table.insertEntry]
    split
    · exact gather_unknown unknown x
    split
    · next same =>
      subst same
      rw [gather_unknown unknown, gather_unknown unknown]
    · cases known : r.member? k with
      | none => rw [gather_unknown known, gather_unknown known, ih]
      | some m =>
        rw [gather_known known, gather_known known]
        exact congrArg _ (funext fun d => ih d)

theorem absorbs_unknown (unknown : r.member? key = none) : r.shape.Absorbs [] key x Eq := by
  intro v lacks
  obtain ⟨ms, rfl, -⟩ := lacks_nil_iff.mp lacks
  refine .of_eq ?_ fun _ => rfl
  change r.ofMembers r.blank ms = r.ofMembers r.blank (Table.insertEntry key x ms)
  rw [ofMembers_eq, ofMembers_eq, gather_unknown_insertEntry unknown]

namespace Place

variable {shape : Shape β} {get : δ → Option β} {set : δ → β → δ} (place : r.Place key shape get set) {d : δ} {a b : β}
include place

/-- A member put in where none is of its key is put in its place, and the others are read as before. -/
theorem gather_insertEntry (value : shape.ofValue x = .ok a) (absent : hasMember key ms = false) :
    r.gather d (Table.insertEntry key x ms) = (set · a) <$> r.gather d ms := by
  have first {ms : List (String × Value)} (absent : hasMember key ms = false) (d : δ) :
      r.gather d ((key, x) :: ms) = (set · a) <$> r.gather d ms := by
    rw [place.gather_same, value, ← others_of_absent absent]
    exact place.gather_set d a ms
  induction ms generalizing d with
  | nil => exact first rfl d
  | cons m ms ih =>
    obtain ⟨k, v⟩ := m
    obtain ⟨other, rest⟩ := hasMember_cons_eq_false absent
    rw [Table.insertEntry]
    split
    · exact first absent d
    rw [if_neg (Ne.symm other)]
    cases known : r.member? k with
    | none =>
      rw [gather_unknown known, gather_unknown known]
      exact ih rest
    | some m =>
      rw [gather_known known, gather_known known]
      cases m.ofValue d v with
      | error e => rfl
      | ok d' => exact ih rest

/-- A record passes over `null` where it is read as the record with that place empty. -/
theorem absorbs_null (null : shape.ofValue .null = .ok a) (kept : ∀ d, get d = none → r.finish (set d a) = r.finish d) :
    r.shape.Absorbs [] key .null Eq := by
  intro v lacks
  obtain ⟨ms, rfl, absent⟩ := lacks_nil_iff.mp lacks
  refine .of_eq ?_ fun _ => rfl
  change r.ofMembers r.blank ms = r.ofMembers r.blank (Table.insertEntry key .null ms)
  rw [ofMembers_eq, ofMembers_eq, place.gather_insertEntry null absent]
  cases gathered : r.gather r.blank ms with
  | error m => rfl
  | ok d =>
    have empty : get d = none := by
      rw [← others_of_absent absent] at gathered
      exact (place.get_gather gathered).trans place.blank
    exact (kept d empty).symm

/-- A record refuses `null` in a place that must not hold it. -/
theorem refuses_null {m : Mismatch} (null : shape.ofValue .null = .error m) : r.shape.Refuses [] key .null m := by
  intro v p lacks read
  obtain ⟨ms, rfl, absent⟩ := lacks_nil_iff.mp lacks
  change r.ofMembers r.blank ms = .ok p at read
  change r.ofMembers r.blank (Table.insertEntry key .null ms) = .error m
  rw [ofMembers_eq] at read ⊢
  obtain ⟨d, gathered, -⟩ := bind_eq_ok.mp read
  have rest : r.gather r.blank (others key (Table.insertEntry key .null ms)) = .ok d := by
    rw [others_insertEntry, others_of_absent absent, gathered]
  have wrong : column key shape (Table.insertEntry key .null ms) = .error m := by
    rw [column_insertEntry absent, null]
    rfl
  rw [place.gather_eq_error rest wrong]
  rfl

/-! ### Further down -/

/-- Drafts alike but for related values in a place. -/
def Related (set : δ → β → δ) (R : β → β → Prop) (d d' : δ) : Prop := ∃ e a b, d = set e a ∧ d' = set e b ∧ R a b

/-- Members whose values under a key are read alike fill drafts alike, where the place holds related values. -/
theorem agree_gather_set {f : Value → Value}
    (inner : ∀ v, (key, v) ∈ ms → Agree R (shape.ofValue v) (shape.ofValue (f v))) (related : R a b) :
    Agree (Related set R) (r.gather (set d a) ms) (r.gather (set d b) (ms.map (changeUnder key f))) := by
  induction ms generalizing d a b with
  | nil => exact .ok ⟨d, a, b, rfl, rfl, related⟩
  | cons m ms ih =>
    obtain ⟨k, v⟩ := m
    have rest := fun v member => inner v (List.mem_cons_of_mem _ member)
    rw [List.map_cons, changeUnder]
    split
    · next same =>
      change k = key at same
      subst same
      rw [place.gather_same, place.gather_same]
      refine (inner v List.mem_cons_self).bind fun a' b' related => ?_
      rw [place.set_set, place.set_set]
      exact ih rest related
    · next other =>
      cases known : r.member? k with
      | none =>
        rw [gather_unknown known, gather_unknown known]
        exact ih rest related
      | some m =>
        obtain ⟨member, different⟩ := member_ne known other
        rw [gather_known known, gather_known known, (place.apart m member different).ofValue_set,
          (place.apart m member different).ofValue_set]
        cases m.ofValue d v with
        | error e => exact .error e
        | ok d' => exact ih rest related

/-- They do from the start, if there is a member under the key. -/
theorem agree_gather {f : Value → Value}
    (inner : ∀ v, (key, v) ∈ ms → Agree R (shape.ofValue v) (shape.ofValue (f v))) (present : hasMember key ms = true) :
    Agree (Related set R) (r.gather d ms) (r.gather d (ms.map (changeUnder key f))) := by
  induction ms generalizing d with
  | nil => cases present
  | cons m ms ih =>
    obtain ⟨k, v⟩ := m
    have rest := fun v member => inner v (List.mem_cons_of_mem _ member)
    rw [List.map_cons, changeUnder]
    split
    · next same =>
      change k = key at same
      subst same
      rw [place.gather_same, place.gather_same]
      exact (inner v List.mem_cons_self).bind fun a b related => place.agree_gather_set rest related
    · next other =>
      have present : hasMember key ms = true := by simpa [hasMember, other] using present
      cases known : r.member? k with
      | none =>
        rw [gather_unknown known, gather_unknown known]
        exact ih rest present
      | some m =>
        rw [gather_known known, gather_known known]
        cases m.ofValue d v with
        | error e => exact .error e
        | ok d' => exact ih rest present

section

variable {key' : String}

/-- What the value of a member absorbs, the record absorbs further down. -/
theorem absorbs_under (inner : shape.Absorbs path key' x R)
    (made : ∀ d a b, R a b → Agree S (r.finish (set d a)) (r.finish (set d b))) :
    r.shape.Absorbs (key :: path) key' x S := by
  intro v lacks
  obtain ⟨ms, rfl, present, below⟩ := lacks_cons_iff.mp lacks
  change Agree S (r.ofMembers r.blank ms) (r.ofMembers r.blank (ms.map (changeUnder key (addAt key' x path))))
  rw [ofMembers_eq, ofMembers_eq]
  refine (place.agree_gather (fun v member => inner v (below v member)) present).bind ?_
  rintro _ _ ⟨d, a, b, rfl, rfl, related⟩
  exact made d a b related

/-- What the value of a member refuses, the record refuses further down. -/
theorem refuses_under {m : Mismatch} (inner : shape.Refuses path key' x m) :
    r.shape.Refuses (key :: path) key' x m := by
  intro v p lacks read
  obtain ⟨ms, rfl, present, below⟩ := lacks_cons_iff.mp lacks
  change r.ofMembers r.blank ms = .ok p at read
  change r.ofMembers r.blank (ms.map (changeUnder key (addAt key' x path))) = .error m
  rw [ofMembers_eq] at read ⊢
  obtain ⟨d, gathered, -⟩ := bind_eq_ok.mp read
  obtain ⟨e, c, rest, values, -⟩ := place.gather_eq_ok.mp gathered
  have kept : r.gather r.blank (others key (ms.map (changeUnder key (addAt key' x path)))) = .ok e := by
    rw [others_changeUnder, rest]
  have refused : column key shape (ms.map (changeUnder key (addAt key' x path))) = .error m :=
    column_changeUnder_refused (fun v a member => inner v a (below v member)) present values
  rw [place.gather_eq_error kept refused]
  rfl

end

end Place

end Record

/-! ## What a value that may be `null` absorbs, and a table -/

namespace Shape

variable {shape : Shape β} {key : String} {path : List String} {x : Value} {ms : List (String × Value)} {a : β}

theorem Absorbs.optional (inner : shape.Absorbs path key x Eq) : shape.optional.Absorbs path key x Eq := by
  intro v lacks
  have still : addAt key x path v ≠ .null := by
    cases path with
    | nil =>
      obtain ⟨ms, rfl, -⟩ := lacks_nil_iff.mp lacks
      exact Value.noConfusion
    | cons step path =>
      obtain ⟨ms, rfl, -, -⟩ := lacks_cons_iff.mp lacks
      exact Value.noConfusion
  rw [optional_ofValue (ne_null_of_lacks lacks), optional_ofValue still, (inner v lacks).eq]
  exact .of_eq rfl fun _ => rfl

/-- An entry put into a table from the start is put into the whole table, if its key does not come again. -/
theorem tableOfMembers_insert (absent : hasMember key ms = false) (acc : Table β) :
    tableOfMembers shape (acc.insert key a) ms = (·.insert key a) <$> tableOfMembers shape acc ms := by
  induction ms generalizing acc with
  | nil => rfl
  | cons m ms ih =>
    obtain ⟨k, v⟩ := m
    obtain ⟨other, rest⟩ := hasMember_cons_eq_false absent
    rw [tableOfMembers, tableOfMembers]
    cases shape.ofValue v with
    | error e => rfl
    | ok b =>
      change tableOfMembers shape ((acc.insert key a).insert k b) ms = _
      rw [Table.insert_comm other]
      exact ih rest _

theorem tableOfMembers_insertEntry (value : shape.ofValue x = .ok a) (absent : hasMember key ms = false)
    (acc : Table β) :
    tableOfMembers shape acc (Table.insertEntry key x ms) = (·.insert key a) <$> tableOfMembers shape acc ms := by
  have first {ms : List (String × Value)} (absent : hasMember key ms = false) (acc : Table β) :
      tableOfMembers shape acc ((key, x) :: ms) = (·.insert key a) <$> tableOfMembers shape acc ms := by
    rw [tableOfMembers, value]
    exact tableOfMembers_insert absent acc
  induction ms generalizing acc with
  | nil => exact first rfl acc
  | cons m ms ih =>
    obtain ⟨k, v⟩ := m
    obtain ⟨other, rest⟩ := hasMember_cons_eq_false absent
    rw [Table.insertEntry]
    split
    · exact first absent acc
    rw [if_neg (Ne.symm other), tableOfMembers, tableOfMembers]
    cases shape.ofValue v with
    | error e => rfl
    | ok b => exact ih rest _

/-- A key without a member is no key of the table. -/
theorem get?_tableOfMembers (absent : hasMember key ms = false) {acc t : Table β}
    (read : tableOfMembers shape acc ms = .ok t) : t.get? key = acc.get? key := by
  induction ms generalizing acc with
  | nil =>
    cases read
    rfl
  | cons m ms ih =>
    obtain ⟨k, v⟩ := m
    obtain ⟨other, rest⟩ := hasMember_cons_eq_false absent
    rw [tableOfMembers] at read
    obtain ⟨b, -, read⟩ := bind_eq_ok.mp read
    rw [ih rest read, Table.get?_insert, if_neg (Ne.symm other)]

/-- A table takes `null` for what it is read as, under a key more. -/
theorem table_absorbs_null (null : shape.ofValue .null = .ok a) :
    (table shape).Absorbs [] key .null fun t t' => t.get? key = none ∧ t' = t.insert key a := by
  intro v lacks
  obtain ⟨ms, rfl, absent⟩ := lacks_nil_iff.mp lacks
  change Agree _ (tableOfMembers shape .empty ms) (tableOfMembers shape .empty (Table.insertEntry key .null ms))
  rw [tableOfMembers_insertEntry null absent]
  cases read : tableOfMembers shape .empty ms with
  | error e => exact .error e
  | ok t => exact .ok ⟨get?_tableOfMembers absent read, rfl⟩

end Shape

end Json

end CrashReporter
