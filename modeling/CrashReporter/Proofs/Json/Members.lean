import CrashReporter.Json.Shape

/-!
# One member of a record, apart from the others

A record is read out of an object member by member, and what the object says under one key is read apart from
the rest: the values under the key come to something (`Json.column`), the members under other keys fill a
draft (`Record.gather`), and the whole is that draft with that in its place (`Record.Place.gather_eq_ok`). What
is wrong under the key is what is wrong with the object, if nothing else is (`Record.Place.gather_eq_error`).

So a change under one key (`Json.changeMember`) changes what is read in one place
(`Record.Field.changes_members`). A list of the members has the value in a place of its own; where that is the
last place, the change is the same in both forms of a record (`Json.changeLast`, `Record.Field.changes_last`).
-/

namespace CrashReporter.Json

variable {β γ δ α : Type}

/-- What goes on with a value is readable if the value is and what follows. -/
theorem bind_eq_ok {ε : Type} {x : Except ε β} {next : β → Except ε γ} {c : γ} :
    x >>= next = .ok c ↔ ∃ b, x = .ok b ∧ next b = .ok c := by
  cases x with
  | error e => simp [bind, Except.bind]
  | ok b => simp [bind, Except.bind]

theorem map_eq_ok {ε : Type} {x : Except ε β} {f : β → γ} {c : γ} : f <$> x = .ok c ↔ ∃ b, x = .ok b ∧ f b = c := by
  cases x with
  | error e => simp [Functor.map, Except.map]
  | ok b => simp [Functor.map, Except.map]

/-! ## Members under one key -/

/-- The members under other keys. -/
def others (key : String) (ms : List (String × Value)) : List (String × Value) := ms.filter fun m => m.1 != key

/-- What the values under a key come to: the last one counts, and all have to be readable. -/
def column (key : String) (shape : Shape β) : List (String × Value) → Except Mismatch (Option β)
  | [] => .ok none
  | (k, v) :: ms =>
    if k = key then do
      let w ← shape.ofValue v
      let later ← column key shape ms
      return some (later.getD w)
    else column key shape ms

/-- Whether there is a member under a key. -/
def hasMember (key : String) (ms : List (String × Value)) : Bool := ms.any fun m => m.1 == key

/-- A member with its value changed if it is under a key. -/
def changeUnder (key : String) (f : Value → Value) (m : String × Value) : String × Value :=
  if m.1 = key then (key, f m.2) else m

/-- The members with each value under a key changed, or, if there is none, with what becomes of `null` put in
under that key. -/
def changeMember (key : String) (f : Value → Value) (ms : List (String × Value)) : List (String × Value) :=
  if hasMember key ms then ms.map (changeUnder key f) else Table.insertEntry key (f .null) ms

section

variable {key k : String} {v : Value} {ms : List (String × Value)} {shape : Shape β}

theorem others_same : others key ((key, v) :: ms) = others key ms := by
  simp [others]

theorem others_cons (other : k ≠ key) : others key ((k, v) :: ms) = (k, v) :: others key ms := by
  simp [others, other]

theorem column_same : column key shape ((key, v) :: ms) = (do
    let w ← shape.ofValue v
    let later ← column key shape ms
    return some (later.getD w)) := by
  rw [column, if_pos rfl]

theorem column_cons (other : k ≠ key) : column key shape ((k, v) :: ms) = column key shape ms := by
  rw [column, if_neg other]

/-- Nothing is said under a key exactly if there is no member. -/
theorem hasMember_of_column {c : Option β} (read : column key shape ms = .ok c) : hasMember key ms = c.isSome := by
  induction ms generalizing c with
  | nil =>
    cases read
    rfl
  | cons m ms ih =>
    obtain ⟨k, v⟩ := m
    by_cases same : k = key
    · subst same
      rw [column_same] at read
      obtain ⟨w, -, read⟩ := bind_eq_ok.mp read
      obtain ⟨later, -, read⟩ := bind_eq_ok.mp read
      cases read
      simp [hasMember]
    · rw [column_cons same] at read
      rw [← ih read]
      simp [hasMember, same]

/-! ## Changes under one key -/

theorem others_insertEntry : others key (Table.insertEntry key v ms) = others key ms := by
  induction ms with
  | nil => exact others_same
  | cons m ms ih =>
    obtain ⟨k, w⟩ := m
    rw [Table.insertEntry]
    split
    · exact others_same
    split
    · next same =>
      rw [← same, others_same, others_same]
    · next other =>
      rw [others_cons (Ne.symm other), others_cons (Ne.symm other), ih]

theorem others_changeUnder (f : Value → Value) : others key (ms.map (changeUnder key f)) = others key ms := by
  induction ms with
  | nil => rfl
  | cons m ms ih =>
    obtain ⟨k, v⟩ := m
    rw [List.map_cons, changeUnder]
    split
    · next same =>
      change k = key at same
      rw [same, others_same, others_same, ih]
    · next other => rw [others_cons other, others_cons other, ih]

/-- The members under other keys stay as they are. -/
theorem others_changeMember (f : Value → Value) : others key (changeMember key f ms) = others key ms := by
  unfold changeMember
  split
  · exact others_changeUnder f
  · exact others_insertEntry

theorem hasMember_cons_eq_false (absent : hasMember key ((k, v) :: ms) = false) : k ≠ key ∧ hasMember key ms = false := by
  rw [hasMember, List.any_cons, Bool.or_eq_false_iff] at absent
  exact ⟨beq_eq_false_iff_ne.mp absent.1, absent.2⟩

theorem column_of_absent (absent : hasMember key ms = false) : column key shape ms = .ok none := by
  induction ms with
  | nil => rfl
  | cons m ms ih =>
    obtain ⟨other, absent⟩ := hasMember_cons_eq_false absent
    rw [column_cons other]
    exact ih absent

/-- What a value that is put in reads as is what the values come to. -/
theorem column_insertEntry (absent : hasMember key ms = false) :
    column key shape (Table.insertEntry key v ms) = some <$> shape.ofValue v := by
  have alone {ms : List (String × Value)} (absent : hasMember key ms = false) :
      column key shape ((key, v) :: ms) = some <$> shape.ofValue v := by
    rw [column_same, column_of_absent absent]
    cases shape.ofValue v <;> rfl
  induction ms with
  | nil => exact alone rfl
  | cons m ms ih =>
    obtain ⟨k, w⟩ := m
    obtain ⟨other, rest⟩ := hasMember_cons_eq_false absent
    rw [Table.insertEntry]
    split
    · exact alone absent
    rw [if_neg (Ne.symm other), column_cons other]
    exact ih rest

/-- A change of values that changes what is read: into what `g` makes of it and of `x`, or into what is wrong
with `x`. -/
def Shape.Changes (shape : Shape β) (f : Value → Value) (x : Except Mismatch γ) (g : γ → β → β) : Prop :=
  ∀ v a, shape.ofValue v = .ok a → shape.ofValue (f v) = (g · a) <$> x

variable {f : Value → Value} {x : Except Mismatch γ} {g : γ → β → β} {c : Option β}

/-- Each value under a key changes, and the last one counts as before. -/
theorem column_changeUnder (changes : shape.Changes f x g) (read : column key shape ms = .ok c) :
    column key shape (ms.map (changeUnder key f)) = c.elim (.ok none) fun a => (some <| g · a) <$> x := by
  induction ms generalizing c with
  | nil =>
    cases read
    rfl
  | cons m ms ih =>
    obtain ⟨k, v⟩ := m
    by_cases same : k = key
    · subst same
      rw [column_same] at read
      obtain ⟨w, value, read⟩ := bind_eq_ok.mp read
      obtain ⟨later, rest, read⟩ := bind_eq_ok.mp read
      cases read
      rw [List.map_cons, changeUnder, if_pos rfl, column_same, changes v w value, ih rest]
      cases x with
      | error e => cases later <;> rfl
      | ok b => cases later <;> rfl
    · rw [column_cons same] at read
      rw [List.map_cons, changeUnder, if_neg same, column_cons same]
      exact ih read

/-- What the values come to after a change, if they came to `a` before, or if `a` is what `null` reads as and
there was none. -/
theorem column_changeMember (changes : shape.Changes f x g) (read : column key shape ms = .ok c) {a : β}
    (old : c = some a ∨ c = none ∧ shape.ofValue .null = .ok a) :
    column key shape (changeMember key f ms) = (some <| g · a) <$> x := by
  unfold changeMember
  rw [hasMember_of_column read]
  obtain rfl | ⟨rfl, null⟩ := old
  · exact column_changeUnder changes read
  · rw [Option.isSome_none, if_neg Bool.false_ne_true, column_insertEntry (hasMember_of_column read), changes _ _ null]
    cases x <;> rfl

end

/-! ## Records -/

/-- Whether a member neither looks at a place of the draft nor puts anything there. -/
structure Member.Apart (m : Member δ) (get : δ → Option β) (set : δ → β → δ) : Prop where
  ofValue_set : ∀ d v w, m.ofValue (set d w) v = (set · w) <$> m.ofValue d v
  get_ofValue : ∀ d v d', m.ofValue d v = .ok d' → get d' = get d

theorem Member.Apart.of {key : String} {shape : Shape γ} {get' : δ → Option γ} {set' : δ → γ → δ} {omissible : Bool}
    {get : δ → Option β} {set : δ → β → δ} (set_set' : ∀ d v w, set' (set d w) v = set (set' d v) w)
    (get_set' : ∀ d v, get (set' d v) = get d) : (Member.of key shape get' set' omissible).Apart get set where
  ofValue_set d v w := by
    have later : set' (set d w) = fun a => set (set' d a) w := funext fun a => set_set' d a w
    simp [Member.of, later]
  get_ofValue d v d' read := by
    obtain ⟨a, -, rfl⟩ := map_eq_ok.mp read
    exact get_set' d a

namespace Record

variable {r : Record δ α} {d d' : δ} {ms : List (String × Value)}

/-- The draft that the members of an object fill. -/
def gather (r : Record δ α) : δ → List (String × Value) → Except Mismatch δ
  | d, [] => .ok d
  | d, (key, v) :: rest =>
    match r.member? key with
    | some m => do gather r (← m.ofValue d v) rest
    | none => gather r d rest

theorem gather_known {key : String} {m : Member δ} (known : r.member? key = some m) (v : Value) :
    r.gather d ((key, v) :: ms) = (do r.gather (← m.ofValue d v) ms) := by
  rw [gather, known]

theorem gather_unknown {key : String} (unknown : r.member? key = none) (v : Value) :
    r.gather d ((key, v) :: ms) = r.gather d ms := by
  rw [gather, unknown]

/-- A record is made of the draft that its members fill. -/
theorem ofMembers_eq : r.ofMembers d ms = r.gather d ms >>= r.finish := by
  induction ms generalizing d with
  | nil => rfl
  | cons m ms ih =>
    obtain ⟨key, v⟩ := m
    cases known : r.member? key with
    | none =>
      rw [ofMembers, known, gather_unknown known]
      exact ih
    | some m =>
      rw [ofMembers, known, gather_known known]
      change (m.ofValue d v >>= fun d => r.ofMembers d ms) = _
      cases m.ofValue d v with
      | error e => rfl
      | ok d' => exact ih

/-- The member found under another key is another member. -/
theorem member_ne {key k : String} {m : Member δ} (known : r.member? k = some m) (other : k ≠ key) :
    m ∈ r.members ∧ m.key ≠ key := by
  have found := List.find?_some known
  exact ⟨List.mem_of_find?_eq_some known, (beq_iff_eq.mp found).symm ▸ other⟩

/-- The place of a member in the draft: it is found empty, keeps what is last put there, and is no other member's. -/
structure Place (r : Record δ α) (key : String) (shape : Shape β) (get : δ → Option β) (set : δ → β → δ) : Prop where
  member : ∃ omissible, r.member? key = some (.of key shape get set omissible)
  blank : get r.blank = none
  set_set : ∀ d v w, set (set d v) w = set d w
  apart : ∀ m ∈ r.members, m.key ≠ key → m.Apart get set

/-- A place that may be left empty: then the record reads as one with `null` there. -/
structure Field (r : Record δ α) (key : String) (shape : Shape β) (get : δ → Option β) (set : δ → β → δ) : Prop
    extends r.Place key shape get set where
  absent : ∀ d p, get d = none → r.finish d = .ok p → ∃ a, shape.ofValue .null = .ok a ∧ r.finish (set d a) = .ok p

namespace Place

variable {key : String} {shape : Shape β} {get : δ → Option β} {set : δ → β → δ}
  (place : r.Place key shape get set)
include place

/-- A value under the key is put in its place. -/
theorem gather_same (v : Value) :
    r.gather d ((key, v) :: ms) = (do r.gather (set d (← shape.ofValue v)) ms) := by
  obtain ⟨omissible, known⟩ := place.member
  rw [gather_known known]
  cases h : shape.ofValue v <;> simp [Member.of, h, bind, Except.bind, Functor.map, Except.map]

/-- Members under other keys are read alike whatever is in that place. -/
theorem gather_set (d : δ) (w : β) (ms : List (String × Value)) :
    r.gather (set d w) (others key ms) = (set · w) <$> r.gather d (others key ms) := by
  induction ms generalizing d with
  | nil => rfl
  | cons m ms ih =>
    obtain ⟨k, v⟩ := m
    by_cases same : k = key
    · subst same
      rw [others_same]
      exact ih d
    · rw [others_cons same]
      cases known : r.member? k with
      | none =>
        rw [gather_unknown known, gather_unknown known]
        exact ih d
      | some m =>
        obtain ⟨member, different⟩ := member_ne known same
        rw [gather_known known, gather_known known, (place.apart m member different).ofValue_set]
        cases m.ofValue d v with
        | error e => rfl
        | ok d' => exact ih d'

/-- They leave it as it was. -/
theorem get_gather (read : r.gather d (others key ms) = .ok d') : get d' = get d := by
  induction ms generalizing d with
  | nil =>
    cases read
    rfl
  | cons m ms ih =>
    obtain ⟨k, v⟩ := m
    by_cases same : k = key
    · subst same
      rw [others_same] at read
      exact ih read
    · rw [others_cons same] at read
      cases known : r.member? k with
      | none =>
        rw [gather_unknown known] at read
        exact ih read
      | some m =>
        obtain ⟨member, different⟩ := member_ne known same
        rw [gather_known known] at read
        obtain ⟨e, value, read⟩ := bind_eq_ok.mp read
        rw [ih read, (place.apart m member different).get_ofValue d v e value]

/-- An object is readable exactly if its members under other keys are and the values under the key are, and
it is read as these with what those come to in its place. -/
theorem gather_eq_ok :
    r.gather d ms = .ok d' ↔
      ∃ e c, r.gather d (others key ms) = .ok e ∧ column key shape ms = .ok c ∧ d' = c.elim e (set e) := by
  induction ms generalizing d with
  | nil =>
    constructor
    · intro read
      cases read
      exact ⟨_, none, rfl, rfl, rfl⟩
    · rintro ⟨e, c, ⟨⟩, ⟨⟩, rfl⟩
      rfl
  | cons m ms ih =>
    obtain ⟨k, v⟩ := m
    by_cases same : k = key
    · subst same
      rw [place.gather_same, others_same, column_same]
      cases shape.ofValue v with
      | error e => simp [bind, Except.bind]
      | ok w =>
        change r.gather (set d w) ms = .ok d' ↔ _
        rw [ih, place.gather_set]
        -- the place holds the value read first until a later one takes it
        have last (e : δ) (c : Option β) : c.elim (set e w) (set (set e w)) = set e (c.getD w) := by
          cases c with
          | none => rfl
          | some b => exact place.set_set e w b
        cases r.gather d (others k ms) with
        | error e => simp [Functor.map, Except.map]
        | ok e =>
          cases column k shape ms with
          | error e => simp [bind, Except.bind]
          | ok c => simp [bind, Except.bind, Functor.map, Except.map, pure, Except.pure, last]
    · rw [others_cons same, column_cons same]
      cases known : r.member? k with
      | none =>
        rw [gather_unknown known, gather_unknown known]
        exact ih
      | some m =>
        rw [gather_known known, gather_known known]
        cases m.ofValue d v with
        | error e => simp [bind, Except.bind]
        | ok d₁ => exact ih

/-- What is wrong with the values under the key is wrong with an object whose other members are readable. -/
theorem gather_eq_error {e : Mismatch} (rest : r.gather d (others key ms) = .ok d')
    (wrong : column key shape ms = .error e) : r.gather d ms = .error e := by
  induction ms generalizing d d' with
  | nil => cases wrong
  | cons m ms ih =>
    obtain ⟨k, v⟩ := m
    by_cases same : k = key
    · subst same
      rw [others_same] at rest
      rw [column_same] at wrong
      rw [place.gather_same]
      cases value : shape.ofValue v with
      | error m =>
        rw [value] at wrong
        cases wrong
        rfl
      | ok w =>
        rw [value] at wrong
        have later : column k shape ms = .error e := by
          cases tail : column k shape ms with
          | error m =>
            rw [tail] at wrong
            cases wrong
            rfl
          | ok c =>
            rw [tail] at wrong
            cases wrong
        have filled : r.gather (set d w) (others k ms) = .ok (set d' w) := by
          rw [place.gather_set, rest]
          rfl
        exact ih filled later
    · rw [others_cons same] at rest
      rw [column_cons same] at wrong
      cases known : r.member? k with
      | none =>
        rw [gather_unknown known] at rest ⊢
        exact ih rest wrong
      | some m =>
        rw [gather_known known] at rest ⊢
        obtain ⟨d₁, value, rest⟩ := bind_eq_ok.mp rest
        rw [value]
        exact ih rest wrong

end Place

/-- A change under the key changes the record read, if `G` is how a change of what is in the place shows in
the finished record. -/
theorem Field.changes_members {key : String} {shape : Shape β} {get : δ → Option β} {set : δ → β → δ}
    (field : r.Field key shape get set) {f : Value → Value} {x : Except Mismatch γ} {g : γ → β → β} {G : γ → α → α}
    (changes : shape.Changes f x g)
    (made : ∀ d a p, r.finish (set d a) = .ok p → ∀ b, r.finish (set d (g b a)) = .ok (G b p))
    {p : α} (read : r.ofMembers r.blank ms = .ok p) :
    r.ofMembers r.blank (changeMember key f ms) = (G · p) <$> x := by
  rw [ofMembers_eq] at read ⊢
  obtain ⟨d, gathered, finished⟩ := bind_eq_ok.mp read
  obtain ⟨e, c, rest, values, rfl⟩ := field.gather_eq_ok.mp gathered
  have old : ∃ a, (c = some a ∨ c = none ∧ shape.ofValue .null = .ok a) ∧ r.finish (set e a) = .ok p := by
    cases c with
    | some a => exact ⟨a, .inl rfl, finished⟩
    | none =>
      have empty : get e = none := (field.get_gather rest).trans field.blank
      obtain ⟨a, null, finished⟩ := field.absent e p empty finished
      exact ⟨a, .inr ⟨rfl, null⟩, finished⟩
  obtain ⟨a, old, finished⟩ := old
  have changed := column_changeMember changes values old
  have kept : r.gather r.blank (others key (changeMember key f ms)) = .ok e := by
    rw [others_changeMember, rest]
  cases x with
  | error m =>
    rw [field.gather_eq_error kept changed]
    rfl
  | ok b =>
    have full : r.gather r.blank (changeMember key f ms) = .ok (set e (g b a)) :=
      field.gather_eq_ok.mpr ⟨e, some (g b a), kept, changed, rfl⟩
    rw [full]
    exact made e a p finished b

/-! ## Lists of the members -/

/-- The draft that the items of a list fill. -/
def fill : List (Member δ) → List Value → δ → Except Mismatch δ
  | m :: ms, v :: vs, d => do fill ms vs (← m.ofValue d v)
  | _, _, d => .ok d

/-- The last item of a list of all members is put into the draft that the items before it fill. -/
theorem ofList_snoc {n index : Nat} {front : List (Member δ)} {m : Member δ} {vs : List Value} {v : Value}
    (length : vs.length = front.length) :
    r.ofList n (front ++ [m]) index d (vs ++ [v]) = (do r.finish (← m.ofValue (← fill front vs d) v)) := by
  induction front generalizing vs d index with
  | nil =>
    rw [List.eq_nil_of_length_eq_zero length]
    rfl
  | cons first front ih =>
    cases vs with
    | nil => cases length
    | cons w vs =>
      rw [List.cons_append, List.cons_append, ofList, fill, bind_assoc]
      exact congrArg _ (funext fun d => ih (Nat.succ.inj length))

theorem ofValue_list_snoc {key : String} {shape : Shape β} {get : δ → Option β} {set : δ → β → δ} {omissible : Bool}
    {front : List (Member δ)} (last : r.members = front ++ [.of key shape get set omissible]) {vs : List Value}
    {v : Value} (length : vs.length = front.length) :
    r.shape.ofValue (.list (vs ++ [v])) = (do
      let d ← fill front vs r.blank
      let a ← shape.ofValue v
      r.finish (set d a)) := by
  change r.ofList _ r.members 0 r.blank (vs ++ [v]) = _
  rw [last, ofList_snoc length]
  cases fill front vs r.blank with
  | error e => rfl
  | ok d => cases h : shape.ofValue v <;> simp [Member.of, h, bind, Except.bind, Functor.map, Except.map]

/-- A list has no more items than the record has members. -/
theorem length_le_of_ofList {n index : Nat} {members : List (Member δ)} {vs : List Value} {p : α}
    (read : r.ofList n members index d vs = .ok p) : vs.length ≤ members.length := by
  induction members generalizing vs d index with
  | nil =>
    cases vs with
    | nil => exact Nat.le_refl 0
    | cons v vs =>
      obtain ⟨_, -, refused⟩ := bind_eq_ok.mp read
      cases refused
  | cons m members ih =>
    cases vs with
    | nil => exact Nat.zero_le _
    | cons v vs =>
      obtain ⟨_, -, read⟩ := bind_eq_ok.mp read
      exact Nat.succ_le_succ (ih read)

/-- Whether a list that may end early reads as the list that goes on as `blanks` do. -/
def Pads (r : Record δ α) (blanks : List Value) : Prop :=
  ∀ items p, r.shape.ofValue (.list items) = .ok p →
    r.shape.ofValue (.list (items ++ blanks.drop items.length)) = .ok p

end Record

/-- A record with the value of its last member changed, by its key in an object, by its place in a list: behind
`front`, which is what a list reads as that ends before it. -/
def changeLast (key : String) (front : List Value) (f : Value → Value) : Value → Value
  | .object ms => .object (changeMember key f ms)
  | .list items => .list ((items ++ (front ++ [Value.null]).drop items.length).modify front.length f)
  | v => v

/-- A change of the last member changes the record read, if `G` is how it shows in the finished record. -/
theorem Record.Field.changes_last {r : Record δ α} {key : String} {shape : Shape β} {get : δ → Option β}
    {set : δ → β → δ} (field : r.Field key shape get set) {omissible : Bool}
    (last : r.members.getLast? = some (.of key shape get set omissible)) {front : List Value}
    (length : r.members.length = front.length + 1) (pads : r.Pads (front ++ [Value.null]))
    {f : Value → Value} {x : Except Mismatch γ} {g : γ → β → β} {G : γ → α → α} (changes : shape.Changes f x g)
    (made : ∀ d a p, r.finish (set d a) = .ok p → ∀ b, r.finish (set d (g b a)) = .ok (G b p)) :
    r.shape.Changes (changeLast key front f) x G := by
  intro v p read
  cases v with
  | object ms => exact field.changes_members changes made read
  | list items =>
    have padded := pads items p read
    have all : (items ++ (front ++ [Value.null]).drop items.length).length = front.length + 1 := by
      have short := length_le_of_ofList read
      rw [length] at short
      rw [List.length_append, List.length_drop, List.length_append]
      exact Nat.add_sub_cancel' short
    rw [changeLast]
    generalize items ++ (front ++ [Value.null]).drop items.length = full at padded all
    obtain rfl | ⟨vs, w, rfl⟩ := List.eq_nil_or_concat full
    · cases all
    rw [List.concat_eq_append] at padded all ⊢
    have before : vs.length = front.length := by simpa using all
    obtain ⟨members, last⟩ := List.getLast?_eq_some_iff.mp last
    have place : vs.length = members.length := by
      rw [last, List.length_append] at length
      exact before.trans (Nat.succ.inj length).symm
    have changed : (vs ++ [w]).modify front.length f = vs ++ [f w] := by
      simp [← before, List.modify_eq_take_drop]
    rw [ofValue_list_snoc last place] at padded
    obtain ⟨d, filled, padded⟩ := bind_eq_ok.mp padded
    obtain ⟨a, value, finished⟩ := bind_eq_ok.mp padded
    rw [changed, ofValue_list_snoc last place, filled, changes w a value]
    cases x with
    | error e => rfl
    | ok b => exact made d a p finished b
  | null => cases read
  | bool b => cases read
  | number n => cases read
  | text t => cases read

/-! ## Values that may be `null` -/

/-- A change of a value, where `null` stands for an empty object. -/
def changeFilled (f : Value → Value) : Value → Value
  | .null => f (.object [])
  | v => f v

theorem changeLast_ne_null {key : String} {front : List Value} {f : Value → Value} {v : Value} (some : v ≠ .null) :
    changeLast key front f v ≠ .null := by
  cases v <;> simp_all [changeLast]

theorem Shape.optional_ofValue {shape : Shape β} {v : Value} (some : v ≠ .null) :
    shape.optional.ofValue v = .some <$> shape.ofValue v := by
  cases v with
  | null => exact absurd rfl some
  | _ => rfl

/-- A value that is `null` changes as an empty object does. -/
theorem Shape.Changes.optional {shape : Shape β} {f : Value → Value} {x : Except Mismatch γ} {g : γ → β → β}
    (changes : shape.Changes f x g) (some : ∀ v, v ≠ .null → f v ≠ .null) {a : β}
    (empty : shape.ofValue (.object []) = .ok a) :
    shape.optional.Changes (changeFilled f) x fun b old => .some (g b (old.getD a)) := by
  intro v old read
  by_cases null : v = .null
  · subst null
    cases read
    change shape.optional.ofValue (f (.object [])) = _
    rw [Shape.optional_ofValue (some _ Value.noConfusion), changes _ a empty]
    cases x <;> rfl
  · rw [Shape.optional_ofValue null] at read
    cases value : shape.ofValue v with
    | error e =>
      rw [value] at read
      cases read
    | ok b =>
      rw [value] at read
      cases read
      have same : changeFilled f v = f v := by
        cases v with
        | null => exact absurd rfl null
        | _ => rfl
      rw [same, Shape.optional_ofValue (some v null), changes v b value]
      cases x <;> rfl

end CrashReporter.Json
