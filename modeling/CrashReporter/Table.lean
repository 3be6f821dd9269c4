/-!
# Tables

A table holds values under texts, in the order of the texts and each text once. `get?` is the view
of a table: `get?_insert` says what an insertion changes.
-/

namespace CrashReporter

namespace Table

/-- Puts an entry into a list in the order of keys; an equal key's value is replaced. -/
def insertEntry {β : Type} (key : String) (value : β) : List (String × β) → List (String × β)
  | [] => [(key, value)]
  | (k, v) :: rest =>
    if key < k then (key, value) :: (k, v) :: rest
    else if key = k then (key, value) :: rest
    else (k, v) :: insertEntry key value rest

/-- Entries in strictly increasing order of their keys. -/
def Ordered {β : Type} (entries : List (String × β)) : Prop :=
  entries.Pairwise fun a b => a.1 < b.1

theorem mem_insertEntry {β : Type} {key : String} {value : β} {e : String × β}
    {entries : List (String × β)} (h : e ∈ insertEntry key value entries) :
    e = (key, value) ∨ e ∈ entries := by
  induction entries with
  | nil => simpa [insertEntry] using h
  | cons a rest ih =>
    obtain ⟨k, v⟩ := a
    simp only [insertEntry] at h
    split at h
    · simpa using h
    · split at h
      · rcases List.mem_cons.1 h with h | h
        · exact .inl h
        · exact .inr (List.mem_cons_of_mem _ h)
      · rcases List.mem_cons.1 h with h | h
        · exact .inr (h ▸ List.mem_cons_self ..)
        · exact (ih h).imp_right (List.mem_cons_of_mem _)

theorem Ordered.insertEntry {β : Type} (key : String) (value : β) {entries : List (String × β)}
    (h : Ordered entries) : Ordered (Table.insertEntry key value entries) := by
  induction entries with
  | nil => simp [Table.insertEntry, Ordered]
  | cons a rest ih =>
    obtain ⟨k, v⟩ := a
    obtain ⟨hk, hr⟩ := List.pairwise_cons.1 h
    simp only [Table.insertEntry]
    split
    · next hlt =>
      refine List.pairwise_cons.2 ⟨fun e he => ?_, h⟩
      rcases List.mem_cons.1 he with rfl | he
      · exact hlt
      · exact String.lt_trans hlt (hk e he)
    · split
      · next heq =>
        subst heq
        exact List.pairwise_cons.2 ⟨hk, hr⟩
      · next hlt hne =>
        have hgt : k < key := by
          rcases Std.lt_trichotomy key k with h' | h' | h'
          · exact absurd h' hlt
          · exact absurd h' hne
          · exact h'
        refine List.pairwise_cons.2 ⟨fun e he => ?_, ih hr⟩
        rcases mem_insertEntry he with rfl | he
        · exact hgt
        · exact hk e he

end Table

/-- Values under texts, in the order of the texts. -/
structure Table (β : Type) where
  entries : List (String × β)
  ordered : Table.Ordered entries

namespace Table

variable {β γ : Type}

instance [DecidableEq β] : DecidableEq (Table β) := fun a b =>
  if h : a.entries = b.entries then .isTrue (by cases a; cases b; simp_all)
  else .isFalse fun e => h (e ▸ rfl)

/-- No values. -/
def empty : Table β := ⟨[], .nil⟩

instance : Inhabited (Table β) := ⟨empty⟩

/-- The table with a value under a text, in place of the one that may be there. -/
def insert (t : Table β) (key : String) (value : β) : Table β :=
  ⟨insertEntry key value t.entries, t.ordered.insertEntry key value⟩

/-- The value under a text. -/
def get? (t : Table β) (key : String) : Option β := t.entries.lookup key

/-- The table of entries; of those with one key the last counts. -/
def ofList (entries : List (String × β)) : Table β :=
  entries.foldl (fun t e => t.insert e.1 e.2) empty

/-- Each value changed alike. -/
def map (f : β → γ) (t : Table β) : Table γ :=
  ⟨t.entries.map fun e => (e.1, f e.2), by
    have h := t.ordered
    simp only [Ordered, List.pairwise_map] at h ⊢
    exact h⟩

theorem lookup_cons_eq_if (q k : String) (v : β) (rest : List (String × β)) :
    ((k, v) :: rest).lookup q = if q = k then some v else rest.lookup q := by
  by_cases h : q = k
  · simp [h]
  · simp [List.lookup_cons, h, beq_eq_false_iff_ne.2 h]

theorem lookup_insertEntry (key : String) (value : β) (entries : List (String × β)) (q : String) :
    (insertEntry key value entries).lookup q = if q = key then some value else entries.lookup q := by
  induction entries with
  | nil => simp [insertEntry, lookup_cons_eq_if]
  | cons a rest ih =>
    obtain ⟨k, v⟩ := a
    simp only [insertEntry]
    split
    · rw [lookup_cons_eq_if]
    · split
      · next heq =>
        subst heq
        by_cases h : q = key <;> simp [lookup_cons_eq_if, h]
      · next hne =>
        by_cases h : q = k
        · subst h
          simp [Ne.symm hne]
        · simp [lookup_cons_eq_if, h, ih]

@[simp] theorem get?_insert (t : Table β) (key q : String) (value : β) :
    (t.insert key value).get? q = if q = key then some value else t.get? q :=
  lookup_insertEntry key value t.entries q

end Table

end CrashReporter
