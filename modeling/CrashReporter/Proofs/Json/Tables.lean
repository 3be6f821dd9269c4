import CrashReporter.Proofs.Json.Records

/-!
# Reading what was written: tables

An object whose keys are not known beforehand is read as the table of its members
(`Shape.table_reads_members`). The entries of a table make up that table again (`Table.ofList_entries`), so a
table that was written reads back (`Shape.table_reads`).
-/

namespace CrashReporter

/-! ## Entries -/

namespace Table

variable {β : Type}

/-- An entry behind all others comes last. -/
theorem insertEntry_last {key : String} (value : β) {entries : List (String × β)} (last : ∀ e ∈ entries, e.1 < key) :
    insertEntry key value entries = entries ++ [(key, value)] := by
  induction entries with
  | nil => rfl
  | cons e entries ih =>
    have before : e.1 < key := last e List.mem_cons_self
    have after : ¬ key < e.1 := fun h => String.lt_irrefl _ (String.lt_trans before h)
    have other : key ≠ e.1 := fun h => String.lt_irrefl _ (h ▸ before)
    rw [insertEntry, if_neg after, if_neg other, ih fun e' he => last e' (List.mem_cons_of_mem _ he)]
    rfl

/-- Entries that continue a table in its order are appended to it. -/
theorem entries_foldl_insert (entries : List (String × β)) (acc : Table β)
    (ordered : Ordered (acc.entries ++ entries)) :
    (entries.foldl (fun t e => t.insert e.1 e.2) acc).entries = acc.entries ++ entries := by
  induction entries generalizing acc with
  | nil => exact (List.append_nil _).symm
  | cons e entries ih =>
    have last : ∀ e' ∈ acc.entries, e'.1 < e.1 :=
      fun e' he => (List.pairwise_append.mp ordered).2.2 e' he e List.mem_cons_self
    have inserted : (acc.insert e.1 e.2).entries = acc.entries ++ [e] := insertEntry_last e.2 last
    rw [List.append_cons] at ordered ⊢
    rw [List.foldl_cons, ih _ (inserted ▸ ordered), inserted]

/-- The entries of a table make up that table. -/
theorem ofList_entries (t : Table β) : ofList t.entries = t := by
  have same : (ofList t.entries).entries = t.entries := entries_foldl_insert t.entries .empty t.ordered
  exact (mk.injEq ..).mpr same

end Table

namespace Json.Shape

open Text (bytes)

theorem flag_reads (levels : Nat) (b : Bool) : flag.Reads levels (.bool b) b := by
  intro L level depth lead rest blank _ _
  rw [Text.bytes_append, List.append_assoc]
  cases b <;> (simp only [flag, skipBlanks_blank blank]; rfl)

variable {β : Type} {inner : Shape β} {levels : Nat} {toValue : β → Value}

/-! ## Members -/

/-- Entries as the members of an object. -/
def membersOf (toValue : β → Value) (entries : List (String × β)) : List (String × Value) :=
  entries.map fun e => (e.1, toValue e.2)

/-- One entry is read. -/
theorem readTable_entry {L : Layout} {level : Nat} {key : String} {v : Value} {x : β}
    (reads : inner.Reads levels v x) {depth : Nat} (deep : levels ≤ depth) {first : Bool} {acc : Table β}
    {s rest : Bytes} (ends : Ends rest)
    (next : nextMember first s = .ok (.item (Record.headBytes L level key v rest))) (n : Nat) :
    readTable inner depth (n + 1) first acc s = readTable inner depth n false (acc.insert key x) rest := by
  rw [readTable, next]
  simp only [bind, Except.bind]
  rw [Record.headBytes, readText_quoted]
  simp only [Record.afterColon_cons, reads L (level + 1) depth L.gap rest L.gap_blank deep ends]

/-- The entries behind the first are read, by induction on them. -/
theorem readTable_entries (reads : ∀ x, inner.Reads levels (toValue x) x) {depth : Nat} (deep : levels ≤ depth)
    (L : Layout) (level : Nat) (rest : Bytes) (entries : List (String × β)) (acc : Table β) (n : Nat)
    (enough : entries.length < n) :
    readTable inner depth n false acc (bytes (memberChars L level (membersOf toValue entries)) ++ rest) =
      .ok (entries.foldl (fun t e => t.insert e.1 e.2) acc, rest) := by
  induction entries generalizing n acc with
  | nil =>
    obtain ⟨n, rfl⟩ := Nat.exists_eq_add_one_of_ne_zero (Nat.ne_zero_of_lt enough)
    rw [readTable, membersOf, List.map_nil, Record.nextMember_brace]
    rfl
  | cons e entries ih =>
    obtain ⟨n, rfl⟩ := Nat.exists_eq_add_one_of_ne_zero (Nat.ne_zero_of_lt enough)
    have next := (Record.nextMember_member L level e.1 (toValue e.2) (membersOf toValue entries) rest).2
    rw [membersOf, List.map_cons, ← membersOf,
      readTable_entry (reads e.2) deep (Record.ends_members L level _ rest) next]
    exact ih _ n (Nat.lt_of_succ_lt_succ enough)

/-- An object is read as the table of its members, of which the last of each key counts. -/
theorem table_reads_members (reads : ∀ x, inner.Reads (levels + 1) (toValue x) x) (entries : List (String × β)) :
    (table inner).Reads (levels + 2) (.object (membersOf toValue entries)) (.ofList entries) := by
  intro L level depth lead rest blank deep _
  have inside (s : Bytes) : (table inner).read depth (bytes lead ++ 0x7B :: s) =
      readTable inner (depth - 1) (stepBound s) true .empty s := by
    simp only [table, skipBlanks_blank blank, skipBlanks_cons (show isBlankByte 0x7B = false from rfl)]
    rw [if_pos trivial, if_neg (by omega)]
  cases entries with
  | nil =>
    rw [membersOf, List.map_nil, Record.bytes_object_nil, inside, stepBound, readTable, nextMember,
      skipBlanks_cons rfl]
    rfl
  | cons e entries =>
    have next := (Record.nextMember_member L level e.1 (toValue e.2) (membersOf toValue entries) rest).1
    rw [membersOf, List.map_cons, ← membersOf, Record.bytes_object_cons, inside, stepBound,
      readTable_entry (reads e.2) (by omega) (Record.ends_members L level _ rest) next,
      readTable_entries reads (by omega) L level rest entries _ _ ?_]
    · rfl
    · have := Record.length_members L level (membersOf toValue entries) rest
      simp only [membersOf, List.length_map, Text.bytes_append, Text.bytes_cons, List.length_append] at this ⊢
      omega

/-- A table that was written reads back. -/
theorem table_reads (reads : ∀ x, inner.Reads (levels + 1) (toValue x) x) (t : Table β) :
    (table inner).Reads (levels + 2) (.object (t.map toValue).entries) t := by
  have whole := table_reads_members reads t.entries
  rwa [Table.ofList_entries] at whole

end Json.Shape

end CrashReporter
