import CrashReporter.Json.Reader

/-!
# Reading values of a known type

A shape says how a value of some type is read: straight from a text, or out of a value read before.
The two ways accept nearly the same: read straight from a text, a record refuses a key that comes
twice, and members that nobody asked for may be nested to any depth.

A record is an object whose keys are known, or the list of its members in their order. Reading fills
a draft member by member, and `finish` makes the record of it, or names what is missing.
-/

namespace CrashReporter.Json

/-- How a value of type `β` is read. -/
structure Shape (β : Type) where
  /-- From a text, of which `depth - 1` levels of lists and objects may follow. -/
  read : (depth : Nat) → Bytes → Except Fault (β × Bytes)
  /-- Out of a value. -/
  ofValue : Value → Except Mismatch β

/-- A flaw in a value that ended where `rest` begins. -/
def mismatchBefore {α : Type} (m : Mismatch) (rest : Bytes) : Except Fault α :=
  flawBefore (.mismatch m) rest

/-- The fault of a value of another type than expected. The value is read as far as it takes to name
it, so a broken one is reported as broken. -/
def wrongType {α : Type} (expected : String) (s : Bytes) : Except Fault α :=
  let found (f : Found) (rest : Bytes) : Except Fault α :=
    mismatchBefore (.wrongType f expected) rest
  match s with
  | [] => flawAt .endInValue []
  | b :: rest =>
    if b = 0x6E then do found .null (← literal "ull".toList rest)
    else if b = 0x74 then do found (.bool true) (← literal "rue".toList rest)
    else if b = 0x66 then do found (.bool false) (← literal "alse".toList rest)
    else if b = 0x2D then do
      let (n, rest) ← readNumber false rest
      found (.number n) rest
    else if isDigit b then do
      let (n, rest) ← readNumber true s
      found (.number n) rest
    else if b = 0x22 then do
      let (t, rest) ← readText rest
      found (.text t) rest
    else if b = 0x5B then found .list s
    else if b = 0x7B then found .object s
    else flawAt .noValue s

namespace Shape

/-- Any value. -/
def any : Shape Value where
  read := Value.read
  ofValue := .ok

/-- A text. -/
def text : Shape String where
  read _ s :=
    match skipBlanks s with
    | [] => flawAt .endInValue []
    | b :: rest => if b = 0x22 then readText rest else wrongType "a string" (b :: rest)
  ofValue
    | .text t => .ok t
    | v => .error (.wrongType v.found "a string")

/-- `true` or `false`. -/
def flag : Shape Bool where
  read _ s :=
    match skipBlanks s with
    | [] => flawAt .endInValue []
    | b :: rest =>
      if b = 0x74 then do return (true, ← literal "rue".toList rest)
      else if b = 0x66 then do return (false, ← literal "alse".toList rest)
      else wrongType "a boolean" (b :: rest)
  ofValue
    | .bool b => .ok b
    | v => .error (.wrongType v.found "a boolean")

/-- The natural number that a number is, if it is at most `max`. -/
def naturalOf (name : String) (max : Nat) : Number → Except Mismatch Nat
  | .whole n =>
    if 0 ≤ n ∧ n ≤ max then .ok n.toNat else .error (.wrongValue (.number (.whole n)) name)
  | .double d => .error (.wrongType (.number (.double d)) name)

/-- A natural number of at most `max`, of a type called `name`. -/
def natural (name : String) (max : Nat) : Shape Nat where
  read _ s :=
    let finish (r : Number × Bytes) : Except Fault (Nat × Bytes) :=
      match naturalOf name max r.1 with
      | .ok n => .ok (n, r.2)
      | .error m => mismatchBefore m r.2
    match skipBlanks s with
    | [] => flawAt .endInValue []
    | b :: rest =>
      if b = 0x2D then do finish (← readNumber false rest)
      else if isDigit b then do finish (← readNumber true (b :: rest))
      else wrongType name (b :: rest)
  ofValue
    | .number n => naturalOf name max n
    | v => .error (.wrongType v.found name)

/-- A value that is changed once it is read. -/
def map {β γ : Type} (f : β → γ) (inner : Shape β) : Shape γ where
  read depth s := do
    let (v, rest) ← inner.read depth s
    return (f v, rest)
  ofValue v := f <$> inner.ofValue v

/-- A natural number of 64 bits. -/
def word64 : Shape UInt64 := (natural "u64" (UInt64.size - 1)).map UInt64.ofNat

/-- A natural number of 32 bits. -/
def word32 : Shape UInt32 := (natural "u32" (UInt32.size - 1)).map UInt32.ofNat

/-- A value, or `null`. -/
def optional {β : Type} (inner : Shape β) : Shape (Option β) where
  read depth s :=
    match skipBlanks s with
    | 0x6E :: rest => do return (none, ← literal "ull".toList rest)
    | t => do
      let (v, rest) ← inner.read depth t
      return (some v, rest)
  ofValue
    | .null => .ok none
    | v => some <$> inner.ofValue v

/-- The members of a table besides those in `acc`; of a key's values the last one counts. -/
def readTable {β : Type} (inner : Shape β) (depth : Nat) :
    Nat → Bool → Table β → Bytes → Except Fault (Table β × Bytes)
  | 0, _, _, s => flawBefore .endInObject s
  | n + 1, first, acc, s => do
    match ← nextMember first s with
    | .done rest => return (acc, rest)
    | .item s =>
      let (key, rest) ← readText s
      let (v, rest) ← inner.read depth (← afterColon rest)
      readTable inner depth n false (acc.insert key v) rest

/-- The members of a table besides those in `acc`, out of values. -/
def tableOfMembers {β : Type} (inner : Shape β) :
    Table β → List (String × Value) → Except Mismatch (Table β)
  | acc, [] => .ok acc
  | acc, (key, v) :: rest => do tableOfMembers inner (acc.insert key (← inner.ofValue v)) rest

/-- An object with any keys, in the order of the keys. -/
def table {β : Type} (inner : Shape β) : Shape (Table β) where
  read depth s :=
    match skipBlanks s with
    | [] => flawAt .endInValue []
    | b :: rest =>
      if b = 0x7B then
        if depth ≤ 1 then flawAt .tooDeep (b :: rest)
        else readTable inner (depth - 1) (stepBound rest) true .empty rest
      else wrongType "a map" (b :: rest)
  ofValue
    | .object members => tableOfMembers inner .empty members
    | v => .error (.wrongType v.found "a map")

end Shape

/-- A member of a record, and its place in the draft `δ`. -/
structure Member (δ : Type) where
  key : String
  isSet : δ → Bool
  read : (depth : Nat) → δ → Bytes → Except Fault (δ × Bytes)
  ofValue : δ → Value → Except Mismatch δ
  /-- Whether a list of members may end before this one. -/
  omissible : Bool

/-- A member of a shape, by how it is looked up in the draft and set there. -/
def Member.of {δ β : Type} (key : String) (shape : Shape β) (get : δ → Option β) (set : δ → β → δ)
    (omissible : Bool) : Member δ where
  key := key
  isSet d := (get d).isSome
  read depth d s := do
    let (v, rest) ← shape.read depth s
    return (set d v, rest)
  ofValue d v := set d <$> shape.ofValue v
  omissible := omissible

/-- A record of type `α` with a draft of type `δ`. -/
structure Record (δ α : Type) where
  name : String
  members : List (Member δ)
  blank : δ
  finish : δ → Except Mismatch α

namespace Record

variable {δ α : Type}

/-- What is expected where a record stands. -/
def expected (r : Record δ α) : String := s!"struct {r.name}"

/-- What is expected of a list of the members. -/
def expectedList (r : Record δ α) : String :=
  let n := r.members.length
  if n = 1 then s!"struct {r.name} with 1 element" else s!"struct {r.name} with {n} elements"

/-- The member of a key. -/
def member? (r : Record δ α) (key : String) : Option (Member δ) :=
  r.members.find? (·.key == key)

/-- The finished record, with `rest` unread. -/
def finishBefore (r : Record δ α) (d : δ) (rest : Bytes) : Except Fault (α × Bytes) :=
  match r.finish d with
  | .ok a => .ok (a, rest)
  | .error m => mismatchBefore m rest

/-- The text behind an object's closing brace, if that comes next. -/
def closeObject (s : Bytes) : Bytes :=
  match skipBlanks s with
  | 0x7D :: rest => rest
  | t => t

/-- The members of an object. -/
def readObject (r : Record δ α) (depth : Nat) :
    Nat → Bool → δ → Bytes → Except Fault (α × Bytes)
  | 0, _, _, s => flawBefore .endInObject s
  | n + 1, first, d, s => do
    match ← nextMember first s with
    | .done rest => r.finishBefore d rest
    | .item s =>
      let (key, rest) ← readText s
      match r.member? key with
      | some m =>
        if m.isSet d then mismatchBefore (.duplicate m.key) (closeObject rest)
        else
          let (d, rest) ← m.read depth d (← afterColon rest)
          readObject r depth n false d rest
      | none => readObject r depth n false d (← skipValue (← afterColon rest))

/-- The closing bracket of a list whose members are all read. -/
def closeList (s : Bytes) : Except Fault Bytes :=
  match skipBlanks s with
  | [] => flawAt .endInList []
  | b :: rest =>
    if b = 0x5D then .ok rest
    else if b = 0x2C then
      match skipBlanks rest with
      | 0x5D :: after => flawAt .trailingComma (0x5D :: after)
      | t => flawAt .trailingText t
    else flawAt .trailingText (b :: rest)

/-- The members `ms` of a list, behind `index` others. -/
def readList (r : Record δ α) (depth : Nat) :
    List (Member δ) → Nat → δ → Bytes → Except Fault (α × Bytes)
  | [], _, d, s => do r.finishBefore d (← closeList s)
  | m :: ms, index, d, s => do
    match ← nextItem (index == 0) s with
    | .done rest =>
      if (m :: ms).all (·.omissible) then r.finishBefore d rest
      else mismatchBefore (.wrongLength index r.expectedList) rest
    | .item s =>
      let (d, rest) ← m.read depth d s
      readList r depth ms (index + 1) d rest

/-- The members `ms` of a list of values, behind `index` others. -/
def ofList (r : Record δ α) (length : Nat) :
    List (Member δ) → Nat → δ → List Value → Except Mismatch α
  | [], _, d, [] => r.finish d
  | [], _, d, _ :: _ => do
    let _ ← r.finish d
    throw (.wrongLength length "fewer elements in array")
  | m :: ms, index, d, [] =>
    if (m :: ms).all (·.omissible) then r.finish d
    else .error (.wrongLength index r.expectedList)
  | m :: ms, index, d, v :: vs => do
    let d ← m.ofValue d v
    ofList r length ms (index + 1) d vs

/-- The members of an object, out of values. -/
def ofMembers (r : Record δ α) : δ → List (String × Value) → Except Mismatch α
  | d, [] => r.finish d
  | d, (key, v) :: rest =>
    match r.member? key with
    | some m => do ofMembers r (← m.ofValue d v) rest
    | none => ofMembers r d rest

/-- How the record is read. -/
def shape (r : Record δ α) : Shape α where
  read depth s :=
    match skipBlanks s with
    | [] => flawAt .endInValue []
    | b :: rest =>
      if b = 0x5B then
        if depth ≤ 1 then flawAt .tooDeep (b :: rest)
        else r.readList (depth - 1) r.members 0 r.blank rest
      else if b = 0x7B then
        if depth ≤ 1 then flawAt .tooDeep (b :: rest)
        else r.readObject (depth - 1) (stepBound rest) true r.blank rest
      else wrongType r.expected (b :: rest)
  ofValue
    | .list items => r.ofList items.length r.members 0 r.blank items
    | .object members => r.ofMembers r.blank members
    | v => .error (.wrongType v.found r.expected)

end Record

/-- What a whole text spells. -/
def Shape.ofText {β : Type} (shape : Shape β) (s : Bytes) : Except Fault β := do
  let (v, rest) ← shape.read maxDepth s
  endOfText rest
  return v

/-- A member that has to be there. -/
def require {β : Type} (key : String) : Option β → Except Mismatch β
  | some v => .ok v
  | none => .error (.missing key)

end CrashReporter.Json
