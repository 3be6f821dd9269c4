import CrashReporter.Proofs.Json.Additions
import CrashReporter.Proofs.Usage.PlanDate

/-!
# Members put into a policy's document

What a document leaves out may be put in as `null`, each at its position, and members of names that nobody
asked for may be put in at any level (`Addition`). One by one, what the document is read as stays the same, but
for features that are named and said nothing of (`remoteRecord_absorbs`). Only the table of features must not be
`null`: a document that is given such a table is refused (`remoteRecord_refuses`).

So an accepted document with any number of additions is accepted exactly if the table of features is not one of
them, and then it lays down the same (`ofRemote_addAll`).
-/

namespace CrashReporter.Policy

open Json

/-! ## Additions -/

/-- What a document may leave out. -/
inductive Position where
  | features
  | feature (name : String)
  | emissionPeriod
  | storage
  | storageLimit
  | data
  | dataLimit
  | planDate

namespace Position

/-- Where in a document the object is that a position is in. -/
def path : Position → List String
  | .features | .emissionPeriod | .storage | .data => ["config"]
  | .feature _ => ["config", "features"]
  | .storageLimit => ["config", "storage"]
  | .dataLimit | .planDate => ["config", "data"]

def key : Position → String
  | .features => "features"
  | .feature name => name
  | .emissionPeriod => "emission_period"
  | .storage => "storage"
  | .storageLimit => "storage_limit"
  | .data => "data"
  | .dataLimit => "cellular_data_limit"
  | .planDate => "normalized_cell_plan_date"

end Position

/-- An object of a document, besides that of the features. -/
inductive Level where
  | document
  | config
  | storage
  | data

namespace Level

def path : Level → List String
  | .document => []
  | .config => ["config"]
  | .storage => ["config", "storage"]
  | .data => ["config", "data"]

/-- The names that are known at a level. -/
def known : Level → List String
  | .document => remoteRecord.members.map Member.key
  | .config => partRecord.members.map Member.key
  | .storage => storageRecord.members.map Member.key
  | .data => dataRecord.members.map Member.key

end Level

/-- A member that is put into a document: `null` at a position, or anything under a name that is unknown. -/
inductive Addition where
  | null (position : Position)
  | unknown (level : Level) (name : String) (value : Value)

namespace Addition

def path : Addition → List String
  | .null position => position.path
  | .unknown level _ _ => level.path

def key : Addition → String
  | .null position => position.key
  | .unknown _ name _ => name

def value : Addition → Value
  | .null _ => .null
  | .unknown _ _ value => value

/-- Whether a name that is added as unknown is unknown. -/
def Unknown : Addition → Prop
  | .null _ => True
  | .unknown level name _ => name ∉ level.known

/-- Whether a document has the object that a member is added to, and lacks that member. -/
def Fits (document : Value) (a : Addition) : Prop := lacks a.key a.path document = true ∧ a.Unknown

/-- Whether two additions are made at different places. -/
def Apart (a b : Addition) : Prop := a.path = b.path → a.key ≠ b.key

/-- A document with one addition. -/
def into (a : Addition) (document : Value) : Value := addAt a.key a.value a.path document

/-- What a document with an addition is read as: a feature that is named is one more of which nothing is said. -/
def Effect : Addition → Part → Part → Prop
  | .null (.feature name), part, part' =>
    part.features.get? name = none ∧ part' = { part with features := part.features.insert name none }
  | _, part, part' => part = part'

end Addition

/-- A document with additions, one after the other. -/
def addAll (additions : List Addition) (document : Value) : Value := additions.foldl (fun d a => a.into d) document

/-! ## What the parts absorb -/

section

variable {key : String} {x : Value} {path : List String}

/-- A record passes over a member under a name that is not one of its own. -/
theorem absorbs_unknown {δ α : Type} {r : Record δ α} (unknown : key ∉ r.members.map Member.key) :
    r.shape.Absorbs [] key x Eq := by
  refine Record.absorbs_unknown (List.find?_eq_none.mpr fun m member same => unknown ?_)
  exact List.mem_map.mpr ⟨m, member, beq_iff_eq.mp same⟩

theorem storageRecord_limit : storageRecord.Place "storage_limit" Shape.word64.optional id fun _ v => some v where
  member := ⟨true, rfl⟩
  blank := rfl
  set_set _ _ _ := rfl
  apart m member other := by
    simp only [storageRecord, List.mem_singleton] at member
    exact absurd (congrArg Member.key member) other

theorem dataRecord_limit : dataRecord.Place "cellular_data_limit" Shape.word64.optional DataDraft.limit
    fun d v => { d with limit := some v } where
  member := ⟨true, rfl⟩
  blank := rfl
  set_set _ _ _ := rfl
  apart m member other := by
    simp only [dataRecord, List.mem_cons, List.not_mem_nil, or_false] at member
    obtain rfl | rfl := member
    · exact absurd rfl other
    · exact .of (fun _ _ _ => rfl) fun _ _ => rfl

theorem partRecord_features : partRecord.Place "features" (Shape.table Shape.flag.optional) PartDraft.features
    fun d v => { d with features := some v } where
  member := ⟨true, rfl⟩
  blank := rfl
  set_set _ _ _ := rfl
  apart m member other := by
    simp only [partRecord, List.mem_cons, List.not_mem_nil, or_false] at member
    obtain rfl | rfl | rfl | rfl := member
    · exact absurd rfl other
    all_goals exact .of (fun _ _ _ => rfl) fun _ _ => rfl

theorem partRecord_emissionPeriod : partRecord.Place "emission_period" Shape.word64.optional PartDraft.emissionPeriod
    fun d v => { d with emissionPeriod := some v } where
  member := ⟨true, rfl⟩
  blank := rfl
  set_set _ _ _ := rfl
  apart m member other := by
    simp only [partRecord, List.mem_cons, List.not_mem_nil, or_false] at member
    obtain rfl | rfl | rfl | rfl := member
    rotate_left
    · exact absurd rfl other
    all_goals exact .of (fun _ _ _ => rfl) fun _ _ => rfl

theorem partRecord_storage : partRecord.Place "storage" storageRecord.shape.optional PartDraft.storage
    fun d v => { d with storage := some v } where
  member := ⟨true, rfl⟩
  blank := rfl
  set_set _ _ _ := rfl
  apart m member other := by
    simp only [partRecord, List.mem_cons, List.not_mem_nil, or_false] at member
    obtain rfl | rfl | rfl | rfl := member
    rotate_right 2
    · exact absurd rfl other
    all_goals exact .of (fun _ _ _ => rfl) fun _ _ => rfl

/-- What the part on storage absorbs, the configuration absorbs. -/
theorem partRecord_absorbs_storage (inner : storageRecord.shape.Absorbs [] key x Eq) :
    partRecord.shape.Absorbs ["storage"] key x Eq :=
  partRecord_storage.absorbs_under inner.optional fun _ _ _ same => .of_eq (by rw [same]) fun _ => rfl

/-- What the part on data absorbs, the configuration absorbs. -/
theorem partRecord_absorbs_data (inner : dataRecord.shape.Absorbs [] key x Eq) :
    partRecord.shape.Absorbs ["data"] key x Eq :=
  partRecord_data.absorbs_under inner.optional fun _ _ _ same => .of_eq (by rw [same]) fun _ => rfl

/-- A configuration absorbs a feature's name. -/
theorem partRecord_absorbs_feature (name : String) :
    partRecord.shape.Absorbs ["features"] name .null (Addition.null (.feature name)).Effect := by
  refine partRecord_features.absorbs_under (Shape.table_absorbs_null (a := none) rfl) ?_
  rintro d t _ ⟨absent, rfl⟩
  exact .ok ⟨absent, rfl⟩

/-- What the configuration absorbs, the document absorbs. -/
theorem remoteRecord_absorbs_part {R : Part → Part → Prop} (inner : partRecord.shape.Absorbs path key x R) :
    remoteRecord.shape.Absorbs ("config" :: path) key x R :=
  remoteRecord_config.absorbs_under inner fun _ _ _ related => .ok related

end

/-- Every addition but a table of features that is `null` is absorbed. -/
theorem remoteRecord_absorbs {a : Addition} (regular : a ≠ .null .features) (unknown : a.Unknown) :
    remoteRecord.shape.Absorbs a.path a.key a.value a.Effect := by
  cases a with
  | null position =>
    cases position with
    | features => exact absurd rfl regular
    | feature name => exact remoteRecord_absorbs_part (partRecord_absorbs_feature name)
    | emissionPeriod =>
      refine remoteRecord_absorbs_part (partRecord_emissionPeriod.absorbs_null rfl fun d empty => ?_)
      simp [partRecord, empty]
    | storage =>
      refine remoteRecord_absorbs_part (partRecord_storage.absorbs_null rfl fun d empty => ?_)
      simp [partRecord, empty]
    | data =>
      refine remoteRecord_absorbs_part (partRecord_data.absorbs_null rfl fun d empty => ?_)
      simp [partRecord, empty]
    | storageLimit =>
      refine remoteRecord_absorbs_part (partRecord_absorbs_storage (storageRecord_limit.absorbs_null rfl ?_))
      rintro d rfl
      rfl
    | dataLimit =>
      refine remoteRecord_absorbs_part (partRecord_absorbs_data (dataRecord_limit.absorbs_null rfl fun d empty => ?_))
      simp [dataRecord, empty]
    | planDate =>
      refine remoteRecord_absorbs_part (partRecord_absorbs_data (dataRecord_date.absorbs_null rfl fun d empty => ?_))
      simp [dataRecord, empty]
  | unknown level name value =>
    cases level with
    | document => exact absorbs_unknown unknown
    | config => exact remoteRecord_absorbs_part (absorbs_unknown unknown)
    | storage => exact remoteRecord_absorbs_part (partRecord_absorbs_storage (absorbs_unknown unknown))
    | data => exact remoteRecord_absorbs_part (partRecord_absorbs_data (absorbs_unknown unknown))

/-- A table of features that is `null` is refused. -/
theorem remoteRecord_refuses :
    remoteRecord.shape.Refuses ["config"] "features" .null (.wrongType .null "a map") :=
  remoteRecord_config.refuses_under (partRecord_features.refuses_null rfl)

/-! ## Several additions -/

section

variable {document : Value} {additions : List Addition} {a b : Addition}

/-- An addition leaves room for one at another place. -/
theorem Addition.Fits.into (fits : b.Fits document) (made : a.Fits document) (apart : a.Apart b) :
    b.Fits (a.into document) :=
  ⟨lacks_addAt fits.1 made.1 fun path key => apart path.symm key.symm, fits.2⟩

theorem fit_rest (fit : ∀ b ∈ a :: additions, b.Fits document) (apart : (a :: additions).Pairwise Addition.Apart) :
    ∀ b ∈ additions, b.Fits (a.into document) := by
  intro b member
  have first := fit a List.mem_cons_self
  exact (fit b (List.mem_cons_of_mem _ member)).into first ((List.pairwise_cons.mp apart).1 b member)

/-- Two configurations lay down the same. -/
structure Part.Alike (part part' : Part) : Prop where
  emissionPeriod : part'.emissionPeriod = part.emissionPeriod
  storageLimit : part'.storageLimit = part.storageLimit
  data : part'.data = part.data
  feature : ∀ name, (part'.features.get? name).join = (part.features.get? name).join

theorem Part.Alike.refl (part : Part) : part.Alike part := ⟨rfl, rfl, rfl, fun _ => rfl⟩

theorem Part.Alike.trans {p q r : Part} (first : p.Alike q) (second : q.Alike r) : p.Alike r where
  emissionPeriod := second.emissionPeriod.trans first.emissionPeriod
  storageLimit := second.storageLimit.trans first.storageLimit
  data := second.data.trans first.data
  feature name := (second.feature name).trans (first.feature name)

theorem Addition.Effect.alike {part part' : Part} (effect : a.Effect part part') : part.Alike part' := by
  cases a with
  | unknown level name value => exact effect ▸ .refl part
  | null position =>
    cases position with
    | feature name =>
      obtain ⟨absent, rfl⟩ := effect
      refine ⟨rfl, rfl, rfl, fun other => ?_⟩
      change ((part.features.insert name none).get? other).join = _
      rw [Table.get?_insert]
      split
      · next same => rw [same, absent]; rfl
      · rfl
    | _ => exact effect ▸ .refl part

theorem Addition.Effect.eq {part part' : Part} (effect : a.Effect part part')
    (unnamed : ∀ name, a ≠ .null (.feature name)) : part' = part := by
  cases a with
  | unknown level name value => exact effect.symm
  | null position =>
    cases position with
    | feature name => exact absurd rfl (unnamed name)
    | _ => exact effect.symm

/-- A document with additions is read as before, whether accepted or not, if none of them is a table of features
that is `null`. -/
theorem remoteRecord_addAll (fit : ∀ a ∈ additions, a.Fits document) (apart : additions.Pairwise Addition.Apart)
    (regular : .null .features ∉ additions) :
    Agree (fun part part' => part.Alike part' ∧ ((∀ name, .null (.feature name) ∉ additions) → part' = part))
      (remoteRecord.shape.ofValue document) (remoteRecord.shape.ofValue (addAll additions document)) := by
  induction additions generalizing document with
  | nil => exact .of_eq rfl fun part => ⟨.refl part, fun _ => rfl⟩
  | cons a additions ih =>
    have first := fit a List.mem_cons_self
    obtain ⟨notFirst, notLater⟩ := not_or.mp (mt List.mem_cons.mpr regular)
    have one := remoteRecord_absorbs (Ne.symm notFirst) first.2 document first.1
    have rest := ih (fit_rest fit apart) (List.pairwise_cons.mp apart).2 notLater
    refine (one.trans rest).imp ?_
    rintro p r ⟨q, effect, alike, same⟩
    refine ⟨effect.alike.trans alike, fun unnamed => ?_⟩
    rw [same fun name member => unnamed name (List.mem_cons_of_mem _ member)]
    exact effect.eq fun name is => unnamed name (is ▸ List.mem_cons_self)

/-- With such a table among them, an accepted document is refused. -/
theorem remoteRecord_addAll_refused {part : Part} (accepted : remoteRecord.shape.ofValue document = .ok part)
    (fit : ∀ a ∈ additions, a.Fits document) (apart : additions.Pairwise Addition.Apart)
    (without : .null .features ∈ additions) :
    remoteRecord.shape.ofValue (addAll additions document) = .error (.wrongType .null "a map") := by
  induction additions generalizing document part with
  | nil => cases without
  | cons a additions ih =>
    have first := fit a List.mem_cons_self
    have fitRest := fit_rest fit apart
    obtain ⟨apartFirst, apartRest⟩ := List.pairwise_cons.mp apart
    rcases List.mem_cons.mp without with is | later
    · subst is
      have refused := remoteRecord_refuses document part first.1 accepted
      have once : .null .features ∉ additions := fun again => apartFirst _ again rfl rfl
      have rest := remoteRecord_addAll fitRest apartRest once
      change remoteRecord.shape.ofValue ((Addition.null .features).into document) = _ at refused
      rw [refused] at rest
      exact rest.error_eq
    · have regular : a ≠ .null .features := by
        rintro rfl
        exact apartFirst _ later rfl rfl
      have one := remoteRecord_absorbs regular first.2 document first.1
      rw [accepted] at one
      obtain ⟨part', read, -⟩ := one.exists_ok
      exact ih read fitRest apartRest later

end

/-! ## The policy -/

/-- Two policies say the same of every limit, of the day and the period, and of every feature. -/
structure SameTerms (p q : Policy) : Prop where
  dataLimit : q.dataLimit = p.dataLimit
  storageLimit : q.storageLimit = p.storageLimit
  resetDay : q.resetDay = p.resetDay
  emissionPeriod : q.emissionPeriod = p.emissionPeriod
  feature : ∀ name, q.feature name = p.feature name

theorem feature_ofPart (part : Part) (name : String) :
    (ofPart part).feature name = (part.features.get? name).join.getD false := by
  change ((part.features.map (·.getD false)).get? name).getD false = _
  rw [Table.get?_map]
  cases part.features.get? name <;> rfl

theorem Part.Alike.sameTerms {part part' : Part} (alike : part.Alike part') :
    (ofPart part).SameTerms (ofPart part') where
  dataLimit := congrArg (fun d : DataPart => d.limit.getD 0) alike.data
  storageLimit := congrArg (·.getD 0) alike.storageLimit
  resetDay := congrArg (fun d : DataPart => clampDay (d.planDate.getD 1)) alike.data
  emissionPeriod := congrArg (·.getD 0) alike.emissionPeriod
  feature name := by rw [feature_ofPart, feature_ofPart, alike.feature]

theorem ofRemote_eq_ok {document : Value} {p : Policy} :
    ofRemote document = .ok p ↔ ∃ part, remoteRecord.shape.ofValue document = .ok part ∧ ofPart part = p := by
  unfold ofRemote
  cases remoteRecord.shape.ofValue document with
  | error m => simp
  | ok part => simp

/-- An accepted document to which members are added, each at a place of its own that the document has and
leaves out: `null` at any positions, and anything under names that are unknown. It is refused if the table of
features is made `null`. If not, it is accepted and lays down the same terms, and the very same policy where no
feature is named. -/
theorem ofRemote_addAll {document : Value} {p : Policy} (accepted : ofRemote document = .ok p)
    {additions : List Addition} (fit : ∀ a ∈ additions, a.Fits document)
    (apart : additions.Pairwise Addition.Apart) :
    (.null .features ∈ additions →
      ofRemote (addAll additions document) =
        .error (.remoteApi "invalid limits document: invalid type: null, expected a map")) ∧
    (.null .features ∉ additions →
      ∃ q, ofRemote (addAll additions document) = .ok q ∧ p.SameTerms q ∧
        ((∀ name, .null (.feature name) ∉ additions) → q = p)) := by
  obtain ⟨part, read, rfl⟩ := ofRemote_eq_ok.mp accepted
  constructor
  · intro without
    rw [ofRemote, remoteRecord_addAll_refused read fit apart without]
    rfl
  · intro regular
    have agree := remoteRecord_addAll fit apart regular
    rw [read] at agree
    obtain ⟨part', read', alike, same⟩ := agree.exists_ok
    refine ⟨ofPart part', ofRemote_eq_ok.mpr ⟨part', read', rfl⟩, alike.sameTerms, fun unnamed => ?_⟩
    rw [same unnamed]

/-- A plan's date, a feature and the part on storage added as `null`, and a note beside a data limit: the limit
stays as it was. -/
theorem ofRemote_addAll_limited :
    let document : Value :=
      .object [("config", .object [("data", .object [("cellular_data_limit", .ofNat 5000)]), ("features", .object [])])]
    let additions : List Addition :=
      [.null .planDate, .null (.feature "user_metrics"), .null .storage, .unknown .data "note" (.text "roaming")]
    ∃ p q, ofRemote document = .ok p ∧ p.dataLimit = 5000 ∧ ofRemote (addAll additions document) = .ok q ∧
      p.SameTerms q := by
  intro document additions
  have accepted : ofRemote document = .ok { dataLimit := 5000 } := rfl
  have fit : ∀ a ∈ additions, a.Fits document := by
    simp only [additions, List.forall_mem_cons, List.not_mem_nil, false_implies, implies_true, and_true]
    exact ⟨⟨rfl, trivial⟩, ⟨rfl, trivial⟩, ⟨rfl, trivial⟩, rfl, show "note" ∉ Level.data.known by decide⟩
  have apart : additions.Pairwise Addition.Apart := by
    simp [additions, Addition.Apart, Addition.path, Addition.key, Position.path, Position.key, Level.path]
  have regular : .null .features ∉ additions := by simp [additions]
  obtain ⟨q, accepted', same, -⟩ := (ofRemote_addAll accepted fit apart).2 regular
  exact ⟨_, q, accepted, rfl, accepted', same⟩

/-- An empty configuration is accepted, with `null` as its period of emission as well. With `null` as its table of
features it is refused. -/
theorem null_features_refused :
    let document : Value := .object [("config", .object [])]
    ofRemote document = .ok {} ∧ (Addition.null .features).Fits document ∧
      ofRemote ((Addition.null .emissionPeriod).into document) = .ok {} ∧
      ofRemote ((Addition.null .features).into document) =
        .error (.remoteApi "invalid limits document: invalid type: null, expected a map") :=
  ⟨rfl, ⟨rfl, trivial⟩, rfl, rfl⟩

end CrashReporter.Policy
