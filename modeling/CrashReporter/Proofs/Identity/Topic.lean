import CrashReporter.Proofs.Identity.History

/-!
# Topics of different devices

A topic names the organization and the client id with a slash between them, and a slash may stand in either of
the two as well. Two identities have the same topic exactly if they are of the same client, or if the slash that
divides the names stands further to the right in one of them: what is between the two slashes ends one
organization and begins the other client id (`Identity.topic_eq_iff`).

Credentials are refused only for blank parts. So a device has its topic to itself exactly if no slash of its
organization has anything but blanks before it, and none of its client id anything but blanks behind it
(`Identity.topic_unshared_iff`).
-/

namespace CrashReporter

/-! ## Names with a slash between them -/

/-- Two ways to cut a list at a separator: at the same place, or with something in between. -/
theorem append_cons_eq_iff {α : Type} {sep : α} {a b a' b' : List α} :
    a ++ sep :: b = a' ++ sep :: b' ↔ (a = a' ∧ b = b') ∨
      (∃ m, a' = a ++ sep :: m ∧ b = m ++ sep :: b') ∨ ∃ m, a = a' ++ sep :: m ∧ b' = m ++ sep :: b := by
  constructor
  · intro same
    rcases List.append_eq_append_iff.mp same with ⟨m, first, last⟩ | ⟨m, first, last⟩
    · cases m with
      | nil =>
        rw [List.append_nil] at first
        exact .inl ⟨first.symm, (List.cons.inj last).2⟩
      | cons c m =>
        obtain ⟨rfl, behind⟩ := List.cons.inj last
        exact .inr (.inl ⟨m, first, behind⟩)
    · cases m with
      | nil =>
        rw [List.append_nil] at first
        exact .inl ⟨first, (List.cons.inj last).2.symm⟩
      | cons c m =>
        obtain ⟨rfl, behind⟩ := List.cons.inj last
        exact .inr (.inr ⟨m, first, behind⟩)
  · rintro (⟨rfl, rfl⟩ | ⟨m, rfl, rfl⟩ | ⟨m, rfl, rfl⟩) <;> simp

namespace Text

theorem toList_slash (s t : String) : (s ++ "/" ++ t).toList = s.toList ++ '/' :: t.toList := by
  simp [String.toList_append]

/-- A text is made of others with a slash between them if its characters are. -/
theorem exists_slash {s s' t t' : String} :
    (∃ m, s = t ++ "/" ++ m ∧ s' = m ++ "/" ++ t') ↔
      ∃ m, s.toList = t.toList ++ '/' :: m ∧ s'.toList = m ++ '/' :: t'.toList := by
  constructor
  · rintro ⟨m, rfl, rfl⟩
    exact ⟨m.toList, toList_slash t m, toList_slash m t'⟩
  · rintro ⟨m, first, last⟩
    refine ⟨String.ofList m, String.toList_inj.mp ?_, String.toList_inj.mp ?_⟩
    · rw [toList_slash, String.toList_ofList, first]
    · rw [toList_slash, String.toList_ofList, last]

theorem isBlankText_slash (s t : String) : isBlankText (s ++ "/" ++ t) = false := by
  have slash : isBlank '/' = false := by decide
  rw [isBlankText, toList_slash, List.all_append, List.all_cons, slash, Bool.false_and, Bool.and_false]

end Text

namespace Identity

variable {i j : Identity} {c : Credentials}

/-! ## Topics -/

/-- Two identities have the same organization and client id. -/
def SameClient (i j : Identity) : Prop := i.organization = j.organization ∧ i.clientId = j.clientId

/-- The other identity's topic is divided further to the right: its organization goes on, behind a slash, as the
client id of this one begins. -/
def Shifted (i j : Identity) : Prop :=
  ∃ between, j.organization = i.organization ++ "/" ++ between ∧ i.clientId = between ++ "/" ++ j.clientId

theorem toList_topic (i : Identity) :
    i.topic.toList = "rust/events/".toList ++ (i.organization.toList ++ '/' :: i.clientId.toList) := by
  rw [topic, Text.toList_slash, String.toList_append, List.append_assoc]

theorem topic_eq_iff : i.topic = j.topic ↔ i.SameClient j ∨ i.Shifted j ∨ j.Shifted i := by
  unfold SameClient Shifted
  rw [← String.toList_inj, toList_topic, toList_topic, List.append_cancel_left_eq, append_cons_eq_iff,
    String.toList_inj, String.toList_inj, Text.exists_slash, Text.exists_slash]

/-- Credentials are accepted exactly if none of their parts is blank. -/
theorem exists_ofCredentials_iff (i : Identity) : (∃ c, ofCredentials c = .ok i) ↔ i.isComplete = true := by
  constructor
  · rintro ⟨c, accepted⟩
    exact isComplete_ofCredentials accepted
  · intro complete
    refine ⟨⟨i.organization, i.clientId, i.installationId, i.clientSecret⟩, ?_⟩
    exact if_pos complete

theorem Shifted.organization_ne (h : i.Shifted j) : i.organization ≠ j.organization := by
  obtain ⟨between, organization, -⟩ := h
  intro same
  rw [same, ← String.toList_inj, Text.toList_slash] at organization
  exact absurd (congrArg List.length organization) (by simp)

/-- An identity with another organization and client id, neither of them blank. -/
theorem isComplete_renamed (complete : i.isComplete = true) {organization clientId : String}
    (first : Text.isBlankText organization = false) (last : Text.isBlankText clientId = false) :
    ({ i with organization, clientId } : Identity).isComplete = true := by
  simp only [isComplete, parts, List.all_cons, Bool.and_eq_true] at complete ⊢
  exact ⟨by rw [first]; rfl, by rw [last]; rfl, complete.2.2⟩

/-- An identity that credentials give has its topic to itself exactly if no slash of its organization has
anything but blanks before it, and no slash of its client id anything but blanks behind it. -/
theorem topic_unshared_iff (accepted : ofCredentials c = .ok i) :
    (∀ c' j, ofCredentials c' = .ok j → i.topic = j.topic → i.SameClient j) ↔
      (∀ before behind, i.organization = before ++ "/" ++ behind → Text.isBlankText before = true) ∧
      ∀ before behind, i.clientId = before ++ "/" ++ behind → Text.isBlankText behind = true := by
  have complete := isComplete_ofCredentials accepted
  constructor
  · intro alone
    -- a slash with something on its outer side divides the topic into the names of another device
    have incomplete {j : Identity} (shifted : i.Shifted j ∨ j.Shifted i) : ¬ j.isComplete = true := by
      intro complete
      obtain ⟨c', given⟩ := (exists_ofCredentials_iff j).mpr complete
      have same := alone c' j given (topic_eq_iff.mpr (.inr shifted))
      rcases shifted with further | further
      · exact further.organization_ne same.1
      · exact further.organization_ne same.1.symm
    constructor
    · intro before behind organization
      by_contra filled
      exact incomplete (.inr ⟨behind, organization, rfl⟩)
        (isComplete_renamed complete (eq_false_of_ne_true filled) (Text.isBlankText_slash behind i.clientId))
    · intro before behind clientId
      by_contra filled
      exact incomplete (.inl ⟨before, rfl, clientId⟩)
        (isComplete_renamed complete (Text.isBlankText_slash i.organization before) (eq_false_of_ne_true filled))
  · rintro ⟨outerFirst, outerLast⟩ c' j accepted' same
    have filled : ∀ part ∈ j.parts, (!Text.isBlankText part) = true :=
      List.all_eq_true.mp (isComplete_ofCredentials accepted')
    rcases topic_eq_iff.mp same with same | ⟨between, -, clientId⟩ | ⟨between, organization, -⟩
    · exact same
    · have blank := outerLast between j.clientId clientId
      simp [parts, blank] at filled
    · have blank := outerFirst j.organization between organization
      simp [parts, blank] at filled

/-- No slash in either name: nobody else has the topic. -/
theorem topic_unshared_iff_plain :
    let c : Credentials := ⟨"acme", "client-7", "install", "secret"⟩
    let i : Identity := ⟨"acme", "client-7", "install", "secret"⟩
    ofCredentials c = .ok i ∧
      ∀ c' j, ofCredentials c' = .ok j → i.topic = j.topic → i.SameClient j := by
  intro c i
  have accepted : ofCredentials c = .ok i := if_pos (by decide)
  have plain {s before behind : String} (slash : '/' ∉ s.toList) : s ≠ before ++ "/" ++ behind := by
    rintro rfl
    exact slash (by simp)
  refine ⟨accepted, (topic_unshared_iff accepted).mpr ⟨?_, ?_⟩⟩
  · intro before behind organization
    exact absurd organization (plain (by decide))
  · intro before behind clientId
    exact absurd clientId (plain (by decide))

/-- Two organizations' devices that credentials give, with one topic. -/
theorem slash_shares_topic :
    let c : Credentials := ⟨"a/b", "c", "install", "secret"⟩
    let c' : Credentials := ⟨"a", "b/c", "install", "secret"⟩
    ∃ i j, ofCredentials c = .ok i ∧ ofCredentials c' = .ok j ∧
      i.topic = j.topic ∧ i.organization ≠ j.organization ∧ i.clientId ≠ j.clientId :=
  ⟨_, _, rfl, rfl, rfl, by decide, by decide⟩

end Identity

end CrashReporter
