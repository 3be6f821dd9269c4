import CrashReporter.Proofs.Store.Requests

/-!
# An opened directory

Opening a directory changes no file but the probe's, and leads to a directory (`Store.openIn_run`). Names in
an opened directory lead into it (`Store.Opened.place?_eq`), if the system accepts them at all (`Store.Fits`).
So a document can be saved there exactly if its draft's name is accepted and no directory is in the way
(`Store.Opened.saves_iff`).
-/

namespace CrashReporter.Store

open FileTree

variable {s : Store} {name : String} {t t' : FileTree}

/-- Whether the system accepts a name in the directory: it has no NUL, and neither it nor the path is too long. -/
def Fits (s : Store) (name : String) : Prop :=
  ¬ (s.pathOf name).toList.any (·.toNat = 0) ∧ (s.pathOf name).utf8ByteSize < maxPathLength ∧
    name.utf8ByteSize ≤ maxNameLength

instance : Decidable (s.Fits name) := inferInstanceAs (Decidable (_ ∧ _ ∧ _))

/-- A name is accepted if its draft's is. -/
theorem Fits.of_draftName (plain : Plain name) (fits : s.Fits (draftName name)) : s.Fits name := by
  obtain ⟨noNul, shortPath, short⟩ := fits
  have path : s.pathOf (draftName name) = s.pathOf name ++ ".tmp" := by
    rw [s.pathOf_eq (plain_draftName plain), s.pathOf_eq plain, draftName, String.append_assoc]
  rw [path] at noNul shortPath
  refine ⟨fun nul => noNul ?_, ?_, ?_⟩
  · rw [String.toList_append, List.any_append, nul, Bool.true_or]
  · rw [String.utf8ByteSize_append] at shortPath
    omega
  · rw [draftName, String.utf8ByteSize_append] at short
    omega

/-! ## Places -/

/-- Whether a directory is where the way to the store's leads. -/
def OpenedAt (s : Store) (parent : Path) (t : FileTree) : Prop :=
  Disk.walk [] s.way t = .ok parent t ∧ t.isDirectory parent = true

/-- A name that leads anywhere leads out of the store's directory. -/
theorem openedAt_of_place? {p : Path} (plain : Plain name) (place : s.place? name t = some p) :
    ∃ parent, s.OpenedAt parent t := by
  unfold place? Disk.route at place
  split at place
  · cases place
  · split at place
    · cases place
    · rw [pure_bind, s.ofText_pathOf plain, Disk.walk_concat] at place
      obtain ⟨parent, t', walk, followed⟩ := Disk.answer?_bind.mp place
      obtain rfl := (Disk.keeps_walk [] s.way).unchanged walk
      obtain ⟨t', follow⟩ := Disk.run_of_answer? followed
      obtain rfl := (Disk.keeps_follow parent (.into name)).unchanged follow
      exact ⟨parent, walk, Disk.isDirectory_of_follow follow⟩

/-- In an opened directory every name that is accepted leads into it. -/
theorem OpenedAt.place?_eq {parent : Path} (opened : s.OpenedAt parent t) (plain : Plain name) :
    s.place? name t = if s.Fits name then some (parent ++ [name]) else none := by
  unfold place? Disk.route
  split
  · next nul =>
    rw [if_neg fun fits => fits.1 nul]
    rfl
  · next noNul =>
    split
    · next long =>
      rw [if_neg fun fits => absurd fits.2.1 (Nat.not_lt.mpr long)]
      rfl
    · next fine =>
      rw [pure_bind, s.ofText_pathOf plain, Disk.walk_concat]
      have step : (Disk.walk [] s.way >>= fun p => Disk.follow p (.into name)) t =
          if maxNameLength < name.utf8ByteSize then .error .nameTooLong t else .ok (parent ++ [name]) t := by
        rw [Disk.bind_run opened.1, Disk.follow_into opened.2]
      split at step
      · next long =>
        rw [Disk.answer?_refused step, if_neg fun fits => absurd fits.2.2 (Nat.not_le.mpr long)]
      · next short =>
        have fits : s.Fits name := ⟨noNul, Nat.not_le.mp fine, Nat.not_lt.mp short⟩
        rw [Disk.answer?_ok step, if_pos fits]

theorem takes_iff_of_vacant (vacant : s.Vacant name t) : s.Takes name t ↔ (s.place? name t).isSome := by
  rw [Option.isSome_iff_exists]
  exact ⟨fun ⟨p, place, _⟩ => ⟨p, place⟩, fun ⟨p, place⟩ => ⟨p, place, vacant p place⟩⟩

/-- A document can be saved in an opened directory if its draft's name is accepted there. -/
theorem OpenedAt.saves_iff {parent : Path} (opened : s.OpenedAt parent t) (plain : Plain name)
    (vacant : s.Vacant name t) (vacant' : s.Vacant (draftName name) t) :
    s.Saves name t ↔ s.Fits (draftName name) := by
  have isSome {other : String} (plain : Plain other) : (s.place? other t).isSome = true ↔ s.Fits other := by
    rw [opened.place?_eq plain]
    split <;> simp [*]
  rw [Saves, takes_iff_of_vacant vacant, takes_iff_of_vacant vacant', isSome plain, isSome (plain_draftName plain)]
  exact and_iff_left_of_imp (Fits.of_draftName plain)

/-! ## Opening -/

/-- Opening a directory leads to one, and changes no file but the probe's. -/
theorem openIn_run {dir : String} (opened : openIn dir t = .ok s t') :
    (∃ parent, s.OpenedAt parent t') ∧ ∀ p, p.getLast? ≠ some probeName → t'.content? p = t.content? p := by
  have plain := plain_probeName
  rw [openIn_eq] at opened
  obtain ⟨⟨⟩, t₁, prepared, opened⟩ := Disk.bind_eq_ok opened
  obtain ⟨⟨⟩, t₂, wrote, opened⟩ := Disk.bind_eq_ok opened
  obtain ⟨⟨⟩, t₃, unlinked, opened⟩ := Disk.bind_eq_ok opened
  cases opened
  have built := (leaves_prepare _).of_run prepared
  have confined := ((leaves_overwrite _ plain _).of_run wrote).trans ((leaves_unlink _ plain).of_run unlinked)
  obtain ⟨p, place, -⟩ := overwrite_eq plain wrote
  obtain ⟨parent, walk, here⟩ := openedAt_of_place? plain place
  refine ⟨⟨parent, Disk.walk_within confined.within walk, (confined.directories parent).trans here⟩, fun p other => ?_⟩
  have elsewhere : ∀ name ∈ [probeName], p.getLast? ≠ some name := by simpa using other
  rw [← built.files p, FileTree.content?, confined.files p elsewhere, FileTree.content?]

end CrashReporter.Store
