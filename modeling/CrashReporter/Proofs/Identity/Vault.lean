import CrashReporter.Identity.Vault
import CrashReporter.Proofs.Json.Records
import CrashReporter.Proofs.Store
import Mathlib.Data.List.TakeWhile

/-!
# What a vault gives back

A vault reads from a document the identity that was put into it (`Vault.disclose_enclose`), under the same
key. So it reads from its store the identity that it saved there, if that is complete
(`Vault.identity_reads_back`), and nothing that another writes into other files changes that: what is loaded
depends on the bytes of one file only (`Vault.load_eq`).
-/

namespace CrashReporter

/-! ## Blank texts -/

namespace Text

/-- A text is blank if nothing is left of it once it is trimmed. -/
theorem trim_eq_empty {s : String} : trim s = "" ↔ isBlankText s = true := by
  have all {p q : List Char} (blank : ∀ c ∈ p, isBlank c = true) :
      (∀ c ∈ p ++ q, isBlank c = true) ↔ ∀ c ∈ q, isBlank c = true := by
    rw [List.forall_mem_append]
    exact and_iff_right blank
  rw [trim, isBlankText, List.all_eq_true]
  calc
    String.ofList (trimChars s.toList) = "" ↔ trimChars s.toList = [] := String.ofList_eq_empty_iff
    _ ↔ ∀ c ∈ s.toList.dropWhile isBlank, isBlank c = true := by
      rw [trimChars, List.reverse_eq_nil_iff, List.dropWhile_eq_nil_iff]
      simp only [List.mem_reverse]
    _ ↔ ∀ c ∈ s.toList, isBlank c = true := by
      rw [← all fun c => List.mem_takeWhile_imp, List.takeWhile_append_dropWhile]

end Text

theorem Identity.isComplete_iff {i : Identity} :
    i.isComplete = true ↔ ∀ part ∈ i.parts, Text.trim part ≠ "" := by
  simp only [isComplete, List.all_eq_true, Bool.not_eq_true', ne_eq, Text.trim_eq_empty, Bool.not_eq_true]

/-! ## Base 64 as a text -/

namespace Base64

theorem symbol_bytes : ∀ n < 64, String.utf8EncodeChar (Char.ofNat (symbol n).toNat) = [symbol n] := by
  decide

/-- A symbol is a character of one byte. -/
theorem utf8_of_mem_encode {bs : Bytes} : ∀ s ∈ encode bs, String.utf8EncodeChar (Char.ofNat s.toNat) = [s] := by
  have padding : String.utf8EncodeChar (Char.ofNat pad.toNat) = [pad] := by decide
  fun_induction encode bs with
  | case1 =>
    intro s hs
    cases hs
  | case2 a =>
    have := a.toNat_lt
    simp only [List.forall_mem_cons, padding, symbol_bytes (a.toNat / 4) (by omega),
      symbol_bytes (a.toNat % 4 * 16) (by omega), List.not_mem_nil, false_implies, implies_true, and_self]
  | case3 a b =>
    have := a.toNat_lt
    have := b.toNat_lt
    simp only [List.forall_mem_cons, padding, symbol_bytes (a.toNat / 4) (by omega),
      symbol_bytes (a.toNat % 4 * 16 + b.toNat / 16) (by omega), symbol_bytes (b.toNat % 16 * 4) (by omega),
      List.not_mem_nil, false_implies, implies_true, and_self]
  | case4 a b c rest ih =>
    have := a.toNat_lt
    have := b.toNat_lt
    have := c.toNat_lt
    simp only [List.forall_mem_cons, symbol_bytes (a.toNat / 4) (by omega),
      symbol_bytes (a.toNat % 4 * 16 + b.toNat / 16) (by omega),
      symbol_bytes (b.toNat % 16 * 4 + c.toNat / 64) (by omega), symbol_bytes (c.toNat % 64) (by omega),
      true_and]
    exact ih

/-- What is written as a text reads back. -/
theorem decodeText_encodeText (bs : Bytes) : decodeText (encodeText bs) = .ok bs := by
  have plain : ∀ symbols : Bytes, (∀ s ∈ symbols, String.utf8EncodeChar (Char.ofNat s.toNat) = [s]) →
      Text.bytes (symbols.map fun s => Char.ofNat s.toNat) = symbols := by
    intro symbols h
    induction symbols with
    | nil => rfl
    | cons s symbols ih =>
      rw [List.map_cons, Text.bytes_cons, h s List.mem_cons_self,
        ih fun s hs => h s (List.mem_cons_of_mem _ hs)]
      rfl
  rw [decodeText, encodeText, Text.utf8_ofList, plain _ utf8_of_mem_encode, decode_encode]

end Base64

/-! ## Documents -/

open Json in
/-- A kept identity reads back. -/
theorem Identity.reads_toJson (i : Identity) : record.shape.Reads 2 i.toJson i := by
  have member (s : String) := Shape.text_reads 1 s
  exact Record.shape_reads
    (d := ⟨some i.organization, some i.clientId, some i.installationId, some i.clientSecret⟩)
    (.one rfl rfl ((member _).member _ _ _ _ _) (.one rfl rfl ((member _).member _ _ _ _ _)
      (.one rfl rfl ((member _).member _ _ _ _ _) (.one rfl rfl ((member _).member _ _ _ _ _) (.none _))))) rfl

namespace Vault

open Json

/-- A kept envelope reads back. -/
theorem Envelope.reads_toJson (e : Envelope) : record.shape.Reads 2 e.toJson e := by
  have member (s : String) := Shape.text_reads 1 s
  exact Record.shape_reads (d := ⟨some e.version, some e.nonce, some e.data⟩)
    (.one rfl rfl ((Shape.word32_reads e.version 1).member _ _ _ _ _)
      (.one rfl rfl ((member _).member _ _ _ _ _) (.one rfl rfl ((member _).member _ _ _ _ _) (.none _)))) rfl

theorem decodeMember_encodeText (bs : Bytes) : decodeMember (Base64.encodeText bs) = .ok bs := by
  rw [decodeMember, Base64.decodeText_encodeText]

/-- What is enclosed is disclosed. -/
theorem disclose_enclose (v : Vault) (nonce : Gcm.Nonce) (i : Identity) :
    v.disclose (v.enclose nonce i) = .ok i := by
  have read : Identity.record.shape.ofText (Text.utf8 i.toJson.compact) = .ok i :=
    i.reads_toJson.compact (by decide)
  have size : nonce.toList.toArray.size = 12 := by simp
  have same : (⟨nonce.toList.toArray, size⟩ : Gcm.Nonce) = nonce := Vector.toArray_inj.mp Array.toArray_toList
  unfold disclose enclose
  simp only [ne_eq, not_true_eq_false, if_false, decodeMember_encodeText, bind, Except.bind, pure,
    Except.pure]
  rw [dif_pos size]
  simp only [same, Gcm.decrypt?_encrypt, read]

variable (v : Vault) {t t' : FileTree}

/-- The identity in the bytes of a document, if it may be used. -/
def read? (content : Bytes) : Option Identity :=
  (Envelope.record.shape.ofText content).toOption.bind fun e => (v.accept e).toOption

theorem read?_eq_some {content : Bytes} {i : Identity} : v.read? content = some i ↔
    ∃ e, Envelope.record.shape.ofText content = .ok e ∧ v.disclose e = .ok i ∧ i.isComplete = true := by
  have accepts (e : Envelope) :
      (v.accept e).toOption = some i ↔ v.disclose e = .ok i ∧ i.isComplete = true := by
    unfold accept
    cases v.disclose e with
    | error f => simp [Except.toOption]
    | ok j =>
      by_cases complete : j.isComplete = true
      · simp only [complete, if_true, Except.toOption, Option.some.injEq, Except.ok.injEq]
        exact ⟨fun same => ⟨same, same ▸ complete⟩, fun h => h.1⟩
      · simp only [complete, Bool.false_eq_true, if_false, Except.toOption, Except.ok.injEq, reduceCtorEq,
          false_iff, not_and]
        exact fun same h => complete (same ▸ h)
  unfold read?
  cases Envelope.record.shape.ofText content with
  | error f => simp [Except.toOption]
  | ok e => simpa [Except.toOption] using accepts e

theorem plain_documentName : Store.Plain documentName ∧ Store.Plain (Store.draftName documentName) := by
  decide

/-- What is loaded is what the document's file holds. -/
theorem load_eq (t : FileTree) : v.load t = .ok ((v.store.content? documentName t).bind v.read?) t := by
  have loaded := v.store.load_eq Envelope.record.shape plain_documentName.1 t
  unfold load open?
  simp only [bind_assoc, pure_bind]
  rw [Disk.bind_run loaded]
  cases v.store.content? documentName t with
  | none => rfl
  | some content =>
    simp only [Option.bind_some, read?]
    cases Envelope.record.shape.ofText content <;> rfl

/-- The document of an identity holds it, if that is complete. -/
theorem read?_enclose (nonce : Gcm.Nonce) (i : Identity) :
    v.read? (Store.written (v.enclose nonce i).toJson) = if i.isComplete then some i else none := by
  have read : Envelope.record.shape.ofText (Store.written (v.enclose nonce i).toJson) =
      .ok (v.enclose nonce i) := (Envelope.reads_toJson _).pretty (by decide)
  rw [read?, read]
  simp only [Except.toOption, Option.bind_some, accept, disclose_enclose]
  cases i.isComplete <;> rfl

/-- An identity that is saved is loaded, and one that is not leaves what was loaded before. -/
theorem load_save (nonce : Gcm.Nonce) {i : Identity} (complete : i.isComplete = true) (t : FileTree) :
    (∃ t', v.save nonce i t = .ok () t' ∧ v.load t' = .ok (some i) t') ∨
      ∃ e t', v.save nonce i t = .error e t' ∧
        ∀ kept, v.load t = .ok kept t → v.load t' = .ok kept t' := by
  have names := plain_documentName
  unfold save
  rcases v.store.save_run names.1 names.2 (v.enclose nonce i).toJson t with
    ⟨-, -, t', saved, -, content⟩ | ⟨-, e, t', refused, -, content⟩
  · refine .inl ⟨t', saved, ?_⟩
    rw [load_eq, content, Option.bind_some, read?_enclose, if_pos complete]
  · refine .inr ⟨e, t', refused, fun kept loaded => ?_⟩
    rw [load_eq] at loaded ⊢
    rw [content]
    cases loaded
    rfl

/-- A document without a usable identity leaves none behind when it is removed. -/
theorem load_clear {r : Except OsError Unit} (unloaded : v.load t = .ok none t)
    (cleared : Disk.attempt v.clear t = .ok r t') : v.load t' = .ok none t' := by
  obtain ⟨t₁, ran, -, gone⟩ := v.store.remove_run plain_documentName.1 t
  obtain rfl : t₁ = t' := by
    unfold clear at cleared
    rcases ran with ran | ⟨e, ran⟩
    · rw [Disk.attempt_ok ran] at cleared
      cases cleared
      rfl
    · rw [Disk.attempt_refused ran] at cleared
      cases cleared
      rfl
  rcases gone with gone | rfl
  · rw [load_eq, gone]
    rfl
  · exact unloaded

/-- An identity that is saved is all that is found afterwards, and nothing else is changed. Under the key of
the same application, and however the directory is spelled, it is loaded if something is left of each of its
parts once they are trimmed, and else none is; the document's file holds an envelope of the first version with
the nonce; every other entry of the tree is as it was, but for the draft, which is gone; so the documents of
other names are as they were. -/
theorem identity_reads_back {store again : Store} {appId : String} {nonce : Gcm.Nonce} {i : Identity}
    (saved : (ofApp store appId).save nonce i t = .ok () t')
    (same : again.place? documentName t = store.place? documentName t) :
    (ofApp again appId).load t' =
        .ok (if ∀ part ∈ i.parts, Text.trim part ≠ "" then some i else none) t' ∧
      (∃ content e, again.bytes? documentName t' = .ok (some content) t' ∧
        Envelope.record.shape.ofText content = .ok e ∧ e.version = 1 ∧
        Base64.decodeText e.nonce = .ok nonce.toList ∧
        ∀ p, t'.find? p =
          if store.place? documentName t = some p then some (.file content)
          else if store.place? (Store.draftName documentName) t = some p then none
          else t.find? p) ∧
      ∀ name, Store.Plain name → name ≠ documentName → name ≠ Store.draftName documentName →
        ∃ content, store.bytes? name t = .ok content t ∧ store.bytes? name t' = .ok content t' := by
  have names := plain_documentName
  let e := (ofApp again appId).enclose nonce i
  have saved : store.save documentName e.toJson t = .ok () t' := saved
  have confined := (store.leaves_save names.1 names.2 e.toJson).of_run saved
  obtain ⟨-, p, -, place, -⟩ := Store.save_eq names.1 names.2 saved
  have found := Store.find?_save names.1 names.2 saved
  have held : again.content? documentName t' = some (Store.written e.toJson) := by
    rw [Store.content?, Store.place?_of_confined names.1 confined, same, place, Option.bind_some,
      FileTree.content?, found, if_pos place]
  refine ⟨?_, ⟨Store.written e.toJson, e, ?_, (Envelope.reads_toJson e).pretty (by decide), rfl,
    Base64.decodeText_encodeText _, found⟩, fun name plain other other' => ⟨_, store.bytes?_run plain t, ?_⟩⟩
  · simp only [load_eq, ofApp, held, Option.bind_some]
    rw [← ofApp, read?_enclose]
    simp only [Identity.isComplete_iff]
  · rw [again.bytes?_run names.1, held]
  · rw [store.bytes?_run plain, Store.content?_of_confined plain confined (by simp [other, other'])]

/-- Parts with quotes, a backslash, a control character and a sign beyond the basic plane are loaded as they
are; with a secret of two spaces, one of them ideographic, nothing is. -/
theorem identity_reads_back_quoted :
    let store : Store := ⟨"/state"⟩
    let again : Store := ⟨"/state/"⟩
    let t := (({} : FileTree).put ["state"] .directory).put ["state", "usage.json"] (.file [55])
    let nonce : Gcm.Nonce := Vector.replicate 12 7
    let i : Identity := ⟨"\"Nord\\wind\"", "line\n\x01", "𝄞-7", " secret "⟩
    let blank : Identity := { i with clientSecret := "\u3000 " }
    (∃ t', (ofApp store "device").save nonce i t = .ok () t' ∧
      (ofApp again "device").load t' = .ok (some i) t' ∧ t'.find? ["state", "usage.json"] = some (.file [55])) ∧
    ∃ t', (ofApp store "device").save nonce blank t = .ok () t' ∧ (ofApp again "device").load t' = .ok none t' := by
  intro store again t nonce i blank
  have names := plain_documentName
  have takes : store.Takes (Store.draftName documentName) t ∧ store.Takes documentName t :=
    ⟨⟨["state", "device.json.tmp"], by decide +kernel⟩, ⟨["state", "device.json"], by decide +kernel⟩⟩
  have saves (i : Identity) : ∃ t', (ofApp store "device").save nonce i t = .ok () t' := by
    rcases store.save_run names.1 names.2 ((ofApp store "device").enclose nonce i).toJson t with
      ⟨-, -, t', saved, -⟩ | ⟨none, -⟩
    · exact ⟨t', saved⟩
    · exact absurd takes none
  have same : again.place? documentName t = store.place? documentName t := by decide +kernel
  obtain ⟨t₁, saved⟩ := saves i
  obtain ⟨t₂, saved'⟩ := saves blank
  obtain ⟨loads, ⟨content, e, -, -, -, -, found⟩, -⟩ := identity_reads_back saved same
  refine ⟨⟨t₁, saved, ?_, ?_⟩, t₂, saved', ?_⟩
  · rw [loads, if_pos (by decide +kernel)]
  · rw [found, if_neg (by decide +kernel), if_neg (by decide +kernel)]
    decide
  · rw [(identity_reads_back saved' same).1, if_neg (by decide +kernel)]

end Vault

end CrashReporter
