import CrashReporter.Cipher.Gcm
import CrashReporter.Digest.Sha256
import CrashReporter.Identity
import CrashReporter.Store
import CrashReporter.Text.Base64

/-!
# The vault of the identity

A device keeps its identity in an encrypted document. The key comes from the application's id, so
another application does not read it. A document that cannot be read, and an identity that is not
complete, are as good as none; the vault says which of the two it passed over.
-/

namespace CrashReporter

/-- Where an application keeps its identity, and the key to it. -/
structure Vault where
  store : Store
  key : Aes256.Key

namespace Vault

open Json

/-- The name of the document. -/
def documentName : String := "device.json"

/-- What the key is made for. -/
def keyPurpose : String := "faultline-device-identity-v1:"

/-- The key of an application. -/
def keyOf (appId : String) : Aes256.Key :=
  ⟨(Digest.sha256 (Text.utf8 (keyPurpose ++ appId))).toArray, by simp⟩

/-- The vault of an application. -/
def ofApp (store : Store) (appId : String) : Vault := ⟨store, keyOf appId⟩

/-- The version of the document's form. -/
def formVersion : UInt32 := 1

/-- The document: an encrypted identity, in base 64, and the number it was encrypted with. -/
structure Envelope where
  version : UInt32
  nonce : String
  data : String
  deriving DecidableEq

/-- The members of a document read so far. -/
structure EnvelopeDraft where
  version : Option UInt32 := none
  nonce : Option String := none
  data : Option String := none

/-- The document as it is kept. -/
def Envelope.record : Record EnvelopeDraft Envelope where
  name := "Envelope"
  members := [
    .of "format_version" .word32 EnvelopeDraft.version (fun d v => { d with version := some v }) false,
    .of "nonce" .text EnvelopeDraft.nonce (fun d v => { d with nonce := some v }) false,
    .of "data" .text EnvelopeDraft.data (fun d v => { d with data := some v }) false]
  blank := {}
  finish d := do
    return {
      version := ← require "format_version" d.version
      nonce := ← require "nonce" d.nonce
      data := ← require "data" d.data }

/-- The document as it is kept. -/
def Envelope.toJson (e : Envelope) : Value := .object [
  ("format_version", .ofNat e.version.toNat),
  ("nonce", .text e.nonce),
  ("data", .text e.data)]

/-- The document of an identity. -/
def enclose (v : Vault) (nonce : Gcm.Nonce) (i : Identity) : Envelope where
  version := formVersion
  nonce := Base64.encodeText nonce.toList
  data := Base64.encodeText (Gcm.encrypt v.key nonce (Text.utf8 i.toJson.compact))

/-- The bytes of a member in base 64. -/
def decodeMember (s : String) : Except Failure Bytes :=
  match Base64.decodeText s with
  | .ok bs => .ok bs
  | .error f => .error (.serialization f.message)

/-- The identity in a document. -/
def disclose (v : Vault) (e : Envelope) : Except Failure Identity := do
  if e.version ≠ formVersion then
    throw (.serialization s!"unsupported format version {e.version.toNat}")
  let nonce ← decodeMember e.nonce
  if h : nonce.toArray.size = 12 then
    match Gcm.decrypt? v.key ⟨nonce.toArray, h⟩ (← decodeMember e.data) with
    | none => throw (.serialization "decryption failed")
    | some text =>
      match Identity.record.shape.ofText text with
      | .ok i => return i
      | .error f => throw (.json (f.message text))
  else throw (.serialization "bad nonce length")

/-- Why a document is passed over. -/
inductive Refusal where
  | unreadable (f : Failure)
  | incomplete
  deriving DecidableEq

/-- The wording of a refusal. -/
def Refusal.message : Refusal → String
  | .unreadable f => s!"Stored identity could not be read ({f.message}); ignoring it"
  | .incomplete => "Stored identity is incomplete; ignoring it"

/-- The identity in a document, if it may be used. -/
def accept (v : Vault) (e : Envelope) : Except Refusal Identity :=
  match v.disclose e with
  | .ok i => if i.isComplete then .ok i else .error .incomplete
  | .error f => .error (.unreadable f)

/-- The stored identity, or the refusal of it; neither if there is no document. -/
def open? (v : Vault) : Disk (Option (Except Refusal Identity)) := do
  return (← v.store.load Envelope.record.shape documentName).map v.accept

/-- The stored identity. -/
def load (v : Vault) : Disk (Option Identity) := do
  return (← v.open?).bind (·.toOption)

/-- Whether there is a document, readable or not. -/
def holds (v : Vault) : Disk Bool := v.store.contains documentName

/-- Stores an identity under a number used for it alone. -/
def save (v : Vault) (nonce : Gcm.Nonce) (i : Identity) : Disk Unit :=
  v.store.save documentName (v.enclose nonce i).toJson

/-- Removes the document. -/
def clear (v : Vault) : Disk Unit := v.store.remove documentName

end Vault

end CrashReporter
