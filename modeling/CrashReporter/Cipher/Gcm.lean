import CrashReporter.Cipher.Aes256

/-!
# Counter mode with a tag

A message is added to a key stream, the blocks of a counter under the block cipher. The tag is a
polynomial in the ciphertext's blocks, evaluated at a secret point. What is encrypted is decrypted again
under the same key and nonce: `decrypt?_encrypt`.
-/

namespace CrashReporter.Gcm

open Aes256 (Block Key)

/-- A number used once for a key. -/
abbrev Nonce := Vector UInt8 12

/-- The length of the tag. -/
def tagLength : Nat := 16

/-- A counter block. -/
def counter (nonce : Nonce) (n : Nat) : Block :=
  nonce ++ (⟨(Bytes.bigEndian 4 n).toArray, by simp⟩ : Vector UInt8 4)

/-- The first `n` blocks of the key stream. -/
def keyStream (cipher : Block → Block) (nonce : Nonce) (n : Nat) : Bytes :=
  (List.range n).flatMap fun i => (cipher (counter nonce (i + 2))).toList

/-- A message with the key stream added. -/
def mask (cipher : Block → Block) (nonce : Nonce) (message : Bytes) : Bytes :=
  message.zipWith (· ^^^ ·) (keyStream cipher nonce ((message.length + 15) / 16))

/-- The sum of `v` times those powers of `x`, from `x^0`, that the highest `n` bits of `w` hold. The
bits of a field element stand for powers that rise from the highest bit on. -/
def product : Nat → Nat → Nat → Nat → Nat
  | 0, _, _, sum => sum
  | n + 1, v, w, sum =>
    let sum := if w.testBit n then sum ^^^ v else sum
    let v := if v.testBit 0 then (v >>> 1) ^^^ (0xE1 <<< 120) else v >>> 1
    product n v w sum

/-- The product of two field elements of 128 bits. -/
def mul (v w : Nat) : Nat := product 128 v w 0

/-- The polynomial in the blocks of a text at the point `h`, on top of `sum`. -/
def hashFrom (h : Nat) : Nat → Nat → Bytes → Nat
  | 0, sum, _ => sum
  | n + 1, sum, text =>
    let block := text.take 16
    let padded := block ++ List.replicate (16 - block.length) 0
    hashFrom h n (mul (sum ^^^ Bytes.toNat padded) h) (text.drop 16)

/-- The tag of a ciphertext. -/
def tag (cipher : Block → Block) (nonce : Nonce) (ciphertext : Bytes) : Bytes :=
  let h := Bytes.toNat (cipher (.replicate 16 0)).toList
  let n := ciphertext.length
  let sum := hashFrom h ((n + 15) / 16) 0 ciphertext
  let sum := mul (sum ^^^ (8 * n)) h
  Bytes.bigEndian tagLength (sum ^^^ Bytes.toNat (cipher (counter nonce 1)).toList)

/-- The ciphertext of a message, with its tag. -/
def encrypt (key : Key) (nonce : Nonce) (message : Bytes) : Bytes :=
  let cipher := Aes256.encrypt key
  let ciphertext := mask cipher nonce message
  ciphertext ++ tag cipher nonce ciphertext

/-- The message of a ciphertext with its tag, unless the tag is another than its ciphertext's. -/
def decrypt? (key : Key) (nonce : Nonce) (text : Bytes) : Option Bytes :=
  let cipher := Aes256.encrypt key
  let ciphertext := text.take (text.length - tagLength)
  if tagLength ≤ text.length ∧ text.drop (text.length - tagLength) = tag cipher nonce ciphertext then
    some (mask cipher nonce ciphertext)
  else none

@[simp] theorem length_keyStream (cipher : Block → Block) (nonce : Nonce) (n : Nat) :
    (keyStream cipher nonce n).length = n * 16 := by
  induction n with
  | zero => rfl
  | succ n ih =>
    rw [keyStream, List.range_succ, List.flatMap_append, List.length_append, ← keyStream, ih,
      List.flatMap_singleton, Vector.length_toList, Nat.succ_mul]

@[simp] theorem length_mask (cipher : Block → Block) (nonce : Nonce) (message : Bytes) :
    (mask cipher nonce message).length = message.length := by
  simp [mask]
  omega

theorem zipWith_xor_xor (message stream : Bytes) (h : message.length ≤ stream.length) :
    (message.zipWith (· ^^^ ·) stream).zipWith (· ^^^ ·) stream = message := by
  induction message generalizing stream with
  | nil => rfl
  | cons a rest ih =>
    cases stream with
    | nil => simp at h
    | cons b stream =>
      rw [List.zipWith_cons_cons, List.zipWith_cons_cons, UInt8.xor_assoc, UInt8.xor_self, UInt8.xor_zero,
        ih stream (by simpa using h)]

/-- The key stream is added twice: nothing is left of it. -/
theorem mask_mask (cipher : Block → Block) (nonce : Nonce) (message : Bytes) :
    mask cipher nonce (mask cipher nonce message) = message := by
  rw [mask, length_mask]
  exact zipWith_xor_xor _ _ (by simp; omega)

theorem decrypt?_encrypt (key : Key) (nonce : Nonce) (message : Bytes) :
    decrypt? key nonce (encrypt key nonce message) = some message := by
  have hn : tagLength ≤ (encrypt key nonce message).length := by simp [encrypt, tag]
  simp [decrypt?, encrypt, tag, mask_mask]

end CrashReporter.Gcm
