import Countersign.Crypto.Square

/-!
# ChaCha20-Poly1305

The authenticated cipher of RFC 8439.  Exclusive or with the key stream hides and reveals alike, and
a text decrypts exactly where it was encrypted (`decrypt_eq_some`).
-/

namespace Countersign.Crypto.Aead

abbrev Key := Block 32

abbrev Nonce := Block 12

abbrev Tag := Block 16

/-! ## The key stream -/

def rotateLeft (x : UInt32) (n : UInt32) : UInt32 := x <<< n ||| x >>> (32 - n)

def quarterRound : Square.Quarter := fun _ s a b c d =>
  let s := s.put a (s.get a + s.get b)
  let s := s.put d (rotateLeft (s.get d ^^^ s.get a) 16)
  let s := s.put c (s.get c + s.get d)
  let s := s.put b (rotateLeft (s.get b ^^^ s.get c) 12)
  let s := s.put a (s.get a + s.get b)
  let s := s.put d (rotateLeft (s.get d ^^^ s.get a) 8)
  let s := s.put c (s.get c + s.get d)
  s.put b (rotateLeft (s.get b ^^^ s.get c) 7)

def start (key : Key) (nonce : Nonce) (counter : Nat) : Square :=
  let k := wordAt key.val
  let n := wordAt nonce.val
  #v[0x61707865, 0x3320646e, 0x79622d32, 0x6b206574, k 0, k 1, k 2, k 3, k 4, k 5, k 6, k 7,
    UInt32.ofNat counter, n 0, n 1, n 2]

def keyBlock (key : Key) (nonce : Nonce) (counter : Nat) : Bytes :=
  let s := start key nonce counter
  let t := Nat.repeat (Square.mix quarterRound) 10 s
  wordBytes (t.zipWith (· + ·) s).toList

def keyStream (key : Key) (nonce : Nonce) : (counter blocks : Nat) → Bytes
  | _, 0 => []
  | counter, blocks + 1 => keyBlock key nonce counter ++ keyStream key nonce (counter + 1) blocks

def mask : (stream text : Bytes) → Bytes
  | k :: stream, c :: text => (c ^^^ k) :: mask stream text
  | [], text => text
  | _, [] => []

@[simp] theorem mask_mask (stream text : Bytes) : mask stream (mask stream text) = text := by
  fun_induction mask stream text with
  | case1 k stream c text ih =>
      rw [mask, ih, UInt8.xor_assoc, UInt8.xor_self, UInt8.xor_zero]
  | case2 text => rfl
  | case3 stream h => cases stream <;> rfl

@[simp] theorem length_mask (stream text : Bytes) : (mask stream text).length = text.length := by
  fun_induction mask stream text <;> simp_all

def cipher (key : Key) (nonce : Nonce) (text : Bytes) : Bytes :=
  mask (keyStream key nonce 1 ((text.length + 63) / 64)) text

@[simp] theorem length_cipher (key : Key) (nonce : Nonce) (text : Bytes) :
    (cipher key nonce text).length = text.length := length_mask _ _

@[simp] theorem cipher_cipher (key : Key) (nonce : Nonce) (text : Bytes) :
    cipher key nonce (cipher key nonce text) = text := by
  unfold cipher
  rw [length_mask, mask_mask]

/-! ## The tag -/

def polyPrime : Nat := Nat.pow 2 130 - 5

def clamp (r : Nat) : Nat := r &&& 0x0ffffffc0ffffffc0ffffffc0fffffff

def poly1305 (key message : Bytes) : Tag :=
  let r := clamp (littleEndian (key.take 16))
  let s := littleEndian ((key.drop 16).take 16)
  let sum := (pieces 16 message).foldl
    (fun acc b => (acc + littleEndian (b ++ [1])) * r % polyPrime) 0
  Block.ofNat 16 (sum + s)

def zerosTo16 (b : Bytes) : Bytes := List.replicate ((16 - b.length % 16) % 16) 0

def tagged (aad hidden : Bytes) : Bytes :=
  aad ++ zerosTo16 aad ++ hidden ++ zerosTo16 hidden ++
    toLittleEndian 8 aad.length ++ toLittleEndian 8 hidden.length

def tag (key : Key) (nonce : Nonce) (aad hidden : Bytes) : Tag :=
  poly1305 ((keyBlock key nonce 0).take 32) (tagged aad hidden)

/-! ## Encryption and decryption -/

/-- The counter of the key stream has 32 bits, which limits the length of a text. -/
def tooLong (text : Bytes) : Bool := 0xFFFFFFFF ≤ text.length / 64

def encrypt (key : Key) (nonce : Nonce) (text aad : Bytes) : Option Bytes :=
  if tooLong text then none
  else
    let hidden := cipher key nonce text
    some (hidden ++ (tag key nonce aad hidden).val)

def decrypt (key : Key) (nonce : Nonce) (sealed aad : Bytes) : Option Bytes :=
  let size := sealed.length - 16
  let hidden := sealed.take size
  if sealed.length < 16 ∨ tooLong hidden then none
  else if (tag key nonce aad hidden).val = sealed.drop size then some (cipher key nonce hidden)
  else none

theorem decrypt_eq_some {key : Key} {nonce : Nonce} {sealed aad text : Bytes} :
    decrypt key nonce sealed aad = some text ↔ encrypt key nonce text aad = some sealed := by
  unfold decrypt encrypt
  constructor
  · intro h
    simp only at h
    split at h
    · cases h
    rename_i fits
    split at h
    · rename_i tagged
      cases h
      have same : tooLong (cipher key nonce (sealed.take (sealed.length - 16))) =
          tooLong (sealed.take (sealed.length - 16)) := by simp [tooLong]
      rw [same, if_neg fun long => fits (.inr long)]
      simp [tagged]
    · cases h
  · intro h
    split at h
    · cases h
    rename_i fits
    cases h
    have len := (tag key nonce aad (cipher key nonce text)).property
    simp [len, tooLong] at fits ⊢
    omega

end Countersign.Crypto.Aead
