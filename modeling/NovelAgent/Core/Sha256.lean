import Mathlib.Algebra.Group.Nat.Defs
import Mathlib.Data.List.Basic

/-!
# SHA-256

The hash behind every content address, claim digest and fingerprint.
-/

namespace NovelAgent.Core.Sha256

/-- The round constants, one for each of the sixty-four rounds. -/
def roundConstants : List Nat := [
  0x428a2f98, 0x71374491, 0xb5c0fbcf, 0xe9b5dba5, 0x3956c25b, 0x59f111f1, 0x923f82a4, 0xab1c5ed5,
  0xd807aa98, 0x12835b01, 0x243185be, 0x550c7dc3, 0x72be5d74, 0x80deb1fe, 0x9bdc06a7, 0xc19bf174,
  0xe49b69c1, 0xefbe4786, 0x0fc19dc6, 0x240ca1cc, 0x2de92c6f, 0x4a7484aa, 0x5cb0a9dc, 0x76f988da,
  0x983e5152, 0xa831c66d, 0xb00327c8, 0xbf597fc7, 0xc6e00bf3, 0xd5a79147, 0x06ca6351, 0x14292967,
  0x27b70a85, 0x2e1b2138, 0x4d2c6dfc, 0x53380d13, 0x650a7354, 0x766a0abb, 0x81c2c92e, 0x92722c85,
  0xa2bfe8a1, 0xa81a664b, 0xc24b8b70, 0xc76c51a3, 0xd192e819, 0xd6990624, 0xf40e3585, 0x106aa070,
  0x19a4c116, 0x1e376c08, 0x2748774c, 0x34b0bcb5, 0x391c0cb3, 0x4ed8aa4a, 0x5b9cca4f, 0x682e6ff3,
  0x748f82ee, 0x78a5636f, 0x84c87814, 0x8cc70208, 0x90befffa, 0xa4506ceb, 0xbef9a3f7, 0xc67178f2]

/-- Rotate a 32-bit word right. -/
def rotr (x n : Nat) : Nat :=
  Nat.mod (Nat.lor (Nat.shiftRight x n) (Nat.shiftLeft x (Nat.sub 32 n))) 4294967296

/-- Pass a number on once it has been computed. Matching on the number is what
    makes the kernel evaluate it before it is copied. -/
def pass {α : Type} (n : Nat) (k : Nat → α) : α :=
  match n with
  | 0 => k 0
  | m + 1 => k m.succ

/-- Pass a list of numbers on once all of them have been computed. -/
def passAll {α : Type} : List Nat → (List Nat → α) → α
  | [], k => k []
  | n :: ns, k => pass n fun n => passAll ns fun ns => k (n :: ns)

/-- A sum of two words. -/
def add (x y : Nat) : Nat := Nat.mod (Nat.add x y) 4294967296

/-- The eight chaining words. -/
structure State where
  (a b c d e f g h : Nat)

/-- The mixing function of the older word in the message schedule. -/
def sigma0 (x : Nat) : Nat := Nat.xor (Nat.xor (rotr x 7) (rotr x 18)) (Nat.shiftRight x 3)

/-- The mixing function of the newer word in the message schedule. -/
def sigma1 (x : Nat) : Nat := Nat.xor (Nat.xor (rotr x 17) (rotr x 19)) (Nat.shiftRight x 10)

/-- The rounds of one block, over the round constants left, the next sixteen
    words of the message schedule and the working variables. -/
def rounds : List Nat →
    (w0 w1 w2 w3 w4 w5 w6 w7 w8 w9 w10 w11 w12 w13 w14 w15 a b c d e f g h : Nat) → State
  | [], _, _, _, _, _, _, _, _, _, _, _, _, _, _, _, _, a, b, c, d, e, f, g, h =>
    ⟨a, b, c, d, e, f, g, h⟩
  | k :: ks, w0, w1, w2, w3, w4, w5, w6, w7, w8, w9, w10, w11, w12, w13, w14, w15,
      a, b, c, d, e, f, g, h =>
    pass (Nat.add (Nat.add (Nat.add
        (Nat.add h (Nat.xor (Nat.xor (rotr e 6) (rotr e 11)) (rotr e 25)))
        (Nat.xor (Nat.land e f) (Nat.land (Nat.xor 0xffffffff e) g))) k) w0) fun t =>
      pass (add (Nat.add t (Nat.xor (Nat.xor (rotr a 2) (rotr a 13)) (rotr a 22)))
          (Nat.xor (Nat.xor (Nat.land a b) (Nat.land a c)) (Nat.land b c))) fun a' =>
        pass (add d t) fun e' =>
          pass (add (Nat.add (Nat.add w0 (sigma0 w1)) w9) (sigma1 w14)) fun w' =>
            rounds ks w1 w2 w3 w4 w5 w6 w7 w8 w9 w10 w11 w12 w13 w14 w15 w' a' a b c e' e f g

/-- Add two chaining states word by word. -/
def addState (s r : State) : State :=
  pass (add s.a r.a) fun a => pass (add s.b r.b) fun b =>
  pass (add s.c r.c) fun c => pass (add s.d r.d) fun d =>
  pass (add s.e r.e) fun e => pass (add s.f r.f) fun f =>
  pass (add s.g r.g) fun g => pass (add s.h r.h) fun h =>
  ⟨a, b, c, d, e, f, g, h⟩

/-- The message, a one bit, zeros up to a block boundary, and the bit length. -/
def pad (msg : List Nat) : List Nat :=
  msg ++ [0x80] ++ List.replicate ((119 - msg.length % 64) % 64) 0 ++
    (List.range 8).map fun i => (msg.length * 8) >>> (8 * (7 - i)) % 256

/-- Group bytes into big-endian words. -/
def wordsOf : List Nat → List Nat
  | a :: b :: c :: d :: rest =>
    pass (((a * 256 + b) * 256 + c) * 256 + d) fun w => w :: wordsOf rest
  | _ => []

/-- Fold blocks of sixteen words into the chaining state. -/
def compress : Nat → List Nat → State → State
  | n + 1, w0 :: w1 :: w2 :: w3 :: w4 :: w5 :: w6 :: w7 :: w8 :: w9 :: w10 :: w11 :: w12 :: w13 ::
      w14 :: w15 :: rest, s =>
    compress n rest (addState s (rounds roundConstants w0 w1 w2 w3 w4 w5 w6 w7 w8 w9 w10 w11
      w12 w13 w14 w15 s.a s.b s.c s.d s.e s.f s.g s.h))
  | _, _, s => s

def initial : State :=
  ⟨0x6a09e667, 0xbb67ae85, 0x3c6ef372, 0xa54ff53a, 0x510e527f, 0x9b05688c, 0x1f83d9ab, 0x5be0cd19⟩

/-- The final chaining state of a message. -/
def digest (msg : List Nat) : State :=
  compress ((msg.length + 72) / 64) (wordsOf (pad msg)) initial

def hexDigits : List Char := "0123456789abcdef".toList

/-- A lower-case hexadecimal digit. -/
def isHexDigit (c : Char) : Bool := hexDigits.contains c

/-- The digit of the low four bits of a number. -/
def hexDigit (n : Nat) : Char := hexDigits.getD (n % 16) '0'

/-- A 32-bit word as eight hexadecimal digits. -/
def hexWord (w : Nat) : List Char :=
  (List.range 8).map fun i => hexDigit (w >>> (4 * (7 - i)))

def hexDigestChars (msg : List Nat) : List Char :=
  let s := digest msg
  [s.a, s.b, s.c, s.d, s.e, s.f, s.g, s.h].flatMap hexWord

/-- The digits of the digest of a string's UTF-8 bytes. -/
def digitsOf (m : String) : List Char :=
  passAll (m.toByteArray.data.toList.map UInt8.toNat) hexDigestChars

/-- The digest of a string's UTF-8 bytes in hexadecimal. -/
def hexdigest (m : String) : String := String.ofList (digitsOf m)

example : hexdigest "abc" =
    "ba7816bf8f01cfea414140de5dae2223b00361a396177a9cb410ff61f20015ad" := by decide +kernel

theorem passAll_eq {α : Type} (ns : List Nat) (k : List Nat → α) : passAll ns k = k ns := by
  induction ns generalizing k with
  | nil => rfl
  | cons n ns ih => cases n <;> exact ih _

theorem digitsOf_eq (m : String) : digitsOf m =
    passAll (m.toList.flatMap fun c => (String.utf8EncodeChar c).map UInt8.toNat)
      hexDigestChars := by
  rw [digitsOf, ← String.utf8Encode_toList, List.utf8Encode, List.data_toByteArray,
    List.map_flatMap]

variable (n : Nat)

theorem isHexDigit_hexDigit : isHexDigit (hexDigit n) = true := by
  have hlt : n % 16 < 16 := Nat.mod_lt n (by decide)
  have hall : ∀ m < 16, isHexDigit (hexDigits.getD m '0') = true := by decide
  exact hall (n % 16) hlt

theorem hexWord_isHex (w : Nat) : ∀ c ∈ hexWord w, isHexDigit c = true := by
  intro c hc
  rcases List.mem_map.mp hc with ⟨i, _, rfl⟩
  exact isHexDigit_hexDigit _

variable (m : String)

/-- A digest has sixty-four digits. -/
theorem hexdigest_toList_length : (hexdigest m).toList.length = 64 := by
  have hword : ∀ w, (hexWord w).length = 8 := by
    intro w
    rw [hexWord, List.length_map, List.length_range]
  simp [hexdigest, digitsOf, passAll_eq, hexDigestChars, hword]

/-- Every one of them is hexadecimal. -/
theorem hexdigest_isHex : (hexdigest m).toList.all isHexDigit = true := by
  rw [List.all_eq_true]
  intro c hc
  rw [hexdigest, String.toList_ofList, digitsOf, passAll_eq, hexDigestChars] at hc
  rcases List.mem_flatMap.mp hc with ⟨w, _, hw⟩
  exact hexWord_isHex w c hw

end NovelAgent.Core.Sha256
