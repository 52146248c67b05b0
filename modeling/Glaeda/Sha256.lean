import Mathlib.Tactic

/-!
# SHA-256

The hash function of FIPS 180-4, written so that it can be evaluated inside
a proof: words are natural numbers below `2 ^ 32`, the message schedule is a
window of sixteen words that slides along the round constants, and every
recursion is structural.

**Nothing is assumed about the function.** Of the digest only its length is
ever used as a fact; a statement that needs two messages not to collide says
so in a hypothesis about those messages.
-/

namespace Sha256

open List

/-! ## Words -/

/-- How many words there are. -/
def wordSize : Nat := 2 ^ 32

/-- A word rotated to the right. -/
def rotr (n x : Nat) : Nat := (x >>> n) ||| ((x <<< (32 - n)) % wordSize)

variable (x : Nat)

/-- The first function of the schedule. -/
def smallSigma0 : Nat := rotr 7 x ^^^ rotr 18 x ^^^ (x >>> 3)

/-- The second function of the schedule. -/
def smallSigma1 : Nat := rotr 17 x ^^^ rotr 19 x ^^^ (x >>> 10)

/-- The first function of a round. -/
def bigSigma0 : Nat := rotr 2 x ^^^ rotr 13 x ^^^ rotr 22 x

/-- The second function of a round. -/
def bigSigma1 : Nat := rotr 6 x ^^^ rotr 11 x ^^^ rotr 25 x

/-- The choice of a word. -/
def ch (x y z : Nat) : Nat := (x &&& y) ^^^ ((wordSize - 1 - x) &&& z)

/-- The majority of three words. -/
def maj (x y z : Nat) : Nat := (x &&& y) ^^^ (x &&& z) ^^^ (y &&& z)

/-! ## The compression function -/

/-- The eight words of the state. -/
structure State where
  a : Nat
  b : Nat
  c : Nat
  d : Nat
  e : Nat
  f : Nat
  g : Nat
  h : Nat

/-- The state at the start. -/
def State.initial : State :=
  ⟨0x6a09e667, 0xbb67ae85, 0x3c6ef372, 0xa54ff53a, 0x510e527f, 0x9b05688c, 0x1f83d9ab, 0x5be0cd19⟩

/-- The sum, word by word. -/
def State.add (s t : State) : State :=
  ⟨(s.a + t.a) % wordSize, (s.b + t.b) % wordSize, (s.c + t.c) % wordSize,
    (s.d + t.d) % wordSize, (s.e + t.e) % wordSize, (s.f + t.f) % wordSize,
    (s.g + t.g) % wordSize, (s.h + t.h) % wordSize⟩

/-- The words of a state. -/
def State.words (s : State) : List Nat := [s.a, s.b, s.c, s.d, s.e, s.f, s.g, s.h]

/-- The constants of the rounds. -/
def roundConstants : List Nat :=
  [0x428a2f98, 0x71374491, 0xb5c0fbcf, 0xe9b5dba5, 0x3956c25b, 0x59f111f1, 0x923f82a4, 0xab1c5ed5,
    0xd807aa98, 0x12835b01, 0x243185be, 0x550c7dc3, 0x72be5d74, 0x80deb1fe, 0x9bdc06a7, 0xc19bf174,
    0xe49b69c1, 0xefbe4786, 0x0fc19dc6, 0x240ca1cc, 0x2de92c6f, 0x4a7484aa, 0x5cb0a9dc, 0x76f988da,
    0x983e5152, 0xa831c66d, 0xb00327c8, 0xbf597fc7, 0xc6e00bf3, 0xd5a79147, 0x06ca6351, 0x14292967,
    0x27b70a85, 0x2e1b2138, 0x4d2c6dfc, 0x53380d13, 0x650a7354, 0x766a0abb, 0x81c2c92e, 0x92722c85,
    0xa2bfe8a1, 0xa81a664b, 0xc24b8b70, 0xc76c51a3, 0xd192e819, 0xd6990624, 0xf40e3585, 0x106aa070,
    0x19a4c116, 0x1e376c08, 0x2748774c, 0x34b0bcb5, 0x391c0cb3, 0x4ed8aa4a, 0x5b9cca4f, 0x682e6ff3,
    0x748f82ee, 0x78a5636f, 0x84c87814, 0x8cc70208, 0x90befffa, 0xa4506ceb, 0xbef9a3f7, 0xc67178f2]

/-- One round. -/
def round (s : State) (k w : Nat) : State :=
  let t1 := s.h + bigSigma1 s.e + ch s.e s.f s.g + k + w
  let t2 := bigSigma0 s.a + maj s.a s.b s.c
  ⟨(t1 + t2) % wordSize, s.a, s.b, s.c, (s.d + t1) % wordSize, s.e, s.f, s.g⟩

/-- The next word of the schedule. -/
def nextWord : List Nat → Nat
  | [w0, w1, _, _, _, _, _, _, _, w9, _, _, _, _, w14, _] =>
    (smallSigma1 w14 + w9 + smallSigma0 w1 + w0) % wordSize
  | _ => 0

/-- All rounds of a block. -/
def rounds : List Nat → State → List Nat → State
  | [], s, _ => s
  | k :: ks, s, window =>
    rounds ks (round s k (window.headD 0)) (window.tail ++ [nextWord window])

/-- The words of some bytes. -/
def toWords : List UInt8 → List Nat
  | b0 :: b1 :: b2 :: b3 :: rest =>
    (((b0.toNat * 256 + b1.toNat) * 256 + b2.toNat) * 256 + b3.toNat) :: toWords rest
  | _ => []

/-- The state after a block. -/
def compress (s : State) (block : List UInt8) : State :=
  s.add (rounds roundConstants s (toWords block))

/-- The state after some blocks. -/
def compressBlocks : Nat → State → List UInt8 → State
  | 0, s, _ => s
  | n + 1, s, bytes => compressBlocks n (compress s (bytes.take 64)) (bytes.drop 64)

/-! ## Padding and the digest -/

/-- A number in bytes, the highest first. -/
def beBytes : Nat → Nat → List UInt8
  | 0, _ => []
  | n + 1, value => UInt8.ofNat (value >>> (8 * n)) :: beBytes n value

@[simp] theorem length_beBytes (n value : Nat) : (beBytes n value).length = n := by
  induction n with
  | zero => rfl
  | succ n ih =>
    show (beBytes n value).length + 1 = n + 1
    rw [ih]

theorem mod_eq_of_beBytes_eq {n v w : Nat} (h : beBytes n v = beBytes n w) :
    v % 256 ^ n = w % 256 ^ n := by
  induction n with
  | zero => rw [pow_zero, Nat.mod_one, Nat.mod_one]
  | succ n ih =>
    obtain ⟨hh, ht⟩ := cons.inj h
    have hb := congrArg UInt8.toNat hh
    rw [UInt8.toNat_ofNat', UInt8.toNat_ofNat', Nat.shiftRight_eq_div_pow,
      Nat.shiftRight_eq_div_pow, pow_mul] at hb
    rw [pow_succ, Nat.mod_mul, Nat.mod_mul, ih ht]
    exact congrArg (fun b => w % 256 ^ n + 256 ^ n * b) hb

/-- **A number that fits is read back from its bytes.** -/
theorem eq_of_beBytes_eq {n v w : Nat} (hv : v < 256 ^ n) (hw : w < 256 ^ n)
    (h : beBytes n v = beBytes n w) : v = w := by
  rw [← Nat.mod_eq_of_lt hv, mod_eq_of_beBytes_eq h, Nat.mod_eq_of_lt hw]

variable (message : List UInt8)

/-- The message with its padding. -/
def pad : List UInt8 :=
  message ++ 0x80 :: (List.replicate ((119 - message.length % 64) % 64) 0
    ++ beBytes 8 (message.length * 8))

/-- **The digest of a message**: 32 bytes. -/
def digest : List UInt8 :=
  let padded := pad message
  (compressBlocks (padded.length / 64) .initial padded).words.flatMap (beBytes 4)

@[simp] theorem length_digest : (digest message).length = 32 := by
  simp [digest, State.words]

/-! ## Hexadecimal text -/

/-- A byte in two digits. -/
def hexByte (b : UInt8) : List Char :=
  [Nat.digitChar (b.toNat / 16), Nat.digitChar (b.toNat % 16)]

/-- **The digest in lowercase hexadecimal.** -/
def hexDigest : List Char := (digest message).flatMap hexByte

theorem length_flatMap_hexByte (bytes : List UInt8) :
    (bytes.flatMap hexByte).length = 2 * bytes.length := by
  induction bytes with
  | nil => rfl
  | cons b bytes ih =>
    rw [flatMap_cons, length_append, ih, length_cons]
    show 2 + _ = _
    ring

theorem hexByte_injective : Function.Injective hexByte := by
  have hd : ∀ m < 16, ∀ n < 16, Nat.digitChar m = Nat.digitChar n → m = n := by decide
  intro b c h
  have hb : b.toNat < 256 := b.toNat_lt
  have hc : c.toNat < 256 := c.toNat_lt
  obtain ⟨hh, hl⟩ := cons.inj h
  have hh := hd _ (by omega) _ (by omega) hh
  have hl := hd _ (by omega) _ (by omega) (cons.inj hl).1
  exact UInt8.toNat_inj.mp (by omega)

/-- **Hexadecimal text shows all of the bytes.** -/
theorem flatMap_hexByte_injective : Function.Injective (List.flatMap hexByte) := by
  intro bytes
  induction bytes with
  | nil =>
    rintro (_ | ⟨c, cs⟩) h
    · rfl
    · cases h
  | cons b bytes ih =>
    rintro (_ | ⟨c, cs⟩) h
    · cases h
    · obtain ⟨hh, ht⟩ := append_inj h rfl
      rw [hexByte_injective hh, ih ht]

@[simp] theorem length_hexDigest : (hexDigest message).length = 64 := by
  rw [hexDigest, length_flatMap_hexByte, length_digest]

/-- **What holds of the sixteen digits holds of every digit of a digest.** -/
theorem forall_mem_hexDigest {P : Char → Prop} (h : ∀ n < 16, P (Nat.digitChar n))
    (message : List UInt8) : ∀ c ∈ hexDigest message, P c := by
  intro c hc
  obtain ⟨b, -, hc⟩ := mem_flatMap.mp hc
  have hb : b.toNat < 256 := b.toNat_lt
  simp only [hexByte, mem_cons, not_mem_nil, or_false] at hc
  rcases hc with rfl | rfl
  · exact h _ (by omega)
  · exact h _ (Nat.mod_lt _ (by decide))

example : String.ofList (hexDigest [97, 98, 99])
    = "ba7816bf8f01cfea414140de5dae2223b00361a396177a9cb410ff61f20015ad" := by
  decide +kernel

end Sha256
