import AsioForwarder.IteratedHash
import Mathlib.Analysis.SpecialFunctions.Pow.NthRootLemmas
import Mathlib.Data.Nat.Nth
import Mathlib.Data.Nat.Prime.Basic

/-!
# SHA-256 as the standard defines it

The constants are the fractional parts of the roots of the first primes, the
schedule is the recurrence on the words of a block, and the padded message,
of whole bytes, is folded block by block.
-/

namespace Sha256Standard

abbrev Word := BitVec 32

/-! ## Functions and constants -/

def ch (x y z : Word) : Word :=
  (x &&& y) ^^^ (~~~x &&& z)

def maj (x y z : Word) : Word :=
  (x &&& y) ^^^ (x &&& z) ^^^ (y &&& z)

def bigSigma0 (x : Word) : Word :=
  x.rotateRight 2 ^^^ x.rotateRight 13 ^^^ x.rotateRight 22

def bigSigma1 (x : Word) : Word :=
  x.rotateRight 6 ^^^ x.rotateRight 11 ^^^ x.rotateRight 25

def smallSigma0 (x : Word) : Word :=
  x.rotateRight 7 ^^^ x.rotateRight 18 ^^^ x >>> 3

def smallSigma1 (x : Word) : Word :=
  x.rotateRight 17 ^^^ x.rotateRight 19 ^^^ x >>> 10

/-- The first 32 bits of the fractional part of the root of a number. -/
def rootBits (degree number : Nat) : Word :=
  BitVec.ofNat 32 (Nat.nthRoot degree (number * (2 ^ 32) ^ degree))

/-- The prime number with `t` primes below it. -/
noncomputable def prime (t : Nat) : Nat :=
  Nat.nth Nat.Prime t

/-- The constant words of the 64 rounds. -/
noncomputable def roundConstant (t : Nat) : Word :=
  rootBits 3 (prime t)

/-! ## Compression -/

/-- The eight words of a hash value, or the working variables. -/
@[ext] structure Words where
  a : Word
  b : Word
  c : Word
  d : Word
  e : Word
  f : Word
  g : Word
  h : Word

noncomputable def initial : Words where
  a := rootBits 2 (prime 0)
  b := rootBits 2 (prime 1)
  c := rootBits 2 (prime 2)
  d := rootBits 2 (prime 3)
  e := rootBits 2 (prime 4)
  f := rootBits 2 (prime 5)
  g := rootBits 2 (prime 6)
  h := rootBits 2 (prime 7)

/-- The big-endian word at `4 * t` bytes into a block. -/
def wordAt (block : List UInt8) (t : Nat) : Word :=
  block[4 * t]!.toBitVec ++ block[4 * t + 1]!.toBitVec ++
    block[4 * t + 2]!.toBitVec ++ block[4 * t + 3]!.toBitVec

/-- The message schedule. -/
def schedule (block : List UInt8) (t : Nat) : Word :=
  if t < 16 then wordAt block t
  else
    smallSigma1 (schedule block (t - 2)) + schedule block (t - 7) +
      smallSigma0 (schedule block (t - 15)) + schedule block (t - 16)

noncomputable def roundStep (block : List UInt8) (v : Words) (t : Nat) :
    Words :=
  let t1 := v.h + bigSigma1 v.e + ch v.e v.f v.g + roundConstant t +
    schedule block t
  let t2 := bigSigma0 v.a + maj v.a v.b v.c
  ⟨t1 + t2, v.a, v.b, v.c, v.d + t1, v.e, v.f, v.g⟩

def Words.add (v hash : Words) : Words :=
  ⟨v.a + hash.a, v.b + hash.b, v.c + hash.c, v.d + hash.d,
    v.e + hash.e, v.f + hash.f, v.g + hash.g, v.h + hash.h⟩

noncomputable def compress (hash : Words) (block : List UInt8) : Words :=
  ((List.range 64).foldl (roundStep block) hash).add hash

/-! ## The hash of a message -/

/-- The first `n` bytes of a word of `8 * n` bits, big-endian. -/
def octets (n : Nat) (word : BitVec (8 * n)) : List UInt8 :=
  (List.range n).map
    (fun i => UInt8.ofBitVec (word.extractLsb' (8 * (n - 1 - i)) 8))

/-- The length of the message in bits, as a 64-bit word. -/
def lengthOctets (message : List UInt8) : List UInt8 :=
  octets 8 (BitVec.ofNat 64 (8 * message.length))

/-- The padded message: a one bit, zero bits and the length. -/
def pad (message : List UInt8) : List UInt8 :=
  IteratedHash.padded 0x80 0 64 (lengthOctets message) message

def Words.digest (hash : Words) : List UInt8 :=
  [hash.a, hash.b, hash.c, hash.d, hash.e, hash.f, hash.g, hash.h].flatMap
    (octets 4)

noncomputable def sha256 (message : List UInt8) : List UInt8 :=
  (IteratedHash.absorb compress 64 initial (pad message)).digest

/-! ## Reading the constants -/

theorem rootBits_eq_of_root {degree number root : Nat}
    (hle : root ^ degree ≤ number * (2 ^ 32) ^ degree)
    (hlt : number * (2 ^ 32) ^ degree < (root + 1) ^ degree) :
    rootBits degree number = BitVec.ofNat 32 root := by
  rw [rootBits, Nat.nthRoot_eq_of_le_of_lt hle hlt]

theorem prime_eq_of_count {t p : Nat} (hp : p.Prime)
    (hcount : Nat.count Nat.Prime p = t) : prime t = p := by
  rw [prime, ← hcount, Nat.nth_count hp]

@[simp] theorem lengthOctets_length (message : List UInt8) :
    (lengthOctets message).length = 8 := rfl

end Sha256Standard
