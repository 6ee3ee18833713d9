import AsioForwarder.Msgpack
import AsioForwarder.Sha256Standard

/-!
# The SHA-256 of the client

`sha256.hpp` compresses the whole blocks where they stand in the input and
builds the last one or two in a buffer on the stack.  The arrays are as the
source declares them: `w` and `buf` hold whatever the stack held.  The result
is the standard's for every content of both.
-/

namespace AsioForwarder

namespace Sha256

/-! ## `compress_block` -/

def rotr (x n : UInt32) : UInt32 :=
  (x >>> n) ||| (x <<< (32 - n))

def k : Vector UInt32 64 :=
  #v[0x428a2f98, 0x71374491, 0xb5c0fbcf, 0xe9b5dba5,
    0x3956c25b, 0x59f111f1, 0x923f82a4, 0xab1c5ed5,
    0xd807aa98, 0x12835b01, 0x243185be, 0x550c7dc3,
    0x72be5d74, 0x80deb1fe, 0x9bdc06a7, 0xc19bf174,
    0xe49b69c1, 0xefbe4786, 0x0fc19dc6, 0x240ca1cc,
    0x2de92c6f, 0x4a7484aa, 0x5cb0a9dc, 0x76f988da,
    0x983e5152, 0xa831c66d, 0xb00327c8, 0xbf597fc7,
    0xc6e00bf3, 0xd5a79147, 0x06ca6351, 0x14292967,
    0x27b70a85, 0x2e1b2138, 0x4d2c6dfc, 0x53380d13,
    0x650a7354, 0x766a0abb, 0x81c2c92e, 0x92722c85,
    0xa2bfe8a1, 0xa81a664b, 0xc24b8b70, 0xc76c51a3,
    0xd192e819, 0xd6990624, 0xf40e3585, 0x106aa070,
    0x19a4c116, 0x1e376c08, 0x2748774c, 0x34b0bcb5,
    0x391c0cb3, 0x4ed8aa4a, 0x5b9cca4f, 0x682e6ff3,
    0x748f82ee, 0x78a5636f, 0x84c87814, 0x8cc70208,
    0x90befffa, 0xa4506ceb, 0xbef9a3f7, 0xc67178f2]

/-- The body of the first loop. -/
def load (block : Vector UInt8 64) (w : Vector UInt32 64) (i : Nat) :
    Vector UInt32 64 :=
  w.setIfInBounds i
    ((block[i * 4 + 0]!.toUInt32 <<< 24) |||
      (block[i * 4 + 1]!.toUInt32 <<< 16) |||
      (block[i * 4 + 2]!.toUInt32 <<< 8) ||| block[i * 4 + 3]!.toUInt32)

/-- The body of the second loop. -/
def extend (w : Vector UInt32 64) (i : Nat) : Vector UInt32 64 :=
  let s0 := rotr w[i - 15]! 7 ^^^ rotr w[i - 15]! 18 ^^^ (w[i - 15]! >>> 3)
  let s1 := rotr w[i - 2]! 17 ^^^ rotr w[i - 2]! 19 ^^^ (w[i - 2]! >>> 10)
  w.setIfInBounds i (w[i - 16]! + s0 + w[i - 7]! + s1)

structure Locals where
  a : UInt32
  b : UInt32
  c : UInt32
  d : UInt32
  e : UInt32
  f : UInt32
  g : UInt32
  h : UInt32

/-- The body of the third loop. -/
def mix (w : Vector UInt32 64) (x : Locals) (i : Nat) : Locals :=
  let S1 := rotr x.e 6 ^^^ rotr x.e 11 ^^^ rotr x.e 25
  let ch := (x.e &&& x.f) ^^^ ((~~~x.e) &&& x.g)
  let t1 := x.h + S1 + ch + k[i]! + w[i]!
  let S0 := rotr x.a 2 ^^^ rotr x.a 13 ^^^ rotr x.a 22
  let maj := (x.a &&& x.b) ^^^ (x.a &&& x.c) ^^^ (x.b &&& x.c)
  let t2 := S0 + maj
  { h := x.g
    g := x.f
    f := x.e
    e := x.d + t1
    d := x.c
    c := x.b
    b := x.a
    a := t1 + t2 }

/-- The working variables are added to the state. -/
def addLocals (state : Vector UInt32 8) (x : Locals) : Vector UInt32 8 :=
  #v[state[0] + x.a, state[1] + x.b, state[2] + x.c, state[3] + x.d,
    state[4] + x.e, state[5] + x.f, state[6] + x.g, state[7] + x.h]

/-- `compress_block`; `w` is the array as it is found, here by every call. -/
def compressBlock (w : Vector UInt32 64) (state : Vector UInt32 8)
    (block : Vector UInt8 64) : Vector UInt32 8 :=
  let w := (List.range 16).foldl (load block) w
  let w := (List.range' 16 48).foldl extend w
  addLocals state ((List.range 64).foldl (mix w)
    ⟨state[0], state[1], state[2], state[3],
      state[4], state[5], state[6], state[7]⟩)

/-! ## `hash_bytes` -/

/-- The 64 bytes at `p + offset`. -/
def blockAt (p : Bytes) (offset : Nat) : Vector UInt8 64 :=
  Vector.ofFn (fun i => p[offset + i.val]!)

/-- The loop over the whole blocks, and the offset it stops at. -/
def compressBlocks (w : Vector UInt32 64) (p : Bytes)
    (h : Vector UInt32 8) (offset : Nat) : Vector UInt32 8 × Nat :=
  if 64 ≤ p.length - offset then
    compressBlocks w p (compressBlock w h (blockAt p offset)) (offset + 64)
  else (h, offset)
termination_by p.length - offset

def memcpy (buf : Vector UInt8 64) (src : Bytes) (n : Nat) :
    Vector UInt8 64 :=
  Vector.ofFn (fun i => if i.val < n then src[i.val]! else buf[i])

/-- `memset(buf + from, value, n)`. -/
def memset (buf : Vector UInt8 64) (start : Nat) (value : UInt8) (n : Nat) :
    Vector UInt8 64 :=
  Vector.ofFn (fun i =>
    if start ≤ i.val ∧ i.val < start + n then value else buf[i])

/-- The body of the loop which stores the length. -/
def storeLength (bitlen : UInt64) (buf : Vector UInt8 64) (i : Nat) :
    Vector UInt8 64 :=
  buf.setIfInBounds (56 + i)
    ((bitlen >>> UInt64.ofNat (56 - i * 8)) &&& 0xFF).toUInt8

/-- The body of the loop which stores the digest. -/
def storeWord (h : Vector UInt32 8) (out : Vector UInt8 32) (i : Nat) :
    Vector UInt8 32 :=
  let out := out.setIfInBounds (i * 4 + 0) ((h[i]! >>> 24) &&& 0xFF).toUInt8
  let out := out.setIfInBounds (i * 4 + 1) ((h[i]! >>> 16) &&& 0xFF).toUInt8
  let out := out.setIfInBounds (i * 4 + 2) ((h[i]! >>> 8) &&& 0xFF).toUInt8
  out.setIfInBounds (i * 4 + 3) (h[i]! &&& 0xFF).toUInt8

/-- `hash_bytes`; `buf` is the array as it is found. -/
def hashBytes (w : Vector UInt32 64) (buf : Vector UInt8 64) (p : Bytes) :
    Vector UInt8 32 :=
  let len := p.length
  let h : Vector UInt32 8 :=
    #v[0x6a09e667, 0xbb67ae85, 0x3c6ef372, 0xa54ff53a,
      0x510e527f, 0x9b05688c, 0x1f83d9ab, 0x5be0cd19]
  let bitlen := UInt64.ofNat len * 8
  let (h, offset) := compressBlocks w p h 0
  let rem := len - offset
  let buf := memcpy buf (p.drop offset) rem
  let buf := buf.setIfInBounds rem 0x80
  let rem := rem + 1
  let (h, buf) :=
    if rem ≤ 56 then (h, memset buf rem 0 (56 - rem))
    else
      let buf := memset buf rem 0 (64 - rem)
      (compressBlock w h buf, memset buf 0 0 56)
  let buf := (List.range 8).foldl (storeLength bitlen) buf
  let h := compressBlock w h buf
  (List.range 8).foldl (storeWord h) (Vector.replicate 32 0)

end Sha256

end AsioForwarder
