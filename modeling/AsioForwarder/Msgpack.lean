import Mathlib.Algebra.Group.Nat.Defs
import Mathlib.Data.List.Basic

/-!
# Msgpack bodies

Every body on the wire is one msgpack value.  The server reads a body through
the unpacked object tree `Obj` and the `map_get_*` scanners over its entries,
and writes a body as a sequence of packer calls.  The packer calls are kept
as tokens, because a container header and the elements after it are separate
calls in the source: nothing but the caller makes them agree.
-/

namespace AsioForwarder

/-- The contents of a `std::string`. -/
abbrev Bytes := List UInt8

/-- A string literal of the source, encoded in UTF-8. -/
def lit (text : String) : Bytes :=
  text.toList.flatMap String.utf8EncodeChar

/-- `std::to_string` of an unsigned number. -/
def toDecimal (n : Nat) : Bytes :=
  (Nat.toDigits 10 n).map (fun digit => UInt8.ofNat digit.toNat)

/-- An unpacked msgpack object. -/
inductive Obj where
  | nil
  | boolean (value : Bool)
  | positiveInteger (value : Nat)
  | negativeInteger (magnitude : Nat)
  | float (bits : Nat)
  | str (value : Bytes)
  | bin (value : Bytes)
  | array (elements : List Obj)
  | map (entries : List (Obj × Obj))
  | ext (kind : Nat) (data : Bytes)

/-- The entries of a `msgpack::object_map`, in wire order. -/
abbrev ObjMap := List (Obj × Obj)

/-- The first string value stored under the key; entries of the key with a
value of another type are passed over. -/
def mapGetStr : ObjMap → Bytes → Option Bytes
  | [], _ => none
  | (.str k, .str v) :: rest, key =>
      if k = key then some v else mapGetStr rest key
  | _ :: rest, key => mapGetStr rest key

def mapHasKey : ObjMap → Bytes → Bool
  | [], _ => false
  | (.str k, _) :: rest, key => if k = key then true else mapHasKey rest key
  | _ :: rest, key => mapHasKey rest key

/-- The first unsigned value under the key; a negative one ends the scan,
any other type is passed over. -/
def mapGetU64 : ObjMap → Bytes → Option Nat
  | [], _ => none
  | (.str k, .positiveInteger n) :: rest, key =>
      if k = key then some n else mapGetU64 rest key
  | (.str k, .negativeInteger _) :: rest, key =>
      if k = key then none else mapGetU64 rest key
  | _ :: rest, key => mapGetU64 rest key

def mapGetBool : ObjMap → Bytes → Bool → Bool
  | [], _, default => default
  | (.str k, .boolean b) :: rest, key, default =>
      if k = key then b else mapGetBool rest key default
  | _ :: rest, key, default => mapGetBool rest key default

def mapGetObj : ObjMap → Bytes → Option Obj
  | [], _ => none
  | (.str k, v) :: rest, key =>
      if k = key then some v else mapGetObj rest key
  | _ :: rest, key => mapGetObj rest key

def extractPayloadBin : Option Obj → Option Bytes
  | some (.bin b) => some b
  | some (.str s) => some s
  | _ => none

/-- One call on a `msgpack::packer`. -/
inductive Tok where
  | map (size : Nat)
  | array (size : Nat)
  | str (value : Bytes)
  | bin (value : Bytes)
  | uint (value : Nat)
  | bool (value : Bool)
  deriving DecidableEq

/-- The bytes which a size cast to 32 bits leaves of a payload. -/
def castPayload (payload : Bytes) : Bytes :=
  payload.take (payload.length % UInt32.size)

/-- `pack_bin` and `pack_bin_body`, both called with the size cast to 32
bits. -/
def Tok.castBin (payload : Bytes) : Tok :=
  .bin (castPayload payload)

theorem castPayload_length_lt (payload : Bytes) :
    (castPayload payload).length < UInt32.size := by
  have htake := List.length_take_le (payload.length % UInt32.size) payload
  have hmod := Nat.mod_lt payload.length (show 0 < UInt32.size by decide)
  exact Nat.lt_of_le_of_lt htake hmod

theorem castPayload_of_lt {payload : Bytes}
    (hsize : payload.length < UInt32.size) : castPayload payload = payload := by
  rw [castPayload, Nat.mod_eq_of_lt hsize, List.take_length]

theorem castPayload_eq_iff (payload : Bytes) :
    castPayload payload = payload ↔ payload.length < UInt32.size := by
  constructor
  · intro hsame
    rw [← hsame]
    exact castPayload_length_lt payload
  · exact castPayload_of_lt

/-- Big-endian bytes of `n`, `width` of them. -/
def bigEndian : Nat → Nat → Bytes
  | 0, _ => []
  | width + 1, n => UInt8.ofNat (n / 256 ^ width) :: bigEndian width n

theorem bigEndian_zero (n : Nat) : bigEndian 0 n = [] := rfl

theorem bigEndian_succ (width n : Nat) :
    bigEndian (width + 1) n =
      UInt8.ofNat (n / 256 ^ width) :: bigEndian width n := rfl

/-- The bytes a packer call appends, in the shortest format of its family. -/
def Tok.encode : Tok → Bytes
  | .map n =>
      if n < 16 then [UInt8.ofNat (0x80 + n)]
      else if n < 65536 then 0xde :: bigEndian 2 n
      else 0xdf :: bigEndian 4 n
  | .array n =>
      if n < 16 then [UInt8.ofNat (0x90 + n)]
      else if n < 65536 then 0xdc :: bigEndian 2 n
      else 0xdd :: bigEndian 4 n
  | .str s =>
      (if s.length < 32 then [UInt8.ofNat (0xa0 + s.length)]
      else if s.length < 256 then 0xd9 :: bigEndian 1 s.length
      else if s.length < 65536 then 0xda :: bigEndian 2 s.length
      else 0xdb :: bigEndian 4 s.length) ++ s
  | .bin b =>
      (if b.length < 256 then 0xc4 :: bigEndian 1 b.length
      else if b.length < 65536 then 0xc5 :: bigEndian 2 b.length
      else 0xc6 :: bigEndian 4 b.length) ++ b
  | .uint n =>
      if n < 128 then [UInt8.ofNat n]
      else if n < 256 then 0xcc :: bigEndian 1 n
      else if n < 65536 then 0xcd :: bigEndian 2 n
      else if n < 4294967296 then 0xce :: bigEndian 4 n
      else 0xcf :: bigEndian 8 n
  | .bool false => [0xc2]
  | .bool true => [0xc3]

def packAll (tokens : List Tok) : Bytes :=
  tokens.flatMap Tok.encode

/-! ## Reading short bodies -/

/-- One scalar in a one-byte, `str8` or `bin8` format, and the bytes after
it. -/
def unpackScalar : Bytes → Option (Obj × Bytes)
  | [] => none
  | b :: rest =>
      if b < 0x80 then some (.positiveInteger b.toNat, rest)
      else if 0xa0 ≤ b ∧ b < 0xc0 then
        if b.toNat - 0xa0 ≤ rest.length then
          some (.str (rest.take (b.toNat - 0xa0)), rest.drop (b.toNat - 0xa0))
        else none
      else if b = 0xc0 then some (.nil, rest)
      else if b = 0xc2 then some (.boolean false, rest)
      else if b = 0xc3 then some (.boolean true, rest)
      else
        match rest with
        | [] => none
        | n :: rest =>
            if rest.length < n.toNat then none
            else if b = 0xd9 then
              some (.str (rest.take n.toNat), rest.drop n.toNat)
            else if b = 0xc4 then
              some (.bin (rest.take n.toNat), rest.drop n.toNat)
            else none

def unpackEntries : Nat → Bytes → Option ObjMap
  | 0, _ => some []
  | count + 1, bytes =>
      match unpackScalar bytes with
      | none => none
      | some (key, bytes) =>
          match unpackScalar bytes with
          | none => none
          | some (value, bytes) =>
              (unpackEntries count bytes).map ((key, value) :: ·)

/-- `msgpack::unpack` on a map of fewer than 16 scalars or on one scalar:
enough of the format to replay concrete frames. -/
def unpackFlat : Bytes → Option Obj
  | [] => none
  | b :: rest =>
      if 0x80 ≤ b ∧ b < 0x90 then
        (unpackEntries (b.toNat - 0x80) rest).map .map
      else (unpackScalar (b :: rest)).map Prod.fst

end AsioForwarder
