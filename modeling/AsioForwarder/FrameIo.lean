import AsioForwarder.WireFormat
import Mathlib.Data.List.Forall2
import Mathlib.Data.Nat.Bitwise

/-!
# Reading frames from a socket

`frame_io.hpp`: `recv_exact` collects a number of bytes from as many `recv`
calls as it takes, `recv_frame` reads a header and a body with it, and
`pack_frame` writes a frame.  What the socket delivers is a list of chunks,
one for each segment which arrives, and then the end of the stream; a `recv`
call returns at most the next chunk.
-/

namespace AsioForwarder

/-! ## `endian.hpp` and `Header::unpack_le` -/

namespace Header

def readU16Le : Bytes → UInt16
  | b₀ :: b₁ :: _ => b₀.toUInt16 ||| (b₁.toUInt16 <<< 8)
  | _ => 0

def readU32Le : Bytes → UInt32
  | b₀ :: b₁ :: b₂ :: b₃ :: _ =>
      b₀.toUInt32 ||| (b₁.toUInt32 <<< 8) ||| (b₂.toUInt32 <<< 16) |||
        (b₃.toUInt32 <<< 24)
  | _ => 0

def unpackLe (p : Bytes) : Header where
  magic := readU32Le p
  version := readU16Le (p.drop 4)
  headerLen := readU16Le (p.drop 6)
  bodyLen := readU32Le (p.drop 8)
  msgType := readU32Le (p.drop 12)
  seq := readU32Le (p.drop 16)
  reserved0 := readU32Le (p.drop 20)

theorem or_shiftLeft_eq_add (low byte shift : Nat) (hlow : low < 2 ^ shift) :
    low ||| (byte <<< shift) = low + byte * 2 ^ shift := by
  rw [Nat.shiftLeft_eq, Nat.or_comm, Nat.mul_comm byte,
    ← Nat.two_pow_add_eq_or_of_lt hlow, Nat.add_comm]

theorem toNat_shiftLeft_byte (b : UInt8) {shift : UInt32}
    (hshift : shift.toNat ≤ 24) :
    (b.toUInt32 <<< shift).toNat = b.toNat <<< shift.toNat := by
  have hb : b.toNat < 2 ^ 8 := b.toNat_lt
  rw [UInt32.toNat_shiftLeft, UInt8.toNat_toUInt32,
    Nat.mod_eq_of_lt (a := shift.toNat) (by omega), Nat.mod_eq_of_lt]
  calc b.toNat <<< shift.toNat
      = b.toNat * 2 ^ shift.toNat := Nat.shiftLeft_eq _ _
    _ < 2 ^ 8 * 2 ^ shift.toNat :=
        Nat.mul_lt_mul_of_pos_right hb (Nat.two_pow_pos _)
    _ ≤ 2 ^ 8 * 2 ^ 24 :=
        Nat.mul_le_mul_left _ (Nat.pow_le_pow_right (by decide) hshift)
    _ = 2 ^ 32 := by decide

theorem readU16Le_toNat (b₀ b₁ : UInt8) (rest : Bytes) :
    (readU16Le (b₀ :: b₁ :: rest)).toNat = b₀.toNat + b₁.toNat * 256 := by
  have h₀ := b₀.toNat_lt
  have h₁ := b₁.toNat_lt
  simp only [readU16Le, UInt16.toNat_or, UInt16.toNat_shiftLeft,
    UInt8.toNat_toUInt16]
  rw [Nat.mod_eq_of_lt (by simp [Nat.shiftLeft_eq]; omega)]
  exact or_shiftLeft_eq_add _ _ 8 (by omega)

theorem readU32Le_toNat (b₀ b₁ b₂ b₃ : UInt8) (rest : Bytes) :
    (readU32Le (b₀ :: b₁ :: b₂ :: b₃ :: rest)).toNat =
      b₀.toNat + b₁.toNat * 256 + b₂.toNat * 65536 + b₃.toNat * 16777216 := by
  have h₀ := b₀.toNat_lt
  have h₁ := b₁.toNat_lt
  have h₂ := b₂.toNat_lt
  rw [readU32Le, UInt32.toNat_or, UInt32.toNat_or, UInt32.toNat_or,
    toNat_shiftLeft_byte b₁ (by decide), toNat_shiftLeft_byte b₂ (by decide),
    toNat_shiftLeft_byte b₃ (by decide), UInt8.toNat_toUInt32]
  have hfirst : b₀.toNat ||| b₁.toNat <<< 8 = b₀.toNat + b₁.toNat * 256 :=
    or_shiftLeft_eq_add _ _ 8 (by omega)
  have hsecond : (b₀.toNat + b₁.toNat * 256) ||| b₂.toNat <<< 16 =
      b₀.toNat + b₁.toNat * 256 + b₂.toNat * 65536 :=
    or_shiftLeft_eq_add _ _ 16 (by omega)
  have hthird : (b₀.toNat + b₁.toNat * 256 + b₂.toNat * 65536) |||
      b₃.toNat <<< 24 = b₀.toNat + b₁.toNat * 256 + b₂.toNat * 65536 +
        b₃.toNat * 16777216 :=
    or_shiftLeft_eq_add _ _ 24 (by omega)
  change (b₀.toNat ||| b₁.toNat <<< 8 ||| b₂.toNat <<< 16 |||
    b₃.toNat <<< 24) = _
  rw [hfirst, hsecond, hthird]

theorem readU16Le_write (v : UInt16) (rest : Bytes) :
    readU16Le (writeU16Le v ++ rest) = v := by
  have hv := v.toNat_lt
  apply UInt16.toNat_inj.mp
  rw [writeU16Le, List.cons_append, List.cons_append, readU16Le_toNat]
  simp only [UInt16.toNat_toUInt8, UInt16.toNat_shiftRight,
    Nat.shiftRight_eq_div_pow, UInt16.reduceToNat, Nat.reduceMod]
  omega

theorem readU32Le_write (v : UInt32) (rest : Bytes) :
    readU32Le (writeU32Le v ++ rest) = v := by
  have hv := v.toNat_lt
  apply UInt32.toNat_inj.mp
  simp only [writeU32Le, List.cons_append, readU32Le_toNat]
  simp only [UInt32.toNat_toUInt8, UInt32.toNat_shiftRight,
    Nat.shiftRight_eq_div_pow, UInt32.reduceToNat, Nat.reduceMod]
  omega

theorem writeU16Le_read (p : Bytes) (hlength : 2 ≤ p.length) :
    writeU16Le (readU16Le p) = p.take 2 := by
  obtain ⟨b₀, b₁, rest, rfl⟩ : ∃ b₀ b₁ rest, p = b₀ :: b₁ :: rest := by
    match p, hlength with
    | b₀ :: b₁ :: rest, _ => exact ⟨b₀, b₁, rest, rfl⟩
  have h₀ := b₀.toNat_lt
  have h₁ := b₁.toNat_lt
  have hread := readU16Le_toNat b₀ b₁ rest
  simp only [writeU16Le, List.take_succ_cons, List.take_zero,
    List.cons.injEq, and_true, ← UInt8.toNat_inj, UInt16.toNat_toUInt8,
    UInt16.toNat_shiftRight, Nat.shiftRight_eq_div_pow, UInt16.reduceToNat,
    Nat.reduceMod, hread]
  omega

theorem writeU32Le_read (p : Bytes) (hlength : 4 ≤ p.length) :
    writeU32Le (readU32Le p) = p.take 4 := by
  obtain ⟨b₀, b₁, b₂, b₃, rest, rfl⟩ : ∃ b₀ b₁ b₂ b₃ rest,
      p = b₀ :: b₁ :: b₂ :: b₃ :: rest := by
    match p, hlength with
    | b₀ :: b₁ :: b₂ :: b₃ :: rest, _ => exact ⟨b₀, b₁, b₂, b₃, rest, rfl⟩
  have h₀ := b₀.toNat_lt
  have h₁ := b₁.toNat_lt
  have h₂ := b₂.toNat_lt
  have h₃ := b₃.toNat_lt
  have hread := readU32Le_toNat b₀ b₁ b₂ b₃ rest
  simp only [writeU32Le, List.take_succ_cons, List.take_zero,
    List.cons.injEq, and_true, ← UInt8.toNat_inj, UInt32.toNat_toUInt8,
    UInt32.toNat_shiftRight, Nat.shiftRight_eq_div_pow, UInt32.reduceToNat,
    Nat.reduceMod, hread]
  omega

theorem unpackLe_packLe (h : Header) (rest : Bytes) :
    unpackLe (h.packLe ++ rest) = h := by
  obtain ⟨magic, version, headerLen, bodyLen, msgType, seq, reserved0⟩ := h
  simp only [unpackLe, packLe, List.append_assoc, Header.mk.injEq]
  exact ⟨readU32Le_write magic _, readU16Le_write version _,
    readU16Le_write headerLen _, readU32Le_write bodyLen _,
    readU32Le_write msgType _, readU32Le_write seq _,
    readU32Le_write reserved0 _⟩

theorem take_drop_append (p : Bytes) (offset width : Nat) :
    (p.drop offset).take width ++ p.drop (offset + width) = p.drop offset := by
  rw [← List.drop_drop, List.take_append_drop]

theorem packLe_unpackLe (p : Bytes) (hlength : p.length = 24) :
    (unpackLe p).packLe = p := by
  have hlast : (p.drop 20).take 4 = p.drop 20 :=
    List.take_of_length_le (by rw [List.length_drop]; omega)
  simp only [unpackLe, packLe]
  rw [writeU32Le_read p (by omega),
    writeU16Le_read (p.drop 4) (by rw [List.length_drop]; omega),
    writeU16Le_read (p.drop 6) (by rw [List.length_drop]; omega),
    writeU32Le_read (p.drop 8) (by rw [List.length_drop]; omega),
    writeU32Le_read (p.drop 12) (by rw [List.length_drop]; omega),
    writeU32Le_read (p.drop 16) (by rw [List.length_drop]; omega),
    writeU32Le_read (p.drop 20) (by rw [List.length_drop]; omega)]
  simp only [List.append_assoc]
  rw [hlast, take_drop_append p 16 4, take_drop_append p 12 4,
    take_drop_append p 8 4, take_drop_append p 6 2, take_drop_append p 4 2,
    List.take_append_drop]

end Header

/-! ## The socket -/

/-- `recv(fd, buf, len, 0)` on the chunks still to arrive: at most `len`
bytes of the first one.  No bytes mean the end of the stream. -/
def recvSome (len : Nat) : List Bytes → Bytes × List Bytes
  | [] => ([], [])
  | chunk :: rest =>
      if chunk.length ≤ len then (chunk, rest)
      else (chunk.take len, chunk.drop len :: rest)

/-- `recv_exact`, with what is left of the stream afterwards. -/
def recvExact (len : Nat) (chunks : List Bytes) :
    Option Bytes × List Bytes :=
  if len = 0 then (some [], chunks)
  else
    match recvSome len chunks with
    | ([], rest) => (none, rest)
    | (first :: more, rest) =>
        match recvExact (len - (more.length + 1)) rest with
        | (none, rest) => (none, rest)
        | (some later, rest) => (some (first :: more ++ later), rest)
termination_by len

theorem recvExact_zero (chunks : List Bytes) :
    recvExact 0 chunks = (some [], chunks) := by
  rw [recvExact, if_pos rfl]

/-- `fwd::frame_io::ParsedFrame`. -/
structure ParsedFrame where
  header : Header
  body : Bytes
  deriving DecidableEq

def Header.valid (h : Header) : Bool :=
  h.magic = kMagic && h.version = kVersion && h.headerLen = kHeaderLen

/-- `recv_frame`. -/
def recvFrame (maxBodyLen : UInt32) (chunks : List Bytes) :
    Option ParsedFrame × List Bytes :=
  match recvExact 24 chunks with
  | (none, rest) => (none, rest)
  | (some hb, rest) =>
      let header := Header.unpackLe hb
      if !header.valid then (none, rest)
      else if header.bodyLen > maxBodyLen then (none, rest)
      else
        match recvExact header.bodyLen.toNat rest with
        | (none, rest) => (none, rest)
        | (some body, rest) => (some ⟨header, body⟩, rest)

/-- `pack_frame`. -/
def packFrame (h : Header) (body : Bytes) : Bytes :=
  { h with bodyLen := UInt32.ofNat body.length }.packLe ++ body

/-- `RelayServer::pack_wire`. -/
def packWire (msgType seq : UInt32) (body : Bytes) : Bytes :=
  ({ msgType := msgType
     seq := seq
     bodyLen := UInt32.ofNat body.length } : Header).packLe ++ body

example (w : Wire) : w.bytes = packWire w.msgType w.seq (packAll w.body) := rfl

/-! ## Reading does not depend on the chunks -/

theorem recvSome_flatten (len : Nat) (chunks : List Bytes) :
    (recvSome len chunks).1 ++ (recvSome len chunks).2.flatten =
      chunks.flatten := by
  unfold recvSome
  split
  · rfl
  · split
    · rfl
    · rw [List.flatten_cons, ← List.append_assoc, List.take_append_drop,
        List.flatten_cons]

theorem recvSome_nonempty (len : Nat) {chunks : List Bytes}
    (hchunks : ∀ chunk ∈ chunks, chunk ≠ []) :
    ∀ chunk ∈ (recvSome len chunks).2, chunk ≠ [] := by
  unfold recvSome
  split
  · exact hchunks
  · rename_i chunk rest
    split
    · exact fun other hother => hchunks other (List.mem_cons_of_mem _ hother)
    · rename_i hlong
      rw [List.forall_mem_cons]
      refine ⟨?_, fun other hother =>
        hchunks other (List.mem_cons_of_mem _ hother)⟩
      intro hempty
      rw [List.drop_eq_nil_iff] at hempty
      exact hlong hempty

theorem recvSome_eq_nil {len : Nat} {chunks : List Bytes}
    (hchunks : ∀ chunk ∈ chunks, chunk ≠ []) (hlen : len ≠ 0)
    (hnil : (recvSome len chunks).1 = []) : chunks = [] := by
  unfold recvSome at hnil
  split at hnil
  · rfl
  · rename_i chunk rest
    have hchunk : chunk ≠ [] := hchunks chunk List.mem_cons_self
    split at hnil
    · exact absurd hnil hchunk
    · rw [List.take_eq_nil_iff] at hnil
      exact absurd hnil (not_or.mpr ⟨hlen, hchunk⟩)

theorem recvSome_length_le (len : Nat) (chunks : List Bytes) :
    (recvSome len chunks).1.length ≤ len := by
  unfold recvSome
  split
  · exact Nat.zero_le _
  · split
    · assumption
    · rw [List.length_take]
      exact Nat.min_le_left _ _

/-- Reading `len` bytes of a stream: all or nothing. -/
def readExact (len : Nat) (stream : Bytes) : Option Bytes × Bytes :=
  if len ≤ stream.length then (some (stream.take len), stream.drop len)
  else (none, [])

/-- What is left of a chunked stream stands for the bytes `stream`. -/
structure Delivers (chunks : List Bytes) (stream : Bytes) : Prop where
  flatten : chunks.flatten = stream
  nonempty : ∀ chunk ∈ chunks, chunk ≠ []

/-- A result on the chunks is the result on the bytes they stand for. -/
def Reads {α : Type} (outcome : Option α × List Bytes)
    (expected : Option α × Bytes) : Prop :=
  outcome.1 = expected.1 ∧ Delivers outcome.2 expected.2

theorem readExact_append {len : Nat} {got stream : Bytes}
    (hle : got.length ≤ len) :
    readExact len (got ++ stream) =
      (((readExact (len - got.length) stream).1).map (got ++ ·),
        (readExact (len - got.length) stream).2) := by
  unfold readExact
  rw [List.length_append]
  by_cases hshort : len - got.length ≤ stream.length
  · rw [if_pos (by omega), if_pos hshort, List.take_append,
      List.take_of_length_le hle, List.drop_append,
      List.drop_of_length_le hle]
    rfl
  · rw [if_neg (by omega), if_neg hshort]
    rfl

/-- `recv_exact` reads the stream, however it is split into chunks. -/
theorem recvExact_reads (len : Nat) {chunks : List Bytes} {stream : Bytes}
    (hdelivers : Delivers chunks stream) :
    Reads (recvExact len chunks) (readExact len stream) := by
  obtain ⟨rfl, hchunks⟩ := hdelivers
  -- the induction follows the loop: one `recv` call for each iteration
  fun_induction recvExact len chunks with
  | case1 chunks => exact ⟨rfl, rfl, hchunks⟩
  | case2 len chunks hlen rest hsome =>
      have hnil := recvSome_eq_nil hchunks hlen (by rw [hsome])
      subst hnil
      cases hsome
      have hshort : ¬len ≤ ([] : Bytes).length := by simpa using hlen
      rw [readExact, List.flatten_nil, if_neg hshort]
      exact ⟨rfl, rfl, hchunks⟩
  | case3 len chunks hlen first more rest hsome rest' hrecv ih =>
      have hflatten := recvSome_flatten len chunks
      have hle := recvSome_length_le len chunks
      have hrest := recvSome_nonempty len hchunks
      rw [hsome] at hflatten hle hrest
      obtain ⟨hnone, hdelivers⟩ := ih hrest
      rw [hrecv] at hnone hdelivers
      rw [← hflatten, readExact_append hle]
      exact ⟨by rw [List.length_cons, ← hnone]; rfl, hdelivers⟩
  | case4 len chunks hlen first more rest hsome later rest' hrecv ih =>
      have hflatten := recvSome_flatten len chunks
      have hle := recvSome_length_le len chunks
      have hrest := recvSome_nonempty len hchunks
      rw [hsome] at hflatten hle hrest
      obtain ⟨hlater, hdelivers⟩ := ih hrest
      rw [hrecv] at hlater hdelivers
      rw [← hflatten, readExact_append hle]
      exact ⟨by rw [List.length_cons, ← hlater]; rfl, hdelivers⟩

/-- The bytes a successful `recv_exact` returns are those it consumed, also
when the peer sends empty segments. -/
theorem recvExact_eq_some {len : Nat} {chunks rest : List Bytes}
    {bytes : Bytes} (hrecv : recvExact len chunks = (some bytes, rest)) :
    bytes.length = len ∧ bytes ++ rest.flatten = chunks.flatten := by
  fun_induction recvExact len chunks generalizing bytes rest with
  | case1 chunks =>
      cases hrecv
      exact ⟨rfl, rfl⟩
  | case2 len chunks hlen rest' hsome => cases hrecv
  | case3 len chunks hlen first more rest' hsome rest'' hrecv' ih =>
      cases hrecv
  | case4 len chunks hlen first more rest' hsome later rest'' hrecv' ih =>
      cases hrecv
      have hflatten := recvSome_flatten len chunks
      have hle := recvSome_length_le len chunks
      rw [hsome] at hflatten hle
      obtain ⟨hlength, happend⟩ := ih hrecv'
      constructor
      · rw [List.length_append, hlength]
        rw [List.length_cons] at hle ⊢
        omega
      · rw [List.append_assoc, happend]
        exact hflatten

/-! ## Frames -/

def readFrame (maxBodyLen : UInt32) (stream : Bytes) :
    Option ParsedFrame × Bytes :=
  match readExact 24 stream with
  | (none, rest) => (none, rest)
  | (some hb, rest) =>
      let header := Header.unpackLe hb
      if !header.valid then (none, rest)
      else if header.bodyLen > maxBodyLen then (none, rest)
      else
        match readExact header.bodyLen.toNat rest with
        | (none, rest) => (none, rest)
        | (some body, rest) => (some ⟨header, body⟩, rest)

theorem Reads.cases {α : Type} {outcome : Option α × List Bytes}
    {expected : Option α × Bytes} (hreads : Reads outcome expected) :
    (∃ rest rest', outcome = (none, rest) ∧ expected = (none, rest') ∧
      Delivers rest rest') ∨
    ∃ item rest rest', outcome = (some item, rest) ∧
      expected = (some item, rest') ∧ Delivers rest rest' := by
  obtain ⟨first, rest⟩ := outcome
  obtain ⟨first', rest'⟩ := expected
  obtain ⟨hfirst, hrest⟩ := hreads
  dsimp only at hfirst hrest
  subst hfirst
  cases first with
  | none => exact .inl ⟨rest, rest', rfl, rfl, hrest⟩
  | some item => exact .inr ⟨item, rest, rest', rfl, rfl, hrest⟩

theorem recvFrame_reads (maxBodyLen : UInt32) {chunks : List Bytes}
    {stream : Bytes} (hdelivers : Delivers chunks stream) :
    Reads (recvFrame maxBodyLen chunks) (readFrame maxBodyLen stream) := by
  unfold recvFrame readFrame
  rcases (recvExact_reads 24 hdelivers).cases with
    ⟨rest, rest', hgot, hexpected, hrest⟩ |
    ⟨hb, rest, rest', hgot, hexpected, hrest⟩
  · rw [hgot, hexpected]
    exact ⟨rfl, hrest⟩
  · rw [hgot, hexpected]
    dsimp only
    split
    · exact ⟨rfl, hrest⟩
    split
    · exact ⟨rfl, hrest⟩
    rcases (recvExact_reads (Header.unpackLe hb).bodyLen.toNat hrest).cases
      with ⟨last, last', hgot', hexpected', hlast⟩ |
        ⟨body, last, last', hgot', hexpected', hlast⟩
    · rw [hgot', hexpected']
      exact ⟨rfl, hlast⟩
    · rw [hgot', hexpected']
      exact ⟨rfl, hlast⟩

/-- A frame as its sender describes it. -/
structure FrameSpec where
  msgType : UInt32
  seq : UInt32
  body : Bytes
  deriving DecidableEq

namespace FrameSpec

def parsed (f : FrameSpec) : ParsedFrame where
  header :=
    { msgType := f.msgType
      seq := f.seq
      bodyLen := UInt32.ofNat f.body.length }
  body := f.body

/-- The bytes are an encoding of the frame. -/
def EncodedAs (f : FrameSpec) (wire : Bytes) : Prop :=
  wire = packFrame { msgType := f.msgType, seq := f.seq } f.body ∨
    wire = packWire f.msgType f.seq f.body

theorem EncodedAs.eq {f : FrameSpec} {wire : Bytes}
    (hencoded : f.EncodedAs wire) :
    wire = f.parsed.header.packLe ++ f.body := by
  rcases hencoded with hframe | hwire
  · exact hframe
  · exact hwire

end FrameSpec

theorem readExact_of_length {len : Nat} {got rest : Bytes}
    (hlength : got.length = len) :
    readExact len (got ++ rest) = (some got, rest) := by
  subst hlength
  rw [readExact_append (Nat.le_refl _), Nat.sub_self]
  simp [readExact]

theorem readFrame_encoded {maxBodyLen : UInt32} {f : FrameSpec}
    {wire : Bytes} (hencoded : f.EncodedAs wire)
    (hfit : f.body.length ≤ maxBodyLen.toNat) (rest : Bytes) :
    readFrame maxBodyLen (wire ++ rest) = (some f.parsed, rest) := by
  have hbound := maxBodyLen.toNat_lt
  have hlength : f.parsed.header.bodyLen.toNat = f.body.length := by
    rw [FrameSpec.parsed, UInt32.toNat_ofNat']
    exact Nat.mod_eq_of_lt (by omega)
  have hunpack : Header.unpackLe f.parsed.header.packLe =
      f.parsed.header := by
    have hrest := Header.unpackLe_packLe f.parsed.header []
    rwa [List.append_nil] at hrest
  have hvalid : f.parsed.header.valid = true := rfl
  have hsmall : ¬f.parsed.header.bodyLen > maxBodyLen := by
    rw [gt_iff_lt, UInt32.lt_iff_toNat_lt, hlength]
    omega
  unfold readFrame
  rw [hencoded.eq, List.append_assoc,
    readExact_of_length (Header.packLe_length _)]
  dsimp only
  rw [hunpack, hvalid, Bool.not_true, if_neg Bool.false_ne_true,
    if_neg hsmall, readExact_of_length hlength.symm]
  rfl

/-! ## Streams of frames -/

/-- Call `read` up to `calls` times, until it fails. -/
def readAll {σ α : Type} (read : σ → Option α × σ) : Nat → σ → List α × σ
  | 0, stream => ([], stream)
  | calls + 1, stream =>
      match read stream with
      | (none, rest) => ([], rest)
      | (some item, rest) =>
          (item :: (readAll read calls rest).1, (readAll read calls rest).2)

/-- Two readers which stay in step return the same items: `related` holds
between successful calls, `ended` after the call which fails. -/
theorem readAll_related {σ τ α : Type} {first : σ → Option α × σ}
    {second : τ → Option α × τ} (related ended : σ → τ → Prop)
    (hended : ∀ state state', related state state' → ended state state')
    (hcall : ∀ state state', related state state' →
      (∃ rest rest', first state = (none, rest) ∧
        second state' = (none, rest') ∧ ended rest rest') ∨
      ∃ item rest rest', first state = (some item, rest) ∧
        second state' = (some item, rest') ∧ related rest rest')
    (calls : Nat) {state : σ} {state' : τ}
    (hrelated : related state state') :
    (readAll first calls state).1 = (readAll second calls state').1 ∧
      ended (readAll first calls state).2
        (readAll second calls state').2 := by
  induction calls generalizing state state' with
  | zero => exact ⟨rfl, hended state state' hrelated⟩
  | succ calls ih =>
      unfold readAll
      rcases hcall state state' hrelated with
        ⟨rest, rest', hfirst, hsecond, hrest⟩ |
        ⟨item, rest, rest', hfirst, hsecond, hrest⟩
      · rw [hfirst, hsecond]
        exact ⟨rfl, hrest⟩
      · rw [hfirst, hsecond]
        obtain ⟨hitems, hlast⟩ := ih hrest
        exact ⟨congrArg (item :: ·) hitems, hlast⟩

theorem readAll_recvFrame (maxBodyLen : UInt32) (calls : Nat)
    {chunks : List Bytes} {stream : Bytes}
    (hdelivers : Delivers chunks stream) :
    (readAll (recvFrame maxBodyLen) calls chunks).1 =
        (readAll (readFrame maxBodyLen) calls stream).1 ∧
      Delivers (readAll (recvFrame maxBodyLen) calls chunks).2
        (readAll (readFrame maxBodyLen) calls stream).2 :=
  readAll_related Delivers Delivers (fun _ _ hsame => hsame)
    (fun _ _ hsame => (recvFrame_reads maxBodyLen hsame).cases) calls hdelivers

theorem Delivers.eq_nil {chunks : List Bytes}
    (hdelivers : Delivers chunks []) : chunks = [] := by
  cases chunks with
  | nil => rfl
  | cons chunk rest =>
      have hchunk := hdelivers.nonempty chunk List.mem_cons_self
      have hflatten := hdelivers.flatten
      rw [List.flatten_cons, List.append_eq_nil_iff] at hflatten
      exact absurd hflatten.1 hchunk

theorem readFrame_nil (maxBodyLen : UInt32) :
    readFrame maxBodyLen [] = (none, []) := rfl

theorem readAll_encoded {maxBodyLen : UInt32} {frames : List FrameSpec}
    {wires : List Bytes}
    (hencoded : List.Forall₂ FrameSpec.EncodedAs frames wires)
    (hfit : ∀ f ∈ frames, f.body.length ≤ maxBodyLen.toNat)
    {calls : Nat} (hcalls : frames.length < calls) :
    readAll (readFrame maxBodyLen) calls wires.flatten =
      (frames.map FrameSpec.parsed, []) := by
  induction hencoded generalizing calls with
  | nil =>
      obtain ⟨calls, rfl⟩ := Nat.exists_eq_succ_of_ne_zero
        (Nat.ne_of_gt (Nat.zero_lt_of_lt hcalls))
      rw [readAll, List.flatten_nil, readFrame_nil]
      rfl
  | @cons f wire frames wires hfirst _ ih =>
      obtain ⟨calls, rfl⟩ := Nat.exists_eq_succ_of_ne_zero
        (Nat.ne_of_gt (Nat.zero_lt_of_lt hcalls))
      rw [List.forall_mem_cons] at hfit
      rw [readAll, List.flatten_cons, readFrame_encoded hfirst hfit.1]
      dsimp only
      rw [ih hfit.2 (Nat.lt_of_succ_lt_succ hcalls)]
      rfl

theorem Header.packFrame_of_length {h : Header} {body : Bytes}
    (hlength : body.length = h.bodyLen.toNat) :
    packFrame h body = h.packLe ++ body := by
  rw [packFrame, hlength, UInt32.ofNat_toNat]

theorem packFrame_of_recvFrame {maxBodyLen : UInt32}
    {chunks rest : List Bytes} {f : ParsedFrame}
    (hrecv : recvFrame maxBodyLen chunks = (some f, rest)) :
    packFrame f.header f.body ++ rest.flatten = chunks.flatten := by
  unfold recvFrame at hrecv
  split at hrecv
  · cases hrecv
  · rename_i hb middle hheader
    obtain ⟨hlength, hbytes⟩ := recvExact_eq_some hheader
    dsimp only at hrecv
    split at hrecv
    · cases hrecv
    split at hrecv
    · cases hrecv
    split at hrecv
    · cases hrecv
    · rename_i body last hbody
      cases hrecv
      obtain ⟨hlength', hbytes'⟩ := recvExact_eq_some hbody
      rw [Header.packFrame_of_length hlength',
        Header.packLe_unpackLe hb hlength, List.append_assoc, hbytes', hbytes]

/-- The frame codec: a stream of encoded frames is decoded into the frames,
however it is split, and then ends; and a frame which is decoded encodes to
the bytes it was read from. -/
theorem recvFrame_codec (maxBodyLen : UInt32) :
    (∀ (frames : List FrameSpec) (wires chunks : List Bytes),
      (∀ f ∈ frames, f.body.length ≤ maxBodyLen.toNat) →
      List.Forall₂ FrameSpec.EncodedAs frames wires →
      (∀ chunk ∈ chunks, chunk ≠ []) → chunks.flatten = wires.flatten →
      ∀ calls, frames.length < calls →
        readAll (recvFrame maxBodyLen) calls chunks =
          (frames.map FrameSpec.parsed, [])) ∧
    (∀ (chunks rest : List Bytes) (f : ParsedFrame),
      recvFrame maxBodyLen chunks = (some f, rest) →
      packFrame f.header f.body ++ rest.flatten = chunks.flatten) := by
  constructor
  · intro frames wires chunks hfit hencoded hchunks hflatten calls hcalls
    obtain ⟨hframes, hrest⟩ :=
      readAll_recvFrame maxBodyLen calls ⟨hflatten, hchunks⟩
    rw [readAll_encoded hencoded hfit hcalls] at hframes hrest
    exact Prod.ext hframes hrest.eq_nil
  · intro chunks rest f
    exact packFrame_of_recvFrame

theorem recvFrame_codec_two_frames :
    readAll (recvFrame 16) 3
        [(packFrame { msgType := 4, seq := 7 } [1, 0, 255] ++
            packWire 2 8 []).take 1,
          ((packFrame { msgType := 4, seq := 7 } [1, 0, 255] ++
            packWire 2 8 []).drop 1).take 28,
          (packFrame { msgType := 4, seq := 7 } [1, 0, 255] ++
            packWire 2 8 []).drop 29] =
      ([⟨{ msgType := 4, seq := 7, bodyLen := 3 }, [1, 0, 255]⟩,
        ⟨{ msgType := 2, seq := 8 }, []⟩], []) :=
  (recvFrame_codec 16).1 [⟨4, 7, [1, 0, 255]⟩, ⟨2, 8, []⟩]
    [packFrame { msgType := 4, seq := 7 } [1, 0, 255], packWire 2 8 []] _
    (by decide)
    (.cons (.inl rfl) (.cons (.inr rfl) .nil)) (by decide) (by decide) 3
    (by decide)

end AsioForwarder
