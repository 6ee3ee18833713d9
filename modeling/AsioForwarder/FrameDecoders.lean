import AsioForwarder.FrameIo
import AsioForwarder.SdkEvent

/-!
# Three decoders of one format

`frame_io::recv_frame`, `recv_frame` of the Python tools and
`RelayClient::recv` of the SDK read frames from a socket.  The first two test
magic, version and header length before they read a body.  The SDK takes the
body length of any header, and accepts a frame only if it can make an event
of it.  The module says on which streams all three accept the same frames and
stop at the same byte.
-/

namespace AsioForwarder

/-- What the decoders are compared by. -/
def ParsedFrame.spec (f : ParsedFrame) : FrameSpec where
  msgType := f.header.msgType
  seq := f.header.seq
  body := f.body

namespace ForwarderWire

/-- `recv_all` of `forwarder_wire.py`, the same loop as `recv_exact`: an
empty result of `sock.recv` raises `EOFError`. -/
def recvAll (n : Nat) (chunks : List Bytes) : Option Bytes × List Bytes :=
  recvExact n chunks

/-- `recv_frame` of `forwarder_wire.py`; `none` are its exceptions.
`struct.unpack` with the format `<IHHIIII` is `unpack_le`. -/
def recvFrame (chunks : List Bytes) : Option ParsedFrame × List Bytes :=
  match recvAll 24 chunks with
  | (none, rest) => (none, rest)
  | (some hb, rest) =>
      let h := Header.unpackLe hb
      if h.magic ≠ Header.kMagic ∨ h.version ≠ Header.kVersion ∨
          h.headerLen ≠ Header.kHeaderLen then (none, rest)
      else if h.bodyLen ≠ 0 then
        match recvAll h.bodyLen.toNat rest with
        | (none, rest) => (none, rest)
        | (some body, rest) => (some ⟨h, body⟩, rest)
      else (some ⟨h, []⟩, rest)

end ForwarderWire

namespace RelayClient

/-- The socket of a `RelayClient`. -/
structure Socket where
  isOpen : Bool
  chunks : List Bytes

def knownType (msgType : UInt32) : Bool :=
  msgType = kMsgDeliver || msgType = kMsgKick || msgType = kMsgServerReply

/-- `RelayClient::recv` on the bytes of the socket: the frame it accepts with
its event.  An exception closes the socket, a frame of unknown type does
not. -/
def recvFrom (unpack : Bytes → Option Obj) (sock : Socket) :
    Option (ParsedFrame × SdkEvent) × Socket :=
  if !sock.isOpen then (none, sock)
  else
    match recvExact 24 sock.chunks with
    | (none, rest) => (none, ⟨false, rest⟩)
    | (some hb, rest) =>
        let h := Header.unpackLe hb
        match recvExact h.bodyLen.toNat rest with
        | (none, rest) => (none, ⟨false, rest⟩)
        | (some body, rest) =>
            if knownType h.msgType then
              match eventOf h.msgType h.seq (unpack body) with
              | none => (none, ⟨false, rest⟩)
              | some event => (some (⟨h, body⟩, event), ⟨true, rest⟩)
            else (none, ⟨true, rest⟩)

/-- An entry of a KICK body whose `convert` throws. -/
def reasonConverts : ObjMap → Bool
  | [] => true
  | (.str key, value) :: rest =>
      (if key = lit "reason" then (convertStr value).isSome else true) &&
        reasonConverts rest
  | _ :: rest => reasonConverts rest

def bodyReadable (unpack : Bytes → Option Obj) (msgType : UInt32)
    (body : Bytes) : Bool :=
  match unpack body with
  | none => false
  | some (.map entries) =>
      if msgType = kMsgDeliver then deliverConverts entries
      else if msgType = kMsgKick then reasonConverts entries
      else msgType = kMsgServerReply
  | some _ => knownType msgType

theorem kickReason_isSome (entries : ObjMap) (reason : Bytes) :
    (kickReason entries reason).isSome = reasonConverts entries := by
  induction entries generalizing reason with
  | nil => rfl
  | cons entry rest ih =>
      obtain ⟨key, value⟩ := entry
      cases key with
      | str key =>
          rw [kickReason, reasonConverts]
          split
          · cases convertStr value with
            | none => rfl
            | some reason => exact ih reason
          · exact ih reason
      | _ => exact ih reason

theorem eventOf_isSome (unpack : Bytes → Option Obj) (msgType seq : UInt32)
    (body : Bytes) :
    (eventOf msgType seq (unpack body)).isSome =
      bodyReadable unpack msgType body := by
  unfold eventOf bodyReadable knownType
  cases unpack body with
  | none => simp
  | some obj =>
      cases obj with
      | map entries =>
          dsimp only
          split
          · rw [Option.isSome_map, deliverFields_isSome]
          split
          · rw [Option.isSome_map, kickReason_isSome]
          split
          · rename_i hreply
            simp [hreply]
          · rename_i hreply
            simp [hreply]
      | _ =>
          dsimp only
          split
          · rename_i hdeliver
            simp [hdeliver]
          split
          · rename_i hkick
            simp [hkick]
          split
          · rename_i hreply
            simp [hreply]
          · simp_all

theorem knownType_of_readable {unpack : Bytes → Option Obj}
    {msgType : UInt32} {body : Bytes}
    (hreadable : bodyReadable unpack msgType body = true) :
    knownType msgType = true := by
  unfold bodyReadable at hreadable
  split at hreadable
  · cases hreadable
  · split at hreadable
    · rename_i hdeliver
      simp [knownType, hdeliver]
    split at hreadable
    · rename_i hkick
      simp [knownType, hkick]
    · simp [knownType, of_decide_eq_true hreadable]
  · exact hreadable

def readEvent (unpack : Bytes → Option Obj) (stream : Bytes) :
    Option (ParsedFrame × SdkEvent) × Bytes :=
  match readExact 24 stream with
  | (none, rest) => (none, rest)
  | (some hb, rest) =>
      let h := Header.unpackLe hb
      match readExact h.bodyLen.toNat rest with
      | (none, rest) => (none, rest)
      | (some body, rest) =>
          ((eventOf h.msgType h.seq (unpack body)).map
            (fun event => (⟨h, body⟩, event)), rest)

/-- An open socket on which the stream is still to arrive. -/
def Streams (sock : Socket) (stream : Bytes) : Prop :=
  sock.isOpen = true ∧ Delivers sock.chunks stream

theorem recvFrom_reads (unpack : Bytes → Option Obj) {sock : Socket}
    {stream : Bytes} (hstreams : Streams sock stream) :
    (∃ rest rest', recvFrom unpack sock = (none, rest) ∧
      readEvent unpack stream = (none, rest') ∧
      Delivers rest.chunks rest') ∨
    ∃ item rest rest', recvFrom unpack sock = (some item, rest) ∧
      readEvent unpack stream = (some item, rest') ∧ Streams rest rest' := by
  obtain ⟨hopen, hdelivers⟩ := hstreams
  unfold recvFrom readEvent
  rw [hopen, Bool.not_true, if_neg Bool.false_ne_true]
  rcases (recvExact_reads 24 hdelivers).cases with
    ⟨rest, rest', hgot, hexpected, hrest⟩ |
    ⟨hb, rest, rest', hgot, hexpected, hrest⟩
  · rw [hgot, hexpected]
    exact .inl ⟨_, _, rfl, rfl, hrest⟩
  rw [hgot, hexpected]
  dsimp only
  rcases (recvExact_reads (Header.unpackLe hb).bodyLen.toNat hrest).cases
    with ⟨last, last', hgot', hexpected', hlast⟩ |
      ⟨body, last, last', hgot', hexpected', hlast⟩
  · rw [hgot', hexpected']
    exact .inl ⟨_, _, rfl, rfl, hlast⟩
  rw [hgot', hexpected']
  dsimp only
  have hreadable := eventOf_isSome unpack (Header.unpackLe hb).msgType
    (Header.unpackLe hb).seq body
  cases hevent : eventOf (Header.unpackLe hb).msgType
      (Header.unpackLe hb).seq (unpack body) with
  | none =>
      left
      split
      · exact ⟨_, _, rfl, rfl, hlast⟩
      · exact ⟨_, _, rfl, rfl, hlast⟩
  | some event =>
      rw [hevent] at hreadable
      rw [if_pos (knownType_of_readable hreadable.symm)]
      exact .inr ⟨_, _, _, rfl, rfl, rfl, hlast⟩

theorem readAll_recvFrom (unpack : Bytes → Option Obj) (calls : Nat)
    {sock : Socket} {stream : Bytes} (hstreams : Streams sock stream) :
    (readAll (recvFrom unpack) calls sock).1 =
        (readAll (readEvent unpack) calls stream).1 ∧
      Delivers (readAll (recvFrom unpack) calls sock).2.chunks
        (readAll (readEvent unpack) calls stream).2 :=
  readAll_related Streams (fun sock stream => Delivers sock.chunks stream)
    (fun _ _ hsame => hsame.2) (fun _ _ => recvFrom_reads unpack) calls
    hstreams

end RelayClient

/-! ## `frame_io` and Python -/

/-- The limit at which `recv_frame` refuses no body. -/
def noLimit : UInt32 := 4294967295

theorem le_noLimit (n : UInt32) : ¬n > noLimit := by
  rw [gt_iff_lt, UInt32.lt_iff_toNat_lt]
  have hlt := n.toNat_lt
  change ¬4294967295 < n.toNat
  omega

theorem Header.valid_eq_false {h : Header} :
    h.valid = false ↔ h.magic ≠ kMagic ∨ h.version ≠ kVersion ∨
      h.headerLen ≠ kHeaderLen := by
  simp only [Header.valid, Bool.and_eq_false_iff, decide_eq_false_iff_not,
    or_assoc]

theorem ForwarderWire.recvFrame_eq (chunks : List Bytes) :
    ForwarderWire.recvFrame chunks =
      AsioForwarder.recvFrame noLimit chunks := by
  unfold ForwarderWire.recvFrame AsioForwarder.recvFrame
    ForwarderWire.recvAll
  obtain ⟨got, rest⟩ := recvExact 24 chunks
  cases got with
  | none => rfl
  | some hb =>
    dsimp only
    rw [if_neg (le_noLimit _)]
    cases hvalid : (Header.unpackLe hb).valid with
    | false =>
        rw [if_pos (Header.valid_eq_false.mp hvalid), Bool.not_false,
          if_pos rfl]
    | true =>
        have hheader : ¬((Header.unpackLe hb).magic ≠ Header.kMagic ∨
            (Header.unpackLe hb).version ≠ Header.kVersion ∨
            (Header.unpackLe hb).headerLen ≠ Header.kHeaderLen) := by
          rw [← Header.valid_eq_false, hvalid]
          exact Bool.noConfusion
        rw [if_neg hheader, Bool.not_true, if_neg Bool.false_ne_true]
        split
        · rfl
        · rename_i hzero
          rw [not_not] at hzero
          rw [hzero, UInt32.toNat_zero, recvExact_zero]

/-! ## Where the SDK agrees -/

/-- All three decoders accept the same frames and stop at the same byte,
after any number of calls. -/
def DecodersAgree (unpack : Bytes → Option Obj) (chunks : List Bytes) :
    Prop :=
  ∀ calls : Nat,
    let io := readAll (recvFrame noLimit) calls chunks
    let py := readAll ForwarderWire.recvFrame calls chunks
    let sdk := readAll (RelayClient.recvFrom unpack) calls ⟨true, chunks⟩
    py.1.map ParsedFrame.spec = io.1.map ParsedFrame.spec ∧
      py.2.flatten = io.2.flatten ∧
      sdk.1.map (fun item => item.1.spec) = io.1.map ParsedFrame.spec ∧
      sdk.2.chunks.flatten = io.2.flatten

/-- The streams on which the SDK agrees with the other two.  A header which
fails the test is followed by nothing the SDK would take for its body, and
every complete frame has one of the three types and a readable body. -/
inductive Agreeable (unpack : Bytes → Option Obj) : Bytes → Prop where
  | short (stream : Bytes) (hshort : stream.length < 24) :
      Agreeable unpack stream
  | foreign (hb rest : Bytes) (hlength : hb.length = 24)
      (hinvalid : (Header.unpackLe hb).valid = false)
      (hbody : (Header.unpackLe hb).bodyLen = 0 ∨ rest = []) :
      Agreeable unpack (hb ++ rest)
  | cut (hb rest : Bytes) (hlength : hb.length = 24)
      (hvalid : (Header.unpackLe hb).valid = true)
      (hcut : rest.length < (Header.unpackLe hb).bodyLen.toNat) :
      Agreeable unpack (hb ++ rest)
  | frame (hb body rest : Bytes) (hlength : hb.length = 24)
      (hvalid : (Header.unpackLe hb).valid = true)
      (hbody : body.length = (Header.unpackLe hb).bodyLen.toNat)
      (hreadable : RelayClient.bodyReadable unpack
        (Header.unpackLe hb).msgType body = true)
      (hrest : Agreeable unpack rest) :
      Agreeable unpack (hb ++ (body ++ rest))

def AgreeOn (unpack : Bytes → Option Obj) (stream : Bytes) : Prop :=
  ∀ calls,
    (readAll (RelayClient.readEvent unpack) calls stream).1.map
        (fun item => item.1.spec) =
      (readAll (readFrame noLimit) calls stream).1.map ParsedFrame.spec ∧
    (readAll (RelayClient.readEvent unpack) calls stream).2 =
      (readAll (readFrame noLimit) calls stream).2

section Streams

variable {unpack : Bytes → Option Obj} {hb body rest : Bytes}

theorem readExact_short {len : Nat} {stream : Bytes}
    (hshort : stream.length < len) : readExact len stream = (none, []) := by
  rw [readExact, if_neg (by omega)]

theorem readFrame_short {stream : Bytes} (hshort : stream.length < 24) :
    readFrame noLimit stream = (none, []) := by
  rw [readFrame, readExact_short hshort]

theorem readEvent_short {stream : Bytes} (hshort : stream.length < 24) :
    RelayClient.readEvent unpack stream = (none, []) := by
  rw [RelayClient.readEvent, readExact_short hshort]

theorem readFrame_header (hlength : hb.length = 24) :
    readFrame noLimit (hb ++ rest) =
      if (Header.unpackLe hb).valid then
        match readExact (Header.unpackLe hb).bodyLen.toNat rest with
        | (none, rest) => (none, rest)
        | (some body, rest) => (some ⟨Header.unpackLe hb, body⟩, rest)
      else (none, rest) := by
  rw [readFrame, readExact_of_length hlength]
  dsimp only
  rw [if_neg (le_noLimit _)]
  cases (Header.unpackLe hb).valid with
  | false => rfl
  | true => rfl

theorem readEvent_header (unpack : Bytes → Option Obj) (rest : Bytes)
    (hlength : hb.length = 24) :
    RelayClient.readEvent unpack (hb ++ rest) =
      match readExact (Header.unpackLe hb).bodyLen.toNat rest with
      | (none, rest) => (none, rest)
      | (some body, rest) =>
          ((RelayClient.eventOf (Header.unpackLe hb).msgType
            (Header.unpackLe hb).seq (unpack body)).map
            (fun event => (⟨Header.unpackLe hb, body⟩, event)), rest) := by
  rw [RelayClient.readEvent, readExact_of_length hlength]

theorem agreeOn_of_none {stream left left' : Bytes}
    (hio : readFrame noLimit stream = (none, left))
    (hsdk : RelayClient.readEvent unpack stream = (none, left')) :
    AgreeOn unpack stream ↔ left' = left := by
  constructor
  · intro hagree
    have hone := (hagree 1).2
    rwa [readAll, readAll, hio, hsdk] at hone
  · intro hsame calls
    cases calls with
    | zero => exact ⟨rfl, rfl⟩
    | succ calls =>
        rw [readAll, readAll, hio, hsdk]
        exact ⟨rfl, hsame⟩

theorem agreeOn_of_some {stream : Bytes} {f : ParsedFrame} {event : SdkEvent}
    (hio : readFrame noLimit stream = (some f, rest))
    (hsdk : RelayClient.readEvent unpack stream = (some (f, event), rest)) :
    AgreeOn unpack stream ↔ AgreeOn unpack rest := by
  constructor
  · intro hagree calls
    obtain ⟨hframes, hleft⟩ := hagree (calls + 1)
    rw [readAll, readAll, hio, hsdk] at hframes hleft
    exact ⟨(List.cons.inj hframes).2, hleft⟩
  · intro hagree calls
    cases calls with
    | zero => exact ⟨rfl, rfl⟩
    | succ calls =>
        obtain ⟨hframes, hleft⟩ := hagree calls
        rw [readAll, readAll, hio, hsdk]
        exact ⟨congrArg (f.spec :: ·) hframes, hleft⟩

theorem eventOf_eq_none {h : Header}
    (hreadable : RelayClient.bodyReadable unpack h.msgType body = false) :
    RelayClient.eventOf h.msgType h.seq (unpack body) = none := by
  rw [← RelayClient.eventOf_isSome unpack h.msgType h.seq,
    Option.isSome_eq_false_iff, Option.isNone_iff_eq_none] at hreadable
  exact hreadable

theorem bodyReadable_nil (hempty : unpack [] = none) (msgType : UInt32) :
    RelayClient.bodyReadable unpack msgType [] = false := by
  rw [RelayClient.bodyReadable, hempty]

theorem agreeOn_foreign (hempty : unpack [] = none)
    (hlength : hb.length = 24)
    (hinvalid : (Header.unpackLe hb).valid = false) :
    AgreeOn unpack (hb ++ rest) ↔
      ((Header.unpackLe hb).bodyLen = 0 ∨ rest = []) := by
  have hio : readFrame noLimit (hb ++ rest) = (none, rest) := by
    rw [readFrame_header hlength, hinvalid, if_neg Bool.false_ne_true]
  have hsdk := readEvent_header unpack rest hlength
  generalize hcount : (Header.unpackLe hb).bodyLen.toNat = count at hsdk
  have hzero : (Header.unpackLe hb).bodyLen = 0 ↔ count = 0 := by
    rw [← hcount, ← UInt32.toNat_inj, UInt32.toNat_zero]
  rw [hzero]
  by_cases hshort : rest.length < count
  · rw [readExact_short hshort] at hsdk
    rw [agreeOn_of_none hio hsdk]
    constructor
    · intro hsame
      exact .inr hsame.symm
    · rintro (hnone | hnil)
      · omega
      · exact hnil.symm
  · have hread : readExact count rest =
        (some (rest.take count), rest.drop count) := by
      rw [readExact, if_pos (by omega)]
    rw [hread] at hsdk
    dsimp only at hsdk
    cases hreadable : RelayClient.bodyReadable unpack
        (Header.unpackLe hb).msgType (rest.take count) with
    | false =>
        rw [eventOf_eq_none hreadable] at hsdk
        rw [agreeOn_of_none hio hsdk]
        constructor
        · intro hsame
          have hlengths := congrArg List.length hsame
          rw [List.length_drop] at hlengths
          by_cases hnil : rest = []
          · exact .inr hnil
          · have hpos := List.length_pos_iff.mpr hnil
            omega
        · rintro (hnone | hnil)
          · rw [hnone, List.drop_zero]
          · rw [hnil, List.drop_nil]
    | true =>
        -- the SDK accepts a frame which the others reject
        have hbody : rest.take count ≠ [] := by
          intro hnil
          rw [hnil, bodyReadable_nil hempty] at hreadable
          cases hreadable
        rw [← RelayClient.eventOf_isSome unpack _ (Header.unpackLe hb).seq,
          Option.isSome_iff_exists] at hreadable
        obtain ⟨event, hevent⟩ := hreadable
        rw [hevent] at hsdk
        constructor
        · intro hagree
          have hone := (hagree 1).1
          rw [readAll, readAll, hio, hsdk] at hone
          cases hone
        · rintro (hnone | hnil)
          · rw [hnone, List.take_zero] at hbody
            exact absurd rfl hbody
          · rw [hnil, List.take_nil] at hbody
            exact absurd rfl hbody

theorem agreeOn_valid (hlength : hb.length = 24)
    (hvalid : (Header.unpackLe hb).valid = true)
    (hbody : body.length = (Header.unpackLe hb).bodyLen.toNat) :
    AgreeOn unpack (hb ++ (body ++ rest)) ↔
      RelayClient.bodyReadable unpack (Header.unpackLe hb).msgType body =
        true ∧ AgreeOn unpack rest := by
  have hio : readFrame noLimit (hb ++ (body ++ rest)) =
      (some ⟨Header.unpackLe hb, body⟩, rest) := by
    rw [readFrame_header hlength, hvalid, if_pos rfl,
      readExact_of_length hbody]
  have hsdk : RelayClient.readEvent unpack (hb ++ (body ++ rest)) =
      ((RelayClient.eventOf (Header.unpackLe hb).msgType
        (Header.unpackLe hb).seq (unpack body)).map
        (fun event => (⟨Header.unpackLe hb, body⟩, event)), rest) := by
    rw [readEvent_header _ _ hlength, readExact_of_length hbody]
  cases hreadable : RelayClient.bodyReadable unpack
      (Header.unpackLe hb).msgType body with
  | false =>
      rw [eventOf_eq_none hreadable] at hsdk
      -- one call: `recv_frame` has a frame and the SDK has none
      refine ⟨fun hagree => ?_, fun hfalse => absurd hfalse.1 (by decide)⟩
      have hone := (hagree 1).1
      rw [readAll, readAll, hio, hsdk] at hone
      cases hone
  | true =>
      rw [← RelayClient.eventOf_isSome unpack _ (Header.unpackLe hb).seq,
        Option.isSome_iff_exists] at hreadable
      obtain ⟨event, hevent⟩ := hreadable
      rw [hevent] at hsdk
      rw [agreeOn_of_some hio hsdk]
      exact ⟨fun hagree => ⟨rfl, hagree⟩, fun hboth => hboth.2⟩

theorem agreeOn_cut (hlength : hb.length = 24)
    (hvalid : (Header.unpackLe hb).valid = true)
    (hcut : rest.length < (Header.unpackLe hb).bodyLen.toNat) :
    AgreeOn unpack (hb ++ rest) := by
  have hio : readFrame noLimit (hb ++ rest) = (none, []) := by
    rw [readFrame_header hlength, hvalid, if_pos rfl, readExact_short hcut]
  have hsdk : RelayClient.readEvent unpack (hb ++ rest) = (none, []) := by
    rw [readEvent_header _ _ hlength, readExact_short hcut]
  exact (agreeOn_of_none hio hsdk).mpr rfl

theorem agreeOn_of_agreeable (hempty : unpack [] = none) {stream : Bytes}
    (hagreeable : Agreeable unpack stream) : AgreeOn unpack stream := by
  induction hagreeable with
  | short stream hshort =>
      exact (agreeOn_of_none (readFrame_short hshort)
        (readEvent_short hshort)).mpr rfl
  | foreign hb rest hlength hinvalid hbody =>
      exact (agreeOn_foreign hempty hlength hinvalid).mpr hbody
  | cut hb rest hlength hvalid hcut => exact agreeOn_cut hlength hvalid hcut
  | frame hb body rest hlength hvalid hbody hreadable hrest ih =>
      exact (agreeOn_valid hlength hvalid hbody).mpr ⟨hreadable, ih⟩

theorem agreeable_of_agreeOn (hempty : unpack [] = none) (stream : Bytes)
    (hagree : AgreeOn unpack stream) : Agreeable unpack stream := by
  -- each accepted frame shortens the stream
  induction hlen : stream.length using Nat.strong_induction_on
    generalizing stream with
  | _ len ih =>
      by_cases hshort : stream.length < 24
      · exact .short stream hshort
      have hsplit := List.take_append_drop 24 stream
      have hlength : (stream.take 24).length = 24 := by
        rw [List.length_take]
        omega
      generalize stream.take 24 = hb at hsplit hlength
      generalize stream.drop 24 = rest at hsplit
      subst hsplit
      cases hvalid : (Header.unpackLe hb).valid with
      | false =>
          exact .foreign hb rest hlength hvalid
            ((agreeOn_foreign hempty hlength hvalid).mp hagree)
      | true =>
          by_cases hcut : rest.length < (Header.unpackLe hb).bodyLen.toNat
          · exact .cut hb rest hlength hvalid hcut
          have hbody : (rest.take (Header.unpackLe hb).bodyLen.toNat).length =
              (Header.unpackLe hb).bodyLen.toNat := by
            rw [List.length_take]
            omega
          have hsplit := List.take_append_drop
            (Header.unpackLe hb).bodyLen.toNat rest
          rw [← hsplit] at hagree ⊢
          obtain ⟨hreadable, hlater⟩ :=
            (agreeOn_valid hlength hvalid hbody).mp hagree
          refine .frame hb _ _ hlength hvalid hbody hreadable
            (ih _ ?_ _ hlater rfl)
          rw [← hlen, List.length_append, List.length_drop]
          omega

end Streams

/-- `frame_io` and Python are compared once and for all, and none of the
decoders depends on the chunks. -/
theorem decodersAgree_iff_agreeOn (unpack : Bytes → Option Obj)
    {chunks : List Bytes} (hchunks : ∀ chunk ∈ chunks, chunk ≠ []) :
    DecodersAgree unpack chunks ↔ AgreeOn unpack chunks.flatten := by
  have hpy : ForwarderWire.recvFrame = recvFrame noLimit :=
    funext ForwarderWire.recvFrame_eq
  have hstreams : RelayClient.Streams ⟨true, chunks⟩ chunks.flatten :=
    ⟨rfl, rfl, hchunks⟩
  refine forall_congr' (fun calls => ?_)
  obtain ⟨hio, hio'⟩ := readAll_recvFrame noLimit calls hstreams.2
  obtain ⟨hsdk, hsdk'⟩ :=
    RelayClient.readAll_recvFrom unpack calls hstreams
  dsimp only at hio hio' ⊢
  rw [hpy, hio, hio'.flatten, hsdk, hsdk'.flatten]
  exact ⟨fun hall => ⟨hall.2.2.1, hall.2.2.2⟩,
    fun hboth => ⟨rfl, rfl, hboth.1, hboth.2⟩⟩

/-- The three decoders accept the same frames and stop at the same byte of a
stream exactly if every header which fails the test is followed by nothing
the SDK takes for its body, and every frame is of a type the SDK knows and
has a body it can read.  That `unpack` refuses an empty buffer is all that is
used of it. -/
theorem decodersAgree_iff (unpack : Bytes → Option Obj)
    (hempty : unpack [] = none) (chunks : List Bytes)
    (hchunks : ∀ chunk ∈ chunks, chunk ≠ []) :
    DecodersAgree unpack chunks ↔ Agreeable unpack chunks.flatten := by
  rw [decodersAgree_iff_agreeOn unpack hchunks]
  exact ⟨agreeable_of_agreeOn hempty _, agreeOn_of_agreeable hempty⟩

def heartbeatOkBody : Bytes :=
  packAll (okReplyWire 1 (lit "HEARTBEAT")).body

def heartbeatOkHeader (magic : UInt32) : Header where
  magic := magic
  msgType := kMsgServerReply
  seq := 1
  bodyLen := UInt32.ofNat heartbeatOkBody.length

theorem decodersAgree_iff_heartbeat :
    DecodersAgree unpackFlat
      [(heartbeatOkHeader Header.kMagic).packLe ++
        (heartbeatOkBody ++ [])] := by
  refine (decodersAgree_iff unpackFlat rfl _ (by decide)).mpr ?_
  rw [List.flatten_singleton]
  exact .frame _ _ _ rfl (by decide) (by decide) (by decide +kernel)
    (.short [] (by decide))

/-- The same reply under the magic 0: the SDK accepts it. -/
theorem not_decodersAgree_magic :
    (heartbeatOkHeader 0).valid = false ∧
    ¬DecodersAgree unpackFlat
      [(heartbeatOkHeader 0).packLe ++ heartbeatOkBody] := by
  refine ⟨by decide, ?_⟩
  rw [decodersAgree_iff_agreeOn unpackFlat (by decide),
    List.flatten_singleton, agreeOn_foreign rfl rfl (by decide)]
  decide

end AsioForwarder
