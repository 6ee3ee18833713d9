import AsioForwarder.PayloadTransparency
import AsioForwarder.SendQueue

/-!
# A message for an idle receiver

A DATA frame is admitted by the length of its body, and the DELIVER frame
built from it is judged by its own length, which counts the header, the keys,
two conn ids and the name of the sender as well.  `load_config_or_throw` does
not relate the two limits.
-/

namespace AsioForwarder

open Interaction

/-! ## The length of a DELIVER frame -/

def strSize (length : Nat) : Nat :=
  if length < 32 then length + 1
  else if length < 256 then length + 2
  else if length < 65536 then length + 3
  else length + 5

def binSize (length : Nat) : Nat :=
  if length < 256 then length + 2
  else if length < 65536 then length + 3
  else length + 5

def uintSize (n : Nat) : Nat :=
  if n < 128 then 1
  else if n < 256 then 2
  else if n < 65536 then 3
  else if n < 4294967296 then 5
  else 9

theorem strSize_le (length : Nat) : strSize length ≤ length + 5 := by
  unfold strSize
  split_ifs <;> omega

theorem binSize_le (length : Nat) : binSize length ≤ length + 5 := by
  unfold binSize
  split_ifs <;> omega

theorem uintSize_le (n : Nat) : uintSize n ≤ 9 := by
  unfold uintSize
  split_ifs <;> omega

theorem Tok.encode_str_size (value : Bytes) :
    (Tok.str value).encode.length = strSize value.length := by
  simp only [Tok.encode, strSize, List.length_append]
  split_ifs <;>
    simp only [List.length_cons, List.length_nil, bigEndian_length] <;>
    omega

theorem Tok.encode_bin_size (value : Bytes) :
    (Tok.bin value).encode.length = binSize value.length := by
  simp only [Tok.encode, binSize, List.length_append]
  split_ifs <;> simp only [List.length_cons, bigEndian_length] <;> omega

theorem Tok.encode_uint_size (n : Nat) :
    (Tok.uint n).encode.length = uintSize n := by
  simp only [Tok.encode, uintSize]
  split_ifs <;>
    simp only [List.length_cons, List.length_nil, bigEndian_length]

theorem castPayload_length (payload : Bytes) :
    (castPayload payload).length = payload.length % UInt32.size := by
  rw [castPayload, List.length_take]
  exact Nat.min_eq_left (Nat.mod_le _ _)

/-- The bytes of a DELIVER frame: 24 of the header, 59 of the map and its
keys, and the values.  The length of the payload is cast to 32 bits. -/
def deliverSize (payload srcConn dstConn srcUsername dstUsername : Nat) :
    Nat :=
  83 + binSize (payload % UInt32.size) + uintSize srcConn + uintSize dstConn +
    strSize srcUsername + strSize dstUsername

theorem deliverWire_size (seq : UInt32) (payload : Bytes)
    (srcConn dstConn : Nat) (srcUsername dstUsername : Bytes) :
    (deliverWire seq payload srcConn dstConn srcUsername
      dstUsername).bytes.length =
      deliverSize payload.length srcConn dstConn srcUsername.length
        dstUsername.length := by
  have hkeys : (Tok.map 5).encode.length +
      ((Tok.str (lit "payload")).encode.length +
      ((Tok.str (lit "src_conn_id")).encode.length +
      ((Tok.str (lit "dst_conn_id")).encode.length +
      ((Tok.str (lit "src_username")).encode.length +
        (Tok.str (lit "dst_username")).encode.length)))) = 59 := by
    decide
  rw [Wire.bytes_length]
  simp only [deliverWire, packDeliverEnvelope, Tok.castBin,
    packAll_length_cons]
  rw [Tok.encode_bin_size, Tok.encode_uint_size, Tok.encode_uint_size,
    Tok.encode_str_size srcUsername, Tok.encode_str_size dstUsername,
    castPayload_length]
  simp only [packAll, List.flatMap_nil, List.length_nil, deliverSize]
  omega

theorem sendDataBody_size (dst payload : Bytes) :
    (packAll (sendDataBody dst payload)).length =
      22 + strSize dst.length + binSize (payload.length % UInt32.size) := by
  have hkeys : (Tok.map 2).encode.length +
      ((Tok.str (lit "dst_username")).encode.length +
        (Tok.str (lit "payload")).encode.length) = 22 := by
    decide
  simp only [sendDataBody, Tok.castBin, packAll_length_cons]
  rw [Tok.encode_bin_size, Tok.encode_str_size dst, castPayload_length]
  simp only [packAll, List.flatMap_nil, List.length_nil]
  omega

/-! ## The receiver -/

namespace TcpSession

/-- A session to which nothing is being sent. -/
structure Idle (r : TcpSession) : Prop where
  loggedIn : r.loggedIn = true
  unstopped : r.stopped = false
  isOpen : r.isOpen = true
  unkicked : r.kickPending = false
  empty : r.queue = []

/-- The handler of `send_frame` queues the frame and does nothing else to the
session. -/
structure TakesIn (cfg : Config) (wire : Wire) (r : TcpSession) : Prop where
  queued : (r.handleSend cfg wire).queue = r.queue ++ [wire]
  undisturbed : (r.handleSend cfg wire).posted = r.posted

section Receiver

variable {cfg : Config} {wire : Wire} {r : TcpSession}

theorem takesIn_iff : r.TakesIn cfg wire ↔
    r.stopped = false ∧ r.kickPending = false ∧
      r.pendingBytes + wire.bytes.length ≤ cfg.highWaterBytes.toNat := by
  constructor
  · intro htakes
    by_contra hnot
    have hrefused : r.stopped = true ∨ r.Refuses cfg (.sendFrame wire) := by
      simp only [Refuses]
      cases hstopped : r.stopped <;> cases hkick : r.kickPending <;>
        simp_all
    have hqueue : (r.handleSend cfg wire).queue = r.queue := by
      obtain hsame | ⟨why, hstop⟩ | hlogged := handleSend_refused hrefused
      · rw [hsame]
      · rw [hstop]
        rfl
      · rw [hlogged]
    have hlength := congrArg List.length (hqueue.symm.trans htakes.queued)
    rw [List.length_append, List.length_singleton] at hlength
    omega
  · intro hfits
    obtain ⟨hstopped, hkick, hle⟩ := hfits
    have haccepts : ¬r.Refuses cfg (.sendFrame wire) := by
      simp only [Refuses, hkick, Bool.false_eq_true, false_or]
      exact Nat.not_lt.mpr hle
    obtain ⟨_, haccepted⟩ := handleSend_accepted hstopped haccepts
    constructor
    · rw [haccepted, writeNext_queue]
      rfl
    · rw [haccepted, writeNext_posted]
      rfl

def Reached (cfg : Config) (r : TcpSession) : Prop :=
  ∃ ip events, Transition.run (step cfg) events { peerIp := ip } = some r

theorem accounted_of_reached (hreached : Reached cfg r)
    (hopen : r.stopped = false) : r.Accounted cfg := by
  obtain ⟨ip, events, hrun⟩ := hreached
  exact accounted_of_run cfg ip hrun hopen

theorem Idle.takesIn_iff (hidle : r.Idle) (hreached : Reached cfg r) :
    r.TakesIn cfg wire ↔ wire.bytes.length ≤ cfg.highWaterBytes.toNat := by
  have haccounts := accounted_of_reached hreached hidle.unstopped
  have hpending : r.pendingBytes = 0 := by
    rw [haccounts.counted, queuedBytes, hidle.empty]
    rfl
  rw [TcpSession.takesIn_iff, hpending, Nat.zero_add]
  constructor
  · intro htakes
    exact htakes.2.2
  · intro hle
    exact ⟨hidle.unstopped, hidle.unkicked, hle⟩

theorem exists_idle (cfg : Config) : ∃ r, Reached cfg r ∧ r.Idle := by
  refine ⟨_, ⟨[], [.markLogin 1 false []], rfl⟩, ?_⟩
  constructor <;> rfl

end Receiver

end TcpSession

/-! ## The frame -/

/-- The body of a DATA frame names a receiver and carries a payload. -/
def Relays (unpack : Bytes → Option Obj) (body dst payload : Bytes) : Prop :=
  ∃ mp, unpack body = some (.map mp) ∧
    mapGetStr mp (lit "dst_username") = some dst ∧ dst ≠ [] ∧
    extractPayloadBin (mapGetObj mp (lit "payload")) = some payload

/-- What is asked of a DATA frame, for a receiver on connection `d`. -/
structure FitsIdle (cfg : Config) (unpack : Bytes → Option Obj)
    (sender : Identity) (h : Header) (body : Bytes) (d : ConnId) : Prop where
  taken : ∀ found, ∀ p ∈ execution cfg
      (handleClientFrame unpack sender h body) found,
    ∀ wire, (d, Call.sendFrame wire) ∈ p.calls cfg →
      wire.msgType = kMsgDeliver →
      ∀ r, TcpSession.Reached cfg r → r.Idle → r.TakesIn cfg wire
  answered : ∀ found, ∀ p ∈ execution cfg
      (handleClientFrame unpack sender h body) found,
    (sender.connId, Call.sendFrame (okReplyWire h.seq (lit "DATA"))) ∈
        p.calls cfg →
      ∀ dst payload, Relays unpack body dst payload →
        ∃ r, TcpSession.Reached cfg r ∧ r.TakesIn cfg
          (deliverWire h.seq payload sender.connId d sender.username dst)

section Frame

variable {cfg : Config} {unpack : Bytes → Option Obj} {sender : Identity}
  {h : Header} {body dst payload : Bytes} {mp : ObjMap}

theorem handleClientFrame_data (hlogged : sender.loggedIn = true)
    (htype : h.msgType = kClientData) (hbody : unpack body = some (.map mp)) :
    handleClientFrame unpack sender h body = handleData sender h.seq mp := by
  rw [handleClientFrame, hlogged, Bool.not_true, if_neg Bool.false_ne_true,
    withMap, hbody, htype]
  rfl

theorem not_deliver_of_noName {found : Nat → Env × Hub} {p : Performed}
    (hpayload : extractPayloadBin (mapGetObj mp (lit "payload")) =
      some payload)
    (hdst : mapGetStr mp (lit "dst_username") = some [])
    (hp : p ∈ execution cfg (handleData sender h.seq mp) found) {d : ConnId}
    {wire : Wire} (hcall : (d, Call.sendFrame wire) ∈ p.calls cfg) :
    wire.msgType ≠ kMsgDeliver := by
  have hrefused : handleData sender h.seq mp =
      sendErrReply sender h.seq kProtocol (lit "DATA 需要 dst_username") := by
    simp only [handleData, hpayload, hdst]
  rw [hrefused] at hp
  have hp' : p ∈ [⟨.call sender.connId (.sendFrame (errReplyWire h.seq
      kProtocol (lit "DATA 需要 dst_username"))), (found 0).1, (found 0).2⟩] :=
    hp
  rw [List.mem_singleton] at hp'
  subst hp'
  simp only [Performed.calls, Op.calls, List.mem_singleton, Prod.mk.injEq,
    Call.sendFrame.injEq] at hcall
  rw [hcall.2]
  exact (by decide : kMsgServerReply ≠ kMsgDeliver)

theorem relays_of_deliver (hlogged : sender.loggedIn = true)
    (htype : h.msgType = kClientData) {found : Nat → Env × Hub}
    {p : Performed}
    (hp : p ∈ execution cfg (handleClientFrame unpack sender h body) found)
    {d : ConnId} {wire : Wire}
    (hcall : (d, Call.sendFrame wire) ∈ p.calls cfg)
    (hdeliver : wire.msgType = kMsgDeliver) :
    ∃ dst payload, Relays unpack body dst payload ∧
      wire = deliverWire h.seq payload sender.connId d sender.username dst := by
  obtain ⟨value, hfollows⟩ := follows_execution cfg
    (handleClientFrame unpack sender h body) found
  obtain ⟨final, hwalks, _⟩ := hfollows.walks
    (handleClientFrame_content unpack sender h body)
  obtain ⟨learned, hasks⟩ := hwalks.allows_of_mem hp
  obtain ⟨mp, dst, payload, hbody, hdst, hpayload, hwire⟩ :=
    AsksFrame.deliver hasks hcall hdeliver
  refine ⟨dst, payload, ⟨mp, hbody, hdst, ?_, hpayload⟩, hwire⟩
  rintro rfl
  rw [handleClientFrame_data hlogged htype hbody] at hp
  exact not_deliver_of_noName hpayload hdst hp hcall hdeliver

theorem deliver_of_relays (cfg : Config) (hlogged : sender.loggedIn = true)
    (htype : h.msgType = kClientData) (hrelays : Relays unpack body dst payload)
    (d : ConnId) :
    ∃ found, ∃ p ∈ execution cfg (handleClientFrame unpack sender h body)
        found,
      (d, Call.sendFrame (deliverWire h.seq payload sender.connId d
        sender.username dst)) ∈ p.calls cfg := by
  obtain ⟨mp, hbody, hdst, hne, hpayload⟩ := hrelays
  obtain ⟨p, hp, hcall⟩ := execution_routedHub cfg sender h.seq hdst hne
    hpayload d
  rw [← handleClientFrame_data hlogged htype hbody] at hp
  exact ⟨_, p, hp, hcall⟩

theorem fitsIdle_of_size (hlogged : sender.loggedIn = true)
    (htype : h.msgType = kClientData) {d : ConnId}
    (hsize : ∀ dst payload, Relays unpack body dst payload →
      deliverSize payload.length sender.connId d sender.username.length
        dst.length ≤ cfg.highWaterBytes.toNat) :
    FitsIdle cfg unpack sender h body d := by
  have hfits : ∀ r dst payload, TcpSession.Reached cfg r → r.Idle →
      Relays unpack body dst payload → r.TakesIn cfg
        (deliverWire h.seq payload sender.connId d sender.username dst) := by
    intro r dst payload hreached hidle hrelays
    rw [hidle.takesIn_iff hreached, deliverWire_size]
    exact hsize dst payload hrelays
  constructor
  · intro found p hp wire hcall hdeliver r hreached hidle
    obtain ⟨dst, payload, hrelays, rfl⟩ :=
      relays_of_deliver hlogged htype hp hcall hdeliver
    exact hfits r dst payload hreached hidle hrelays
  · intro found p hp hanswered dst payload hrelays
    obtain ⟨idle, hreached, hidle⟩ := TcpSession.exists_idle cfg
    exact ⟨idle, hreached, hfits idle dst payload hreached hidle hrelays⟩

/-- The message of a DATA frame fits an idle receiver exactly if its DELIVER
frame, counted from the lengths of the payload and of the names, is not above
the high-water mark. -/
theorem fitsIdle_iff (cfg : Config) (unpack : Bytes → Option Obj)
    (sender : Identity) (hlogged : sender.loggedIn = true) (h : Header)
    (htype : h.msgType = kClientData) (body : Bytes) (d : ConnId) :
    FitsIdle cfg unpack sender h body d ↔
      ∀ dst payload, Relays unpack body dst payload →
        deliverSize payload.length sender.connId d sender.username.length
          dst.length ≤ cfg.highWaterBytes.toNat := by
  constructor
  · intro hfits dst payload hrelays
    obtain ⟨idle, hreached, hidle⟩ := TcpSession.exists_idle cfg
    obtain ⟨found, p, hp, hcall⟩ :=
      deliver_of_relays cfg hlogged htype hrelays d
    have htakes := hfits.taken found p hp _ hcall rfl idle hreached hidle
    rw [hidle.takesIn_iff hreached, deliverWire_size] at htakes
    exact htakes
  · exact fitsIdle_of_size hlogged htype

end Frame

theorem relays_sendDataBody {unpack : Bytes → Option Obj}
    (hinverts : InvertsPack unpack) {dst payload : Bytes}
    (hsize : (packAll (sendDataBody dst payload)).length < UInt32.size)
    (dst' payload' : Bytes) :
    Relays unpack (packAll (sendDataBody dst payload)) dst' payload' ↔
      dst' = dst ∧ dst ≠ [] ∧ payload' = castPayload payload := by
  have hunpack := unpack_sendDataBody hinverts dst payload hsize
  constructor
  · intro hrelays
    obtain ⟨mp, hmp, hdst, hne, hpayload⟩ := hrelays
    rw [hunpack] at hmp
    cases hmp
    cases hdst
    cases hpayload
    exact ⟨rfl, hne, rfl⟩
  · intro hdata
    obtain ⟨rfl, hne, rfl⟩ := hdata
    exact ⟨_, hunpack, rfl, hne, rfl⟩

def rootIdentity : Identity where
  connId := 1
  loggedIn := true
  userId := 1
  isAdmin := true
  username := lit "root"

theorem fitsIdle_iff_short :
    FitsIdle forwarderJson unpackMsgpack rootIdentity
      { msgType := kClientData, seq := 2, bodyLen := 30 }
      (packAll (sendDataBody (lit "root") [7])) 1 := by
  rw [fitsIdle_iff forwarderJson unpackMsgpack rootIdentity rfl
    { msgType := kClientData, seq := 2, bodyLen := 30 } rfl]
  intro dst payload hrelays
  rw [relays_sendDataBody invertsPack_unpackMsgpack (by decide)] at hrelays
  obtain ⟨rfl, _, rfl⟩ := hrelays
  decide

theorem deliverSize_le (payload srcConn dstConn srcUsername dstUsername : Nat) :
    deliverSize payload srcConn dstConn srcUsername dstUsername ≤
      payload % UInt32.size + srcUsername + dstUsername + 116 := by
  have hpayload := binSize_le (payload % UInt32.size)
  have hsrcConn := uintSize_le srcConn
  have hdstConn := uintSize_le dstConn
  have hsrcUsername := strSize_le srcUsername
  have hdstUsername := strSize_le dstUsername
  unfold deliverSize
  omega

/-- The relation which the configuration checks leave out: with this much
room above the longest body, whatever `send_data` packs fits. -/
theorem fitsIdle_of_headroom (cfg : Config) {unpack : Bytes → Option Obj}
    (hinverts : InvertsPack unpack) (sender : Identity)
    (hlogged : sender.loggedIn = true)
    (hroom : cfg.maxBodyLen.toNat + sender.username.length + 116 ≤
      cfg.highWaterBytes.toNat)
    (h : Header) (htype : h.msgType = kClientData) (dst payload : Bytes)
    (hbody : (packAll (sendDataBody dst payload)).length ≤
      cfg.maxBodyLen.toNat) (d : ConnId) :
    FitsIdle cfg unpack sender h (packAll (sendDataBody dst payload)) d := by
  have hmax := cfg.maxBodyLen_le
  have hbytes := sendDataBody_length dst payload
  have hsize : (packAll (sendDataBody dst payload)).length < UInt32.size := by
    have hvalue : UInt32.size = 4294967296 := rfl
    omega
  apply fitsIdle_of_size hlogged htype
  intro dst' payload' hrelays
  rw [relays_sendDataBody hinverts hsize] at hrelays
  obtain ⟨rfl, _, rfl⟩ := hrelays
  have hle := deliverSize_le (castPayload payload).length sender.connId d
    sender.username.length dst'.length
  have hmod := Nat.mod_le (castPayload payload).length UInt32.size
  omega

/-- The shipped file with bodies of at most one mebibyte. -/
def roomy : Config :=
  { forwarderJson with maxBodyLen := 1048576, accepted := by rfl }

theorem fitsIdle_of_headroom_roomy :
    FitsIdle roomy unpackMsgpack rootIdentity
      { msgType := kClientData, seq := 2, bodyLen := 30 }
      (packAll (sendDataBody (lit "root") [7])) 1 :=
  fitsIdle_of_headroom roomy invertsPack_unpackMsgpack rootIdentity rfl
    (by decide) { msgType := kClientData, seq := 2, bodyLen := 30 } rfl
    (lit "root") [7] (by decide) 1

namespace Server

/-- Session 1 logs in as `root` and a DATA header announces its body. -/
def announcedRun (bodyLen : UInt32) : List Event :=
  rootLogin ++
    [.read 1 (.loopTop false),
      .read 1 (.header
        { msgType := kClientData, seq := 2, bodyLen := bodyLen }),
      .read 1 .resume]

def awaited : ReadLoop → Option Header
  | .awaitBody h => some h
  | _ => none

theorem held_of_awaited (cfg : Config) (unpack : Bytes → Option Obj)
    {s : Server} {c : ConnId} {h : Header} {body : Bytes}
    (hawaited : awaited (s.readers c) = some h)
    (hopen : s.hub.isOpen c = true)
    (hlength : body.length = h.bodyLen.toNat) :
    ∃ s', s.step cfg unpack (.read c (.body body)) = some s' ∧
      s'.hub = s.hub ∧ (s'.readers c).held = some (h, body) := by
  have hreader : s.readers c = .awaitBody h := by
    cases hloop : s.readers c <;> rw [hloop] at hawaited <;> cases hawaited
    rfl
  refine ⟨s.setReader c (.gotBody h body), ?_, rfl, ?_⟩
  · have hnext : (s.readers c).next cfg unpack (s.hub.identity c)
        (s.hub.sessions c) (.body body) = some (.gotBody h body, none) := by
      rw [hreader]
      exact if_pos ⟨hopen, hlength⟩
    simp only [step, hnext]
  · rw [setReader_self]
    rfl

/-- With it a body for `root` has exactly `max_body_len` bytes. -/
def largestPayload : Bytes :=
  List.replicate 67108832 0

theorem largestBody_length :
    (packAll (sendDataBody (lit "root") largestPayload)).length =
      67108864 := by
  rw [sendDataBody_size, largestPayload, List.length_replicate]
  decide

/-- The frame is admitted, and an idle receiver drops its message. -/
theorem largest_frame_dropped :
    ∃ s, Transition.run (step forwarderJson unpackMsgpack)
        (announcedRun 67108864 ++ [.read 1 (.body
          (packAll (sendDataBody (lit "root") largestPayload)))])
        (initial emptyDb) = some s ∧
      (s.readers 1).held =
        some ({ msgType := kClientData, seq := 2, bodyLen := 67108864 },
          packAll (sendDataBody (lit "root") largestPayload)) ∧
      ¬FitsIdle forwarderJson unpackMsgpack (s.hub.identity 1)
        { msgType := kClientData, seq := 2, bodyLen := 67108864 }
        (packAll (sendDataBody (lit "root") largestPayload)) 1 := by
  obtain ⟨s, hrun, hopen, hidentity, hawaited⟩ : ∃ s, Transition.run
      (step forwarderJson unpackMsgpack) (announcedRun 67108864)
      (initial emptyDb) = some s ∧ s.hub.isOpen 1 = true ∧
      s.hub.identity 1 = rootIdentity ∧
      awaited (s.readers 1) =
        some { msgType := kClientData, seq := 2, bodyLen := 67108864 } :=
    Transition.exists_run_of_check (by decide +kernel)
  obtain ⟨s', hstep, hhub, hheld⟩ := held_of_awaited forwarderJson
    unpackMsgpack hawaited hopen (largestBody_length.trans (by decide))
  refine ⟨s', ?_, hheld, ?_⟩
  · rw [Transition.run_append_eq_some]
    refine ⟨s, hrun, ?_⟩
    rw [Transition.run_cons_eq_some]
    exact ⟨s', hstep, rfl⟩
  · intro hfits
    rw [hhub, hidentity, fitsIdle_iff _ _ rootIdentity rfl _ rfl] at hfits
    have hrelays := (relays_sendDataBody invertsPack_unpackMsgpack
      (largestBody_length ▸ by decide) (lit "root")
      (castPayload largestPayload)).mpr ⟨rfl, by decide, rfl⟩
    have hsize := hfits _ _ hrelays
    rw [castPayload_length, largestPayload, List.length_replicate] at hsize
    exact absurd hsize (by decide)

end Server

end AsioForwarder
