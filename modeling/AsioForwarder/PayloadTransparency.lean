import AsioForwarder.FrameDecoders
import AsioForwarder.FrameRun
import AsioForwarder.MsgpackCodec
import AsioForwarder.ReplyDecoding
import AsioForwarder.SdkClient

/-!
# A payload on its way from sender to recipient

`send_data` packs the payload, `handle_client_frame` looks it up, the
envelope packs it again and `recv` scans the envelope.  The bound on the body
of an admitted frame is carried to the name of the session and to the
envelope, and with it every size fits the 32 bits it is cast to.  Only the
sender casts a size nobody has bounded.
-/

namespace AsioForwarder

open Interaction

/-! ## Admitted bodies -/

/-- The frame a read loop holds has passed the test on its body length. -/
def ReadLoop.Admitted (cfg : Config) : ReadLoop → Prop
  | .awaitBody h => h.bodyLen ≤ cfg.maxBodyLen
  | .gotBody h body =>
      h.bodyLen ≤ cfg.maxBodyLen ∧ body.length = h.bodyLen.toNat
  | _ => True

theorem ReadLoop.admitted_of_next {cfg : Config}
    {unpack : Bytes → Option Obj} {self : Identity} {session : TcpSession}
    {loop loop' : ReadLoop} {event : ReadEvent} {made : Option Call}
    (hadmitted : loop.Admitted cfg)
    (hnext : loop.next cfg unpack self session event = some (loop', made)) :
    loop'.Admitted cfg := by
  unfold ReadLoop.next at hnext
  split at hnext
  · split at hnext
    · cases hnext
      trivial
    · split at hnext
      · split at hnext
        · cases hnext
          trivial
        · cases hnext
      · cases hnext
        trivial
  · split at hnext
    · cases hnext
      trivial
    · cases hnext
  · rename_i h
    split at hnext
    · cases hnext
      trivial
    · split at hnext
      · cases hnext
        trivial
      · rename_i hfits
        have hle : h.bodyLen ≤ cfg.maxBodyLen := UInt32.not_lt.mp hfits
        split at hnext
        · rename_i hempty
          cases hnext
          refine ⟨hle, ?_⟩
          rw [hempty]
          rfl
        · cases hnext
          exact hle
  · split at hnext
    · rename_i hread
      cases hnext
      exact ⟨hadmitted, hread.2⟩
    · cases hnext
  · cases hnext
    trivial
  · cases hnext
    trivial
  · cases hnext
    trivial
  · cases hnext

namespace Server

variable {cfg : Config} {unpack : Bytes → Option Obj}

theorem admitted_setReader {s : Server} {c : ConnId}
    (hadmitted : ∀ d, (s.readers d).Admitted cfg) (loop : ReadLoop)
    (hloop : loop.Admitted cfg) (d : ConnId) :
    ((s.setReader c loop).readers d).Admitted cfg := by
  by_cases hsame : d = c
  · subst hsame
    rwa [setReader_self]
  · rw [setReader_ne _ _ hsame]
    exact hadmitted d

theorem admitted_of_step {s s' : Server} {event : Event}
    (hadmitted : ∀ c, (s.readers c).Admitted cfg)
    (hstep : s.step cfg unpack event = some s') (c : ConnId) :
    (s'.readers c).Admitted cfg := by
  cases event with
  | accept peerIp =>
      cases hstep
      exact admitted_setReader hadmitted .top trivial c
  | read d event =>
      simp only [step] at hstep
      split at hstep
      · cases hstep
      · rename_i loop hnext
        cases hstep
        exact admitted_setReader hadmitted loop
          (ReadLoop.admitted_of_next (hadmitted d) hnext) c
      · rename_i loop made hnext
        cases hstep
        exact admitted_setReader hadmitted loop
          (ReadLoop.admitted_of_next (hadmitted d) hnext) c
  | advance d env =>
      simp only [step] at hstep
      split at hstep
      · split at hstep
        · cases hstep
          exact admitted_setReader hadmitted .top trivial c
        · cases hstep
          exact admitted_setReader hadmitted (.handling _) trivial c
      · cases hstep
  | removeSession d =>
      simp only [step] at hstep
      split at hstep
      · cases hstep
        exact admitted_setReader hadmitted .closing trivial c
      · cases hstep
  | closeSocket d =>
      simp only [step] at hstep
      split at hstep
      · cases hstep
        exact admitted_setReader hadmitted .exited trivial c
      · cases hstep
  | io d event =>
      simp only [step] at hstep
      split at hstep
      · cases hstep
      · cases hstep
        exact hadmitted c
  | heartbeatTimeout d =>
      simp only [step] at hstep
      split at hstep
      · cases hstep
        exact hadmitted c
      · cases hstep
  | snapshotStats =>
      cases hstep
      exact hadmitted c

/-- What the test on the body length bounds in a state: the frames held, the
bodies under way in handlers, and the names sessions took from LOGIN
bodies. -/
structure Bounded (cfg : Config) (unpack : Bytes → Option Obj) (s : Server) :
    Prop where
  sane : s.Sane
  frames : ∀ c, (s.readers c).Admitted cfg
  bodies : s.Carries unpack
    (fun _ _ body _ => body.length ≤ cfg.maxBodyLen.toNat)
  names : ∀ c, (s.hub.identity c).username.length ≤ cfg.maxBodyLen.toNat

theorem ReadLoop.Admitted.length_le {h : Header} {body : Bytes}
    (hadmitted : (ReadLoop.gotBody h body).Admitted cfg) :
    body.length ≤ cfg.maxBodyLen.toNat := by
  rw [hadmitted.2]
  exact UInt32.le_iff_toNat_le.mp hadmitted.1

theorem bounded_initial (db : Db) : (initial db).Bounded cfg unpack where
  sane := sane_initial db
  frames := fun _ => trivial
  bodies := carries_initial db _
  names := fun _ => Nat.zero_le _

theorem Bounded.name_of_registers {s : Server} {event : Event}
    (hslices : Slices unpack) (hbounded : s.Bounded cfg unpack) {c : ConnId}
    {un : Bytes} {info : UserInfo} {wantMode : RecvMode}
    (hregisters : s.Registers event c un info wantMode) :
    un.length ≤ cfg.maxBodyLen.toNat := by
  obtain ⟨env, q, _, hreader, _, hop⟩ := hregisters
  obtain ⟨body, learned, hasks, hbody⟩ := hbounded.bodies.asks hreader hop
  cases hasks with
  | ask mp _ _ hunpack hasks =>
      cases hasks with
      | register login hcheck _ =>
          have hname := (checkLoginBody_ok hcheck).1
          exact Nat.le_trans (hslices _ _ _ _ hunpack hname) hbody

theorem Bounded.step {s s' : Server} {event : Event}
    (hslices : Slices unpack) (hbounded : s.Bounded cfg unpack)
    (hstep : s.step cfg unpack event = some s') : s'.Bounded cfg unpack where
  sane := hbounded.sane.step hstep
  frames := admitted_of_step hbounded.frames hstep
  bodies := by
    refine carries_of_step hbounded.bodies hstep ?_ ?_ ?_
    · intro c q body learned _ _ hbody
      exact hbody
    · intro c h body _ hreader
      have hadmitted := hbounded.frames c
      rw [hreader] at hadmitted
      exact ReadLoop.Admitted.length_le hadmitted
    · intro c env q q' body learned operation _ _ _ _ _ _ _ _ hbody
      exact hbody
  names := by
    intro c
    rcases identity_of_step hbounded.sane hstep c with hkept | ⟨_, hnew⟩ |
      ⟨un, info, wantMode, hregisters, hnew⟩
    · rw [hkept]
      exact hbounded.names c
    · rw [hnew]
      exact Nat.zero_le _
    · rw [hnew]
      exact hbounded.name_of_registers hslices hregisters

theorem bounded_of_run (hslices : Slices unpack) {db : Db}
    {events : List Event} {s : Server}
    (hrun : Transition.run (Server.step cfg unpack) events (initial db) =
      some s) : s.Bounded cfg unpack :=
  Transition.run_preserves_always _
    (fun _ _ _ hbounded hstep => Bounded.step hslices hbounded hstep)
    (bounded_initial db) hrun

end Server

/-! ## Sizes of packed bodies -/

theorem Tok.encode_str_length (value : Bytes) :
    value.length ≤ (Tok.str value).encode.length ∧
      (Tok.str value).encode.length ≤ value.length + 5 := by
  simp only [Tok.encode, List.length_append]
  split_ifs <;>
    simp only [List.length_cons, List.length_nil, bigEndian_length] <;>
    omega

theorem Tok.encode_bin_length (value : Bytes) :
    value.length ≤ (Tok.bin value).encode.length ∧
      (Tok.bin value).encode.length ≤ value.length + 5 := by
  simp only [Tok.encode, List.length_append]
  split_ifs <;> simp only [List.length_cons, bigEndian_length] <;> omega

theorem Tok.encode_uint_length (n : Nat) :
    (Tok.uint n).encode.length ≤ 9 := by
  simp only [Tok.encode]
  split_ifs <;>
    simp only [List.length_cons, List.length_nil, bigEndian_length] <;>
    omega

theorem packAll_length_cons (tok : Tok) (later : List Tok) :
    (packAll (tok :: later)).length =
      tok.encode.length + (packAll later).length := by
  rw [packAll, List.flatMap_cons, List.length_append]
  rfl

theorem packDeliverEnvelope_length (payload : Bytes) (srcConn dstConn : Nat)
    (srcUsername dstUsername : Bytes) :
    (packAll (packDeliverEnvelope payload srcConn dstConn srcUsername
      dstUsername)).length ≤
      payload.length + srcUsername.length + dstUsername.length + 100 := by
  have hpayload := (Tok.encode_bin_length
    (castPayload payload)).2
  have htake : (castPayload payload).length ≤ payload.length :=
    List.length_take_le' _ payload
  have hsrc := Tok.encode_uint_length srcConn
  have hdst := Tok.encode_uint_length dstConn
  have hsrcName := (Tok.encode_str_length srcUsername).2
  have hdstName := (Tok.encode_str_length dstUsername).2
  have hkeys : (Tok.map 5).encode.length +
      ((Tok.str (lit "payload")).encode.length +
      ((Tok.str (lit "src_conn_id")).encode.length +
      ((Tok.str (lit "dst_conn_id")).encode.length +
      ((Tok.str (lit "src_username")).encode.length +
        (Tok.str (lit "dst_username")).encode.length)))) = 59 := by
    decide
  simp only [packDeliverEnvelope, Tok.castBin, packAll_length_cons]
  simp only [packAll, List.flatMap_nil, List.length_nil]
  omega

/-! ## Reading what was packed -/

theorem sendDataBody_length (dst payload : Bytes) :
    dst.length + (castPayload payload).length ≤
      (packAll (sendDataBody dst payload)).length := by
  have hdst := (Tok.encode_str_length dst).1
  have hpayload := (Tok.encode_bin_length (castPayload payload)).1
  simp only [sendDataBody, Tok.castBin, packAll_length_cons]
  omega

section Reading

variable {unpack : Bytes → Option Obj}

/-- The map the server finds in a body of `send_data`. -/
def sendDataMap (dst payload : Bytes) : ObjMap :=
  [(.str (lit "dst_username"), .str dst),
    (.str (lit "payload"), .bin (castPayload payload))]

theorem unpack_sendDataBody (hinverts : InvertsPack unpack)
    (dst payload : Bytes)
    (hsize : (packAll (sendDataBody dst payload)).length < UInt32.size) :
    unpack (packAll (sendDataBody dst payload)) =
      some (.map (sendDataMap dst payload)) := by
  apply hinverts _ _ _ rfl hsize
  have hdst := sendDataBody_length dst payload
  have hpayload := castPayload_length_lt payload
  simp only [sendDataBody, List.mem_cons, List.not_mem_nil, or_false]
  rintro tok (rfl | rfl | rfl | rfl | rfl)
  · decide
  · decide
  · exact Nat.lt_of_le_of_lt (Nat.le_of_add_right_le hdst) hsize
  · decide
  · exact hpayload

theorem eventOf_deliverWire (hinverts : InvertsPack unpack) (seq : UInt32)
    {payload srcUsername dstUsername : Bytes} {srcConn dstConn : Nat}
    (hpayload : payload.length < UInt32.size)
    (hsrc : srcConn < UInt64.size) (hdst : dstConn < UInt64.size)
    (hsrcName : srcUsername.length < UInt32.size)
    (hdstName : dstUsername.length < UInt32.size)
    (hsize : (packAll (packDeliverEnvelope payload srcConn dstConn
      srcUsername dstUsername)).length < UInt32.size) :
    RelayClient.eventOf kMsgDeliver seq (unpack (packAll
      (packDeliverEnvelope payload srcConn dstConn srcUsername
        dstUsername))) =
      some (.deliver ⟨seq, srcConn, dstConn, srcUsername, dstUsername,
        payload⟩) := by
  have hunpack : unpack (packAll (packDeliverEnvelope payload srcConn dstConn
      srcUsername dstUsername)) =
      some (.map [(.str (lit "payload"), .bin payload),
        (.str (lit "src_conn_id"), .positiveInteger srcConn),
        (.str (lit "dst_conn_id"), .positiveInteger dstConn),
        (.str (lit "src_username"), .str srcUsername),
        (.str (lit "dst_username"), .str dstUsername)]) := by
    apply hinverts _ _ _ _ hsize
    · rw [packDeliverEnvelope, Tok.castBin, castPayload_of_lt hpayload]
      simp only [List.mem_cons, List.not_mem_nil, or_false]
      rintro tok (rfl | rfl | rfl | rfl | rfl | rfl | rfl | rfl | rfl | rfl |
        rfl)
      · decide
      · decide
      · exact hpayload
      · decide
      · exact hsrc
      · decide
      · exact hdst
      · decide
      · exact hsrcName
      · decide
      · exact hdstName
    · rw [packDeliverEnvelope, Tok.castBin, castPayload_of_lt hpayload]
      rfl
  rw [hunpack]
  rfl

theorem readEvent_wire (unpack : Bytes → Option Obj) (wire : Wire)
    (rest : Bytes)
    (hsize : (packAll wire.body).length < UInt32.size) :
    RelayClient.readEvent unpack (wire.bytes ++ rest) =
      ((RelayClient.eventOf wire.msgType wire.seq
        (unpack (packAll wire.body))).map (fun event =>
          (⟨{ msgType := wire.msgType
              seq := wire.seq
              bodyLen := UInt32.ofNat (packAll wire.body).length },
            packAll wire.body⟩, event)), rest) := by
  have hlength : (UInt32.ofNat (packAll wire.body).length).toNat =
      (packAll wire.body).length := by
    rw [UInt32.toNat_ofNat', Nat.mod_eq_of_lt hsize]
  rw [Wire.bytes, List.append_assoc,
    readEvent_header _ _ (Header.packLe_length _)]
  have hheader := Header.unpackLe_packLe
    { msgType := wire.msgType
      seq := wire.seq
      bodyLen := UInt32.ofNat (packAll wire.body).length } []
  rw [List.append_nil] at hheader
  rw [hheader]
  dsimp only
  rw [readExact_of_length hlength.symm]

theorem recvFrom_wire {wire : Wire} {rest : Bytes}
    (hsize : (packAll wire.body).length < UInt32.size) {event : SdkEvent}
    (hevent : RelayClient.eventOf wire.msgType wire.seq
      (unpack (packAll wire.body)) = some event) {sock : RelayClient.Socket}
    (hstreams : RelayClient.Streams sock (wire.bytes ++ rest)) :
    ∃ frame left, RelayClient.recvFrom unpack sock =
      (some (frame, event), left) := by
  have hread := readEvent_wire unpack wire rest hsize
  rw [hevent, Option.map_some] at hread
  rcases RelayClient.recvFrom_reads unpack hstreams with
    ⟨_, _, _, hnone, _⟩ | ⟨item, left, _, hrecv, hsome, _⟩
  · rw [hread] at hnone
    cases hnone
  · rw [hread] at hsome
    cases hsome
    exact ⟨_, left, hrecv⟩

end Reading

/-! ## The handler of a DATA frame -/

/-- What is asked of a DELIVER frame for `d`: the casts of
`pack_deliver_envelope` and `pack_wire` lose nothing, and `recv` returns what
was sent, by whom and to whom. -/
structure Intact (unpack : Bytes → Option Obj) (sender : Identity)
    (seq : UInt32) (dst payload : Bytes) (d : ConnId) (wire : Wire) :
    Prop where
  payloadCast : ∃ stored, stored.length < UInt32.size ∧
    wire.body = packDeliverEnvelope stored sender.connId d sender.username dst
  bodyCast : (packAll wire.body).length < UInt32.size
  received : ∀ sock rest,
    RelayClient.Streams sock (wire.bytes ++ rest) →
    ∃ frame left, RelayClient.recvFrom unpack sock =
      (some (frame, .deliver ⟨seq, sender.connId, d, sender.username, dst,
        payload⟩), left)

/-- Every DELIVER frame is intact which the handler of the frame of
`send_data` queues for a session, whatever it finds in the shared state. -/
def DeliversIntact (cfg : Config) (unpack : Bytes → Option Obj)
    (sender : Identity) (h : Header) (dst payload : Bytes) : Prop :=
  ∀ found, ∀ p ∈ execution cfg (handleClientFrame unpack sender h
      (packAll (sendDataBody dst payload))) found,
    ∀ d wire, d < UInt64.size → (d, Call.sendFrame wire) ∈ p.calls cfg →
      wire.msgType = kMsgDeliver →
      Intact unpack sender h.seq dst payload d wire

section Handler

variable {cfg : Config} {unpack : Bytes → Option Obj} {sender : Identity}
  {h : Header} {dst payload : Bytes}

theorem handleClientFrame_sendData (hinverts : InvertsPack unpack)
    (hlogged : sender.loggedIn = true) (htype : h.msgType = kClientData)
    (hsize : (packAll (sendDataBody dst payload)).length < UInt32.size) :
    handleClientFrame unpack sender h (packAll (sendDataBody dst payload)) =
      handleData sender h.seq (sendDataMap dst payload) := by
  rw [handleClientFrame, hlogged, Bool.not_true, if_neg Bool.false_ne_true,
    withMap, unpack_sendDataBody hinverts dst payload hsize, htype]
  rfl

theorem intact_castPayload (hinverts : InvertsPack unpack)
    (hbody : (packAll (sendDataBody dst payload)).length ≤
      cfg.maxBodyLen.toNat)
    (hname : sender.username.length ≤ cfg.maxBodyLen.toNat)
    (hconn : sender.connId < UInt64.size) {d : ConnId}
    (hd : d < UInt64.size) :
    Intact unpack sender h.seq dst (castPayload payload) d
      (deliverWire h.seq (castPayload payload) sender.connId d
        sender.username dst) := by
  have hmax := cfg.maxBodyLen_le
  have hsize : UInt32.size = 4294967296 := rfl
  have hdst := sendDataBody_length dst payload
  have henvelope := packDeliverEnvelope_length (castPayload payload)
    sender.connId d sender.username dst
  have hfits : (packAll (packDeliverEnvelope (castPayload payload)
      sender.connId d sender.username dst)).length < UInt32.size := by
    omega
  have hevent := eventOf_deliverWire hinverts h.seq
    (castPayload_length_lt payload) hconn hd (by omega) (by omega) hfits
  exact ⟨⟨_, castPayload_length_lt payload, rfl⟩, hfits,
    fun sock rest hstreams => recvFrom_wire hfits hevent hstreams⟩

/-- A shared state in which the name belongs to an account with the one open
session `d`. -/
def routedHub (dst : Bytes) (d : ConnId) : Hub where
  db := Server.emptyDb
  reg :=
    { nameToUid := (∅ : AList _).insert dst 1
      userDeque := (∅ : AList _).insert 1 [d] }

theorem recipients_routedHub (cfg : Config) (dst : Bytes) (d : ConnId) :
    ((routedHub dst d).reg.recipients cfg (routedHub dst d).isOpen 1).2 =
      [d] := by
  have hpos := cfg.limits.2
  have hdeque : (routedHub dst d).reg.userDeque.lookup 1 = some [d] :=
    AList.lookup_insert _
  have hopen : [d].filter (routedHub dst d).isOpen = [d] := rfl
  have htake : [d].take cfg.broadcastMaxRecipients.toNat = [d] := by
    rw [List.take_of_length_le]
    simp only [List.length_singleton]
    omega
  rw [Registry.recipients, hdeque]
  dsimp only
  rw [hopen, if_neg (List.cons_ne_nil d [])]
  exact htake

theorem handleData_relays {mp : ObjMap} (sender : Identity) (seq : UInt32)
    (hdst : mapGetStr mp (lit "dst_username") = some dst) (hne : dst ≠ [])
    (hpayload : extractPayloadBin (mapGetObj mp (lit "payload")) =
      some payload) :
    handleData sender seq mp =
      deliverToUserByRecvMode sender.username sender.connId dst payload seq >>=
      fun _ => sendOkReply sender seq (lit "DATA") := by
  obtain ⟨b, name, rfl⟩ := List.exists_cons_of_ne_nil hne
  simp only [handleData, hpayload, hdst]

theorem execution_routedHub {mp : ObjMap} (cfg : Config) (sender : Identity)
    (seq : UInt32) (hdst : mapGetStr mp (lit "dst_username") = some dst)
    (hne : dst ≠ [])
    (hpayload : extractPayloadBin (mapGetObj mp (lit "payload")) =
      some payload) (d : ConnId) :
    ∃ p ∈ execution cfg (handleData sender seq mp)
        (fun _ => ({}, routedHub dst d)),
      (d, Call.sendFrame (deliverWire seq payload sender.connId d
        sender.username dst)) ∈ p.calls cfg := by
  have hcached : ((Op.lock (.cacheLookup dst)).exec cfg {}
      (routedHub dst d)).2 = some 1 := AList.lookup_insert _
  refine ⟨⟨.lock (.deliver sender.username sender.connId dst 1 payload seq),
    {}, routedHub dst d⟩, ?_, ?_⟩
  · rw [handleData_relays sender seq hdst hne hpayload]
    apply mem_execution_bind
    unfold deliverToUserByRecvMode ensureUidForUsername
    refine List.mem_cons_of_mem _ ?_
    dsimp only
    rw [hcached]
    exact List.mem_cons_self
  · simp only [Performed.calls, Op.calls, LockOp.exec, recipients_routedHub]
    exact List.mem_singleton.mpr rfl

/-- A shared state in which the name belongs to an account with one open
session. -/
def cachedHub (dst : Bytes) : Hub where
  db := Server.emptyDb
  reg :=
    { nameToUid := (∅ : AList _).insert dst 1
      userDeque := (∅ : AList _).insert 1 [0] }

theorem execution_cachedHub (cfg : Config) (sender : Identity) (h : Header)
    (payload : Bytes) (hne : dst ≠ []) :
    ∃ p ∈ execution cfg (handleData sender h.seq (sendDataMap dst payload))
        (fun _ => ({}, cachedHub dst)),
      (0, Call.sendFrame (deliverWire h.seq (castPayload payload)
        sender.connId 0 sender.username dst)) ∈ p.calls cfg :=
  execution_routedHub cfg sender h.seq rfl hne rfl 0

theorem not_deliver_of_nil {found : Nat → Env × Hub} {p : Performed}
    (hp : p ∈ execution cfg (handleData sender h.seq (sendDataMap [] payload))
      found) {d : ConnId} {wire : Wire}
    (hcall : (d, Call.sendFrame wire) ∈ p.calls cfg) :
    wire.msgType ≠ kMsgDeliver := by
  have herror : execution cfg
      (handleData sender h.seq (sendDataMap [] payload)) found =
      [⟨.call sender.connId (.sendFrame (errReplyWire h.seq kProtocol
        (lit "DATA 需要 dst_username"))), (found 0).1, (found 0).2⟩] := rfl
  rw [herror, List.mem_singleton] at hp
  subst hp
  simp only [Performed.calls, Op.calls, List.mem_singleton, Prod.mk.injEq,
    Call.sendFrame.injEq] at hcall
  rw [hcall.2]
  exact (by decide : kMsgServerReply ≠ kMsgDeliver)

theorem deliver_of_sendData (hinverts : InvertsPack unpack)
    (hsize : (packAll (sendDataBody dst payload)).length < UInt32.size)
    {found : Nat → Env × Hub} {p : Performed}
    (hp : p ∈ execution cfg (handleClientFrame unpack sender h
      (packAll (sendDataBody dst payload))) found) {d : ConnId} {wire : Wire}
    (hcall : (d, Call.sendFrame wire) ∈ p.calls cfg)
    (hdeliver : wire.msgType = kMsgDeliver) :
    wire = deliverWire h.seq (castPayload payload) sender.connId d
      sender.username dst := by
  obtain ⟨value, hfollows⟩ := follows_execution cfg
    (handleClientFrame unpack sender h (packAll (sendDataBody dst payload)))
    found
  obtain ⟨final, hwalks, _⟩ := hfollows.walks
    (handleClientFrame_content unpack sender h
      (packAll (sendDataBody dst payload)))
  obtain ⟨learned, hasks⟩ := hwalks.allows_of_mem hp
  obtain ⟨mp, dst', payload', hmp, hdst, hpayload, hwire⟩ :=
    AsksFrame.deliver hasks hcall hdeliver
  rw [unpack_sendDataBody hinverts dst payload hsize] at hmp
  cases hmp
  cases hdst
  cases hpayload
  exact hwire

/-- The DELIVER frames of one frame are intact exactly if there is none, or
the sender's cast has left the payload whole. -/
theorem handler_intact_iff (hinverts : InvertsPack unpack)
    (hlogged : sender.loggedIn = true) (hconn : sender.connId < UInt64.size)
    (hname : sender.username.length ≤ cfg.maxBodyLen.toNat)
    (htype : h.msgType = kClientData)
    (hbody : (packAll (sendDataBody dst payload)).length ≤
      cfg.maxBodyLen.toNat) :
    DeliversIntact cfg unpack sender h dst payload ↔
      dst = [] ∨ payload.length < UInt32.size := by
  have hmax := cfg.maxBodyLen_le
  have hsize : (packAll (sendDataBody dst payload)).length < UInt32.size := by
    have hvalue : UInt32.size = 4294967296 := rfl
    omega
  have hhandler := handleClientFrame_sendData hinverts hlogged htype hsize
  constructor
  · intro hintact
    by_contra hnot
    obtain ⟨hne, hlong⟩ := not_or.mp hnot
    obtain ⟨p, hp, hcall⟩ := execution_cachedHub cfg sender h payload hne
    rw [← hhandler] at hp
    have hzero : (0 : Nat) < UInt64.size := by decide
    have hsent := (hintact _ p hp 0 _ hzero hcall rfl).received
    have hstored := (intact_castPayload (h := h) hinverts hbody hname hconn
      hzero).received
    -- the same bytes are read as both payloads
    have hstreams : RelayClient.Streams
        ⟨true, [(deliverWire h.seq (castPayload payload) sender.connId 0
          sender.username dst).bytes]⟩
        ((deliverWire h.seq (castPayload payload) sender.connId 0
          sender.username dst).bytes ++ []) := by
      refine ⟨rfl, List.flatten_singleton.trans (List.append_nil _).symm, ?_⟩
      intro chunk hchunk
      rw [List.mem_singleton.mp hchunk]
      exact List.cons_ne_nil _ _
    obtain ⟨_, _, hread⟩ := hsent _ _ hstreams
    obtain ⟨_, _, hread'⟩ := hstored _ _ hstreams
    rw [hread] at hread'
    simp only [Prod.mk.injEq, Option.some.injEq, SdkEvent.deliver.injEq,
      Deliver.mk.injEq, true_and] at hread'
    exact hlong ((castPayload_eq_iff payload).mp hread'.1.2.symm)
  · intro hcondition found p hp d wire hd hcall hdeliver
    rcases hcondition with rfl | hshort
    · rw [hhandler] at hp
      exact absurd hdeliver (not_deliver_of_nil hp hcall)
    · rw [deliver_of_sendData hinverts hsize hp hcall hdeliver]
      have hintact := intact_castPayload (h := h) hinverts hbody hname hconn hd
      rwa [castPayload_of_lt hshort] at hintact ⊢

end Handler

/-! ## Runs of the server -/

def ReadLoop.held : ReadLoop → Option (Header × Bytes)
  | .gotBody h body => some (h, body)
  | _ => none

theorem ReadLoop.eq_of_held {loop : ReadLoop} {h : Header} {body : Bytes}
    (hheld : loop.held = some (h, body)) : loop = .gotBody h body := by
  cases loop with
  | gotBody h' body' =>
      cases hheld
      rfl
  | _ => cases hheld

namespace Server

variable (cfg : Config) (unpack : Bytes → Option Obj)

/-- A frame of `send_data` which a logged-in session has been let through
with is delivered intact exactly if it has no destination or its payload has
fewer than 2^32 bytes. -/
theorem delivers_intact_iff (hinverts : InvertsPack unpack)
    (hslices : Slices unpack) (db : Db) (events : List Event) (s : Server)
    (hrun : Transition.run (step cfg unpack) events (initial db) = some s)
    (c : ConnId) (hc : c < UInt64.size)
    (hlogged : (s.hub.identity c).loggedIn = true) (h : Header)
    (htype : h.msgType = kClientData) (dst payload : Bytes)
    (hheld : (s.readers c).held =
      some (h, packAll (sendDataBody dst payload))) :
    DeliversIntact cfg unpack (s.hub.identity c) h dst payload ↔
      dst = [] ∨ payload.length < UInt32.size := by
  have hbounded := bounded_of_run hslices hrun
  have hframe := hbounded.frames c
  rw [ReadLoop.eq_of_held hheld] at hframe
  exact handler_intact_iff hinverts hlogged hc (hbounded.names c) htype
    (ReadLoop.Admitted.length_le hframe)

/-- Session 1 logs in as `root` and its next frame is read to the end. -/
def heldRun (body : List Tok) : List Event :=
  rootLogin ++ (receive 1 kClientData 2 body).dropLast

theorem delivers_intact_iff_heldRun :
    ∃ s, Transition.run (step forwarderJson unpackMsgpack)
        (heldRun (sendDataBody (lit "root") [0, 255])) (initial emptyDb) =
        some s ∧
      DeliversIntact forwarderJson unpackMsgpack (s.hub.identity 1)
        { msgType := kClientData, seq := 2, bodyLen := 31 } (lit "root")
        [0, 255] := by
  obtain ⟨s, hrun, hlogged, hheld⟩ : ∃ s, Transition.run
      (step forwarderJson unpackMsgpack)
      (heldRun (sendDataBody (lit "root") [0, 255])) (initial emptyDb) =
      some s ∧ (s.hub.identity 1).loggedIn = true ∧
      (s.readers 1).held =
        some ({ msgType := kClientData, seq := 2, bodyLen := 31 },
          packAll (sendDataBody (lit "root") [0, 255])) :=
    Transition.exists_run_of_check (by decide +kernel)
  refine ⟨s, hrun, ?_⟩
  exact (delivers_intact_iff forwarderJson unpackMsgpack
    invertsPack_unpackMsgpack slices_unpackMsgpack emptyDb _ s hrun 1
    (by decide) hlogged _ rfl (lit "root") [0, 255] hheld).mpr
    (.inr (by decide))

/-- A payload of 2^32 bytes: the size is cast to 0. -/
def wrappedPayload : Bytes :=
  List.replicate UInt32.size 0

theorem sendDataBody_wrappedPayload (dst : Bytes) :
    sendDataBody dst wrappedPayload =
      [.map 2, .str (lit "dst_username"), .str dst, .str (lit "payload"),
        .bin []] := by
  rw [sendDataBody, Tok.castBin, castPayload, wrappedPayload,
    List.length_replicate, Nat.mod_self, List.take_zero]

/-- The frame is admitted, and `root` is to receive an empty payload. -/
theorem wrapped_payload_emptied :
    ∃ s, Transition.run (step forwarderJson unpackMsgpack)
        (heldRun (sendDataBody (lit "root") wrappedPayload))
        (initial emptyDb) = some s ∧
      (s.hub.identity 1).loggedIn = true ∧
      (s.readers 1).held =
        some ({ msgType := kClientData, seq := 2, bodyLen := 29 },
          packAll (sendDataBody (lit "root") wrappedPayload)) ∧
      ¬DeliversIntact forwarderJson unpackMsgpack (s.hub.identity 1)
        { msgType := kClientData, seq := 2, bodyLen := 29 } (lit "root")
        wrappedPayload := by
  have hlong : ¬(lit "root" = [] ∨ wrappedPayload.length < UInt32.size) := by
    rw [wrappedPayload, List.length_replicate]
    decide
  have hbody : (packAll (sendDataBody (lit "root") wrappedPayload)).length ≤
      forwarderJson.maxBodyLen.toNat := by
    rw [sendDataBody_wrappedPayload]
    decide +kernel
  rw [sendDataBody_wrappedPayload]
  obtain ⟨s, hrun, hlogged, hname, hheld⟩ : ∃ s, Transition.run
      (step forwarderJson unpackMsgpack)
      (heldRun [.map 2, .str (lit "dst_username"), .str (lit "root"),
        .str (lit "payload"), .bin []]) (initial emptyDb) =
      some s ∧ (s.hub.identity 1).loggedIn = true ∧
      (s.hub.identity 1).username = lit "root" ∧
      (s.readers 1).held =
        some ({ msgType := kClientData, seq := 2, bodyLen := 29 },
          packAll [.map 2, .str (lit "dst_username"), .str (lit "root"),
            .str (lit "payload"), .bin []]) :=
    Transition.exists_run_of_check (by decide +kernel)
  refine ⟨s, hrun, hlogged, hheld, ?_⟩
  rw [handler_intact_iff invertsPack_unpackMsgpack hlogged
    (show (1 : Nat) < UInt64.size by decide)
    (by rw [hname]; decide +kernel) rfl hbody]
  exact hlong

end Server

end AsioForwarder
