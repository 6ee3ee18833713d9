import AsioForwarder.ReceivedEvents
import AsioForwarder.SdkWriter
import AsioForwarder.Termination

/-!
# Messages from `send_data` to `recv_deliver`

A message passes five parties: the client which sends it, the read loop of
its connection, the frame handler, the session of a recipient and the client
of the recipient.  Each of them keeps the order of the messages it passes on
and makes no message of its own, so the messages a client returns are made
of the DATA frames of the others, in the order of each sender and no frame
twice.
-/

namespace AsioForwarder

open Interaction

/-! ## The events of a client -/

namespace ClientSession

/-- What `recv` produces in a step. -/
def recvs (s : ClientSession) : ClientAction → List SdkEvent
  | .turn recv =>
      match s.waiting with
      | none => []
      | some w => (s.client.turn w recv).2.1
  | _ => []

theorem received_step {s next : ClientSession} {action : ClientAction}
    {seen : List SdkEvent} (hseen : s.received.Sublist seen)
    (hstep : s.step action = some next) :
    next.received.Sublist (seen ++ s.recvs action) := by
  cases action with
  | autoHeartbeat =>
      simp only [ClientSession.step] at hstep
      split at hstep
      · cases hstep
        simpa [recvs] using hseen
      · cases hstep
  | call made written =>
      simp only [ClientSession.step] at hstep
      split at hstep
      · split at hstep
        · cases hstep
          simpa [recvs] using hseen
        · cases hstep
          simpa [recvs] using hseen
      · cases hstep
  | turn recv =>
      simp only [ClientSession.step] at hstep
      split at hstep
      · cases hstep
      · rename_i w hw
        cases hstep
        simp only [recvs, hw]
        split
        · exact hseen.append (List.Sublist.refl _)
        · exact hseen.trans (List.sublist_append_left _ _)

theorem received_of_run {actions : List ClientAction} {s : ClientSession}
    (hrun : Transition.run step actions {} = some s) :
    s.received.Sublist (Transition.observe step recvs actions {}) :=
  Transition.observe_preserves
    (fun seen (s : ClientSession) => s.received.Sublist seen)
    (fun _ _ _ _ hseen hstep => received_step hseen hstep)
    List.Sublist.slnil hrun

/-- The messages returned and held are among those `recv` has produced. -/
theorem kept_sublist {actions : List ClientAction} {s : ClientSession}
    (hrun : Transition.run step actions {} = some s) :
    (s.returned ++ s.held).Sublist
      (deliveries (Transition.observe step recvs actions {})) := by
  have haccounted : s.Accounted :=
    Transition.run_preserves_always Accounted
      (fun _ _ _ hs hstep => hs.step hstep) accounted_initial hrun
  have hkept : s.returned ++ s.held = deliveries s.received := by
    rw [held, haccounted.drained, deliveries, List.filterMap_nil,
      List.append_nil]
    exact haccounted.kept
  rw [hkept]
  exact (received_of_run hrun).filterMap _

end ClientSession

section Deliveries

variable {unpack : Bytes → Option Obj}

theorem Wire.isDeliver_iff_of_event {w : Wire} {event : SdkEvent}
    (hevent : w.event unpack = some event) :
    w.isDeliver = true ↔ ∃ d, event = .deliver d := by
  unfold Wire.event RelayClient.eventOf at hevent
  simp only [Wire.isDeliver, decide_eq_true_eq]
  constructor
  · intro htype
    rw [if_pos htype] at hevent
    split at hevent
    · cases hevent
    · obtain ⟨d, _, rfl⟩ := Option.map_eq_some_iff.mp hevent
      exact ⟨d, rfl⟩
    · cases hevent
      exact ⟨_, rfl⟩
  · rintro ⟨d, rfl⟩
    by_contra hother
    rw [if_neg hother] at hevent
    split at hevent
    · split at hevent
      · cases hevent
      · obtain ⟨_, _, hkick⟩ := Option.map_eq_some_iff.mp hevent
        cases hkick
      · cases hevent
    · split at hevent
      · split at hevent <;> cases hevent
      · cases hevent

/-- The deliveries among the events of the first frames come from their
DELIVER frames. -/
theorem deliveries_of_events {frames : List Wire} {events : List SdkEvent}
    (hevents : events.map some <+: frames.map (Wire.event unpack)) :
    ∃ delivered, delivered.Sublist (frames.filter Wire.isDeliver) ∧
      List.Forall₂ (fun w d => w.event unpack = some (.deliver d)) delivered
        (ClientSession.deliveries events) := by
  induction frames generalizing events with
  | nil =>
      rw [List.map_nil, List.prefix_nil, List.map_eq_nil_iff] at hevents
      subst hevents
      exact ⟨[], List.Sublist.refl _, .nil⟩
  | cons w frames ih =>
      cases events with
      | nil => exact ⟨[], List.nil_sublist _, .nil⟩
      | cons event events =>
          rw [List.map_cons, List.map_cons, List.cons_prefix_cons] at hevents
          obtain ⟨hevent, hlater⟩ := hevents
          obtain ⟨delivered, hpart, hmade⟩ := ih hlater
          have hkind := Wire.isDeliver_iff_of_event hevent.symm
          cases event with
          | deliver d =>
              refine ⟨w :: delivered, ?_, .cons hevent.symm hmade⟩
              rw [List.filter_cons_of_pos (hkind.mpr ⟨d, rfl⟩)]
              exact hpart.cons_cons w
          | serverReply reply =>
              refine ⟨delivered, ?_, hmade⟩
              rw [List.filter_cons_of_neg (by simp [hkind])]
              exact hpart
          | kick reason =>
              refine ⟨delivered, ?_, hmade⟩
              rw [List.filter_cons_of_neg (by simp [hkind])]
              exact hpart

/-! ## What becomes of a DATA frame -/

/-- The message which a recipient on `d` returns for a DATA frame. -/
def DataFrame.Becomes (unpack : Bytes → Option Obj) (f : DataFrame)
    (d : ConnId) (message : Deliver) : Prop :=
  ∃ mp dst payload, unpack f.body = some (.map mp) ∧
    mapGetStr mp (lit "dst_username") = some dst ∧
    extractPayloadBin (mapGetObj mp (lit "payload")) = some payload ∧
    message = ⟨f.header.seq, f.sender.connId, d, f.sender.username, dst,
      castPayload payload⟩

theorem castPayload_castPayload (payload : Bytes) :
    castPayload (castPayload payload) = castPayload payload :=
  castPayload_of_lt (castPayload_length_lt payload)

theorem deliverWire_castPayload (seq : UInt32) (payload : Bytes)
    (srcConn dstConn : Nat) (srcUsername dstUsername : Bytes) :
    deliverWire seq (castPayload payload) srcConn dstConn srcUsername
      dstUsername =
    deliverWire seq payload srcConn dstConn srcUsername dstUsername := by
  rw [deliverWire, deliverWire, packDeliverEnvelope, packDeliverEnvelope,
    Tok.castBin, Tok.castBin, castPayload_castPayload]

theorem names_of_fits {seq : UInt32} {payload srcUsername dstUsername : Bytes}
    {srcConn dstConn : Nat}
    (hfits : (deliverWire seq payload srcConn dstConn srcUsername
      dstUsername).Fits) :
    srcUsername.length < UInt32.size ∧ dstUsername.length < UInt32.size := by
  have hsrc := (Tok.encode_str_length srcUsername).1
  have hdst := (Tok.encode_str_length dstUsername).1
  unfold Wire.Fits at hfits
  simp only [deliverWire, packDeliverEnvelope, packAll_length_cons] at hfits
  omega

theorem DataFrame.becomes_of_yields (hinverts : InvertsPack unpack)
    {f : DataFrame} {d : ConnId} {w : Wire} {message : Deliver}
    (hyields : f.Yields unpack d w) (hfits : w.Fits)
    (hsrc : f.sender.connId < UInt64.size) (hd : d < UInt64.size)
    (hevent : w.event unpack = some (.deliver message)) :
    f.Becomes unpack d message := by
  obtain ⟨mp, dst, payload, hbody, hdst, hpayload, rfl⟩ := hyields
  obtain ⟨hsrcName, hdstName⟩ := names_of_fits hfits
  rw [← deliverWire_castPayload] at hfits hevent
  have hmade := eventOf_deliverWire hinverts f.header.seq
    (castPayload_length_lt payload) hsrc hd hsrcName hdstName hfits
  have hsame := hevent.symm.trans hmade
  refine ⟨mp, dst, payload, hbody, hdst, hpayload, ?_⟩
  injection hsame with hsame
  injection hsame

end Deliveries

namespace Server

variable {cfg : Config} {unpack : Bytes → Option Obj} {db : Db}
  {events : List Event} {s : Server}

theorem attributed_of_run
    (hrun : Transition.run (step cfg unpack) events (initial db) = some s) :
    ∃ routed passedTo, s.Attributed unpack
      (Transition.observe (step cfg unpack) dataFrames events (initial db))
      routed passedTo := by
  have hinitial : (initial db).Sane ∧ (initial db).Listed cfg ∧
      ∃ routed passedTo, (initial db).Attributed unpack [] routed passedTo :=
    ⟨sane_initial db, listed_initial db, [], fun _ => [],
      attributed_initial db⟩
  have hfinal := Transition.observe_preserves (fun seen (s : Server) =>
    s.Sane ∧ s.Listed cfg ∧
      ∃ routed passedTo, s.Attributed unpack seen routed passedTo)
    (fun seen s event s' ⟨hsane, hlisted, routed, passedTo, hattributed⟩
        hstep => ⟨hsane.step hstep, hlisted.step hsane hstep,
      attributed_of_step hsane hlisted hattributed hstep⟩) hinitial hrun
  exact hfinal.2.2

theorem dataFrames_cases {s : Server} {event : Event} {f : DataFrame}
    (hf : f ∈ s.dataFrames event) :
    ∃ c h body, event = .read c .resume ∧ s.readers c = .gotBody h body ∧
      h.msgType = kClientData ∧ s.dataFrames event = [f] ∧
      f = ⟨s.hub.identity c, h, body⟩ := by
  unfold dataFrames at hf ⊢
  split at hf
  · rename_i c
    split at hf
    · rename_i h body hreader
      split at hf
      · rename_i hdata
        rw [List.mem_singleton] at hf
        exact ⟨c, h, body, rfl, hreader, hdata.2, by simp [hf, hdata], hf⟩
      · cases hf
    · cases hf
  · cases hf

/-- The DATA frames of a run come from connections which have been accepted;
those of one connection are among its requests. -/
structure Sources (c : ConnId) (frames : List DataFrame)
    (seen : List ParsedFrame) (s : Server) : Prop where
  sane : s.Sane
  accepted : ∀ f ∈ frames, f.sender.connId ≤ s.hub.reg.nextConnId
  typed : ∀ f ∈ frames, f.header.msgType = kClientData
  among : ((frames.filter (fun f => f.sender.connId = c)).map
    (fun f => (⟨f.header, f.body⟩ : ParsedFrame))).Sublist seen

theorem Sources.step {c : ConnId} {frames : List DataFrame}
    {seen : List ParsedFrame} {s s' : Server} {event : Event}
    (hsources : Sources c frames seen s)
    (hstep : s.step cfg unpack event = some s') :
    Sources c (frames ++ s.dataFrames event) (seen ++ s.requests c event)
      s' := by
  have hle := nextConnId_le_of_step hstep
  refine ⟨hsources.sane.step hstep, ?_, ?_, ?_⟩
  · intro f hf
    rcases List.mem_append.mp hf with hf | hf
    · exact Nat.le_trans (hsources.accepted f hf) hle
    · obtain ⟨d, h, body, _, hreader, _, _, rfl⟩ := dataFrames_cases hf
      refine Nat.le_trans ?_ hle
      by_contra hbeyond
      rw [(hsources.sane.fresh d (Nat.lt_of_not_le hbeyond)).1] at hreader
      cases hreader
  · intro f hf
    rcases List.mem_append.mp hf with hf | hf
    · exact hsources.typed f hf
    · obtain ⟨d, h, body, _, _, htype, _, rfl⟩ := dataFrames_cases hf
      exact htype
  · rw [List.filter_append, List.map_append]
    apply hsources.among.append
    cases hdata : s.dataFrames event with
    | nil => exact List.nil_sublist _
    | cons f more =>
        have hf : f ∈ s.dataFrames event := by
          rw [hdata]
          exact List.mem_cons_self
        obtain ⟨d, h, body, rfl, hreader, _, hone, rfl⟩ := dataFrames_cases hf
        rw [← hdata, hone]
        by_cases hsame : d = c
        · subst hsame
          simp [requests, hreader, ReadLoop.handedOver, Hub.identity,
            TcpSession.identity]
        · simp [Hub.identity, TcpSession.identity, hsame]

theorem sources_initial (c : ConnId) (db : Db) :
    Sources c [] [] (initial db) where
  sane := sane_initial db
  accepted := fun _ hf => by cases hf
  typed := fun _ hf => by cases hf
  among := List.Sublist.slnil

theorem sources_of_run
    (hrun : Transition.run (step cfg unpack) events (initial db) = some s)
    (c : ConnId) :
    Sources c
      (Transition.observe (step cfg unpack) dataFrames events (initial db))
      (Transition.observe (step cfg unpack) (requests c) events (initial db))
      s :=
  Transition.observe_preserves_both (Sources c)
    (fun _ _ _ _ _ hbefore hstep => hbefore.step hstep)
    (sources_initial c db) hrun

end Server

/-! ## Messages returned -/

/-- The messages are made of DATA frames, at the positions `origin` gives,
and those of one sender in the order of its frames. -/
structure MadeOf (unpack : Bytes → Option Obj) (frames : List DataFrame)
    (d : ConnId) (origin : List (Nat × DataFrame))
    (messages : List Deliver) : Prop where
  numbered : ∀ entry ∈ origin, frames[entry.1]? = some entry.2
  becomes : List.Forall₂ (fun entry message =>
    entry.2.Becomes unpack d message) origin messages
  upward : Subsequence.Upward (fun entry => entry.2.sender.connId) Prod.fst
    origin

theorem MadeOf.nodup {unpack : Bytes → Option Obj} {frames : List DataFrame}
    {d : ConnId} {origin : List (Nat × DataFrame)} {messages : List Deliver}
    (hmade : MadeOf unpack frames d origin messages) :
    (origin.map Prod.fst).Nodup := by
  apply List.Nodup.map_on ?_ hmade.upward.nodup
  intro entry hentry other hother hsame
  have hframe := hmade.numbered entry hentry
  rw [hsame, hmade.numbered other hother] at hframe
  exact Prod.ext hsame (Option.some.inj hframe).symm

/-- A recipient: the session `d` of the server, its socket at the client up
to any point of the stream, and the client. -/
structure Recipient (cfg : Config) (unpack : Bytes → Option Obj)
    (server : Server) (d : ConnId) (client : ClientSession) : Prop where
  numbered : d < UInt64.size
  notices : ∀ w ∈ (server.hub.sessions d).accepted, w.msgType = kMsgKick →
    w.Fits
  reads : ∃ stream sock calls actions,
    stream <+: (server.hub.sessions d).output ∧
    RelayClient.Streams sock stream ∧
    Transition.run ClientSession.step actions {} = some client ∧
    Transition.observe ClientSession.step ClientSession.recvs actions {} <+:
      (readAll (RelayClient.recvFrom unpack) calls sock).1.map Prod.snd

theorem Recipient.exists_delivered {cfg : Config}
    {unpack : Bytes → Option Obj} {server : Server} {d : ConnId}
    {client : ClientSession}
    (hrecipient : Recipient cfg unpack server d client)
    (hflowing : (server.hub.sessions d).Flowing cfg) :
    ∃ frames : List Wire,
      frames.Sublist (server.hub.sessions d).accepted ∧
      (∀ w ∈ frames, w.Fits) ∧
      ∃ delivered : List Wire,
        delivered.Sublist (frames.filter Wire.isDeliver) ∧
        List.Forall₂ (fun w message => w.event unpack = some (.deliver message))
          delivered (client.returned ++ client.held) := by
  obtain ⟨stream, sock, calls, actions, hstream, hsock, hclient, hrecvs⟩ :=
    hrecipient.reads
  obtain ⟨frames, hframes, hfits, hcut⟩ :=
    hflowing.cutFrom hrecipient.notices hstream
  have hread := readAll_events unpack hfits hcut calls
  rw [(RelayClient.readAll_recvFrom unpack calls hsock).1] at hrecvs
  have hevents := hrecvs.map some
  rw [List.map_map] at hevents
  obtain ⟨delivered, hpart, hmade⟩ :=
    deliveries_of_events (hevents.trans hread)
  have hkept := ClientSession.kept_sublist hclient
  obtain ⟨chosen, hchosen, hmade'⟩ :=
    Subsequence.exists_sublist_forall₂ hmade hkept
  exact ⟨frames, hframes, hfits, chosen, hchosen.trans hpart, hmade'⟩

theorem becomes_of_chain {unpack : Bytes → Option Obj}
    (hinverts : InvertsPack unpack) {d : ConnId} (hd : d < UInt64.size)
    {origin : List (Nat × DataFrame)} {delivered : List Wire}
    {messages : List Deliver}
    (hsources : ∀ entry ∈ origin, entry.2.sender.connId < UInt64.size)
    (hfits : ∀ w ∈ delivered, w.Fits)
    (hyields : List.Forall₂ (fun entry w => entry.2.Yields unpack d w) origin
      delivered)
    (hevents : List.Forall₂
      (fun w message => w.event unpack = some (.deliver message)) delivered
      messages) :
    List.Forall₂ (fun entry message => entry.2.Becomes unpack d message) origin
      messages := by
  induction hyields generalizing messages with
  | nil =>
      cases hevents
      exact .nil
  | cons hhead _ ih =>
      cases hevents with
      | cons hevent hevents =>
          have hmessage := DataFrame.becomes_of_yields hinverts hhead
            (hfits _ List.mem_cons_self) (hsources _ List.mem_cons_self) hd
            hevent
          refine .cons hmessage (ih ?_ ?_ hevents)
          · intro entry hentry
            exact hsources entry (List.mem_cons_of_mem _ hentry)
          · intro w hw
            exact hfits w (List.mem_cons_of_mem _ hw)

namespace Server

variable {cfg : Config} {unpack : Bytes → Option Obj} {db : Db}
  {events : List Event} {s : Server}

theorem exists_madeOf (hinverts : InvertsPack unpack)
    (hgood : Transition.Along (step cfg unpack) NoWriteError events
      (initial db))
    (hrun : Transition.run (step cfg unpack) events (initial db) = some s)
    (hids : s.hub.reg.nextConnId < UInt64.size) {d : ConnId}
    {client : ClientSession} (hrecipient : Recipient cfg unpack s d client) :
    ∃ origin, MadeOf unpack
      (Transition.observe (step cfg unpack) dataFrames events (initial db)) d
      origin (client.returned ++ client.held) := by
  have hinline : InLine (s.hub.sessions d) (framesTo d s.hub.calls) :=
    Transition.run_preserves
      (fun s : Server => InLine (s.hub.sessions d) (framesTo d s.hub.calls))
      (fun _ _ _ hbefore hgood hstep => inLine_of_step hgood hstep hbefore)
      (inLine_fresh _ _) hgood hrun
  obtain ⟨routed, passedTo, hattributed⟩ := attributed_of_run hrun
  have hsources := sources_of_run hrun d
  obtain ⟨frames, hframes, hfits, delivered, hdelivered, hevents⟩ :=
    hrecipient.exists_delivered (flowing_of_run hgood hrun d)
  have hpassed : delivered.Sublist
      ((framesTo d s.hub.calls).filter Wire.isDeliver) := by
    refine hdelivered.trans (List.Sublist.trans ?_ hinline.line)
    exact (hframes.trans (List.sublist_append_left _ _)).filter _
  obtain ⟨origin, horigin, hyields⟩ :=
    Subsequence.exists_sublist_forall₂ (hattributed.passed d) hpassed
  have hwhole := horigin.trans (hattributed.part d)
  have hnumbered := fun entry hentry =>
    hattributed.numbered entry (hwhole.subset hentry)
  refine ⟨origin, hnumbered, ?_, hattributed.upward.sublist hwhole⟩
  apply becomes_of_chain hinverts hrecipient.numbered ?_ ?_ hyields hevents
  · intro entry hentry
    exact Nat.lt_of_le_of_lt (hsources.accepted _
      (List.mem_of_getElem? (hnumbered entry hentry))) hids
  · intro w hw
    exact hfits w (List.mem_of_mem_filter (hdelivered.subset hw))

/-- Every message `recv_deliver` has returned, and every message the client
still holds, is made of one DATA frame of a logged-in session.  No two are
made of one frame, and those of one sender come in the order of its
frames. -/
theorem messages_of_frames (cfg : Config) {unpack : Bytes → Option Obj}
    (hinverts : InvertsPack unpack) (db : Db) {events : List Event}
    {s : Server}
    (hgood : Transition.Along (step cfg unpack) NoWriteError events
      (initial db))
    (hrun : Transition.run (step cfg unpack) events (initial db) = some s)
    (hids : s.hub.reg.nextConnId < UInt64.size) {d : ConnId}
    {client : ClientSession} (hrecipient : Recipient cfg unpack s d client) :
    ∃ origin, MadeOf unpack
        (Transition.observe (step cfg unpack) dataFrames events (initial db))
        d origin (client.returned ++ client.held) ∧
      (origin.map Prod.fst).Nodup := by
  obtain ⟨origin, hmade⟩ := exists_madeOf hinverts hgood hrun hids hrecipient
  exact ⟨origin, hmade, hmade.nodup⟩

/-- `root` logs in and sends itself a message. -/
def echoRun : List Event :=
  [.accept (lit "10.0.0.1")] ++
    receive 1 kClientLogin 2 (sdkLoginBody (lit "root") (lit "pw")
      (lit "admin") (lit "broadcast")) ++ advances 1 6 ++
    receive 1 kClientData 3 (sendDataBody (lit "root") [7]) ++ advances 1 4 ++
    writes 1 3 3

/-- The client of `root` signs on and returns the message. -/
def echoTurns : List ClientAction :=
  [.turn (some (.serverReply { seq := 2, ok := true, op := lit "LOGIN" })),
    .call .recvDeliver true,
    .turn (some (.deliver ⟨3, 1, 1, lit "root", lit "root", [7]⟩))]

theorem echo_recipient :
    ∃ s client, Transition.run (step forwarderJson unpackMsgpack) echoRun
        (initial emptyDb) = some s ∧
      s.hub.reg.nextConnId = 1 ∧
      client.returned = [⟨3, 1, 1, lit "root", lit "root", [7]⟩] ∧
      Recipient forwarderJson unpackMsgpack s 1 client := by
  obtain ⟨s, hrun, hids, hnotices, hnonempty, hrecvs⟩ : ∃ s : Server,
      Transition.run (step forwarderJson unpackMsgpack) echoRun
        (initial emptyDb) = some s ∧
      s.hub.reg.nextConnId = 1 ∧
      (∀ w ∈ (s.hub.sessions 1).accepted, w.msgType ≠ kMsgKick) ∧
      (s.hub.sessions 1).output ≠ [] ∧
      Transition.observe ClientSession.step ClientSession.recvs echoTurns {}
        <+: (readAll (RelayClient.recvFrom unpackMsgpack) 3
          ⟨true, [(s.hub.sessions 1).output]⟩).1.map Prod.snd :=
    Transition.exists_run_of_check (by decide +kernel)
  obtain ⟨client, hclient, hreturned⟩ : ∃ client,
      Transition.run ClientSession.step echoTurns {} = some client ∧
      client.returned = [⟨3, 1, 1, lit "root", lit "root", [7]⟩] :=
    Transition.exists_run_of_check (by decide +kernel)
  have hstreams : RelayClient.Streams ⟨true, [(s.hub.sessions 1).output]⟩
      (s.hub.sessions 1).output :=
    ⟨rfl, List.append_nil _, fun chunk hchunk =>
      (List.mem_singleton.mp hchunk).symm ▸ hnonempty⟩
  exact ⟨s, client, hrun, hids, hreturned, by decide,
    fun w hw hkick => absurd hkick (hnotices w hw),
    _, _, 3, echoTurns, List.prefix_rfl, hstreams, hclient, hrecvs⟩

theorem messages_of_frames_echo :
    ∃ (client : ClientSession) (frames : List DataFrame)
      (origin : List (Nat × DataFrame)),
      client.returned = [⟨3, 1, 1, lit "root", lit "root", [7]⟩] ∧
      MadeOf unpackMsgpack frames 1 origin (client.returned ++ client.held) ∧
      (origin.map Prod.fst).Nodup := by
  obtain ⟨s, client, hrun, hids, hreturned, hrecipient⟩ := echo_recipient
  obtain ⟨origin, hmade⟩ := messages_of_frames forwarderJson
    invertsPack_unpackMsgpack emptyDb
    (Transition.along_of_check (by decide +kernel)) hrun
    (by rw [hids]; decide) hrecipient
  exact ⟨client, _, origin, hreturned, hmade⟩

end Server

/-! ## One sender -/

/-- The message is the one a call of `send_data` has put into the frame. -/
def FrameSpec.Sends (f : FrameSpec) (message : Deliver) : Prop :=
  ∃ dst payload, f.msgType = kClientData ∧
    f.body = packAll (sendDataBody dst payload) ∧ message.seq = f.seq ∧
    message.dstUsername = dst ∧ message.payload = castPayload payload

def DataFrame.spec (f : DataFrame) : FrameSpec where
  msgType := f.header.msgType
  seq := f.header.seq
  body := f.body

theorem sends_of_becomes {unpack : Bytes → Option Obj}
    (hinverts : InvertsPack unpack) {f : DataFrame} {made : SdkCall}
    (htype : f.spec.msgType = kClientData)
    (hmsg : f.spec.msgType = made.message.1)
    (hbody : f.spec.body = made.message.2)
    (hsize : f.spec.body.length < UInt32.size) {d : ConnId}
    {message : Deliver} (hbecomes : f.Becomes unpack d message) :
    f.spec.Sends message := by
  rw [htype] at hmsg
  cases made with
  | sendData dst payload =>
      have hbody : f.body = packAll (sendDataBody dst payload) := hbody
      obtain ⟨mp, dst', payload', hunpack, hdst, hpayload, rfl⟩ := hbecomes
      have hmap := unpack_sendDataBody hinverts dst payload
        (by rw [← hbody]; exact hsize)
      rw [hbody, hmap] at hunpack
      injection hunpack with hunpack
      injection hunpack with hunpack
      subst hunpack
      have hdst' : dst' = dst := (Option.some.inj hdst).symm
      have hpayload' : payload' = castPayload payload :=
        (Option.some.inj hpayload).symm
      refine ⟨dst, payload, htype, hbody, rfl, hdst', ?_⟩
      rw [hpayload']
      exact castPayload_castPayload payload
  | login username password peerRole recvMode => cases hmsg
  | heartbeat => cases hmsg
  | controlListUsers => cases hmsg
  | controlKickUser target => cases hmsg
  | controlSendRaw body => cases hmsg

namespace Server

/-- The whole way of a message.  If the connection `c` brings the server the
bytes a client has written, or the beginning of them, then the messages from
`c` which a recipient has returned or holds are those of calls of `send_data`
of this client, in the order of the calls and none of them twice. -/
theorem messages_of_sender (cfg : Config) {unpack : Bytes → Option Obj}
    (hinverts : InvertsPack unpack) (db : Db) {events : List Event}
    {s : Server}
    (hgood : Transition.Along (step cfg unpack) NoWriteError events
      (initial db))
    (hrun : Transition.run (step cfg unpack) events (initial db) = some s)
    (hids : s.hub.reg.nextConnId < UInt64.size) {d : ConnId}
    {client : ClientSession} (hrecipient : Recipient cfg unpack s d client)
    {calls : List WriterEvent} {sender : SdkWriter}
    (hsticky : Transition.Along SdkWriter.step SdkWriter.Sticky calls {})
    (hsender : Transition.run SdkWriter.step calls {} = some sender)
    (hsizes : ∀ f ∈ sender.emitted, f.body.length < UInt32.size) (c : ConnId)
    (hlink : Transition.observe (step cfg unpack) (bytesRead c) events
      (initial db) <+: sender.written) :
    ∃ sent, sent.Sublist sender.emitted ∧
      List.Forall₂ FrameSpec.Sends sent
        ((client.returned ++ client.held).filter
          (fun message => message.srcConnId = c)) := by
  obtain ⟨origin, hmade⟩ := exists_madeOf hinverts hgood hrun hids hrecipient
  obtain ⟨whole, part, hwhole, hhandled⟩ :=
    SdkWriter.exists_handled hrun hsticky hsender hsizes hlink
  have hsources := sources_of_run hrun c
  have hspoken := SdkWriter.spoken_of_run hsender
  have hsame : ∀ entry ∈ origin.filter
      (fun entry => entry.2.sender.connId = c),
      entry.2.sender.connId = c := by
    intro entry hentry
    exact of_decide_eq_true (List.mem_filter.mp hentry).2
  have hframes : ((origin.filter
      (fun entry => entry.2.sender.connId = c)).map Prod.snd).Sublist
      (Transition.observe (step cfg unpack) dataFrames events
        (initial db)) := by
    apply Subsequence.sublist_of_numbered
    · refine (hmade.upward.sublist List.filter_sublist).imp_of_mem ?_
      intro earlier later hearlier hlater hbelow
      exact hbelow ((hsame earlier hearlier).trans (hsame later hlater).symm)
    · intro entry hentry
      exact hmade.numbered entry (List.mem_of_mem_filter hentry)
  have hsent : ((origin.filter (fun entry => entry.2.sender.connId = c)).map
      (fun entry => entry.2.spec)).Sublist sender.emitted := by
    have hkept := hframes.filter (fun f => f.sender.connId = c)
    rw [List.filter_eq_self.mpr (by
      intro f hf
      obtain ⟨entry, hentry, rfl⟩ := List.mem_map.mp hf
      exact decide_eq_true (hsame entry hentry))] at hkept
    have hrequests := (hkept.map
      (fun f => (⟨f.header, f.body⟩ : ParsedFrame))).trans hsources.among
    have hspecs := (hrequests.map ParsedFrame.spec).trans
      (hhandled.sublist.trans hwhole.inOrder)
    rw [List.map_map, List.map_map] at hspecs
    exact hspecs
  refine ⟨_, hsent, ?_⟩
  rw [List.forall₂_map_left_iff]
  have hbecomes := List.rel_filter
    (p := fun entry => decide (entry.2.sender.connId = c))
    (q := fun message => decide (message.srcConnId = c)) (by
      rintro entry message ⟨_, _, _, _, _, _, rfl⟩
      rfl) hmade.becomes
  have hgiven : ∀ entry ∈ origin.filter
      (fun entry => entry.2.sender.connId = c),
      entry.2.spec ∈ sender.emitted ∧ entry.2.spec.msgType = kClientData := by
    intro entry hentry
    refine ⟨hsent.subset (List.mem_map_of_mem hentry), ?_⟩
    exact hsources.typed _ (List.mem_of_getElem?
      (hmade.numbered entry (List.mem_of_mem_filter hentry)))
  refine ((List.forall₂_and_left _ _).mpr ⟨hgiven, hbecomes⟩).imp ?_
  rintro entry message ⟨⟨hemitted, htype⟩, hbecomes⟩
  obtain ⟨made, hmsg, hbody⟩ := hspoken _ hemitted
  exact sends_of_becomes hinverts htype hmsg hbody (hsizes _ hemitted) hbecomes

/-- The client of `root` writes a login and a message. -/
def echoCalls : List WriterEvent :=
  [.enter 0 (.login (lit "root") (lit "pw") (lit "admin") (lit "broadcast")),
    .lock 0, .write 24, .write 63,
    .enter 0 (.sendData (lit "root") [7]), .lock 0, .write 24, .write 30]

theorem messages_of_sender_echo :
    ∃ (client : ClientSession) (sender : SdkWriter) (sent : List FrameSpec),
      client.returned = [⟨3, 1, 1, lit "root", lit "root", [7]⟩] ∧
      Transition.run SdkWriter.step echoCalls {} = some sender ∧
      sent.Sublist sender.emitted ∧
      List.Forall₂ FrameSpec.Sends sent
        ((client.returned ++ client.held).filter
          (fun message => message.srcConnId = 1)) := by
  obtain ⟨s, client, hrun, hids, hreturned, hrecipient⟩ := echo_recipient
  obtain ⟨sender, hsender, hsizes, hwritten⟩ : ∃ sender,
      Transition.run SdkWriter.step echoCalls {} = some sender ∧
      (∀ f ∈ sender.emitted, f.body.length < UInt32.size) ∧
      Transition.observe (step forwarderJson unpackMsgpack) (bytesRead 1)
        echoRun (initial emptyDb) <+: sender.written :=
    Transition.exists_run_of_check (by decide +kernel)
  obtain ⟨sent, hsent⟩ := messages_of_sender forwarderJson
    invertsPack_unpackMsgpack emptyDb
    (Transition.along_of_check (by decide +kernel)) hrun
    (by rw [hids]; decide) hrecipient
    (Transition.along_of_check (by decide +kernel)) hsender hsizes 1 hwritten
  exact ⟨client, sender, sent, hreturned, hsender, hsent⟩

end Server

end AsioForwarder
