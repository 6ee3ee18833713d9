import AsioForwarder.DeliveryOrder
import AsioForwarder.PayloadTransparency
import AsioForwarder.RequestStream

/-!
# From the queue of a session to `recv`

A session writes whole frames and at most the beginning of one more, and the
send queue takes no frame longer than its hard limit.  Wherever the stream of
a session breaks off, `recv` has returned the events of its first frames, one
for each, and waits for the next.
-/

namespace AsioForwarder

/-! ## Streams of frames -/

/-- The length of the body fits into the header. -/
def Wire.Fits (w : Wire) : Prop :=
  (packAll w.body).length < UInt32.size

/-- What `recv` makes of the bytes of a frame. -/
def Wire.event (unpack : Bytes → Option Obj) (w : Wire) : Option SdkEvent :=
  RelayClient.eventOf w.msgType w.seq (unpack (packAll w.body))

/-- The bytes are `frames` and at most the beginning of one more. -/
def CutFrom (frames : List Wire) (bytes : Bytes) : Prop :=
  ∃ tail, bytes = wireBytes frames ++ tail ∧
    (tail = [] ∨ ∃ w : Wire, w.Fits ∧
      ∃ rest, rest ≠ [] ∧ tail ++ rest = w.bytes)

theorem cutFrom_prefix {frames : List Wire}
    (hfits : ∀ w ∈ frames, w.Fits) {bytes stream : Bytes}
    (hcut : CutFrom frames bytes) (hbegins : stream <+: bytes) :
    ∃ earlier, earlier <+: frames ∧ CutFrom earlier stream := by
  obtain ⟨tail, hbytes, htail⟩ := hcut
  obtain ⟨more, hmore⟩ := hbegins
  rw [hbytes] at hmore
  clear hbytes
  induction frames generalizing stream with
  | nil =>
      rw [wireBytes_nil, List.nil_append] at hmore
      refine ⟨[], List.prefix_rfl, stream, rfl, ?_⟩
      rcases htail with rfl | ⟨w, hw, rest, hrest, hwhole⟩
      · exact .inl (List.append_eq_nil_iff.mp hmore).1
      · right
        refine ⟨w, hw, more ++ rest, ?_, ?_⟩
        · exact fun hnil => hrest (List.append_eq_nil_iff.mp hnil).2
        · rw [← List.append_assoc, hmore, hwhole]
  | cons w frames ih =>
      have hcons : wireBytes (w :: frames) = w.bytes ++ wireBytes frames := rfl
      rw [hcons, List.append_assoc] at hmore
      rcases List.append_eq_append_iff.mp hmore with
        ⟨left, hw, _⟩ | ⟨later, hstream, hlater⟩
      · by_cases hleft : left = []
        · rw [hleft, List.append_nil] at hw
          refine ⟨[w], List.cons_prefix_cons.mpr ⟨rfl, List.nil_prefix⟩, [], ?_,
            .inl rfl⟩
          rw [wireBytes_singleton, List.append_nil, hw]
        · exact ⟨[], List.nil_prefix, stream, rfl,
            .inr ⟨w, hfits w List.mem_cons_self, left, hleft, hw.symm⟩⟩
      · obtain ⟨earlier, hearlier, tail', htail', hended⟩ :=
          ih (fun other hother => hfits other (List.mem_cons_of_mem w hother))
            hlater.symm
        refine ⟨w :: earlier, List.cons_prefix_cons.mpr ⟨rfl, hearlier⟩, tail',
          ?_, hended⟩
        rw [hstream, htail', ← List.append_assoc]
        rfl

section Events

variable (unpack : Bytes → Option Obj)

theorem readEvent_begun {w : Wire} (hw : w.Fits) {part rest : Bytes}
    (hrest : rest ≠ []) (hbytes : part ++ rest = w.bytes) :
    (RelayClient.readEvent unpack part).1 = none := by
  rcases Header.begun_of_append hrest hbytes with hshort |
    ⟨begun, rfl, hbegun⟩
  · rw [RelayClient.readEvent, readExact, if_neg (Nat.not_le.mpr hshort)]
  · have hheader := fun h : Header => (by
      simpa using Header.unpackLe_packLe h [] :
        Header.unpackLe h.packLe = h)
    have hlen : (UInt32.ofNat (packAll w.body).length).toNat =
        (packAll w.body).length := by
      rw [UInt32.toNat_ofNat']
      exact Nat.mod_eq_of_lt hw
    rw [RelayClient.readEvent, readExact_of_length (Header.packLe_length _)]
    dsimp only
    rw [hheader, hlen, readExact, if_neg (Nat.not_le.mpr hbegun)]

/-- One event for each frame, up to the first which cannot be read or is not
complete. -/
theorem readAll_events {frames : List Wire} (hfits : ∀ w ∈ frames, w.Fits)
    {stream : Bytes} (hcut : CutFrom frames stream) (calls : Nat) :
    (readAll (RelayClient.readEvent unpack) calls stream).1.map
      (fun read => some read.2) <+: frames.map (Wire.event unpack) := by
  obtain ⟨tail, rfl, htail⟩ := hcut
  induction frames generalizing calls with
  | nil =>
      have hnone : (RelayClient.readEvent unpack tail).1 = none := by
        rcases htail with rfl | ⟨w, hw, rest, hrest, hbytes⟩
        · rfl
        · exact readEvent_begun unpack hw hrest hbytes
      rw [wireBytes_nil, List.nil_append, readAll_of_none hnone]
      exact List.prefix_rfl
  | cons w frames ih =>
      have hlater := ih
        (fun other hother => hfits other (List.mem_cons_of_mem w hother))
      have hcons : wireBytes (w :: frames) = w.bytes ++ wireBytes frames := rfl
      rw [hcons, List.append_assoc]
      cases calls with
      | zero => exact List.nil_prefix
      | succ calls =>
          have hread := readEvent_wire unpack w (wireBytes frames ++ tail)
            (hfits w List.mem_cons_self)
          cases hevent : w.event unpack with
          | none =>
              rw [Wire.event] at hevent
              rw [hevent, Option.map_none] at hread
              rw [readAll_of_none (by rw [hread])]
              exact List.nil_prefix
          | some event =>
              have hhead := hevent
              rw [Wire.event] at hevent
              rw [hevent, Option.map_some] at hread
              rw [readAll, hread]
              exact List.cons_prefix_cons.mpr ⟨hhead.symm, hlater calls⟩

end Events

/-! ## Sessions -/

namespace TcpSession

/-- The output is accepted frames in their order and at most the beginning of
one more. -/
def Cut (s : TcpSession) : Prop :=
  ∃ whole tail, whole.Sublist s.accepted ∧ s.output = wireBytes whole ++ tail ∧
    (tail = [] ∨ ∃ w ∈ s.accepted, ∃ rest, rest ≠ [] ∧ tail ++ rest = w.bytes)

theorem cut_of_part {s : TcpSession} {done : List Wire} {w : Wire}
    {sent rest : Bytes} (hbytes : w.bytes = sent ++ rest)
    (houtput : s.output = wireBytes done ++ sent)
    (hwritten : (done ++ [w]).Sublist s.accepted) : s.Cut := by
  by_cases hrest : rest = []
  · subst hrest
    rw [List.append_nil] at hbytes
    refine ⟨done ++ [w], [], hwritten, ?_, .inl rfl⟩
    rw [wireBytes_append, wireBytes_singleton, List.append_nil, hbytes]
    exact houtput
  · exact ⟨done, sent, (List.sublist_append_left _ _).trans hwritten, houtput,
      .inr ⟨w, hwritten.subset (by simp), rest, hrest, hbytes.symm⟩⟩

theorem Phase.cut {s : TcpSession} (hphase : s.Phase) : s.Cut := by
  cases hphase with
  | idle done _ _ _ _ houtput hdone =>
      exact ⟨done, [], hdone, by rw [List.append_nil]; exact houtput, .inl rfl⟩
  | busy done w sent rest _ _ _ hbytes houtput hfrom =>
      exact cut_of_part hbytes houtput hfrom.written
  | ended done w sent rest ec _ _ _ _ hbytes houtput hfrom =>
      exact cut_of_part hbytes houtput hfrom.written
  | failed done w sent rest _ _ _ _ hbytes houtput hwritten =>
      exact cut_of_part hbytes houtput hwritten

theorem Cut.frame {s next : TcpSession} (hcut : s.Cut)
    (houtput : next.output = s.output)
    (haccepted : s.accepted <+: next.accepted) :
    next.Cut := by
  obtain ⟨whole, tail, hwhole, hsplit, hended⟩ := hcut
  refine ⟨whole, tail, hwhole.trans haccepted.sublist, houtput.trans hsplit, ?_⟩
  rcases hended with hnil | ⟨w, hw, hrest⟩
  · exact .inl hnil
  · exact .inr ⟨w, haccepted.subset hw, hrest⟩

/-- Every frame accepted but a KICK notice is below the high-water mark. -/
structure BelowMark (cfg : Config) (s : TcpSession) : Prop where
  accepted : ∀ w ∈ s.accepted, w.msgType = kMsgKick ∨
    w.bytes.length ≤ cfg.highWaterBytes.toNat
  notices : ∀ w logWhy, Handler.kick w logWhy ∈ s.posted →
    w.msgType = kMsgKick

theorem length_le_of_handleSend {cfg : Config} {s : TcpSession} {w : Wire}
    (haccepted : (s.handleSend cfg w).accepted = s.accepted ++ [w]) :
    w.bytes.length ≤ cfg.highWaterBytes.toNat := by
  have hgrown : (s.handleSend cfg w).accepted ≠ s.accepted := by
    rw [haccepted]
    simp
  by_cases hrefused : s.stopped = true ∨ s.Refuses cfg (.sendFrame w)
  · obtain hsame | ⟨why, hstop⟩ | hlogged := handleSend_refused hrefused
    · exact absurd (by rw [hsame]) hgrown
    · exact absurd (by rw [hstop]; rfl) hgrown
    · exact absurd (by rw [hlogged]) hgrown
  · simp only [Refuses, not_or, Nat.not_lt] at hrefused
    exact Nat.le_of_add_left_le hrefused.2.2

theorem BelowMark.handle {cfg : Config} {handler : Handler} {s : TcpSession}
    (hmark : s.BelowMark cfg)
    (hnotice : ∀ w logWhy, handler = .kick w logWhy → w.msgType = kMsgKick) :
    (s.handle cfg handler).BelowMark cfg := by
  have hhandled := handled_handle cfg handler s
  refine ⟨?_, ?_⟩
  · intro w hw
    rcases hhandled.accepted with hsame | ⟨new, hnew, haccepted⟩
    · rw [hsame] at hw
      exact hmark.accepted w hw
    rw [haccepted] at hw
    rcases List.mem_append.mp hw with hw | hw
    · exact hmark.accepted w hw
    · rw [List.mem_singleton] at hw
      subst hw
      cases handler with
      | kick notifyWire logWhy =>
          cases hnew
          exact .inl (hnotice _ _ rfl)
      | sendFrame bytes =>
          cases hnew
          exact .inr (length_le_of_handleSend haccepted)
      | stop why => cases hnew
      | written bytes ec => cases hnew
  · intro w logWhy hw
    obtain ⟨more, hmore, hposted⟩ := hhandled.posted
    rw [hposted] at hw
    rcases List.mem_append.mp hw with hw | hw
    · exact hmark.notices w logWhy hw
    · have hframe := List.filterMap_eq_nil_iff.mp hmore _ hw
      cases hframe

/-- What holds of a session when no write fails on an open socket. -/
structure Flowing (cfg : Config) (s : TcpSession) : Prop where
  sound : s.Sound
  cut : s.Cut
  mark : s.BelowMark cfg

theorem flowing_fresh (cfg : Config) (ip : Bytes) :
    Flowing cfg { peerIp := ip } where
  sound := sound_fresh ip
  cut := (phase_fresh ip).cut
  mark := ⟨fun _ hw => (by cases hw), fun _ _ hw => (by cases hw)⟩

theorem BelowMark.post {cfg : Config} {s : TcpSession} {handler : Handler}
    (hmark : s.BelowMark cfg)
    (hnotice : ∀ w logWhy, handler = .kick w logWhy → w.msgType = kMsgKick) :
    (s.post handler).BelowMark cfg where
  accepted := hmark.accepted
  notices := by
    intro w logWhy hw
    rcases List.mem_append.mp hw with hw | hw
    · exact hmark.notices w logWhy hw
    · exact hnotice w logWhy (List.mem_singleton.mp hw).symm

theorem BelowMark.ioStep {cfg : Config} {s next : TcpSession} {event : IoEvent}
    (hmark : s.BelowMark cfg) (hstep : s.ioStep cfg event = some next) :
    next.BelowMark cfg := by
  obtain ⟨handler, later, rfl, hposted, rfl⟩ |
    ⟨index, count, write, rfl, hwrite, _, rfl⟩ |
    ⟨index, write, rfl, hwrite, _, rfl⟩ |
    ⟨index, write, message, rfl, hwrite, _, rfl⟩ := ioStep_cases hstep
  · have hlater : BelowMark cfg { s with posted := later } :=
      ⟨hmark.accepted, fun w logWhy hw => hmark.notices w logWhy
        (by rw [hposted]; exact List.mem_cons_of_mem handler hw)⟩
    apply hlater.handle
    rintro w logWhy rfl
    exact hmark.notices w logWhy (by rw [hposted]; exact List.mem_cons_self)
  · exact ⟨hmark.accepted, hmark.notices⟩
  · exact BelowMark.post ⟨hmark.accepted, hmark.notices⟩
      (fun _ _ hsame => by cases hsame)
  · exact BelowMark.post ⟨hmark.accepted, hmark.notices⟩
      (fun _ _ hsame => by cases hsame)

theorem Flowing.ioStep {cfg : Config} {s next : TcpSession} {event : IoEvent}
    (hflowing : s.Flowing cfg) (hgood : ¬s.WriteErrorOn event)
    (hstep : s.ioStep cfg event = some next) : next.Flowing cfg := by
  have hsound := hflowing.sound.ioStep hgood hstep
  refine ⟨hsound, ?_, hflowing.mark.ioStep hstep⟩
  have haccepted := ioStep_accepted hstep
  obtain ⟨handler, later, rfl, hposted, rfl⟩ |
    ⟨index, count, write, rfl, hwrite, hopen, rfl⟩ |
    ⟨index, write, rfl, hwrite, _, rfl⟩ |
    ⟨index, write, message, rfl, hwrite, _, rfl⟩ := ioStep_cases hstep
  · exact hflowing.cut.frame
      (handled_handle cfg handler { s with posted := later }).output haccepted
  · -- bytes are handed over, and only through an open socket
    exact (hsound.phase hopen).cut
  · exact hflowing.cut.frame rfl haccepted
  · exact hflowing.cut.frame rfl haccepted

theorem Flowing.call {cfg : Config} {s : TcpSession} (hflowing : s.Flowing cfg)
    (made : Call) : (made.apply s).Flowing cfg := by
  have hsound := hflowing.sound.call cfg made
  cases made with
  | sendFrame wire =>
      exact ⟨hsound, hflowing.cut.frame rfl List.prefix_rfl,
        hflowing.mark.post (fun _ _ hsame => by cases hsame)⟩
  | stop why =>
      exact ⟨hsound, hflowing.cut.frame rfl List.prefix_rfl,
        hflowing.mark.post (fun _ _ hsame => by cases hsame)⟩
  | markLogin uid isAdmin username =>
      exact ⟨hsound, hflowing.cut.frame rfl List.prefix_rfl,
        ⟨hflowing.mark.accepted, hflowing.mark.notices⟩⟩
  | notifyAndClose userReason logWhy =>
      simp only [Call.apply, TcpSession.notifyAndClose] at hsound ⊢
      split at hsound
      · rename_i hlogged
        rw [if_pos hlogged]
        refine ⟨hsound, hflowing.cut.frame rfl List.prefix_rfl, ?_⟩
        have hmark : (s.post (.kick (kickWire userReason) logWhy)).BelowMark
            cfg :=
          hflowing.mark.post (fun w _ hsame => by cases hsame; rfl)
        exact ⟨hmark.accepted, hmark.notices⟩
      · rename_i hlogged
        rw [if_neg hlogged]
        exact ⟨hsound, hflowing.cut.frame rfl List.prefix_rfl,
          hflowing.mark.post (fun _ _ hsame => by cases hsame)⟩

theorem Flowing.closeSocket {cfg : Config} {s : TcpSession}
    (hflowing : s.Flowing cfg) : s.closeSocket.Flowing cfg :=
  ⟨hflowing.sound.closeSocket, hflowing.cut.frame rfl List.prefix_rfl,
    ⟨hflowing.mark.accepted, hflowing.mark.notices⟩⟩

/-- The stream of a session, broken off anywhere. -/
theorem Flowing.cutFrom {cfg : Config} {s : TcpSession}
    (hflowing : s.Flowing cfg)
    (hnotices : ∀ w ∈ s.accepted, w.msgType = kMsgKick → w.Fits)
    {stream : Bytes} (hbegins : stream <+: s.output) :
    ∃ frames, frames.Sublist s.accepted ∧ (∀ w ∈ frames, w.Fits) ∧
      CutFrom frames stream := by
  have hfits : ∀ w ∈ s.accepted, w.Fits := by
    intro w hw
    rcases hflowing.mark.accepted w hw with hkick | hbelow
    · exact hnotices w hw hkick
    · have hmark := UInt32.toNat_lt_size cfg.highWaterBytes
      rw [w.bytes_length] at hbelow
      unfold Wire.Fits
      omega
  obtain ⟨whole, tail, hwhole, houtput, htail⟩ := hflowing.cut
  obtain ⟨frames, hframes, hcut⟩ :=
    cutFrom_prefix (fun w hw => hfits w (hwhole.subset hw))
      ⟨tail, houtput, htail.imp_right (fun ⟨w, hw, hrest⟩ =>
        ⟨w, hfits w hw, hrest⟩)⟩ hbegins
  have hpart := hframes.sublist.trans hwhole
  exact ⟨frames, hpart, fun w hw => hfits w (hpart.subset hw), hcut⟩

end TcpSession

/-! ## Runs of the server -/

namespace Server

variable {cfg : Config} {unpack : Bytes → Option Obj}

theorem flowing_of_step {s s' : Server} {event : Event}
    (hgood : s.NoWriteError event)
    (hstep : s.step cfg unpack event = some s') {c : ConnId}
    (hflowing : (s.hub.sessions c).Flowing cfg) :
    (s'.hub.sessions c).Flowing cfg := by
  have hone : ∀ (d : ConnId) (made : Call),
      ((s.hub.call d made).sessions c).Flowing cfg := by
    intro d made
    by_cases hsame : c = d
    · subst hsame
      rw [Hub.call_sessions_self]
      exact hflowing.call made
    · rwa [Hub.call_sessions_ne _ _ hsame]
  cases stepped_of_step hstep with
  | accept peerIp =>
      by_cases hnew : c = s.hub.reg.nextConnId + 1
      · subst hnew
        simpa [Hub.accept] using TcpSession.flowing_fresh cfg peerIp
      · simpa [Hub.accept, hnew] using hflowing
  | give d event made hreader hkind => exact hone d made
  | perform d env q q' op hreader hop hallows hsender hheader hstage =>
      rw [setReader_hub, Op.exec_sessions]
      generalize Hub.callsOn c (op.calls cfg env s.hub) = calls
      generalize s.hub.sessions c = session at hflowing
      induction calls generalizing session with
      | nil => exact hflowing
      | cons made rest ih => exact ih (made.apply session) (hflowing.call made)
  | closeSocket d hreader =>
      by_cases hsame : c = d
      · subst hsame
        simpa [Hub.closeSocket, Hub.setSession] using hflowing.closeSocket
      · simpa [Hub.closeSocket, Hub.setSession, hsame] using hflowing
  | io d io session hio =>
      by_cases hsame : c = d
      · subst hsame
        simpa [Hub.setSession] using hflowing.ioStep hgood hio
      · simpa [Hub.setSession, hsame] using hflowing
  | heartbeatTimeout d hlogged hopen => exact hone d heartbeatCall
  | move d event loop loop' hreader hmoved => exact hflowing
  | finish d env q hreader hdone => exact hflowing
  | removeSession d hreader => exact hflowing
  | snapshotStats => exact hflowing

theorem flowing_of_run {db : Db} {events : List Event} {s : Server}
    (hgood : Transition.Along (step cfg unpack) NoWriteError events
      (initial db))
    (hrun : Transition.run (step cfg unpack) events (initial db) = some s)
    (c : ConnId) : (s.hub.sessions c).Flowing cfg :=
  Transition.run_preserves
    (fun s : Server => (s.hub.sessions c).Flowing cfg)
    (fun _ _ _ hbefore hgood hstep => flowing_of_step hgood hstep hbefore)
    (TcpSession.flowing_fresh cfg _) hgood hrun

end Server

end AsioForwarder
