import AsioForwarder.SessionKick

/-!
# What a connection receives

The line of a session are the frames accepted into its queue and those still
waiting on its strand; a handler accepts its frame or drops it, so the line
only loses frames.  As long as no write fails on an open socket, the bytes
which have reached the socket are whole accepted frames in their order and a
part of one more.  Once the socket is closed nothing reaches it any longer,
whatever becomes of the write in progress.
-/

namespace AsioForwarder

/-- The frames which `output` contains completely, and nothing after them but
a part of one more. -/
def Received (output : Bytes) (frames : List Wire) : Prop :=
  ∃ tail, output = wireBytes frames ++ tail ∧
    (tail = [] ∨ ∃ w : Wire, tail <+: w.bytes ∧ tail ≠ w.bytes)

def Wire.isDeliver (wire : Wire) : Bool :=
  wire.msgType = kMsgDeliver

namespace TcpSession

def frameOf : Handler → Option Wire
  | .sendFrame bytes => some bytes
  | .kick notifyWire _ => some notifyWire
  | _ => none

def line (s : TcpSession) : List Wire :=
  s.accepted ++ s.posted.filterMap frameOf

/-! ## Handlers -/

@[simp] theorem doWrite_accepted (s : TcpSession) :
    s.doWrite.accepted = s.accepted := by
  obtain ⟨_, _, hshape⟩ := s.doWrite_shape
  rw [hshape]

@[simp] theorem doWrite_output (s : TcpSession) :
    s.doWrite.output = s.output := by
  obtain ⟨_, _, hshape⟩ := s.doWrite_shape
  rw [hshape]

@[simp] theorem writeNext_accepted (s : TcpSession) :
    s.writeNext.accepted = s.accepted := by
  obtain ⟨_, _, hshape⟩ := s.writeNext_shape
  rw [hshape]

@[simp] theorem writeNext_output (s : TcpSession) :
    s.writeNext.output = s.output := by
  obtain ⟨_, _, hshape⟩ := s.writeNext_shape
  rw [hshape]

/-- What a handler can do to the line and to the socket: it accepts its frame
or not, it may post handlers without a frame, and it hands over no bytes. -/
structure Handled (handler : Handler) (s next : TcpSession) : Prop where
  posted : ∃ more, more.filterMap frameOf = [] ∧
    next.posted = s.posted ++ more
  accepted : next.accepted = s.accepted ∨
    ∃ w, frameOf handler = some w ∧ next.accepted = s.accepted ++ [w]
  output : next.output = s.output
  closed : s.isOpen = false → next.isOpen = false

theorem Handled.refl (handler : Handler) (s : TcpSession) :
    Handled handler s s where
  posted := ⟨[], rfl, (List.append_nil _).symm⟩
  accepted := .inl rfl
  output := rfl
  closed := fun hclosed => hclosed

theorem handled_stop (handler : Handler) (s : TcpSession) (why : Bytes) :
    Handled handler s (s.stop why) where
  posted := ⟨[.stop why], rfl, rfl⟩
  accepted := .inl rfl
  output := rfl
  closed := fun hclosed => hclosed

theorem handled_handleSend (cfg : Config) (s : TcpSession) (bytes : Wire) :
    Handled (.sendFrame bytes) s (s.handleSend cfg bytes) := by
  by_cases hrefused : s.stopped = true ∨ s.Refuses cfg (.sendFrame bytes)
  · obtain hsame | ⟨why, hstop⟩ | hlogged := handleSend_refused hrefused
    · rw [hsame]
      exact .refl _ s
    · rw [hstop]
      exact handled_stop _ s why
    · rw [hlogged]
      exact ⟨⟨[], rfl, (List.append_nil _).symm⟩, .inl rfl, rfl,
        fun hclosed => hclosed⟩
  · rw [not_or, Bool.not_eq_true] at hrefused
    rw [(handleSend_accepted hrefused.1 hrefused.2).2]
    refine ⟨⟨[], rfl, ?_⟩, .inr ⟨bytes, rfl, ?_⟩, ?_, ?_⟩
    · rw [writeNext_posted, List.append_nil]
      rfl
    · rw [writeNext_accepted]
      rfl
    · rw [writeNext_output]
      rfl
    · intro hclosed
      rw [writeNext_isOpen]
      exact hclosed

theorem handled_handleKick (s : TcpSession) (notifyWire : Wire)
    (logWhy : Bytes) :
    Handled (.kick notifyWire logWhy) s (s.handleKick notifyWire logWhy) := by
  unfold handleKick
  split
  · exact .refl _ s
  · refine ⟨⟨[], rfl, ?_⟩, .inr ⟨notifyWire, rfl, ?_⟩, ?_, ?_⟩
    · rw [writeNext_posted, List.append_nil]
      rfl
    · rw [writeNext_accepted]
      rfl
    · rw [writeNext_output]
      rfl
    · intro hclosed
      rw [writeNext_isOpen]
      exact hclosed

theorem handled_handleWritten (s : TcpSession) (bytes : Wire)
    (ec : Option Bytes) :
    Handled (.written bytes ec) s (s.handleWritten bytes ec) := by
  cases ec with
  | some message =>
      exact ⟨⟨[.stop _], rfl, rfl⟩, .inl rfl, rfl, fun hclosed => hclosed⟩
  | none =>
      simp only [handleWritten]
      split
      · exact ⟨⟨[], rfl, (List.append_nil _).symm⟩, .inl rfl, rfl,
          fun _ => rfl⟩
      · refine ⟨⟨[], rfl, ?_⟩, .inl ?_, ?_, ?_⟩
        · rw [doWrite_posted, List.append_nil]
          rfl
        · rw [doWrite_accepted]
          rfl
        · rw [doWrite_output]
          rfl
        · intro hclosed
          rw [doWrite_isOpen]
          exact hclosed

theorem handled_handle (cfg : Config) (handler : Handler) (s : TcpSession) :
    Handled handler s (s.handle cfg handler) := by
  cases handler with
  | sendFrame bytes => exact handled_handleSend cfg s bytes
  | kick notifyWire logWhy => exact handled_handleKick s notifyWire logWhy
  | stop why =>
      simp only [handle, handleStop]
      split
      · exact .refl _ s
      · exact ⟨⟨[], rfl, (List.append_nil _).symm⟩, .inl rfl, rfl,
          fun _ => rfl⟩
  | written bytes ec => exact handled_handleWritten s bytes ec

theorem Handled.line {handler : Handler} {later : List Handler}
    {s next : TcpSession} (hposted : s.posted = handler :: later)
    (hhandled : Handled handler { s with posted := later } next) :
    next.line.Sublist s.line := by
  obtain ⟨more, hmore, hnext⟩ := hhandled.posted
  have hrest : next.posted.filterMap frameOf = later.filterMap frameOf := by
    rw [hnext, List.filterMap_append, hmore, List.append_nil]
  unfold TcpSession.line
  rw [hrest, hposted, List.filterMap_cons]
  rcases hhandled.accepted with hsame | ⟨w, hframe, haccepted⟩
  · rw [hsame]
    apply List.Sublist.append (List.Sublist.refl _)
    split
    · exact List.Sublist.refl _
    · exact List.sublist_cons_self _ _
  · rw [haccepted, hframe, List.append_assoc]
    exact List.Sublist.refl _

/-! ## Steps of the strand and the socket -/

theorem ioStep_line {cfg : Config} {s next : TcpSession} {event : IoEvent}
    (hstep : s.ioStep cfg event = some next) : next.line.Sublist s.line := by
  obtain ⟨handler, later, rfl, hposted, rfl⟩ |
    ⟨index, count, write, rfl, hwrite, _, rfl⟩ |
    ⟨index, write, rfl, hwrite, _, rfl⟩ |
    ⟨index, write, message, rfl, hwrite, _, rfl⟩ := ioStep_cases hstep
  · exact (handled_handle cfg handler _).line hposted
  · exact List.Sublist.refl _
  · simp [line, TcpSession.post, frameOf]
  · simp [line, TcpSession.post, frameOf]

theorem ioStep_accepted {cfg : Config} {s next : TcpSession}
    {event : IoEvent} (hstep : s.ioStep cfg event = some next) :
    s.accepted <+: next.accepted := by
  obtain ⟨handler, later, rfl, hposted, rfl⟩ |
    ⟨index, count, write, rfl, hwrite, _, rfl⟩ |
    ⟨index, write, rfl, hwrite, _, rfl⟩ |
    ⟨index, write, message, rfl, hwrite, _, rfl⟩ := ioStep_cases hstep
  · rcases (handled_handle cfg handler { s with posted := later }).accepted
      with hsame | ⟨w, _, haccepted⟩
    · exact ⟨[], (List.append_nil _).trans hsame.symm⟩
    · exact ⟨[w], haccepted.symm⟩
  · exact List.prefix_rfl
  · exact List.prefix_rfl
  · exact List.prefix_rfl

theorem ioStep_closed {cfg : Config} {s next : TcpSession} {event : IoEvent}
    (hclosed : s.isOpen = false) (hstep : s.ioStep cfg event = some next) :
    next.isOpen = false ∧ next.output = s.output := by
  obtain ⟨handler, later, rfl, hposted, rfl⟩ |
    ⟨index, count, write, rfl, hwrite, hopen, rfl⟩ |
    ⟨index, write, rfl, hwrite, _, rfl⟩ |
    ⟨index, write, message, rfl, hwrite, _, rfl⟩ := ioStep_cases hstep
  · have hhandled := handled_handle cfg handler { s with posted := later }
    exact ⟨hhandled.closed hclosed, hhandled.output⟩
  · rw [hclosed] at hopen
    cases hopen
  · exact ⟨hclosed, rfl⟩
  · exact ⟨hclosed, rfl⟩

/-! ## The frames received -/

def Streaming (s : TcpSession) : Prop :=
  ∃ whole, Received s.output whole ∧ whole.Sublist s.accepted

theorem streaming_of_part {s : TcpSession} {done : List Wire} {w : Wire}
    {sent rest : Bytes} (hbytes : w.bytes = sent ++ rest)
    (houtput : s.output = wireBytes done ++ sent)
    (hwritten : (done ++ [w]).Sublist s.accepted) : s.Streaming := by
  by_cases hrest : rest = []
  · subst hrest
    rw [List.append_nil] at hbytes
    refine ⟨done ++ [w], ⟨[], ?_, .inl rfl⟩, hwritten⟩
    rw [wireBytes_append, wireBytes_singleton, List.append_nil, hbytes]
    exact houtput
  · refine ⟨done, ⟨sent, houtput, .inr ⟨w, ?_, ?_⟩⟩,
      (List.sublist_append_left _ _).trans hwritten⟩
    · rw [hbytes]
      exact List.prefix_append _ _
    · intro hwhole
      rw [← hwhole] at hbytes
      exact hrest (List.self_eq_append_right.mp hbytes)

theorem Phase.streaming {s : TcpSession} (hphase : s.Phase) :
    s.Streaming := by
  cases hphase with
  | idle done _ _ _ _ houtput hdone =>
      exact ⟨done, ⟨[], by simpa using houtput, .inl rfl⟩, hdone⟩
  | busy done w sent rest _ _ _ hbytes houtput hfrom =>
      exact streaming_of_part hbytes houtput hfrom.written
  | ended done w sent rest ec _ _ _ _ hbytes houtput hfrom =>
      exact streaming_of_part hbytes houtput hfrom.written
  | failed done w sent rest _ _ _ _ hbytes houtput hwritten =>
      exact streaming_of_part hbytes houtput hwritten

/-- What holds of a session on whose open socket no write has failed. -/
structure Sound (s : TcpSession) : Prop where
  phase : s.isOpen = true → s.Phase
  clean : s.isOpen = true → s.NoFailure
  streaming : s.Streaming

theorem sound_fresh (ip : Bytes) : Sound { peerIp := ip } where
  phase := fun _ => phase_fresh ip
  clean := fun _ =>
    { success := by
        intro completion hmem
        cases hmem
      idle := fun _ _ => rfl }
  streaming := (phase_fresh ip).streaming

/-- A write fails on an open socket. -/
def WriteErrorOn (s : TcpSession) : IoEvent → Prop
  | .writeFailed _ _ => s.isOpen = true
  | _ => False

instance (s : TcpSession) : DecidablePred s.WriteErrorOn
  | .writeFailed _ _ => inferInstanceAs (Decidable (s.isOpen = true))
  | .runHandler | .transmit _ _ | .writeDone _ =>
      inferInstanceAs (Decidable False)

theorem Sound.ioStep {cfg : Config} {s next : TcpSession} {event : IoEvent}
    (hsound : s.Sound) (hgood : ¬s.WriteErrorOn event)
    (hstep : s.ioStep cfg event = some next) : next.Sound := by
  cases hopen : s.isOpen with
  | true =>
      have hevent : (TcpSession.Event.io event).isWriteError = false := by
        cases event with
        | writeFailed index message =>
            exact absurd hopen hgood
        | _ => rfl
      have hclean := hsound.clean hopen
      have hquiet : QuietAfterFailure cfg s (.io event) := by
        cases event with
        | runHandler =>
            intro hfailed
            exact absurd hfailed hclean.not_writeFailed
        | _ => trivial
      have hphase := (hsound.phase hopen).ioStep hquiet hstep
      exact ⟨fun _ => hphase, fun _ => hclean.step hevent hstep,
        hphase.streaming⟩
  | false =>
      obtain ⟨hclosed, houtput⟩ := ioStep_closed hopen hstep
      obtain ⟨whole, hreceived, hwhole⟩ := hsound.streaming
      refine ⟨fun hopen => ?_, fun hopen => ?_, whole, ?_,
        hwhole.trans (ioStep_accepted hstep).sublist⟩
      · rw [hclosed] at hopen
        cases hopen
      · rw [hclosed] at hopen
        cases hopen
      · rw [houtput]
        exact hreceived

theorem Sound.closeSocket {s : TcpSession} (hsound : s.Sound) :
    s.closeSocket.Sound where
  phase := fun hopen => by cases hopen
  clean := fun hopen => by cases hopen
  streaming := hsound.streaming

end TcpSession

end AsioForwarder
