import AsioForwarder.FrameDecoders
import AsioForwarder.RequestStream
import AsioForwarder.SequenceNumbers
import Mathlib.Data.List.AList

/-!
# The sending side of the SDK

Every method of `RelayClient` which sends takes `write_mu`, draws a number,
packs its body and calls `emit_msgpack`, which writes the header and then the
body.  A write hands its buffer to the socket in as many parts as the socket
takes; when it throws, the lock is released and what has been sent stays sent.
The threads which wait for the lock get it in any order.
-/

namespace AsioForwarder

/-- The methods of `RelayClient` which send a frame. -/
inductive SdkCall where
  | login (username password peerRole recvMode : Bytes)
  | heartbeat
  | sendData (dstUsername payload : Bytes)
  | controlListUsers
  | controlKickUser (targetUserId : Nat)
  | controlSendRaw (body : Bytes)
  deriving DecidableEq

def sdkLoginBody (username password peerRole recvMode : Bytes) : List Tok :=
  [.map 4, .str (lit "username"), .str username,
    .str (lit "password"), .str password,
    .str (lit "peer_role"), .str peerRole,
    .str (lit "recv_mode"), .str recvMode]

/-- The arguments of `emit_msgpack`, the number apart. -/
def SdkCall.message : SdkCall → UInt32 × Bytes
  | .login username password peerRole recvMode =>
      (kClientLogin,
        packAll (sdkLoginBody username password peerRole recvMode))
  | .heartbeat => (kClientHeartbeat, packAll [.map 0])
  | .sendData dstUsername payload =>
      (kClientData, packAll (sendDataBody dstUsername payload))
  | .controlListUsers =>
      (kClientControl,
        packAll [.map 1, .str (lit "action"), .str (lit "list_users")])
  | .controlKickUser target =>
      (kClientControl,
        packAll [.map 2, .str (lit "action"), .str (lit "kick_user"),
          .str (lit "target_user_id"), .uint target])
  | .controlSendRaw body => (kClientControl, body)

/-- The thread inside `emit_msgpack`, and what it has still to write of the
header and of the body. -/
structure Emitting where
  thread : Nat
  buffers : List Bytes
  started : Bool := false
  deriving DecidableEq

/-- A connected `RelayClient`, as far as it sends.  `emitted` are the frames
given to `emit_msgpack`; `raised` says that a write has thrown, and `torn`
that one has in the middle of its frame. -/
structure SdkWriter where
  seq : UInt32 := 1
  isOpen : Bool := true
  blocked : AList (fun _ : Nat => SdkCall) := ∅
  holder : Option Emitting := none
  written : Bytes := []
  emitted : List FrameSpec := []
  raised : Bool := false
  torn : Bool := false

inductive WriterEvent where
  | enter (thread : Nat) (made : SdkCall)
  | lock (thread : Nat)
  | write (count : Nat)
  | raise
  | close
  deriving DecidableEq

namespace SdkWriter

/-- The two buffers of `emit_msgpack`; an empty body is not written. -/
def buffersOf (f : FrameSpec) : List Bytes :=
  if f.body.length ≠ 0 then [f.parsed.header.packLe, f.body]
  else [f.parsed.header.packLe]

/-- A method, once it has the lock, up to its first write. -/
def emit (thread : Nat) (made : SdkCall) (s : SdkWriter) : SdkWriter :=
  let seq := nextSeq s.seq
  let f : FrameSpec := ⟨made.message.1, seq, made.message.2⟩
  { s with
    seq := seq
    blocked := s.blocked.erase thread
    holder := some { thread := thread, buffers := buffersOf f }
    emitted := s.emitted ++ [f] }

/-- The socket takes `count` bytes of the first buffer.  The lock is released
when nothing is left. -/
def progress (x : Emitting) (first : Bytes) (more : List Bytes) (count : Nat)
    (s : SdkWriter) : SdkWriter :=
  let left :=
    if first.drop count = [] then more else first.drop count :: more
  { s with
    written := s.written ++ first.take count
    holder :=
      if left = [] then none
      else some { x with buffers := left, started := true } }

def step (s : SdkWriter) : WriterEvent → Option SdkWriter
  | .enter thread made =>
      if (s.blocked.lookup thread).isNone ∧
          s.holder.map Emitting.thread ≠ some thread then
        some { s with blocked := s.blocked.insert thread made }
      else none
  | .lock thread =>
      match s.holder, s.blocked.lookup thread with
      | none, some made => some (s.emit thread made)
      | _, _ => none
  | .write count =>
      match s.holder with
      | none => none
      | some x =>
          match x.buffers with
          | [] => none
          | first :: more =>
              if s.isOpen ∧ 0 < count ∧ count ≤ first.length then
                some (s.progress x first more count)
              else none
  | .raise =>
      match s.holder with
      | none => none
      | some x =>
          some { s with
            holder := none
            raised := true
            torn := s.torn || x.started }
  | .close =>
      match s.holder with
      | none => some { s with isOpen := false }
      | some _ => none

/-- The socket takes nothing more after a write has thrown in the middle of a
frame. -/
def Sticky (s : SdkWriter) : WriterEvent → Prop
  | .write _ => s.torn = false
  | _ => True

instance (s : SdkWriter) : DecidablePred s.Sticky
  | .write _ => inferInstanceAs (Decidable (s.torn = false))
  | .enter _ _ | .lock _ | .raise | .close =>
      inferInstanceAs (Decidable True)

/-! ## Frames on the socket -/

/-- The bytes of frames one after another. -/
def frameStream (frames : List FrameSpec) : Bytes :=
  streamBytes (frames.map FrameSpec.parsed)

theorem frameStream_concat (frames : List FrameSpec) (f : FrameSpec) :
    frameStream (frames ++ [f]) = frameStream frames ++ f.parsed.bytes := by
  rw [frameStream, List.map_append, List.map_singleton, streamBytes_concat]
  rfl

theorem buffersOf_flatten (f : FrameSpec) :
    (buffersOf f).flatten = f.parsed.bytes := by
  unfold buffersOf
  split
  · simp [ParsedFrame.bytes, FrameSpec.parsed]
  · rename_i hempty
    have hbody : f.body = [] := List.length_eq_zero_iff.mp (not_not.mp hempty)
    simp [ParsedFrame.bytes, FrameSpec.parsed, hbody]

/-- Where the socket stands in the stream of emitted frames: `whole` are the
frames written completely. -/
inductive Stands (s : SdkWriter) (whole : List FrameSpec) : Prop where
  | between (hholder : s.holder = none) (htorn : s.torn = false)
      (hwritten : s.written = frameStream whole)
      (hwhole : whole.Sublist s.emitted)
      (hall : s.raised = false → whole = s.emitted)
  | within (x : Emitting) (earlier : List FrameSpec) (f : FrameSpec)
      (part : Bytes) (hholder : s.holder = some x) (htorn : s.torn = false)
      (hwritten : s.written = frameStream whole ++ part)
      (hemitted : s.emitted = earlier ++ [f])
      (hwhole : whole.Sublist earlier)
      (hall : s.raised = false → whole = earlier)
      (hpart : part ++ x.buffers.flatten = f.parsed.bytes)
      (hleft : x.buffers.flatten ≠ [])
      (hfull : ∀ buffer ∈ x.buffers, buffer ≠ [])
      (hstarted : x.started = false → part = [])
  | torn (f : FrameSpec) (part rest : Bytes) (htorn : s.torn = true)
      (hraised : s.raised = true)
      (hwritten : s.written = frameStream whole ++ part)
      (hwhole : (whole ++ [f]).Sublist s.emitted)
      (hpart : part ++ rest = f.parsed.bytes) (hleft : rest ≠ [])

theorem stands_initial : Stands {} [] :=
  .between rfl rfl rfl List.Sublist.slnil (fun _ => rfl)

theorem Stands.frame {s t : SdkWriter} {whole : List FrameSpec}
    (hstands : s.Stands whole) (hholder : t.holder = s.holder)
    (hwritten : t.written = s.written) (hemitted : t.emitted = s.emitted)
    (hraised : t.raised = s.raised) (htorn : t.torn = s.torn) :
    t.Stands whole := by
  obtain ⟨seq, isOpen, blocked, holder, written, emitted, raised, torn⟩ := t
  dsimp only at hholder hwritten hemitted hraised htorn
  subst hholder hwritten hemitted hraised htorn
  cases hstands with
  | between hholder htorn hwritten hwhole hall =>
      exact .between hholder htorn hwritten hwhole hall
  | within x earlier f part hholder htorn hwritten hemitted hwhole hall hpart
      hleft hfull hstarted =>
      exact .within x earlier f part hholder htorn hwritten hemitted hwhole
        hall hpart hleft hfull hstarted
  | torn f part rest htorn hraised hwritten hwhole hpart hleft =>
      exact .torn f part rest htorn hraised hwritten hwhole hpart hleft

theorem Stands.emit {s : SdkWriter} {whole : List FrameSpec}
    (hstands : s.Stands whole) (hfree : s.holder = none) (thread : Nat)
    (made : SdkCall) : (s.emit thread made).Stands whole := by
  cases hstands with
  | between hholder htorn hwritten hwhole hall =>
      refine .within _ s.emitted _ [] rfl htorn ?_ rfl hwhole hall
        (buffersOf_flatten _) ?_ ?_ (fun _ => rfl)
      · rw [List.append_nil]
        exact hwritten
      · rw [buffersOf_flatten]
        intro hnil
        have hlength := congrArg List.length hnil
        rw [ParsedFrame.bytes, List.length_append, Header.packLe_length,
          List.length_nil] at hlength
        omega
      · intro buffer hbuffer hnil
        subst hnil
        unfold buffersOf at hbuffer
        split at hbuffer
        · rename_i hbody
          simp only [List.mem_cons, List.not_mem_nil, or_false] at hbuffer
          rcases hbuffer with hheader | hempty
          · exact absurd (congrArg List.length hheader)
              (by rw [Header.packLe_length]; simp)
          · rw [← hempty] at hbody
            exact hbody rfl
        · rw [List.mem_singleton] at hbuffer
          exact absurd (congrArg List.length hbuffer)
            (by rw [Header.packLe_length]; simp)
  | within x earlier f part hholder =>
      rw [hfree] at hholder
      cases hholder
  | torn f part rest htorn hraised hwritten hwhole hpart hleft =>
      exact .torn f part rest htorn hraised hwritten
        (hwhole.trans (List.sublist_append_left _ _)) hpart hleft

theorem progress_of_last {x : Emitting} {first : Bytes} {count : Nat}
    (s : SdkWriter) (hcount : first.drop count = []) :
    s.progress x first [] count =
      { s with written := s.written ++ first, holder := none } := by
  have htake : first.take count = first :=
    List.take_of_length_le (List.drop_eq_nil_iff.mp hcount)
  simp [progress, hcount, htake]

theorem progress_of_left {x : Emitting} {first : Bytes} {more : List Bytes}
    {count : Nat} (s : SdkWriter)
    (hleft : first.drop count ≠ [] ∨ more ≠ []) :
    ∃ left, left ≠ [] ∧
      first.take count ++ left.flatten = (first :: more).flatten ∧
      ((∀ buffer ∈ more, buffer ≠ []) → ∀ buffer ∈ left, buffer ≠ []) ∧
      s.progress x first more count =
        { s with
          written := s.written ++ first.take count
          holder := some { x with buffers := left, started := true } } := by
  unfold progress
  by_cases hdrop : first.drop count = []
  · have hmore := hleft.resolve_left (not_not_intro hdrop)
    have htake : first.take count = first :=
      List.take_of_length_le (List.drop_eq_nil_iff.mp hdrop)
    refine ⟨more, hmore, ?_, fun hfull => hfull, ?_⟩
    · rw [htake]
      rfl
    · simp [hdrop, hmore]
  · refine ⟨first.drop count :: more, List.cons_ne_nil _ _, ?_, ?_, ?_⟩
    · rw [List.flatten_cons, ← List.append_assoc, List.take_append_drop]
      rfl
    · intro hfull buffer hbuffer
      rcases List.mem_cons.mp hbuffer with rfl | hbuffer
      · exact hdrop
      · exact hfull buffer hbuffer
    · simp [hdrop]

theorem Stands.progress {s : SdkWriter} {whole : List FrameSpec}
    (hstands : s.Stands whole) (htorn : s.torn = false) {x : Emitting}
    {first : Bytes} {more : List Bytes} (hholder : s.holder = some x)
    (hbuffers : x.buffers = first :: more) (count : Nat) :
    ∃ whole, (s.progress x first more count).Stands whole := by
  cases hstands with
  | between hfree =>
      rw [hfree] at hholder
      cases hholder
  | torn _ _ _ htorn' =>
      rw [htorn] at htorn'
      cases htorn'
  | within y earlier f part hholder' _ hwritten hemitted hwhole hall hpart
      hleft hfull hstarted =>
      obtain rfl := Option.some.inj (hholder'.symm.trans hholder)
      rw [hbuffers] at hpart hfull
      by_cases hlast : first.drop count = [] ∧ more = []
      · obtain ⟨hdrop, rfl⟩ := hlast
        rw [List.flatten_singleton] at hpart
        rw [progress_of_last s hdrop]
        refine ⟨whole ++ [f], .between rfl htorn ?_ ?_ ?_⟩
        · rw [frameStream_concat, ← hpart, ← List.append_assoc, ← hwritten]
        · rw [hemitted]
          exact hwhole.append (List.Sublist.refl [f])
        · intro hraised
          rw [hall hraised, hemitted]
      · rw [not_and_or] at hlast
        obtain ⟨left, hnil, hflatten, hkept, hprogress⟩ :=
          progress_of_left (x := y) s hlast
        have hfull' := hkept
          (fun buffer hbuffer => hfull buffer (List.mem_cons_of_mem _ hbuffer))
        rw [hprogress]
        refine ⟨whole, .within _ earlier f (part ++ first.take count) rfl htorn
          ?_ hemitted hwhole hall ?_ ?_ hfull' (by simp)⟩
        · rw [← List.append_assoc, ← hwritten]
        · rw [List.append_assoc, hflatten, hpart]
        · obtain ⟨buffer, later, rfl⟩ := List.exists_cons_of_ne_nil hnil
          have hbuffer := hfull' buffer List.mem_cons_self
          simp [hbuffer]

theorem Stands.raise {s : SdkWriter} {whole : List FrameSpec}
    (hstands : s.Stands whole) {x : Emitting} (hholder : s.holder = some x) :
    Stands { s with
      holder := none
      raised := true
      torn := s.torn || x.started } whole := by
  cases hstands with
  | between hfree =>
      rw [hfree] at hholder
      cases hholder
  | within y earlier f part hholder' htorn hwritten hemitted hwhole hall hpart
      hleft hfull hstarted =>
      obtain rfl := Option.some.inj (hholder'.symm.trans hholder)
      cases hcase : y.started with
      | true =>
          refine .torn f part y.buffers.flatten (by simp) rfl hwritten ?_
            hpart hleft
          rw [hemitted]
          exact hwhole.append (List.Sublist.refl [f])
      | false =>
          rw [hstarted hcase, List.append_nil] at hwritten
          refine .between rfl (by simp [htorn]) hwritten ?_ (by simp)
          rw [hemitted]
          exact hwhole.trans (List.sublist_append_left _ _)
  | torn f part rest htorn hraised hwritten hwhole hpart hleft =>
      exact .torn f part rest (by simp [htorn]) rfl hwritten hwhole hpart
        hleft

theorem Stands.step {s s' : SdkWriter} {event : WriterEvent}
    {whole : List FrameSpec} (hstands : s.Stands whole)
    (hsticky : s.Sticky event) (hstep : s.step event = some s') :
    ∃ whole, s'.Stands whole := by
  cases event with
  | enter thread made =>
      simp only [SdkWriter.step] at hstep
      split at hstep
      · cases hstep
        exact ⟨whole, hstands.frame rfl rfl rfl rfl rfl⟩
      · cases hstep
  | lock thread =>
      simp only [SdkWriter.step] at hstep
      split at hstep
      · rename_i made hfree _
        cases hstep
        exact ⟨whole, hstands.emit hfree thread made⟩
      · cases hstep
  | write count =>
      simp only [SdkWriter.step] at hstep
      split at hstep
      · cases hstep
      · rename_i x hholder
        split at hstep
        · cases hstep
        · rename_i first more hbuffers
          split at hstep
          · cases hstep
            exact hstands.progress hsticky hholder hbuffers count
          · cases hstep
  | raise =>
      simp only [SdkWriter.step] at hstep
      split at hstep
      · cases hstep
      · rename_i x hholder
        cases hstep
        exact ⟨whole, hstands.raise hholder⟩
  | close =>
      simp only [SdkWriter.step] at hstep
      split at hstep
      · rename_i hfree
        cases hstep
        exact ⟨whole, hstands.frame rfl rfl rfl rfl rfl⟩
      · cases hstep

/-- The frames bear the numbers `next_seq` hands out, in their order. -/
structure Numbered (s : SdkWriter) : Prop where
  seq : s.seq = seqAt 1 s.emitted.length
  emitted : s.emitted.map FrameSpec.seq =
    (List.range s.emitted.length).map (fun n => seqAt 1 (n + 1))

/-- A step emits nothing, or it is a method which has got the lock. -/
theorem emitted_of_step {s s' : SdkWriter} {event : WriterEvent}
    (hstep : s.step event = some s') :
    (s'.emitted = s.emitted ∧ s'.seq = s.seq) ∨
      ∃ made : SdkCall, s'.seq = nextSeq s.seq ∧ s'.emitted = s.emitted ++
        [⟨made.message.1, nextSeq s.seq, made.message.2⟩] := by
  cases event with
  | enter thread made =>
      simp only [SdkWriter.step] at hstep
      split at hstep
      · cases hstep
        exact .inl ⟨rfl, rfl⟩
      · cases hstep
  | lock thread =>
      simp only [SdkWriter.step] at hstep
      split at hstep
      · rename_i made _ _
        cases hstep
        exact .inr ⟨made, rfl, rfl⟩
      · cases hstep
  | write count =>
      simp only [SdkWriter.step] at hstep
      split at hstep
      · cases hstep
      · split at hstep
        · cases hstep
        · split at hstep
          · cases hstep
            exact .inl ⟨rfl, rfl⟩
          · cases hstep
  | raise =>
      simp only [SdkWriter.step] at hstep
      split at hstep
      · cases hstep
      · cases hstep
        exact .inl ⟨rfl, rfl⟩
  | close =>
      simp only [SdkWriter.step] at hstep
      split at hstep
      · cases hstep
        exact .inl ⟨rfl, rfl⟩
      · cases hstep

theorem Numbered.step {s s' : SdkWriter} {event : WriterEvent}
    (hnumbered : s.Numbered) (hstep : s.step event = some s') :
    s'.Numbered := by
  rcases emitted_of_step hstep with ⟨hsame, hseq⟩ | ⟨made, hseq, hnew⟩
  · refine ⟨?_, ?_⟩
    · rw [hseq, hsame]
      exact hnumbered.seq
    · rw [hsame]
      exact hnumbered.emitted
  · have hnext : nextSeq s.seq = seqAt 1 (s.emitted.length + 1) := by
      rw [hnumbered.seq, seqAt_succ]
    refine ⟨?_, ?_⟩
    · rw [hseq, hnew, List.length_append, List.length_singleton]
      exact hnext
    · rw [hnew, List.length_append, List.length_singleton, List.map_append,
        List.map_singleton, List.range_succ, List.map_append,
        List.map_singleton, hnumbered.emitted, hnext]

/-- Every frame is the message of a call. -/
def Spoken (s : SdkWriter) : Prop :=
  ∀ f ∈ s.emitted, ∃ made : SdkCall,
    f.msgType = made.message.1 ∧ f.body = made.message.2

theorem spoken_of_step {s s' : SdkWriter} {event : WriterEvent}
    (hspoken : s.Spoken) (hstep : s.step event = some s') : s'.Spoken := by
  rcases emitted_of_step hstep with ⟨hsame, _⟩ | ⟨made, _, hnew⟩
  · unfold Spoken
    rw [hsame]
    exact hspoken
  · intro f hf
    rw [hnew] at hf
    rcases List.mem_append.mp hf with hf | hf
    · exact hspoken f hf
    · rw [List.mem_singleton] at hf
      subst hf
      exact ⟨made, rfl, rfl⟩

theorem spoken_of_run {events : List WriterEvent} {s : SdkWriter}
    (hrun : Transition.run step events {} = some s) : s.Spoken :=
  Transition.run_preserves_always Spoken
    (fun _ _ _ hbefore hstep => spoken_of_step hbefore hstep)
    (fun _ hf => by cases hf) hrun

/-- The bytes on the socket are whole frames and at most the beginning of one
more. -/
structure WholeFrames (s : SdkWriter) (whole : List FrameSpec)
    (part : Bytes) : Prop where
  written : s.written = frameStream whole ++ part
  inOrder : whole.Sublist s.emitted
  begun : part = [] ∨ ∃ f rest, rest ≠ [] ∧ part ++ rest = f.parsed.bytes ∧
    (whole ++ [f]).Sublist s.emitted
  complete : s.raised = false → whole <+: s.emitted ∧
    (s.holder = none → whole = s.emitted ∧ part = [])

theorem Stands.wholeFrames {s : SdkWriter} {whole : List FrameSpec}
    (hstands : s.Stands whole) : ∃ part, s.WholeFrames whole part := by
  cases hstands with
  | between hholder htorn hwritten hwhole hall =>
      refine ⟨[], by rw [List.append_nil]; exact hwritten, hwhole, .inl rfl, ?_⟩
      intro hraised
      rw [hall hraised]
      exact ⟨List.prefix_rfl, fun _ => ⟨rfl, rfl⟩⟩
  | within x earlier f part hholder htorn hwritten hemitted hwhole hall hpart
      hleft hfull hstarted =>
      refine ⟨part, hwritten, ?_, .inr ⟨f, _, hleft, hpart, ?_⟩, ?_⟩
      · rw [hemitted]
        exact hwhole.trans (List.sublist_append_left _ _)
      · rw [hemitted]
        exact hwhole.append (List.Sublist.refl [f])
      · intro hraised
        rw [hall hraised, hemitted]
        refine ⟨List.prefix_append _ _, fun hfree => ?_⟩
        rw [hfree] at hholder
        cases hholder
  | torn f part rest htorn hraised hwritten hwhole hpart hleft =>
      refine ⟨part, hwritten, (List.sublist_append_left _ _).trans hwhole,
        .inr ⟨f, rest, hleft, hpart, hwhole⟩, ?_⟩
      intro hnot
      rw [hnot] at hraised
      cases hraised

theorem exists_wholeFrames {events : List WriterEvent} {s : SdkWriter}
    (hsticky : Transition.Along step Sticky events {})
    (hrun : Transition.run step events {} = some s) :
    ∃ whole part, s.WholeFrames whole part := by
  have hstands : ∃ whole, s.Stands whole :=
    Transition.run_preserves (fun s : SdkWriter => ∃ whole, s.Stands whole)
      (fun _ _ _ hbefore hgood hstep =>
        hbefore.elim (fun _ hstands => hstands.step hgood hstep))
      ⟨[], stands_initial⟩ hsticky hrun
  obtain ⟨whole, hstands⟩ := hstands
  exact ⟨whole, hstands.wholeFrames⟩

/-- The lock keeps frames whole: in every order of the threads and whatever
parts the socket takes, the bytes sent are frames in the order of their
numbers. -/
theorem wholeFrames_of_run {events : List WriterEvent} {s : SdkWriter}
    (hsticky : Transition.Along step Sticky events {})
    (hrun : Transition.run step events {} = some s) :
    (∃ whole part, s.WholeFrames whole part) ∧
      s.emitted.map FrameSpec.seq =
        (List.range s.emitted.length).map (fun n => seqAt 1 (n + 1)) := by
  have hnumbered : s.Numbered :=
    Transition.run_preserves_always Numbered
      (fun _ _ _ hbefore hstep => hbefore.step hstep) ⟨rfl, rfl⟩ hrun
  exact ⟨exists_wholeFrames hsticky hrun, hnumbered.emitted⟩

/-- A heartbeat waits for the lock while a login is written in parts. -/
def loginAndHeartbeat : List WriterEvent :=
  [.enter 0 (.login (lit "root") (lit "pw") (lit "admin") (lit "broadcast")),
    .enter 1 .heartbeat, .lock 0, .write 10, .write 14, .write 63, .lock 1,
    .write 24]

theorem wholeFrames_of_run_loginAndHeartbeat :
    ∃ s, Transition.run step loginAndHeartbeat {} = some s ∧
      s.emitted.map FrameSpec.seq = [2, 3] ∧
      ∃ whole part, s.WholeFrames whole part := by
  obtain ⟨s, hrun, hseq⟩ : ∃ s,
      Transition.run step loginAndHeartbeat {} = some s ∧
      s.emitted.map FrameSpec.seq = [2, 3] :=
    Transition.exists_run_of_check (by decide +kernel)
  have hsticky : Transition.Along step Sticky loginAndHeartbeat {} :=
    Transition.along_of_check (by decide +kernel)
  exact ⟨s, hrun, hseq, (wholeFrames_of_run hsticky hrun).1⟩

/-! ## What the server makes of the bytes -/

theorem toNat_length {body : Bytes} (hsize : body.length < UInt32.size) :
    (UInt32.ofNat body.length).toNat = body.length := by
  rw [UInt32.toNat_ofNat']
  exact Nat.mod_eq_of_lt hsize

theorem readFrame_parsed (cfg : Config) {f : FrameSpec}
    (hsize : f.body.length < UInt32.size) (rest : Bytes) :
    readFrame cfg.maxBodyLen (f.parsed.bytes ++ rest) =
        (some f.parsed, rest) ∨
      (readFrame cfg.maxBodyLen (f.parsed.bytes ++ rest)).1 = none := by
  by_cases hfits : f.parsed.header.bodyLen ≤ cfg.maxBodyLen
  · exact .inl (readFrame_admitted ⟨rfl, hfits, (toNat_length hsize).symm⟩ rest)
  · right
    have hheader :
        Header.unpackLe f.parsed.header.packLe = f.parsed.header := by
      simpa using Header.unpackLe_packLe f.parsed.header []
    rw [readFrame, ParsedFrame.bytes, List.append_assoc,
      readExact_of_length (Header.packLe_length f.parsed.header)]
    dsimp only
    rw [hheader,
      if_neg (by rw [show f.parsed.header.valid = true from rfl]; simp),
      if_pos (UInt32.not_le.mp hfits)]

/-- The beginning of a frame is not a frame. -/
theorem readFrame_begun (cfg : Config) {f : FrameSpec} {part rest : Bytes}
    (hsize : f.body.length < UInt32.size) (hrest : rest ≠ [])
    (hbytes : part ++ rest = f.parsed.bytes) :
    (readFrame cfg.maxBodyLen part).1 = none := by
  rcases Header.begun_of_append hrest hbytes with hshort |
    ⟨begun, rfl, hbegun⟩
  · rw [readFrame, readExact, if_neg (Nat.not_le.mpr hshort)]
  · have hheader :
        Header.unpackLe f.parsed.header.packLe = f.parsed.header := by
      simpa using Header.unpackLe_packLe f.parsed.header []
    rw [readFrame, readExact_of_length (Header.packLe_length f.parsed.header)]
    dsimp only
    rw [hheader,
      if_neg (by rw [show f.parsed.header.valid = true from rfl]; simp)]
    split
    · rfl
    · have hlen : f.parsed.header.bodyLen.toNat = f.parsed.body.length :=
        toNat_length hsize
      rw [readExact, hlen, if_neg (Nat.not_le.mpr hbegun)]

theorem readAll_frameStream (cfg : Config) {whole : List FrameSpec}
    {part : Bytes} (hsizes : ∀ f ∈ whole, f.body.length < UInt32.size)
    (hpart : (readFrame cfg.maxBodyLen part).1 = none) (calls : Nat) :
    (readAll (readFrame cfg.maxBodyLen) calls
      (frameStream whole ++ part)).1.map ParsedFrame.spec <+: whole := by
  induction whole generalizing calls with
  | nil =>
      rw [frameStream, List.map_nil, streamBytes_nil, List.nil_append,
        readAll_of_none hpart]
      exact List.prefix_rfl
  | cons f whole ih =>
      have hlater := ih (fun g hg => hsizes g (List.mem_cons_of_mem f hg))
      rw [frameStream, List.map_cons, streamBytes_cons, List.append_assoc]
      cases calls with
      | zero => exact List.nil_prefix
      | succ calls =>
          rcases readFrame_parsed cfg (hsizes f List.mem_cons_self)
            (streamBytes (whole.map FrameSpec.parsed) ++ part) with
            hread | hnone
          · rw [readAll, hread]
            exact List.cons_prefix_cons.mpr ⟨rfl, hlater calls⟩
          · rw [readAll_of_none hnone]
            exact List.nil_prefix

theorem exists_handled {cfg : Config} {unpack : Bytes → Option Obj} {db : Db}
    {events : List Event} {server : Server}
    (hserver : Transition.run (Server.step cfg unpack) events
      (Server.initial db) = some server)
    {calls : List WriterEvent} {client : SdkWriter}
    (hsticky : Transition.Along step Sticky calls {})
    (hclient : Transition.run step calls {} = some client)
    (hsizes : ∀ f ∈ client.emitted, f.body.length < UInt32.size) {c : ConnId}
    (hlink : Transition.observe (Server.step cfg unpack)
      (Server.bytesRead c) events (Server.initial db) <+: client.written) :
    ∃ whole part, client.WholeFrames whole part ∧
      (Transition.observe (Server.step cfg unpack) (Server.requests c) events
        (Server.initial db)).map ParsedFrame.spec <+: whole := by
  obtain ⟨whole, part, hwhole⟩ := exists_wholeFrames hsticky hclient
  have hpart : (readFrame cfg.maxBodyLen part).1 = none := by
    rcases hwhole.begun with rfl | ⟨f, rest, hrest, hbytes, hf⟩
    · rfl
    · exact readFrame_begun cfg (hsizes f (hf.subset (by simp))) hrest hbytes
  refine ⟨whole, part, hwhole, ?_⟩
  have hread := (Server.decoded_of_run hserver c).prefix_readAll hlink
    (Nat.le_refl _)
  rw [hwhole.written] at hread
  exact (hread.map ParsedFrame.spec).trans (readAll_frameStream cfg
    (fun f hf => hsizes f (hwhole.inOrder.subset hf)) hpart _)

/-- From the methods of a client to the frame handler of the server: over a
connection which delivers what the client has written, or the beginning of
it, the server handles the client's frames in their order. -/
theorem requests_of_calls (cfg : Config) (unpack : Bytes → Option Obj)
    (db : Db) {events : List Event} {server : Server}
    (hserver : Transition.run (Server.step cfg unpack) events
      (Server.initial db) = some server)
    {calls : List WriterEvent} {client : SdkWriter}
    (hsticky : Transition.Along step Sticky calls {})
    (hclient : Transition.run step calls {} = some client)
    (hsizes : ∀ f ∈ client.emitted, f.body.length < UInt32.size) (c : ConnId)
    (hlink : Transition.observe (Server.step cfg unpack)
      (Server.bytesRead c) events (Server.initial db) <+: client.written)
    {handled : List FrameSpec}
    (hhandled : (Transition.observe (Server.step cfg unpack)
      (Server.requests c) events (Server.initial db)).map ParsedFrame.spec =
      handled) :
    handled.Sublist client.emitted ∧
      (client.raised = false → handled <+: client.emitted) := by
  obtain ⟨whole, part, hwhole, hbegins⟩ :=
    exists_handled hserver hsticky hclient hsizes hlink
  rw [hhandled] at hbegins
  exact ⟨hbegins.sublist.trans hwhole.inOrder,
    fun hraised => hbegins.trans (hwhole.complete hraised).1⟩

/-- The server reads the login and the beginning of the heartbeat. -/
def loginRead : List Event :=
  [.accept (lit "10.0.0.1")] ++
    Server.receive 1 kClientLogin 2
      (Server.loginBody (lit "root") (lit "pw") (lit "admin")) ++
    Server.advances 1 6 ++ [.read 1 (.loopTop false),
      .read 1 (.header { msgType := kClientHeartbeat, seq := 3, bodyLen := 1 })]

theorem requests_of_calls_loginRead :
    ∃ server client,
      Transition.run (Server.step forwarderJson unpackFlat) loginRead
        (Server.initial Server.emptyDb) = some server ∧
      Transition.run step loginAndHeartbeat {} = some client ∧
      [(⟨kClientLogin, 2, packAll (Server.loginBody (lit "root") (lit "pw")
        (lit "admin"))⟩ : FrameSpec)] <+: client.emitted := by
  obtain ⟨client, hclient, hsizes, hraised, hwritten⟩ : ∃ client,
      Transition.run step loginAndHeartbeat {} = some client ∧
      (∀ f ∈ client.emitted, f.body.length < UInt32.size) ∧
      client.raised = false ∧
      Transition.observe (Server.step forwarderJson unpackFlat)
        (Server.bytesRead 1) loginRead (Server.initial Server.emptyDb) <+:
        client.written :=
    Transition.exists_run_of_check (by decide +kernel)
  obtain ⟨server, hserver, _⟩ : ∃ server,
      Transition.run (Server.step forwarderJson unpackFlat) loginRead
        (Server.initial Server.emptyDb) = some server ∧
      server.hub.reg.nextConnId = 1 :=
    Transition.exists_run_of_check (by decide +kernel)
  have hsticky : Transition.Along step Sticky loginAndHeartbeat {} :=
    Transition.along_of_check (by decide +kernel)
  exact ⟨server, client, hserver, hclient,
    (requests_of_calls forwarderJson unpackFlat Server.emptyDb hserver hsticky
      hclient hsizes 1 hwritten (by decide +kernel)).2 hraised⟩

end SdkWriter

end AsioForwarder
