import AsioForwarder.PyReceiver
import AsioForwarder.ReceivedEvents
import AsioForwarder.RequestReplies
import AsioForwarder.SessionLedger
import AsioForwarder.SharedInbox

/-!
# Waiting for a reply

`_rx_loop` puts the replies it reads into `inbox_reply`, and the threads of a
program take them out again in `wait_reply`.  What they return are replies of
the server to requests of this connection, each for one call only.
-/

namespace AsioForwarder

namespace PyRelayClient

open SharedInbox (Inbox)

/-! ## The inbox -/

structure ServerReply where
  seq : UInt32
  body : ObjMap

/-- What `wait_reply` compares with its argument. -/
def ServerReply.number (r : ServerReply) : Int :=
  r.seq.toNat

abbrev ReplyInbox := Inbox Nat Int ServerReply

abbrev InboxEvent := SharedInbox.Event Nat Int ServerReply

/-- `put` is what `_rx_loop` does, the other steps are those of the calls
`wait_reply(seq)`: the beginning, `get`, the comparison with its `return` or
its `put`, and `TimeoutError`.  After `queue.Empty` the loop starts again. -/
def waitReply (s : ReplyInbox) (event : InboxEvent) : Option ReplyInbox :=
  s.step ServerReply.number event

/-! ## One thread -/

/-- Nobody but the thread calls `wait_reply`, and its call goes on. -/
def OnlyCaller (t : Nat) : InboxEvent → Prop
  | .call u _ => u = t
  | .expire u => u ≠ t
  | _ => True

theorem undisturbed_of_alone {t : Nat} {key : Int} {s : ReplyInbox}
    (halone : ∀ u, u ≠ t → s.waiting.lookup u = none) {event : InboxEvent}
    (hallowed : OnlyCaller t event) {next : ReplyInbox}
    (hstep : waitReply s event = some next) :
    s.Undisturbed ServerReply.number t key event := by
  cases event with
  | take u =>
      left
      by_contra hne
      obtain ⟨_, _, _, hlookup, _⟩ := Inbox.take_eq_some hstep
      rw [halone u hne] at hlookup
      cases hlookup
  | expire u => exact hallowed
  | _ => trivial

theorem alone_step {t : Nat} {s next : ReplyInbox} {event : InboxEvent}
    (halone : ∀ u, u ≠ t → s.waiting.lookup u = none)
    (hallowed : OnlyCaller t event)
    (hstep : waitReply s event = some next) :
    ∀ u, u ≠ t → next.waiting.lookup u = none := by
  intro u hu
  by_cases hself : event.thread = some u
  · refine absurd (halone u hu) (Inbox.lookup_ne_none hself ?_ hstep)
    rintro key rfl
    exact hu hallowed
  · exact (Inbox.lookup_of_ne hself hstep).trans (halone u hu)

/-- While only one thread calls `wait_reply`, it takes no more replies than
stand in the inbox before the one it waits for. -/
theorem reply_found (t : Nat) (seq : Int) {s next : ReplyInbox}
    (hcalled : s.waiting.lookup t = some ⟨seq, none⟩)
    (halone : ∀ u, u ≠ t → s.waiting.lookup u = none)
    (hthere : ∃ r ∈ s.queue, r.number = seq) {events : List InboxEvent}
    (hallowed : ∀ event ∈ events, OnlyCaller t event)
    (hrun : Transition.run waitReply events s = some next)
    (htakes : s.queue.findIdx (fun r => r.number = seq) <
      events.countP (Inbox.isTake t)) :
    next.Served ServerReply.number s.returned t seq := by
  have hdue : s.Due ServerReply.number t seq :=
    ⟨⟨none, hcalled, by simp⟩, hthere⟩
  have hquiet : Transition.Along waitReply
      (Inbox.Undisturbed ServerReply.number t seq) events s :=
    Transition.along_of_run
      (fun s : ReplyInbox => ∀ u, u ≠ t → s.waiting.lookup u = none)
      (fun _ _ _ halone hallowed hstep =>
        ⟨alone_step halone hallowed hstep,
          undisturbed_of_alone halone hallowed hstep⟩) halone hallowed hrun
  exact Inbox.served_of_takes hdue hquiet hrun htakes

/-- The reply stands behind two replies to heartbeats. -/
def behindHeartbeats : ReplyInbox where
  queue := [⟨2, []⟩, ⟨3, []⟩, ⟨4, []⟩]
  waiting := AList.insert 0 ⟨4, none⟩ ∅

theorem reply_found_behindHeartbeats :
    ∃ next, Transition.run waitReply
        [.take 0, .compare 0, .put ⟨9, []⟩, .take 0, .compare 0, .take 0]
        behindHeartbeats = some next ∧
      next.Served ServerReply.number [] 0 4 := by
  obtain ⟨next, hrun, _⟩ : ∃ next, Transition.run waitReply
      [.take 0, .compare 0, .put ⟨9, []⟩, .take 0, .compare 0, .take 0]
      behindHeartbeats = some next ∧ next.queue.length = 3 :=
    Transition.exists_run_of_check (by decide)
  refine ⟨next, hrun, reply_found 0 4 ?_ ?_ ?_ ?_ hrun ?_⟩
  · exact AList.lookup_insert _
  · exact fun u hu => AList.lookup_insert_ne hu
  · exact ⟨⟨4, []⟩, by simp [behindHeartbeats], by decide⟩
  · simp [OnlyCaller]
  · decide

/-! ## Two threads -/

/-- Two threads which wait at the same time can take each other's reply and
put it back any number of times, until both calls raise `TimeoutError` with
both replies in the inbox. -/
theorem replies_missed {t u : Nat} (hthreads : t ≠ u) {a b : ServerReply}
    (hseqs : a.seq ≠ b.seq) (n : Nat) :
    ∃ events : List InboxEvent,
      Transition.run waitReply
        ([.put a, .put b, .call t b.number, .call u a.number] ++ events ++
          [.expire t, .expire u]) {} = some { queue := [a, b] } ∧
      n ≤ events.countP (Inbox.isTake t) ∧
      n ≤ events.countP (Inbox.isTake u) := by
  have hkeys : a.number ≠ b.number := by
    simpa [ServerReply.number] using fun h => hseqs (UInt32.toNat_inj.mp h)
  obtain ⟨hfirst, hsecond⟩ := Inbox.countP_rounds t u n
  refine ⟨Inbox.rounds t u n, ?_, hfirst, hsecond⟩
  rw [List.append_assoc, Transition.run_append_eq_some]
  refine ⟨_, Inbox.run_facing hthreads, ?_⟩
  rw [Transition.run_append_eq_some]
  exact ⟨_, Inbox.run_rounds hthreads hkeys n, Inbox.run_expire hthreads⟩

theorem replies_missed_sixtyRounds :
    ∃ events : List InboxEvent,
      Transition.run waitReply
        ([.put ⟨2, []⟩, .put ⟨3, []⟩, .call 0 3, .call 1 2] ++ events ++
          [.expire 0, .expire 1]) {} =
        some { queue := [⟨2, []⟩, ⟨3, []⟩] } ∧
      60 ≤ events.countP (Inbox.isTake 0) ∧
      60 ≤ events.countP (Inbox.isTake 1) :=
  replies_missed (by decide) (by decide) 60

/-! ## What `_rx_loop` puts into the inbox -/

/-- `on_reply` is not set. -/
def Event.reply? : Event → Option ServerReply
  | .serverReply seq body => some ⟨seq, body⟩
  | _ => none

def Receiver.replies (c : Receiver) : List ServerReply :=
  c.dispatched.filterMap (fun entry => entry.2.reply?)

def Builtins.replyOf (py : Builtins) (f : ParsedFrame) : Option ServerReply :=
  if f.header.msgType = kMsgServerReply then
    (py.unpackBody f.body).map
      (fun obj => ⟨f.header.seq, Builtins.replyBody obj⟩)
  else none

theorem replies_dispatch {py : Builtins} {f : ParsedFrame} {c c' : Receiver}
    (hdispatch : py.dispatch f c = some c') :
    c'.replies = c.replies ++ (py.replyOf f).toList := by
  unfold Builtins.dispatch at hdispatch
  dsimp only at hdispatch
  split at hdispatch
  · rename_i htype
    obtain ⟨d, _, rfl⟩ := Option.map_eq_some_iff.mp hdispatch
    simp [Receiver.replies, Event.reply?, Builtins.replyOf, htype,
      kMsgDeliver, kMsgServerReply]
  split at hdispatch
  · rename_i htype
    split at hdispatch
    · cases hdispatch
    · rename_i obj hbody
      obtain ⟨noted, _, rfl⟩ := Option.map_eq_some_iff.mp hdispatch
      simp [Receiver.replies, Event.reply?, Builtins.replyOf, htype, hbody]
  rename_i htype
  split at hdispatch
  · obtain ⟨obj, _, rfl⟩ := Option.map_eq_some_iff.mp hdispatch
    simp [Receiver.replies, Event.reply?, Builtins.replyOf, htype]
  · cases hdispatch
    simp [Builtins.replyOf, htype]

theorem replies_dispatched {py : Builtins} {sock : List Arrival}
    {c : Receiver}
    (hbefore : c.replies = (c.dispatched.map Prod.fst).filterMap py.replyOf) :
    (rxLoop py sock c).1.replies =
      ((rxLoop py sock c).1.dispatched.map Prod.fst).filterMap py.replyOf := by
  fun_induction rxLoop py sock c with
  | case1 sock c rest hread ih => exact ih hbefore
  | case2 sock c why rest hread => exact hbefore
  | case3 sock c f rest hread hdispatch => exact hbefore
  | case4 sock c f rest hread c' hdispatch ih =>
      apply ih
      rw [replies_dispatch hdispatch, hbefore]
      rcases dispatch_eq_some hdispatch with ⟨hunknown, hsame⟩ | ⟨event, hput⟩
      · have hnone : py.replyOf f = none := by
          rw [Builtins.replyOf, if_neg]
          intro htype
          rw [htype] at hunknown
          exact absurd hunknown (by decide)
        rw [hnone, hsame, Option.toList_none, List.append_nil]
      · rw [hput, List.map_append, List.filterMap_append]
        cases hreply : py.replyOf f <;> simp [hreply]

/-- The position is the end of a frame, or the beginning of the stream. -/
def AtBoundary (bytes : Bytes) (position : Nat) : Prop :=
  ∃ frames, (∀ f ∈ frames, WellFramed f) ∧
    (encodeAll frames).length = position ∧ encodeAll frames <+: bytes

theorem atBoundary_frame {f : ParsedFrame} {rest : Bytes} {position : Nat}
    (hf : WellFramed f)
    (hboundary : AtBoundary (frameBytes f ++ rest)
      ((frameBytes f).length + position)) : AtBoundary rest position := by
  obtain ⟨frames, hframes, hlength, hbegins⟩ := hboundary
  cases frames with
  | nil =>
      rw [encodeAll_nil, List.length_nil, frameBytes_length] at hlength
      omega
  | cons g later =>
      obtain ⟨more, hmore⟩ := hbegins
      rw [encodeAll_cons, List.append_assoc] at hmore
      obtain ⟨rfl, hrest⟩ :=
        frameBytes_inj (hframes g List.mem_cons_self) hf hmore
      rw [encodeAll_cons, List.length_append] at hlength
      exact ⟨later, fun h hh => hframes h (List.mem_cons_of_mem _ hh),
        by omega, more, hrest⟩

theorem eq_nil_of_incomplete {lost rest : Bytes}
    (hincomplete : Incomplete lost)
    (hboundary : AtBoundary (lost ++ rest) lost.length) : lost = [] := by
  obtain ⟨frames, hframes, hlength, hbegins⟩ := hboundary
  cases frames with
  | nil => exact List.length_eq_zero_iff.mp hlength.symm
  | cons f later =>
      obtain ⟨more, hmore⟩ := hbegins
      rw [encodeAll_cons, List.append_assoc] at hmore
      have hshort :=
        hincomplete.length_lt (hframes f List.mem_cons_self) hmore.symm
      rw [encodeAll_cons, List.length_append] at hlength
      omega

/-- Unless a timeout strikes within a frame, the replies read are those of the
first frames of the stream. -/
theorem replies_rxLoop (py : Builtins) {sock : List Arrival}
    (hsegments : Segments sock)
    (hboundary : ∀ position ∈ timeoutsAt sock,
      AtBoundary (stream sock) position) (c : Receiver) :
    ∃ frames, (∀ f ∈ frames, WellFramed f) ∧
      encodeAll frames <+: stream sock ∧
      (rxLoop py sock c).1.replies =
        c.replies ++ frames.filterMap py.replyOf := by
  fun_induction rxLoop py sock c with
  | case1 sock c rest hread ih =>
      have hframe := frameRead_of_recvFrame hsegments hread
      cases hframe with
      | timeout lost _ hincomplete htakes =>
          have hat := hboundary lost.length (by
            rw [htakes.timeouts, timeoutsAt]
            simp)
          rw [htakes.stream] at hat
          have hnone := eq_nil_of_incomplete hincomplete hat
          subst hnone
          have hsame : stream sock = stream rest := htakes.stream
          rw [hsame]
          refine ih htakes.segments.tail ?_
          intro position hposition
          rw [← hsame]
          apply hboundary
          rw [htakes.timeouts, timeoutsAt]
          simp [hposition]
  | case2 sock c why rest hread =>
      exact ⟨[], by simp, List.nil_prefix, by simp⟩
  | case3 sock c f rest hread hdispatch =>
      exact ⟨[], by simp, List.nil_prefix, by simp⟩
  | case4 sock c f rest hread c' hdispatch ih =>
      have hframe := frameRead_of_recvFrame hsegments hread
      cases hframe with
      | got _ _ hf htakes =>
          obtain ⟨frames, hframes, hbegins, hreplies⟩ :=
            ih htakes.segments (fun position hposition => by
              apply atBoundary_frame hf
              rw [← htakes.stream]
              apply hboundary
              rw [htakes.timeouts]
              exact List.mem_map_of_mem hposition)
          refine ⟨f :: frames, List.forall_mem_cons.mpr ⟨hf, hframes⟩, ?_, ?_⟩
          · rw [htakes.stream, encodeAll_cons]
            exact (List.prefix_append_right_inj _).mpr hbegins
          · rw [hreplies, replies_dispatch hdispatch, List.append_assoc]
            cases hreply : py.replyOf f <;> simp [hreply]

end PyRelayClient

/-! ## Frames of a session -/

def Wire.parsed (w : Wire) : ParsedFrame where
  header :=
    { msgType := w.msgType
      seq := w.seq
      bodyLen := UInt32.ofNat (packAll w.body).length }
  body := packAll w.body

section Cut

open PyRelayClient (WellFramed encodeAll frameBytes_inj frameBytes_length)

theorem Wire.Fits.wellFramed {w : Wire} (hw : w.Fits) :
    WellFramed w.parsed := by
  have hlen : (UInt32.ofNat (packAll w.body).length).toNat =
      (packAll w.body).length := by
    rw [UInt32.toNat_ofNat']
    exact Nat.mod_eq_of_lt hw
  exact ⟨rfl, hlen.symm⟩

theorem frames_of_cut {wires : List Wire} (hfits : ∀ w ∈ wires, w.Fits)
    {bytes : Bytes} (hcut : CutFrom wires bytes) {frames : List ParsedFrame}
    (hframes : ∀ f ∈ frames, WellFramed f)
    (hbegins : encodeAll frames <+: bytes) :
    frames <+: wires.map Wire.parsed := by
  obtain ⟨tail, rfl, htail⟩ := hcut
  induction frames generalizing wires with
  | nil => exact List.nil_prefix
  | cons f later ih =>
      have hf := hframes f List.mem_cons_self
      obtain ⟨more, hmore⟩ := hbegins
      rw [PyRelayClient.encodeAll_cons, List.append_assoc] at hmore
      cases wires with
      | nil =>
          exfalso
          rw [wireBytes_nil, List.nil_append] at hmore
          rcases htail with rfl | ⟨w, hw, rest, hrest, hbytes⟩
          · have hlength := congrArg List.length hmore
            rw [List.length_append, frameBytes_length] at hlength
            simp at hlength
          · have hsame : PyRelayClient.frameBytes f ++
                (encodeAll later ++ more ++ rest) =
                PyRelayClient.frameBytes w.parsed ++ [] := by
              rw [← List.append_assoc, hmore, hbytes, List.append_nil]
              rfl
            have hnone := (frameBytes_inj hf hw.wellFramed hsame).2
            exact hrest (List.append_eq_nil_iff.mp hnone).2
      | cons w wires =>
          rw [List.forall_mem_cons] at hfits
          have hsame : PyRelayClient.frameBytes f ++
              (encodeAll later ++ more) = PyRelayClient.frameBytes w.parsed ++
                (wireBytes wires ++ tail) := by
            rw [hmore, ← List.append_assoc]
            rfl
          obtain ⟨rfl, hrest⟩ := frameBytes_inj hf hfits.1.wellFramed hsame
          exact List.cons_prefix_cons.mpr ⟨rfl, ih hfits.2
            (fun g hg => hframes g (List.mem_cons_of_mem _ hg))
            ⟨more, hrest⟩⟩

end Cut

/-! ## The replies of the server -/

namespace TcpSession

def isNotice (w : Wire) : Bool :=
  w.msgType = kMsgKick

/-- The frames of the line but KICK notices have been passed to
`send_frame`. -/
def Passed (sent : List Wire) (s : TcpSession) : Prop :=
  (s.line.filter (fun w => !isNotice w)).Sublist sent

theorem Passed.call {sent : List Wire} {s : TcpSession}
    (hpassed : s.Passed sent) (made : Call) :
    (made.apply s).Passed (sent ++ made.sent.toList) := by
  have hpost : ∀ handler, (s.post handler).line =
      s.line ++ (frameOf handler).toList := by
    intro handler
    rw [line, line, post, List.filterMap_append, ← List.append_assoc]
    cases handler <;> rfl
  have hquiet : ∀ handler, (frameOf handler).toList.filter
      (fun w => !isNotice w) = [] → (s.post handler).Passed sent := by
    intro handler hnil
    rw [Passed, hpost, List.filter_append, hnil, List.append_nil]
    exact hpassed
  cases made with
  | sendFrame wire =>
      rw [Call.apply, TcpSession.sendFrame, Passed, hpost, List.filter_append]
      exact hpassed.append (List.filter_sublist)
  | stop why =>
      simp only [Call.sent, Option.toList_none, List.append_nil]
      exact hquiet (.stop why) rfl
  | notifyAndClose userReason logWhy =>
      simp only [Call.sent, Option.toList_none, List.append_nil, Call.apply,
        TcpSession.notifyAndClose]
      split
      · exact hquiet (.kick (kickWire userReason) logWhy) rfl
      · exact hquiet (.stop logWhy) rfl
  | markLogin uid isAdmin username =>
      simp only [Call.sent, Option.toList_none, List.append_nil]
      exact hpassed

end TcpSession

theorem replySeqs_eq (c : ConnId) (calls : List (ConnId × Call)) :
    replySeqs c calls = ((framesTo c calls).filter
      (fun w => w.msgType = kMsgServerReply)).map Wire.seq := by
  rw [replySeqs, framesTo]
  induction Hub.callsOn c calls with
  | nil => rfl
  | cons made rest ih =>
      cases made with
      | sendFrame wire =>
          by_cases htype : wire.msgType = kMsgServerReply <;>
            simp [Call.replySeq, Call.sent, htype, ih]
      | _ => exact ih

def Mark.seq? : Mark → Option UInt32
  | .request seq => some seq
  | .stopped => none

theorem unstopped_sublist (marks : List Mark) :
    (unstopped marks).Sublist (marks.filterMap Mark.seq?) := by
  fun_induction unstopped marks with
  | case1 => exact List.Sublist.slnil
  | case2 rest ih => exact ih
  | case3 seq rest ih => exact ih.cons seq
  | case4 seq rest hrest ih => exact ih.cons_cons seq

namespace Server

variable {cfg : Config} {unpack : Bytes → Option Obj} {db : Db}
  {events : List Event} {s : Server}

theorem passed_of_run
    (hrun : Transition.run (step cfg unpack) events (initial db) = some s)
    (c : ConnId) :
    (s.hub.sessions c).Passed (framesTo c s.hub.calls) := by
  have hkept : s.EndingOk cfg ∧ s.Untouched ∧
      (s.hub.sessions c).Passed (framesTo c s.hub.calls) := by
    refine Transition.run_preserves_always
      (fun s : Server => s.EndingOk cfg ∧ s.Untouched ∧
        (s.hub.sessions c).Passed (framesTo c s.hub.calls)) ?_
      ⟨endingOk_initial db, fun _ _ => ⟨rfl, rfl⟩, List.nil_sublist _⟩ hrun
    rintro s event s' ⟨hending, huntouched, hpassed⟩ hstep
    refine ⟨hending.step hstep, huntouched.step hending hstep, ?_⟩
    have hnone : s.hub.reg.nextConnId < c →
        itemsOf c ([] : List (ConnId × Effect)) = [] := fun _ => rfl
    exact session_ledger (P := fun _ sent s => s.Passed sent)
      (fun _ => List.nil_sublist _)
      (fun _ _ _ made hbefore => hbefore.call made)
      (fun _ _ _ _ _ hbefore hio =>
        ((TcpSession.ioStep_line hio).filter _).trans hbefore)
      (fun _ _ _ hbefore => hbefore) huntouched hstep hnone hpassed
  exact hkept.2.2

theorem marks_requests (c : ConnId) (s : Server) (event : Event) :
    (marks c s event).filterMap Mark.seq? =
      (requests c s event).map (fun f => f.header.seq) := by
  cases event with
  | read d event =>
      cases event with
      | resume =>
          by_cases hsame : d = c
          · subst hsame
            cases hreader : s.readers d <;>
              simp [marks, requests, hreader, ReadLoop.handedOver, Mark.seq?]
          · cases hreader : s.readers d <;>
              simp [marks, requests, hreader, hsame]
      | _ => simp [marks, requests, ReadLoop.handedOver]
  | advance d env =>
      simp only [marks, requests]
      split
      · split <;> rfl
      · rfl
  | _ => rfl

/-- A reply has the number of a request, and each request has at most one. -/
theorem replySeqs_sublist
    (hrun : Transition.run (step cfg unpack) events (initial db) = some s)
    (c : ConnId) :
    (replySeqs c s.hub.calls).Sublist ((Transition.observe (step cfg unpack)
      (requests c) events (initial db)).map (fun f => f.header.seq)) := by
  have hreplied : s.Sane ∧ Replied c ([] ++ Transition.observe
      (step cfg unpack) (marks c) events (initial db)) s :=
    Transition.observe_preserves
      (fun seen state => state.Sane ∧ Replied c seen state)
      (fun seen state event next hboth hstep =>
        ⟨hboth.1.step hstep, hboth.2.step hboth.1 hstep⟩)
      ⟨sane_initial db, replied_initial db c⟩ hrun
  rw [List.nil_append] at hreplied
  have hmarks : (Transition.observe (step cfg unpack) (marks c) events
        (initial db)).filterMap Mark.seq? =
      Transition.observe (step cfg unpack) (fun s event =>
        (requests c s event).map (fun f => f.header.seq)) events (initial db) :=
    Transition.observe_map _ rfl (fun _ _ => List.filterMap_append)
      (marks_requests c) _ _
  have hrequests : (Transition.observe (step cfg unpack) (requests c) events
        (initial db)).map (fun f => f.header.seq) =
      Transition.observe (step cfg unpack) (fun s event =>
        (requests c s event).map (fun f => f.header.seq)) events (initial db) :=
    Transition.observe_map _ rfl (fun _ _ => List.map_append)
      (fun _ _ => rfl) _ _
  rw [hrequests, ← hmarks]
  by_cases hidle : ∀ q, s.readers c = .handling q → q.stage = .done
  · rw [hreplied.2.idle hidle]
    exact unstopped_sublist _
  · simp only [not_forall] at hidle
    obtain ⟨q, hreader, hstage⟩ := hidle
    obtain ⟨earlier, hseen, hreplies⟩ := hreplied.2.busy q hreader hstage
    rw [hreplies, hseen, List.filterMap_append]
    exact (unstopped_sublist earlier).trans (List.sublist_append_left _ _)

end Server

namespace PyRelayClient

open SharedInbox (Inbox)

theorem replyOf_parsed {py : Builtins} {w : Wire} {r : ServerReply}
    (hreply : py.replyOf w.parsed = some r) :
    w.msgType = kMsgServerReply ∧ r.seq = w.seq := by
  unfold Builtins.replyOf at hreply
  split at hreply
  · rename_i htype
    obtain ⟨obj, _, rfl⟩ := Option.map_eq_some_iff.mp hreply
    exact ⟨htype, rfl⟩
  · cases hreply

theorem seqs_sublist (py : Builtins) (wires : List Wire) :
    (((wires.map Wire.parsed).filterMap py.replyOf).map
      ServerReply.seq).Sublist
        ((wires.filter (fun w => w.msgType = kMsgServerReply)).map
          Wire.seq) := by
  induction wires with
  | nil => exact List.Sublist.slnil
  | cons w wires ih =>
      rw [List.map_cons]
      cases hreply : py.replyOf w.parsed with
      | none =>
          rw [List.filterMap_cons_none hreply]
          exact ih.trans (((List.sublist_cons_self _ _).filter _).map _)
      | some r =>
          obtain ⟨htype, hseq⟩ := replyOf_parsed hreply
          rw [List.filterMap_cons_some hreply,
            List.filter_cons_of_pos (by simpa using htype), List.map_cons,
            List.map_cons, hseq]
          exact ih.cons_cons _

/-- A Python client on the connection `c`: its socket has brought it some of
what the session has written, with no timeout within a frame, and its inbox
has got replies which `_rx_loop` has read. -/
structure PyCaller (py : Builtins) (server : Server) (c : ConnId)
    (inbox : ReplyInbox) : Prop where
  notices : ∀ w ∈ (server.hub.sessions c).accepted, w.msgType = kMsgKick →
    w.Fits
  reads : ∃ sock events, Segments sock ∧
    stream sock <+: (server.hub.sessions c).output ∧
    (∀ position ∈ timeoutsAt sock, AtBoundary (stream sock) position) ∧
    Transition.run waitReply events {} = some inbox ∧
    Transition.observe waitReply Inbox.puts events {} <+:
      (rxLoop py sock {}).1.replies

theorem PyCaller.exists_wires {cfg : Config} {py : Builtins}
    {server : Server} {c : ConnId} {inbox : ReplyInbox}
    (hcaller : PyCaller py server c inbox)
    (hflowing : (server.hub.sessions c).Flowing cfg) :
    ∃ (wires : List Wire) (replies : List ServerReply),
      wires.Sublist (server.hub.sessions c).accepted ∧
      replies <+: (wires.map Wire.parsed).filterMap py.replyOf ∧
      inbox.items = Multiset.ofList replies ∧
      ∀ result ∈ inbox.returned, result.2.2.number = result.2.1 := by
  obtain ⟨sock, events, hsegments, hstream, hboundary, hrun, hputs⟩ :=
    hcaller.reads
  obtain ⟨wires, hwires, hfits, hcut⟩ :=
    hflowing.cutFrom hcaller.notices hstream
  obtain ⟨frames, hframes, hbegins, hreplies⟩ :=
    replies_rxLoop py hsegments hboundary {}
  have hread := frames_of_cut hfits hcut hframes hbegins
  refine ⟨wires, _, hwires, ?_, Inbox.items_of_run hrun,
    Inbox.matched_of_run hrun⟩
  have hnone : Receiver.replies {} = [] := rfl
  rw [hreplies, hnone, List.nil_append] at hputs
  exact hputs.trans (hread.filterMap _)

/-- What `wait_reply` returns is a reply which the server has made on this
connection, with the number asked for.  However the threads take replies and
put them back, all replies in the inbox, in the hands of threads and returned
are replies to different requests of this connection. -/
theorem replies_of_requests (cfg : Config) {unpack : Bytes → Option Obj}
    (db : Db) {events : List AsioForwarder.Event} {s : Server}
    (hgood : Transition.Along (Server.step cfg unpack) Server.NoWriteError
      events (Server.initial db))
    (hrun : Transition.run (Server.step cfg unpack) events
      (Server.initial db) = some s)
    (c : ConnId) (py : Builtins) {inbox : ReplyInbox}
    (hcaller : PyCaller py s c inbox) :
    (∀ result ∈ inbox.returned, result.2.2.number = result.2.1 ∧
      ∃ w ∈ framesTo c s.hub.calls, w.msgType = kMsgServerReply ∧
        py.replyOf w.parsed = some result.2.2) ∧
    inbox.items.map ServerReply.seq ≤
      Multiset.ofList ((Transition.observe (Server.step cfg unpack)
        (Server.requests c) events (Server.initial db)).map
          (fun f => f.header.seq)) := by
  obtain ⟨wires, replies, hwires, hreplies, hitems, hmatched⟩ :=
    hcaller.exists_wires (Server.flowing_of_run hgood hrun c)
  have hpassed := Server.passed_of_run hrun c
  have hnotices : (s.hub.sessions c).line.filter
        (fun w => w.msgType = kMsgServerReply) =
      ((s.hub.sessions c).line.filter
        (fun w => !TcpSession.isNotice w)).filter
          (fun w => w.msgType = kMsgServerReply) := by
    rw [List.filter_filter]
    apply List.filter_congr
    intro w _
    by_cases htype : w.msgType = kMsgServerReply
    · have hother : TcpSession.isNotice w = false := by
        rw [TcpSession.isNotice, htype]
        rfl
      simp [htype, hother]
    · simp [htype]
  have hsent : (wires.filter (fun w => w.msgType = kMsgServerReply)).Sublist
      ((framesTo c s.hub.calls).filter
        (fun w => w.msgType = kMsgServerReply)) := by
    have hline : (s.hub.sessions c).accepted.Sublist
        (s.hub.sessions c).line := List.sublist_append_left _ _
    refine ((hwires.trans hline).filter _).trans ?_
    rw [hnotices]
    exact hpassed.filter _
  constructor
  · intro result hresult
    refine ⟨hmatched result hresult, ?_⟩
    have hitem : result.2.2 ∈ inbox.items :=
      Multiset.mem_add.mpr (.inr (Multiset.mem_coe.mpr
        (List.mem_map_of_mem hresult)))
    rw [hitems, Multiset.mem_coe] at hitem
    obtain ⟨f, hf, hreply⟩ :=
      List.mem_filterMap.mp (hreplies.subset hitem)
    obtain ⟨w, hw, rfl⟩ := List.mem_map.mp hf
    have htype := (replyOf_parsed hreply).1
    have hmem := hsent.subset
      (List.mem_filter.mpr ⟨hw, decide_eq_true htype⟩)
    exact ⟨w, (List.mem_filter.mp hmem).1, htype, hreply⟩
  · rw [hitems, Multiset.map_coe, Multiset.coe_le]
    apply List.Sublist.subperm
    refine (hreplies.sublist.map _).trans ((seqs_sublist py wires).trans ?_)
    refine (hsent.map _).trans ?_
    rw [← replySeqs_eq]
    exact Server.replySeqs_sublist hrun c

/-- `root` logs in, sends a heartbeat, and the session writes both replies. -/
def heartbeatRun : List AsioForwarder.Event :=
  Server.rootLogin ++
    Server.receive 1 kClientHeartbeat 2 [.map 0] ++ Server.advances 1 2 ++
    Server.writes 1 2 2

def replyFrames : List ParsedFrame :=
  [(loginReplyWire 1 ⟨1, true, 1, true, lit "root"⟩ ⟨.broadcast, none⟩).parsed,
    (okReplyWire 2 (lit "HEARTBEAT")).parsed]

theorem serverFrame_replyFrames :
    ∀ f ∈ replyFrames, ServerFrame flatBuiltins f := by
  intro f hf
  simp only [replyFrames, List.mem_cons, List.not_mem_nil, or_false] at hf
  rcases hf with rfl | rfl
  · exact ⟨⟨by decide, by decide⟩, by decide, fun _ => rfl⟩
  · exact ⟨⟨by decide, by decide⟩, by decide, fun _ => rfl⟩

def loginReply : ServerReply where
  seq := 1
  body :=
    [(.str (lit "ok"), .boolean true), (.str (lit "op"), .str (lit "LOGIN")),
      (.str (lit "conn_id"), .positiveInteger 1),
      (.str (lit "user_id"), .positiveInteger 1),
      (.str (lit "username"), .str (lit "root")),
      (.str (lit "peer_role"), .str (lit "admin")),
      (.str (lit "recv_mode"), .str (lit "broadcast"))]

def heartbeatReply : ServerReply where
  seq := 2
  body := [(.str (lit "ok"), .boolean true),
    (.str (lit "op"), .str (lit "HEARTBEAT"))]

/-- Thread 1 waits for the reply to the heartbeat and takes the other one
first. -/
def twoCallers : List InboxEvent :=
  [.call 0 1, .call 1 2, .put loginReply, .take 1, .put heartbeatReply,
    .compare 1, .take 0, .compare 0, .take 1, .compare 1, .take 1, .compare 1,
    .take 0, .compare 0]

theorem heartbeat_caller :
    ∃ s inbox, Transition.run (Server.step forwarderJson unpackFlat)
        heartbeatRun (Server.initial Server.emptyDb) = some s ∧
      inbox.returned.map (fun result => (result.1, result.2.1)) =
        [(1, 2), (0, 1)] ∧
      PyCaller flatBuiltins s 1 inbox := by
  obtain ⟨s, hrun, hnotices, houtput⟩ : ∃ s : Server,
      Transition.run (Server.step forwarderJson unpackFlat) heartbeatRun
        (Server.initial Server.emptyDb) = some s ∧
      (∀ w ∈ (s.hub.sessions 1).accepted, w.msgType ≠ kMsgKick) ∧
      (s.hub.sessions 1).output = encodeAll replyFrames :=
    Transition.exists_run_of_check (by decide +kernel)
  obtain ⟨inbox, hinbox, hreturned⟩ : ∃ inbox : ReplyInbox,
      Transition.run waitReply twoCallers {} = some inbox ∧
      inbox.returned.map (fun result => (result.1, result.2.1)) =
        [(1, 2), (0, 1)] :=
    Transition.exists_run_of_check (by decide)
  have hsegments : Segments [.bytes (encodeAll replyFrames)] := by decide
  have hstream : stream [.bytes (encodeAll replyFrames)] =
      encodeAll replyFrames := List.append_nil _
  have hsynchronised : Synchronised flatBuiltins replyFrames
      [.bytes (encodeAll replyFrames)] {} :=
    (rxLoop_synchronised_iff flatBuiltins serverFrame_replyFrames hsegments
      hstream {}).mpr (fun _ hposition => by cases hposition)
  have hreplies : (rxLoop flatBuiltins [.bytes (encodeAll replyFrames)]
      {}).1.replies = replyFrames.filterMap flatBuiltins.replyOf := by
    rw [replies_dispatched rfl, hsynchronised.1]
    rfl
  refine ⟨s, inbox, hrun, hreturned, fun w hw hkick =>
    absurd hkick (hnotices w hw), _, twoCallers, hsegments, ?_,
    fun _ hposition => (by cases hposition), hinbox, ?_⟩
  · rw [hstream, houtput]
  · rw [hreplies]
    exact List.prefix_rfl

theorem replies_of_requests_heartbeatRun :
    ∃ (inbox : ReplyInbox) (s : Server),
      inbox.returned.map (fun result => (result.1, result.2.1)) =
        [(1, 2), (0, 1)] ∧
      ∀ result ∈ inbox.returned, result.2.2.number = result.2.1 ∧
        ∃ w ∈ framesTo 1 s.hub.calls, w.msgType = kMsgServerReply ∧
          flatBuiltins.replyOf w.parsed = some result.2.2 := by
  obtain ⟨s, inbox, hrun, hreturned, hcaller⟩ := heartbeat_caller
  exact ⟨inbox, s, hreturned, (replies_of_requests forwarderJson
    Server.emptyDb (Transition.along_of_check (by decide +kernel)) hrun 1
    flatBuiltins hcaller).1⟩

end PyRelayClient

end AsioForwarder
