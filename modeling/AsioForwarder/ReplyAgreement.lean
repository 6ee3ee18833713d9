import AsioForwarder.LinkChannel
import AsioForwarder.SequenceNumbers

/-!
# Client and server agree on replies

At most one of the requests which can still be answered is no HEARTBEAT, the
one a call waits for.  A loop passes over the replies to heartbeats, so it
meets its own reply, a KICK or the end of the stream; only `heartbeat` cannot
tell its own reply from that to a heartbeat with the same number.
-/

namespace AsioForwarder

/-! ## How a call ends -/

def Sent.Numbered (start : UInt32) (issued : Nat) (r : Sent) : Prop :=
  r.header.seq = seqAt start r.id ∧ r.id ≤ issued

theorem Sent.Numbered.mono {start : UInt32} {issued : Nat} {r : Sent}
    (hnumbered : r.Numbered start issued) :
    r.Numbered start (issued + 1) :=
  ⟨hnumbered.1, Nat.le_succ_of_le hnumbered.2⟩

/-- A loop waits for the reply to the request. -/
inductive Waiting.Awaits : Waiting → Option Sent → Prop where
  | deliver : Awaits .deliver none
  | data (r : Sent) (htype : r.header.msgType = kClientData) :
      Awaits (.serverAck r.header.seq (lit "DATA")) (some r)
  | kickUser (r : Sent) (htype : r.header.msgType = kClientControl) :
      Awaits (.serverAck r.header.seq (lit "CONTROL")) (some r)
  | control (r : Sent) (htype : r.header.msgType = kClientControl) :
      Awaits (.controlFull r.header.seq) (some r)
  | heartbeat (r : Sent) (htype : r.header.msgType = kClientHeartbeat) :
      Awaits (.heartbeatOk r.header.seq) (some r)

/-- The exceptions at a reply which is not the one waited for. -/
inductive Waiting.Mismatch : Waiting → Bytes → Prop where
  | ackOp (seq : UInt32) (op got : Bytes) :
      Mismatch (.serverAck seq op)
        (lit "等待 " ++ op ++ lit " 但收到 seq 相同、op 不符的 201: " ++ got)
  | ackSeq (seq : UInt32) (op got number : Bytes) :
      Mismatch (.serverAck seq op)
        (lit "等待 " ++ op ++ lit " 时先收到不匹配的 201: seq=" ++ number ++
          lit " op=" ++ got)
  | controlSeq (seq : UInt32) (number : Bytes) :
      Mismatch (.controlFull seq) (lit "CONTROL: 未预期的 201 seq=" ++ number)
  | controlOp (seq : UInt32) (got : Bytes) :
      Mismatch (.controlFull seq) (lit "CONTROL: op 不符: " ++ got)
  | heartbeat (seq : UInt32) (got number : Bytes) :
      Mismatch (.heartbeatOk seq)
        (lit "heartbeat: 对 HEARTBEAT 先收到不匹配的 201: seq=" ++ number ++
          lit " op=" ++ got)
  | deliver :
      Mismatch .deliver (lit
        "recv_deliver: 在收到 200 之前收到 201（多线程/调用顺序不合法，或需先 drain 对端应答）")

inductive Waiting.Refusal (message : Bytes) : Waiting → Bytes → Prop where
  | ack (seq : UInt32) (op : Bytes) :
      Refusal message (.serverAck seq op)
        (op ++ lit " 未受理: " ++ messageOr (lit "?") message)
  | control (seq : UInt32) :
      Refusal message (.controlFull seq)
        (lit "CONTROL 未受理: " ++ messageOr (lit "?") message)

namespace Incoming

structure Answers (item : Incoming) (r : Sent) (reply : ServerReply) :
    Prop where
  request : item.request = some r
  reads : RelayClient.eventOfWire item.wire = some (.serverReply reply)
  seq : reply.seq = r.header.seq

end Incoming

/-- A call ends as it should: with a delivery, with the reply to its own
request, with its refusal, at a KICK or at the end of the stream.  A frame
which cannot be read is the end of the stream. -/
inductive Ended.Proper : Ended → Prop where
  | delivered (taken : Option Incoming) (d : Deliver) :
      Proper ⟨.deliver, none, taken, .returned (.deliver d)⟩
  | accepted (w : Waiting) (own : Sent) (item : Incoming)
      (reply : ServerReply) (value : Returned)
      (hanswers : item.Answers own reply) (hok : reply.ok = true)
      (hvalue : value = .done ∨ value = .reply reply) :
      Proper ⟨w, some own, some item, .returned value⟩
  | refused (w : Waiting) (own : Sent) (item : Incoming)
      (reply : ServerReply) (what : Bytes)
      (hanswers : item.Answers own reply) (hok : reply.ok = false)
      (hwhat : w.Refusal reply.message what) :
      Proper ⟨w, some own, some item, .threw what⟩
  | kicked (w : Waiting) (own : Option Sent) (item : Incoming)
      (reason : Bytes)
      (hkick : RelayClient.eventOfWire item.wire = some (.kick reason)) :
      Proper ⟨w, own, some item, .threw (w.kickText reason)⟩
  | atEof (w : Waiting) (own : Option Sent) (taken : Option Incoming)
      (hnothing : ∀ item, taken = some item →
        RelayClient.eventOfWire item.wire = none) :
      Proper ⟨w, own, taken, .threw w.eofText⟩

/-- `heartbeat` returns at the reply to an earlier heartbeat whose number has
come round again. -/
inductive Ended.Wrapped : Ended → Prop where
  | heartbeat (own older : Sent) (item : Incoming) (reply : ServerReply)
      (hanswers : item.Answers older reply) (hok : reply.ok = true)
      (hown : own.header.msgType = kClientHeartbeat)
      (htype : older.header.msgType = kClientHeartbeat)
      (hearlier : older.id < own.id)
      (hround : (own.id - older.id) % seqPeriod = 0) :
      Wrapped ⟨.heartbeatOk own.header.seq, some own, some item,
        .returned .done⟩

/-- A call has ended, as it should or at a number which has come round. -/
def Ended.Settled (e : Ended) : Prop := e.Proper ∨ e.Wrapped

theorem ReplyTo.seq_eq {h : Header} {reply : ServerReply}
    (hreply : ReplyTo h reply) : reply.seq = h.seq := by
  cases hreply <;> rfl

theorem Waiting.Awaits.onReply_own {w : Waiting} {r : Sent}
    (hawaits : w.Awaits (some r)) {reply : ServerReply}
    (hreply : ReplyTo r.header reply) :
    (∃ value, w.onReply reply = .returned value ∧ reply.ok = true ∧
      (value = .done ∨ value = .reply reply)) ∨
    ∃ what, w.onReply reply = .threw what ∧ reply.ok = false ∧
      w.Refusal reply.message what := by
  have hdata : lit "DATA" ≠ lit "HEARTBEAT" := by decide
  have hcontrol : lit "CONTROL" ≠ lit "HEARTBEAT" := by decide
  cases hreply with
  | heartbeat htype =>
      left
      cases hawaits with
      | data _ hother => exact absurd (htype.symm.trans hother) (by decide)
      | kickUser _ hother => exact absurd (htype.symm.trans hother) (by decide)
      | control _ hother => exact absurd (htype.symm.trans hother) (by decide)
      | heartbeat _ _ => exact ⟨.done, by simp [onReply], rfl, .inl rfl⟩
  | data htype =>
      left
      cases hawaits with
      | data _ _ => exact ⟨.done, by simp [onReply, hdata], rfl, .inl rfl⟩
      | kickUser _ hother => exact absurd (htype.symm.trans hother) (by decide)
      | control _ hother => exact absurd (htype.symm.trans hother) (by decide)
      | heartbeat _ hother =>
          exact absurd (htype.symm.trans hother) (by decide)
  | control htype =>
      left
      cases hawaits with
      | data _ hother => exact absurd (htype.symm.trans hother) (by decide)
      | kickUser _ _ =>
          exact ⟨.done, by simp [onReply, hcontrol], rfl, .inl rfl⟩
      | control _ _ =>
          exact ⟨.reply _, by simp [onReply, hcontrol], rfl, .inr rfl⟩
      | heartbeat _ hother =>
          exact absurd (htype.symm.trans hother) (by decide)
  | refusal hkind message =>
      right
      cases hawaits with
      | data _ _ => exact ⟨_, by simp [onReply], rfl, .ack _ _⟩
      | kickUser _ _ => exact ⟨_, by simp [onReply], rfl, .ack _ _⟩
      | control _ _ => exact ⟨_, by simp [onReply], rfl, .control _⟩
      | heartbeat _ hother => exact absurd hother hkind

theorem Waiting.Awaits.onReply_heartbeat {w : Waiting} {asked : Option Sent}
    (hawaits : w.Awaits asked) (seq : UInt32) :
    w.onReply { seq := seq, ok := true, op := lit "HEARTBEAT" } =
      if w = .heartbeatOk seq then .returned .done else .again := by
  cases hawaits with
  | heartbeat r _ =>
      by_cases hseq : r.header.seq = seq
      · simp [onReply, hseq]
      · simp [onReply, hseq, Ne.symm hseq]
  | _ => simp [onReply]

namespace Client

@[simp] theorem react_seq (w : Waiting) (event : SdkEvent) (c : Client) :
    (c.react w event).1.seq = c.seq := by
  cases event with
  | deliver d => cases w <;> rfl
  | serverReply reply => rfl
  | kick reason => rfl

theorem turn_seq (w : Waiting) (recv : Option SdkEvent) (c : Client) :
    (c.turn w recv).1.seq = c.seq := by
  unfold turn
  split
  · rfl
  · unfold takeEvent
    split
    · simp
    · cases recv with
      | none => rfl
      | some event => simp

theorem turn_read {w : Waiting} {c : Client} (hdrained : c.inOrder = [])
    (hkept : w = .deliver → c.preDelivers = []) (recv : Option SdkEvent) :
    (c.turn w recv).2.2 =
      match recv with
      | none => .threw w.eofText
      | some event => (c.react w event).2 := by
  unfold turn
  split
  · rename_i d rest hpre
    rw [hkept rfl] at hpre
    cases hpre
  · unfold takeEvent
    rw [hdrained]
    cases recv <;> rfl

end Client

/-! ## A turn -/

namespace Link

variable {unpack : Bytes → Option Obj} {sender : Identity} {start : UInt32}

/-- The client's half: numbers follow the positions, what waits for a reply
is the loop of the last call, and the reply of that call is still to come, or
nothing but replies to earlier requests is. -/
structure Calling (start : UInt32) (l : Link) : Prop where
  drained : l.session.client.inOrder = []
  signedOn : l.session.signedOn = true
  seq : l.session.client.seq = seqAt start l.issued
  numbered : ∀ r ∈ l.owed, r.Numbered start l.issued
  ordered : l.Ordered
  asked : ∀ r, l.asked = some r → r.Numbered start l.issued
  awaits : ∀ w, l.session.waiting = some w → w.Awaits l.asked
  single : l.Dead ∨ ∀ r ∈ l.owed, r.header.msgType ≠ kClientHeartbeat →
    l.session.waiting ≠ none ∧ l.asked = some r
  coming : ∀ own, l.session.waiting ≠ none → l.asked = some own →
    own ∈ l.owed ∨
      (l.serverOpen = false ∧ ∀ other ∈ l.answered, other.id < own.id)

/-- What a turn does: a loop which goes on has not met its own reply, and
after one which ends no reply of another kind than that to a heartbeat is
owed. -/
structure TurnOk (l : Link) (w : Waiting) (taken : Option Incoming)
    (turn : Turn) : Prop where
  again : turn = .again → ∀ r, taken.bind Incoming.answered = some r →
    l.asked ≠ some r
  settled : turn ≠ .again → Ended.Settled ⟨w, l.asked, taken, turn⟩
  clear : turn ≠ .again → (l.pop taken).Dead ∨
    ∀ r ∈ (l.pop taken).owed, r.header.msgType = kClientHeartbeat

theorem owed_pop {l : Link} {item : Incoming} {rest : List Incoming}
    (hclient : l.toClient = item :: rest) :
    l.owed = item.answered.toList ++ (l.pop (some item)).owed := by
  have hanswered : l.answered =
      item.answered.toList ++ (l.pop (some item)).answered := by
    simp only [answered, pop, hclient, List.filterMap_cons, List.tail_cons]
    cases item.answered <;> rfl
  rw [owed, hanswered, List.append_assoc]
  rfl

theorem not_dead_of_cons {l : Link} {item : Incoming} {rest : List Incoming}
    (hopen : l.clientOpen = true) (hclient : l.toClient = item :: rest) :
    ¬l.Dead := by
  rintro (hclosed | ⟨_, hempty⟩)
  · rw [hopen] at hclosed
    cases hclosed
  · rw [hclient] at hempty
    cases hempty

theorem nextFrame_cases {l : Link} {w : Waiting}
    (hdrained : l.session.client.inOrder = [])
    (hwaiting : l.session.waiting = some w) {taken : Option Incoming}
    (hnext : l.nextFrame = some taken) :
    (w = .deliver ∧ taken = none ∧ l.session.client.preDelivers ≠ []) ∨
    ((w = .deliver → l.session.client.preDelivers = []) ∧
      ((taken = none ∧ l.Dead) ∨
        l.clientOpen = true ∧ ∃ item rest, taken = some item ∧
          l.toClient = item :: rest)) := by
  have hreads : l.reads = true ↔
      (w = .deliver → l.session.client.preDelivers = []) := by
    simp only [reads, hdrained, hwaiting, List.isEmpty_nil, Bool.true_and,
      Bool.or_eq_true, decide_eq_true_eq, ne_eq, Option.some.injEq,
      List.isEmpty_iff]
    tauto
  unfold nextFrame at hnext
  by_cases hkept : w = .deliver → l.session.client.preDelivers = []
  · right
    refine ⟨hkept, ?_⟩
    rw [hreads.mpr hkept] at hnext
    cases hopen : l.clientOpen with
    | false =>
        rw [hopen] at hnext
        cases hnext
        exact .inl ⟨rfl, .inl hopen⟩
    | true =>
        rw [hopen] at hnext
        cases hclient : l.toClient with
        | nil =>
            cases hserver : l.serverOpen with
            | true => simp [hclient, hserver] at hnext
            | false =>
                simp only [hclient, hserver] at hnext
                cases hnext
                exact .inl ⟨rfl, .inr ⟨hserver, hclient⟩⟩
        | cons item rest =>
            simp only [hclient] at hnext
            cases hnext
            exact .inr ⟨rfl, item, rest, rfl, rfl⟩
  · left
    have hnot : l.reads = false := by
      rw [← Bool.not_eq_true, hreads]
      exact hkept
    rw [hnot] at hnext
    cases hnext
    rw [Classical.not_imp] at hkept
    exact ⟨hkept.1, rfl, hkept.2⟩

section Turn

variable {l : Link} {w : Waiting} (hcalling : l.Calling start)
  (hwaiting : l.session.waiting = some w)

include hcalling hwaiting

theorem turnOk_delivered (hw : w = .deliver) (taken : Option Incoming)
    (d : Deliver) (howed : ∀ r ∈ (l.pop taken).owed, r ∈ l.owed)
    (hdead : l.Dead → (l.pop taken).Dead) :
    l.TurnOk w taken (.returned (.deliver d)) where
  again := fun hagain => by cases hagain
  settled := by
    intro _
    have hawaits := hcalling.awaits w hwaiting
    subst hw
    generalize hasked : l.asked = asked at hawaits
    cases hawaits with
    | deliver => exact .inl (.delivered taken d)
  clear := by
    intro _
    have hawaits := hcalling.awaits w hwaiting
    subst hw
    generalize hasked : l.asked = asked at hawaits
    cases hawaits with
    | deliver =>
        rcases hcalling.single with hclosed | hsingle
        · exact .inl (hdead hclosed)
        · right
          intro r hr
          by_contra hother
          have hsome := (hsingle r (howed r hr) hother).2
          rw [hasked] at hsome
          cases hsome

end Turn

theorem turnOk_deliver {l : Link} {w : Waiting} (hcalling : l.Calling start)
    (hwaiting : l.session.waiting = some w) {item : Incoming}
    {rest : List Incoming} (hopen : l.clientOpen = true)
    (hclient : l.toClient = item :: rest) (hnone : item.answered = none)
    (d : Deliver) :
    l.TurnOk w (some item) (l.session.client.react w (.deliver d)).2 := by
  have hawaits := hcalling.awaits w hwaiting
  by_cases hw : w = .deliver
  · subst hw
    refine turnOk_delivered hcalling hwaiting rfl _ d ?_ ?_
    · intro r hr
      rw [owed_pop hclient]
      exact List.mem_append_right _ hr
    · intro hdead
      exact (not_dead_of_cons hopen hclient hdead).elim
  · have hturn : (l.session.client.react w (.deliver d)).2 = .again := by
      generalize l.asked = asked at hawaits
      cases hawaits with
      | deliver => exact absurd rfl hw
      | _ => rfl
    rw [hturn]
    refine ⟨fun _ r hr => ?_, fun hends => absurd rfl hends,
      fun hends => absurd rfl hends⟩
    rw [Option.bind_some, hnone] at hr
    cases hr

theorem turnOk_eof {l : Link} {w : Waiting} {taken : Option Incoming}
    (hnothing : ∀ item, taken = some item →
      RelayClient.eventOfWire item.wire = none)
    (hdead : (l.pop taken).Dead) :
    l.TurnOk w taken (.threw w.eofText) where
  again := fun hagain => by cases hagain
  settled := fun _ => .inl (.atEof w l.asked taken hnothing)
  clear := fun _ => .inl hdead

section Reply

variable {l : Link} {w : Waiting} {item : Incoming} {rest : List Incoming}
  {r : Sent} {reply : ServerReply}

theorem owed_of_reply (hclient : l.toClient = item :: rest)
    (hanswered : item.answered = some r) :
    l.owed = r :: (l.pop (some item)).owed := by
  rw [owed_pop hclient, hanswered]
  rfl

variable (hcalling : l.Calling start)
  (hwaiting : l.session.waiting = some w) (hopen : l.clientOpen = true)
  (hclient : l.toClient = item :: rest)
  (hanswered : item.answered = some r)

include hcalling hopen hclient hanswered

theorem clear_of_asked {own : Sent} (hasked : l.asked = some own)
    (hown : own = r ∨ own.header.msgType = kClientHeartbeat) :
    ∀ other ∈ (l.pop (some item)).owed,
      other.header.msgType = kClientHeartbeat := by
  have howed := owed_of_reply hclient hanswered
  intro other hother
  by_contra hkind
  rcases hcalling.single with hdead | hsingle
  · exact not_dead_of_cons hopen hclient hdead
  · have hmem : other ∈ l.owed := by
      rw [howed]
      exact List.mem_cons_of_mem r hother
    have hsame := (hsingle other hmem hkind).2
    rw [hasked, Option.some.injEq] at hsame
    subst hsame
    rcases hown with rfl | htype
    · have hordered := hcalling.ordered
      rw [Ordered, howed, List.pairwise_cons] at hordered
      exact lt_irrefl _ (hordered.1 own hother)
    · exact hkind htype

include hwaiting

theorem turnOk_own (hasked : l.asked = some r)
    (hreads : RelayClient.eventOfWire item.wire = some (.serverReply reply))
    (hitem : item.request = some r) (hreply : ReplyTo r.header reply) :
    l.TurnOk w (some item) (w.onReply reply) := by
  have hclear := clear_of_asked hcalling hopen hclient hanswered hasked
    (.inl rfl)
  have hanswers : item.Answers r reply := ⟨hitem, hreads, hreply.seq_eq⟩
  have hawaits := hcalling.awaits w hwaiting
  rw [hasked] at hawaits
  rcases hawaits.onReply_own hreply with ⟨value, hturn, hok, hvalue⟩ |
    ⟨what, hturn, hok, hwhat⟩
  · rw [hturn]
    refine ⟨fun hagain => (by cases hagain), fun _ => ?_,
      fun _ => .inr hclear⟩
    rw [hasked]
    exact .inl (.accepted w r item reply value hanswers hok hvalue)
  · rw [hturn]
    refine ⟨fun hagain => (by cases hagain), fun _ => ?_,
      fun _ => .inr hclear⟩
    rw [hasked]
    exact .inl (.refused w r item reply what hanswers hok hwhat)

/-- At the reply to another request, which is then a heartbeat, a loop goes
on, unless it is that of `heartbeat` and the numbers agree. -/
theorem turnOk_other (hvalid : ValidSeq start) (hother : l.asked ≠ some r)
    (hreads : RelayClient.eventOfWire item.wire = some (.serverReply reply))
    (hitem : item.request = some r) (hreply : ReplyTo r.header reply) :
    l.TurnOk w (some item) (w.onReply reply) := by
  have howed := owed_of_reply hclient hanswered
  have hmem : r ∈ l.owed := by
    rw [howed]
    exact List.mem_cons_self
  have htype : r.header.msgType = kClientHeartbeat := by
    by_contra hkind
    rcases hcalling.single with hdead | hsingle
    · exact not_dead_of_cons hopen hclient hdead
    · exact hother (hsingle r hmem hkind).2
  have hawaits := hcalling.awaits w hwaiting
  cases hreply with
  | data hdata => exact absurd (htype.symm.trans hdata) (by decide)
  | control hcontrol => exact absurd (htype.symm.trans hcontrol) (by decide)
  | refusal hkind message => exact absurd htype hkind
  | heartbeat _ =>
      rw [hawaits.onReply_heartbeat]
      split
      · rename_i hw
        subst hw
        generalize hasked : l.asked = asked at hawaits
        generalize hseq : r.header.seq = seq at hawaits
        cases hawaits with
        | heartbeat own hown =>
            have hclear := clear_of_asked hcalling hopen hclient hanswered
              hasked (.inr hown)
            refine ⟨fun hagain => (by cases hagain), fun _ => ?_,
              fun _ => .inr hclear⟩
            have hearlier : r.id < own.id := by
              have hne : own ≠ r := fun hsame => hother (hsame ▸ hasked)
              rcases hcalling.coming own (by simp [hwaiting]) hasked with
                hcoming | ⟨_, hbefore⟩
              · have hordered := hcalling.ordered
                rw [howed, List.mem_cons] at hcoming
                rw [Ordered, howed, List.pairwise_cons] at hordered
                exact hordered.1 own (hcoming.resolve_left hne)
              · refine hbefore r ?_
                rw [answered, hclient, List.filterMap_cons_some hanswered]
                exact List.mem_cons_self
            have hround : (own.id - r.id) % seqPeriod = 0 := by
              have hown' := (hcalling.asked own hasked).1
              have hr := (hcalling.numbered r hmem).1
              rw [hseq, hown'] at hr
              exact (seqAt_eq_iff hvalid hearlier.le).mp hr.symm
            rw [hasked]
            have hanswers : item.Answers r _ := ⟨hitem, hreads, rfl⟩
            exact .inr (.heartbeat own r item _ hanswers rfl hown htype
              hearlier hround)
      · refine ⟨fun _ request hrequest hasked => ?_,
          fun hends => absurd rfl hends, fun hends => absurd rfl hends⟩
        rw [Option.bind_some, hanswered] at hrequest
        exact hother (hasked.trans hrequest.symm)

end Reply

theorem eventOfWire_deliver {wire : Wire} (htype : wire.msgType = kMsgDeliver) :
    RelayClient.eventOfWire wire = none ∨
      ∃ d, RelayClient.eventOfWire wire = some (.deliver d) := by
  unfold RelayClient.eventOfWire RelayClient.eventOf
  rw [if_pos htype]
  split
  · exact .inl rfl
  · rename_i entries _
    cases RelayClient.deliverFields entries { seq := wire.seq } with
    | none => exact .inl rfl
    | some d => exact .inr ⟨d, rfl⟩
  · exact .inr ⟨_, rfl⟩

theorem eventOfWire_kickWire (reason : Bytes) :
    RelayClient.eventOfWire (kickWire reason) = some (.kick reason) := rfl

theorem Flowing.dead_of_kick {l : Link} (hflowing : l.Flowing unpack sender)
    {item : Incoming} {rest : List Incoming}
    (hclient : l.toClient = item :: rest) (hkick : item.IsKick) :
    (l.pop (some item)).Dead := by
  have hmem : item ∈ l.toClient := by
    rw [hclient]
    exact List.mem_cons_self
  have hshut : l.serverOpen = false := by
    by_contra hopen
    rw [Bool.not_eq_false] at hopen
    exact hflowing.kickShut hopen item hmem hkick
  have hrest : rest = [] := by
    have hlast := hflowing.kickLast
    rw [hclient, List.pairwise_cons] at hlast
    rw [List.eq_nil_iff_forall_not_mem]
    exact fun other hother => hlast.1 other hother hkick
  right
  constructor
  · exact hshut
  · rw [pop, hclient, hrest]
    rfl

theorem turnOk (hvalid : ValidSeq start) {l : Link} {w : Waiting}
    (hflowing : l.Flowing unpack sender) (hcalling : l.Calling start)
    (hwaiting : l.session.waiting = some w) {taken : Option Incoming}
    (hnext : l.nextFrame = some taken) :
    l.TurnOk w taken (l.session.client.turn w (taken.bind
      (fun item => RelayClient.eventOfWire item.wire))).2.2 := by
  rcases nextFrame_cases hcalling.drained hwaiting hnext with
    ⟨hw, rfl, hkept⟩ | ⟨hreads, hread⟩
  · obtain ⟨d, rest, hpre⟩ := List.exists_cons_of_ne_nil hkept
    have hturn : (l.session.client.turn w none).2.2 =
        .returned (.deliver d) := by
      subst hw
      simp only [Client.turn, hpre]
    rw [Option.bind_none, hturn]
    exact turnOk_delivered hcalling hwaiting hw none d (fun _ hr => hr) id
  · rw [Client.turn_read hcalling.drained hreads]
    rcases hread with ⟨rfl, hdead⟩ | ⟨hopen, item, rest, rfl, hclient⟩
    · exact turnOk_eof (by simp) hdead
    · rw [Option.bind_some]
      have hfair := hflowing.fair item (by simp [hclient])
      cases hevent : RelayClient.eventOfWire item.wire with
      | none =>
          refine turnOk_eof ?_ ?_
          · intro other hother
            cases hother
            exact hevent
          · left
            rw [pop, hevent]
            rfl
      | some event =>
          cases hfair with
          | deliver request wire htype =>
              rcases eventOfWire_deliver htype with hnone | ⟨d, hd⟩
              · rw [hnone] at hevent
                cases hevent
              · rw [hd, Option.some.injEq] at hevent
                subst hevent
                exact turnOk_deliver hcalling hwaiting hopen hclient
                  (Incoming.answered_deliver htype) d
          | kick request reason =>
              rw [eventOfWire_kickWire, Option.some.injEq] at hevent
              subst hevent
              have hdead := hflowing.dead_of_kick hclient rfl
              refine ⟨fun hagain => (by cases hagain), fun _ => ?_,
                fun _ => .inl hdead⟩
              exact .inl (.kicked w l.asked _ reason
                (eventOfWire_kickWire reason))
          | reply r wire hreply =>
              obtain ⟨htype, hnone | ⟨reply, hreads', hreply⟩⟩ := hreply
              · rw [hnone] at hevent
                cases hevent
              rw [hreads', Option.some.injEq] at hevent
              subst hevent
              have hanswered := Incoming.answered_reply (r := r) htype
              by_cases hasked : l.asked = some r
              · exact turnOk_own hcalling hwaiting hopen hclient hanswered
                  hasked hreads' rfl hreply
              · exact turnOk_other hcalling hwaiting hopen hclient hanswered
                  hvalid hasked hreads' rfl hreply

/-! ## Steps -/

theorem Calling.served {l l' : Link} (hcalling : l.Calling start)
    (hserved : Served l l') : l'.Calling start where
  drained := by
    rw [hserved.session]
    exact hcalling.drained
  signedOn := by
    rw [hserved.session]
    exact hcalling.signedOn
  seq := by
    rw [hserved.session, hserved.issued]
    exact hcalling.seq
  numbered := by
    rw [hserved.issued]
    exact fun r hr => hcalling.numbered r (hserved.owed.subset hr)
  ordered := hcalling.ordered.sublist hserved.owed
  asked := by
    rw [hserved.asked, hserved.issued]
    exact hcalling.asked
  awaits := by
    rw [hserved.session, hserved.asked]
    exact hcalling.awaits
  single := by
    rw [hserved.session, hserved.asked]
    rcases hcalling.single with hdead | hsingle
    · left
      rcases hdead with hclosed | ⟨hshut, hempty⟩
      · exact .inl (hserved.clientOpen.trans hclosed)
      · obtain ⟨hshut', hclient⟩ := hserved.shut hshut
        exact .inr ⟨hshut', hclient.trans hempty⟩
    · exact .inr (fun r hr => hsingle r (hserved.owed.subset hr))
  coming := by
    rw [hserved.session, hserved.asked]
    intro own hwaiting hasked
    rcases hcalling.coming own hwaiting hasked with howed | ⟨hshut, hbefore⟩
    · exact hserved.kept own howed
    · obtain ⟨hshut', hclient⟩ := hserved.shut hshut
      refine .inr ⟨hshut', ?_⟩
      rw [answered, hclient]
      exact hbefore

theorem pop_owed_sublist (l : Link) (taken : Option Incoming) :
    (l.pop taken).answered.Sublist l.answered ∧
      (l.pop taken).owed.Sublist l.owed := by
  cases taken with
  | none => exact ⟨.refl _, .refl _⟩
  | some item =>
      have hanswered : (l.pop (some item)).answered.Sublist l.answered :=
        (List.tail_sublist l.toClient).filterMap _
      exact ⟨hanswered, hanswered.append_right _⟩

/-- What a turn leaves. -/
structure Took (l : Link) (w : Waiting) (taken : Option Incoming)
    (turn : Turn) (l' : Link) : Prop where
  drained : l'.session.client.inOrder = []
  signedOn : l'.session.signedOn = l.session.signedOn
  seq : l'.session.client.seq = l.session.client.seq
  waiting : l'.session.waiting = if turn = .again then some w else none
  issued : l'.issued = l.issued
  asked : l'.asked = l.asked
  serverOpen : l'.serverOpen = l.serverOpen
  handling : l'.handling = l.handling
  toClient : l'.toClient = (l.pop taken).toClient
  owed : l'.owed = (l.pop taken).owed
  dead : (l.pop taken).Dead → l'.Dead
  ended : l'.ended = if turn = .again then l.ended
    else l.ended ++ [⟨w, l.asked, taken, turn⟩]

theorem Calling.took {l l' : Link} {w : Waiting} {taken : Option Incoming}
    (hcalling : l.Calling start) (hwaiting : l.session.waiting = some w)
    (htake : l.take w taken = some l') :
    Took l w taken (l.session.client.turn w (taken.bind
      (fun item => RelayClient.eventOfWire item.wire))).2.2 l' := by
  have hdrained := Client.turn_inOrder w (taken.bind
    (fun item => RelayClient.eventOfWire item.wire)) hcalling.drained
  have hseq := Client.turn_seq w (taken.bind
    (fun item => RelayClient.eventOfWire item.wire)) l.session.client
  unfold Link.take ClientSession.step at htake
  rw [hwaiting] at htake
  simp only [Option.map_some, Option.some.injEq] at htake
  subst htake
  refine ⟨hdrained, ?_, hseq, rfl, ?_, ?_, ?_, ?_, rfl, rfl, id, rfl⟩
  · simp [hcalling.signedOn]
  · cases taken <;> rfl
  · cases taken <;> rfl
  · cases taken <;> rfl
  · cases taken <;> rfl

theorem Took.answered {l l' : Link} {w : Waiting} {taken : Option Incoming}
    {turn : Turn} (htook : Took l w taken turn l') :
    l'.answered = (l.pop taken).answered := by
  rw [Link.answered, htook.toClient]
  rfl

theorem Calling.take {l l' : Link} {w : Waiting} {taken : Option Incoming}
    {turn : Turn} (hcalling : l.Calling start)
    (hwaiting : l.session.waiting = some w)
    (hnext : l.nextFrame = some taken) (hok : l.TurnOk w taken turn)
    (htook : Took l w taken turn l') : l'.Calling start := by
  obtain ⟨hanswered, howed⟩ := l.pop_owed_sublist taken
  rw [← htook.answered] at hanswered
  rw [← htook.owed] at howed
  have hagain : l'.session.waiting ≠ none → turn = .again := by
    intro hstill
    by_contra hends
    rw [htook.waiting, if_neg hends] at hstill
    exact hstill rfl
  have hread := nextFrame_cases hcalling.drained hwaiting hnext
  refine ⟨htook.drained, htook.signedOn.trans hcalling.signedOn, ?_, ?_,
    hcalling.ordered.sublist howed, ?_, ?_, ?_, ?_⟩
  · rw [htook.seq, htook.issued]
    exact hcalling.seq
  · rw [htook.issued]
    exact fun r hr => hcalling.numbered r (howed.subset hr)
  · rw [htook.asked, htook.issued]
    exact hcalling.asked
  · rw [htook.asked]
    intro w' hw'
    have hturn := hagain (by simp [hw'])
    rw [htook.waiting, if_pos hturn] at hw'
    exact hcalling.awaits w' (hwaiting.trans hw')
  · by_cases hturn : turn = .again
    · rcases hcalling.single with hdead | hsingle
      · rcases hread with ⟨_, rfl, _⟩ | ⟨_, ⟨rfl, _⟩ |
          ⟨hopen, item, rest, _, hclient⟩⟩
        · exact .inl (htook.dead hdead)
        · exact .inl (htook.dead hdead)
        · exact (not_dead_of_cons hopen hclient hdead).elim
      · right
        intro r hr hkind
        rw [htook.waiting, if_pos hturn, htook.asked, ← hwaiting]
        exact hsingle r (howed.subset hr) hkind
    · rcases hok.clear hturn with hdead | hclear
      · exact .inl (htook.dead hdead)
      · right
        intro r hr hkind
        rw [htook.owed] at hr
        exact absurd (hclear r hr) hkind
  · rw [htook.asked, htook.serverOpen]
    intro own hstill hasked
    have hturn := hagain hstill
    rcases hcalling.coming own (by simp [hwaiting]) hasked with hcoming |
      ⟨hshut, hbefore⟩
    · left
      rw [htook.owed]
      rcases hread with ⟨_, rfl, _⟩ | ⟨_, ⟨rfl, _⟩ |
        ⟨_, item, rest, rfl, hclient⟩⟩
      · exact hcoming
      · exact hcoming
      · rw [owed_pop hclient, List.mem_append, Option.mem_toList] at hcoming
        exact hcoming.resolve_left
          (fun hitem => hok.again hturn own hitem hasked)
    · exact .inr ⟨hshut, fun other hother =>
        hbefore other (hanswered.subset hother)⟩

theorem Flowing.take {l l' : Link} {w : Waiting} {taken : Option Incoming}
    {turn : Turn} (hflowing : l.Flowing unpack sender)
    (htook : Took l w taken turn l') : l'.Flowing unpack sender := by
  have hsub : l'.toClient.Sublist l.toClient := by
    rw [htook.toClient]
    cases taken with
    | none => exact .refl _
    | some item => exact List.tail_sublist _
  refine ⟨?_, hflowing.kickLast.sublist hsub, ?_, ?_⟩
  · exact fun item hitem => hflowing.fair item (hsub.subset hitem)
  · rw [htook.serverOpen]
    exact fun hopen item hitem =>
      hflowing.kickShut hopen item (hsub.subset hitem)
  · rw [htook.handling]
    exact hflowing.serves

theorem owed_post (l : Link) (r : Sent) (written : Bool) :
    (l.post r written).owed = if written then l.owed ++ [r] else l.owed := by
  cases written with
  | false => rfl
  | true =>
      simp only [owed, post, if_true, List.append_assoc]
      rfl

theorem mem_owed_post {l : Link} {r other : Sent} {written : Bool}
    (hother : other ∈ (l.post r written).owed) :
    other ∈ l.owed ∨ (other = r ∧ written = true) := by
  rw [owed_post] at hother
  split at hother
  · rename_i hwritten
    rw [List.mem_append, List.mem_singleton] at hother
    exact hother.imp_right (fun heq => ⟨heq, hwritten⟩)
  · exact .inl hother

theorem Calling.issue {l : Link} (hcalling : l.Calling start)
    (msgType : UInt32) (body : Bytes) (written : Bool)
    {session : ClientSession} {asked : Option Sent}
    (hdrained : session.client.inOrder = [])
    (hsigned : session.signedOn = true)
    (hseq : session.client.seq = nextSeq l.session.client.seq)
    (hasked : asked = l.asked ∨ asked = some (l.request msgType body))
    (hawaits : ∀ w, session.waiting = some w → w.Awaits asked)
    (hsingle : l.Dead ∨ ∀ r ∈ (l.post (l.request msgType body) written).owed,
      r.header.msgType ≠ kClientHeartbeat →
        session.waiting ≠ none ∧ asked = some r)
    (hcoming : ∀ own, session.waiting ≠ none → asked = some own →
      own ∈ (l.post (l.request msgType body) written).owed ∨
        (l.serverOpen = false ∧ ∀ other ∈ l.answered, other.id < own.id)) :
    Calling start { l.post (l.request msgType body) written with
      session := session, asked := asked } := by
  have hnew : (l.request msgType body).Numbered start (l.issued + 1) := by
    constructor
    · rw [request, seqAt_succ, ← hcalling.seq]
    · exact le_refl _
  refine ⟨hdrained, hsigned, ?_, ?_, ?_, ?_, hawaits, hsingle, hcoming⟩
  · change session.client.seq = seqAt start (l.issued + 1)
    rw [hseq, seqAt_succ, hcalling.seq]
  · intro r hr
    have hr : r ∈ (l.post (l.request msgType body) written).owed := hr
    rcases mem_owed_post hr with hold | ⟨rfl, _⟩
    · exact (hcalling.numbered r hold).mono
    · exact hnew
  · change (l.post (l.request msgType body) written).Ordered
    rw [Ordered, owed_post]
    split
    · rw [List.pairwise_append]
      refine ⟨hcalling.ordered, List.pairwise_singleton _ _, ?_⟩
      intro r hr other hother
      rw [List.mem_singleton] at hother
      subst hother
      exact Nat.lt_succ_of_le (hcalling.numbered r hr).2
    · exact hcalling.ordered
  · intro r hr
    rcases hasked with hsame | hrequest
    · exact (hcalling.asked r (hsame.symm.trans hr)).mono
    · rw [hrequest, Option.some.injEq] at hr
      subst hr
      exact hnew

theorem Calling.autoHeartbeat {l : Link} (hcalling : l.Calling start)
    (written : Bool) :
    Calling start { l.post
        (l.request kClientHeartbeat (packAll [.map 0])) written with
      session := { l.session with
        client.seq := nextSeq l.session.client.seq } } := by
  refine hcalling.issue kClientHeartbeat (packAll [.map 0]) written
    hcalling.drained hcalling.signedOn rfl (.inl rfl) hcalling.awaits ?_ ?_
  · rcases hcalling.single with hdead | hsingle
    · exact .inl hdead
    · right
      intro r hr hkind
      rcases mem_owed_post hr with hold | ⟨rfl, _⟩
      · exact hsingle r hold hkind
      · exact absurd rfl hkind
  · intro own hwaiting hasked
    rcases hcalling.coming own hwaiting hasked with hcoming | hshut
    · left
      rw [owed_post]
      split
      · exact List.mem_append_left _ hcoming
      · exact hcoming
    · exact .inr hshut

theorem Calling.single_idle {l : Link} (hcalling : l.Calling start)
    (hidle : l.session.waiting = none) :
    l.Dead ∨ ∀ r ∈ l.owed, r.header.msgType = kClientHeartbeat := by
  rcases hcalling.single with hdead | hsingle
  · exact .inl hdead
  · right
    intro r hr
    by_contra hkind
    exact (hsingle r hr hkind).1 hidle

end Link

namespace ApiCall

theorem awaits_of_waits {made : ApiCall} {r : Sent} {body : Bytes}
    (hframe : made.frame = some (r.header.msgType, body)) {w : Waiting}
    (hwaits : made.waits r.header.seq = some w) : w.Awaits (some r) := by
  cases made with
  | send dstUsername payload wait =>
      cases wait with
      | false => cases hwaits
      | true =>
          cases hwaits
          exact .data r (congrArg Prod.fst (Option.some.inj hframe)).symm
  | heartbeat =>
      cases hwaits
      exact .heartbeat r (congrArg Prod.fst (Option.some.inj hframe)).symm
  | controlRequest body =>
      cases hwaits
      exact .control r (congrArg Prod.fst (Option.some.inj hframe)).symm
  | controlListUsers wait =>
      cases wait with
      | false => cases hwaits
      | true =>
          cases hwaits
          exact .control r (congrArg Prod.fst (Option.some.inj hframe)).symm
  | controlKickUser target wait =>
      cases wait with
      | false => cases hwaits
      | true =>
          cases hwaits
          exact .kickUser r (congrArg Prod.fst (Option.some.inj hframe)).symm
  | recvDeliver => cases hframe

theorem waits_isNone (made : ApiCall) (seq seq' : UInt32) :
    (made.waits seq).isNone = (made.waits seq').isNone := by
  cases made with
  | send dstUsername payload wait => cases wait <;> rfl
  | controlListUsers wait => cases wait <;> rfl
  | controlKickUser target wait => cases wait <;> rfl
  | _ => rfl

end ApiCall

namespace Link

variable {unpack : Bytes → Option Obj} {sender : Identity} {start : UInt32}

theorem Calling.call {l : Link} (hcalling : l.Calling start)
    (hidle : l.session.waiting = none) {made : ApiCall}
    (hwaits : (made.waits 0).isNone = false) {msgType : UInt32}
    {body : Bytes} (hframe : made.frame = some (msgType, body))
    (written : Bool) {session : ClientSession}
    (hclient : session.client =
      { l.session.client with seq := nextSeq l.session.client.seq })
    (hsigned : session.signedOn = true)
    (hwaiting : session.waiting =
      if written then made.waits (nextSeq l.session.client.seq) else none) :
    Calling start { l.post (l.request msgType body) written with
      session := session, asked := some (l.request msgType body) } := by
  have hdrained : session.client.inOrder = [] := by
    rw [hclient]
    exact hcalling.drained
  have hseq : session.client.seq = nextSeq l.session.client.seq := by
    rw [hclient]
  have hstill : session.waiting ≠ none ↔ written = true := by
    rw [hwaiting]
    cases written with
    | false => simp
    | true =>
        simp only [if_true, iff_true, ne_eq, ← Option.isNone_iff_eq_none]
        rw [made.waits_isNone _ 0, hwaits]
        exact Bool.false_ne_true
  refine hcalling.issue msgType body written hdrained hsigned hseq (.inr rfl)
    ?_ ?_ ?_
  · intro w hw
    have hwritten := hstill.mp (by simp [hw])
    rw [hwaiting, if_pos hwritten] at hw
    exact ApiCall.awaits_of_waits hframe hw
  · rcases hcalling.single_idle hidle with hdead | hidle
    · exact .inl hdead
    · right
      intro r hr hkind
      rcases mem_owed_post hr with hold | ⟨rfl, hwritten⟩
      · exact absurd (hidle r hold) hkind
      · exact ⟨hstill.mpr hwritten, rfl⟩
  · intro own hown hasked
    rw [Option.some.injEq] at hasked
    subst hasked
    left
    rw [owed_post, if_pos (hstill.mp hown)]
    exact List.mem_append_right _ List.mem_cons_self

theorem Calling.recvDeliver {l : Link} (hcalling : l.Calling start)
    (hidle : l.session.waiting = none) :
    Calling start { l with
      session := { l.session with waiting := some .deliver },
      asked := none } := by
  refine ⟨hcalling.drained, hcalling.signedOn, hcalling.seq,
    hcalling.numbered, hcalling.ordered, ?_, ?_, ?_, ?_⟩
  · intro r hr
    cases hr
  · intro w hw
    cases hw
    exact .deliver
  · rcases hcalling.single_idle hidle with hdead | hclear
    · exact .inl hdead
    · exact .inr (fun r hr hkind => absurd (hclear r hr) hkind)
  · intro own _ hasked
    cases hasked

/-- The calls which have ended were waiting for their own request and ended as
they should. -/
def EndedWell (l : Link) : Prop :=
  ∀ e ∈ l.ended, e.waiting.Awaits e.request ∧ e.Settled

/-- The invariant of a link. -/
structure Agrees (unpack : Bytes → Option Obj) (sender : Identity)
    (start : UInt32) (l : Link) : Prop where
  flowing : l.Flowing unpack sender
  calling : l.Calling start
  endedWell : l.EndedWell

theorem agrees_initial (seq : UInt32) :
    (initial seq).Agrees unpack sender (nextSeq seq) where
  flowing := ⟨by simp [initial], .nil, by simp [initial], by simp [initial]⟩
  calling :=
    { drained := rfl
      signedOn := rfl
      seq := rfl
      numbered := fun r hr => nomatch hr
      ordered := .nil
      asked := fun r hr => nomatch hr
      awaits := fun w hw => nomatch hw
      single := .inr (fun r hr => nomatch hr)
      coming := fun own _ hasked => nomatch hasked }
  endedWell := fun e he => nomatch he

theorem Flowing.issue {l : Link} (hflowing : l.Flowing unpack sender)
    (r : Sent) (written : Bool) (session : ClientSession)
    (asked : Option Sent) :
    Flowing unpack sender { l.post r written with
      session := session, asked := asked } :=
  ⟨hflowing.fair, hflowing.kickLast, hflowing.kickShut, hflowing.serves⟩

theorem Agrees.call {cfg : Config} {l l' : Link}
    (hagrees : l.Agrees unpack sender start) {made : ApiCall} {written : Bool}
    (hstep : l.step cfg unpack sender (.call made written) = some l') :
    l'.Agrees unpack sender start := by
  obtain ⟨hflowing, hcalling, hended⟩ := hagrees
  simp only [Link.step] at hstep
  split at hstep
  · cases hstep
  rename_i hwaits
  rw [Bool.not_eq_true] at hwaits
  obtain ⟨session, hsession, rfl⟩ := Option.map_eq_some_iff.mp hstep
  simp only [ClientSession.step] at hsession
  split at hsession
  · rename_i hready
    rw [Bool.and_eq_true, Option.isNone_iff_eq_none] at hready
    obtain ⟨hsigned, hidle⟩ := hready
    cases hframe : made.frame with
    | none =>
        cases made with
        | recvDeliver =>
            cases hsession
            exact ⟨⟨hflowing.fair, hflowing.kickLast, hflowing.kickShut,
              hflowing.serves⟩, hcalling.recvDeliver hidle, hended⟩
        | _ => cases hframe
    | some frame =>
        obtain ⟨msgType, body⟩ := frame
        have hclient : l.session.client.number made =
            { l.session.client with seq := nextSeq l.session.client.seq } := by
          rw [Client.number, hframe]
          rfl
        rw [hframe, hclient] at hsession
        have hcalled : session.client =
              { l.session.client with seq := nextSeq l.session.client.seq } ∧
            session.signedOn = true ∧
            session.waiting = if written then
              made.waits (nextSeq l.session.client.seq) else none := by
          cases written with
          | false =>
              cases hsession
              exact ⟨rfl, hsigned, hidle⟩
          | true =>
              cases hsession
              exact ⟨rfl, hsigned, rfl⟩
        obtain ⟨hclient', hsigned', hwaiting'⟩ := hcalled
        exact ⟨hflowing.issue _ _ _ _, hcalling.call hidle hwaits hframe
          written hclient' hsigned' hwaiting', hended⟩
  · cases hsession

theorem Agrees.turn {cfg : Config} {l l' : Link} (hvalid : ValidSeq start)
    (hagrees : l.Agrees unpack sender start)
    (hstep : l.step cfg unpack sender .turn = some l') :
    l'.Agrees unpack sender start := by
  obtain ⟨hflowing, hcalling, hended⟩ := hagrees
  simp only [Link.step] at hstep
  split at hstep
  · cases hstep
  rename_i w hwaiting
  obtain ⟨taken, hnext, htake⟩ := Option.bind_eq_some_iff.mp hstep
  have hok := turnOk hvalid hflowing hcalling hwaiting hnext
  have htook := hcalling.took hwaiting htake
  refine ⟨hflowing.take htook, hcalling.take hwaiting hnext hok htook, ?_⟩
  intro e he
  rw [htook.ended] at he
  split at he
  · exact hended e he
  · rename_i hends
    rw [List.mem_append, List.mem_singleton] at he
    rcases he with hold | rfl
    · exact hended e hold
    · exact ⟨hcalling.awaits w hwaiting, hok.settled hends⟩

theorem Agrees.step (hin : sender.loggedIn = true) (hvalid : ValidSeq start)
    {cfg : Config} {l l' : Link} {event : LinkEvent}
    (hagrees : l.Agrees unpack sender start)
    (hstep : l.step cfg unpack sender event = some l') :
    l'.Agrees unpack sender start := by
  by_cases hserver : OfServer event
  · obtain ⟨hserved, hflowing⟩ := hagrees.flowing.step hin
      hagrees.calling.ordered hserver hstep
    refine ⟨hflowing, hagrees.calling.served hserved, ?_⟩
    rw [EndedWell, hserved.ended]
    exact hagrees.endedWell
  · cases event with
    | call made written => exact hagrees.call hstep
    | turn => exact hagrees.turn hvalid hstep
    | autoHeartbeat written =>
        simp only [Link.step, ClientSession.step] at hstep
        rw [if_pos hagrees.calling.signedOn] at hstep
        cases hstep
        exact ⟨hagrees.flowing.issue _ _ _ _,
          hagrees.calling.autoHeartbeat written, hagrees.endedWell⟩
    | _ => exact (hserver trivial).elim

end Link

/-! ## The exceptions of a call -/

theorem text_ne {first second : Bytes} (i : Nat) {a b : UInt8}
    (hfirst : first[i]? = some a) (hsecond : second[i]? = some b)
    (hne : a ≠ b) : first ≠ second := by
  rintro rfl
  exact hne (Option.some.inj (hfirst.symm.trans hsecond))

namespace Waiting

variable {w : Waiting} {asked : Option Sent} {what : Bytes}

theorem Awaits.mismatch_ne_eof (hawaits : w.Awaits asked)
    (hmismatch : w.Mismatch what) : w.eofText ≠ what := by
  cases hawaits with
  | deliver =>
      cases hmismatch with
      | deliver => exact text_ne 14 rfl rfl (by decide)
  | data r _ =>
      cases hmismatch with
      | ackOp _ _ got => exact text_ne 12 rfl rfl (by decide)
      | ackSeq _ _ got number => exact text_ne 12 rfl rfl (by decide)
  | kickUser r _ =>
      cases hmismatch with
      | ackOp _ _ got => exact text_ne 15 rfl rfl (by decide)
      | ackSeq _ _ got number => exact text_ne 15 rfl rfl (by decide)
  | control r _ =>
      cases hmismatch with
      | controlSeq _ number => exact text_ne 9 rfl rfl (by decide)
      | controlOp _ got => exact text_ne 9 rfl rfl (by decide)
  | heartbeat r _ =>
      cases hmismatch with
      | heartbeat _ got number => exact text_ne 11 rfl rfl (by decide)

theorem Awaits.mismatch_ne_kick (hawaits : w.Awaits asked)
    (hmismatch : w.Mismatch what) (reason : Bytes) :
    w.kickText reason ≠ what := by
  cases hawaits with
  | deliver =>
      cases hmismatch with
      | deliver => exact text_ne 4 rfl rfl (by decide)
  | data r _ => cases hmismatch <;> exact text_ne 0 rfl rfl (by decide)
  | kickUser r _ => cases hmismatch <;> exact text_ne 0 rfl rfl (by decide)
  | control r _ => cases hmismatch <;> exact text_ne 0 rfl rfl (by decide)
  | heartbeat r _ =>
      cases hmismatch with
      | heartbeat _ got number => exact text_ne 11 rfl rfl (by decide)

theorem Awaits.mismatch_ne_refusal (hawaits : w.Awaits asked)
    (hmismatch : w.Mismatch what) {message text : Bytes}
    (hrefusal : w.Refusal message text) : text ≠ what := by
  cases hawaits with
  | deliver => cases hrefusal
  | heartbeat r _ => cases hrefusal
  | data r _ =>
      cases hrefusal
      cases hmismatch <;> exact text_ne 0 rfl rfl (by decide)
  | kickUser r _ =>
      cases hrefusal
      cases hmismatch <;> exact text_ne 0 rfl rfl (by decide)
  | control r _ =>
      cases hrefusal
      cases hmismatch <;> exact text_ne 7 rfl rfl (by decide)

end Waiting

theorem Ended.Settled.not_mismatch {e : Ended} (hsettled : e.Settled)
    (hawaits : e.waiting.Awaits e.request) {what : Bytes}
    (hthrew : e.turn = .threw what) : ¬e.waiting.Mismatch what := by
  intro hmismatch
  rcases hsettled with hproper | hwrapped
  · cases hproper with
    | delivered taken d => cases hthrew
    | accepted w own item reply value => cases hthrew
    | refused w own item reply _ hanswers hok hwhat =>
        cases hthrew
        exact hawaits.mismatch_ne_refusal hmismatch hwhat rfl
    | kicked w own item reason hkick =>
        cases hthrew
        exact hawaits.mismatch_ne_kick hmismatch reason rfl
    | atEof w own taken hnothing =>
        cases hthrew
        exact hawaits.mismatch_ne_eof hmismatch rfl
  · cases hwrapped
    cases hthrew

namespace Link

/-- Every call which ends takes the reply to its own request, or its refusal,
a KICK, or the end of the stream; a `heartbeat` may instead take the reply to
an earlier heartbeat whose number has come round again.  No call ends with an
exception at a reply which is not the one waited for. -/
theorem calls_end_with_own_replies (cfg : Config)
    (unpack : Bytes → Option Obj) {sender : Identity}
    (hin : sender.loggedIn = true) (seq : UInt32) {events : List LinkEvent}
    {l : Link}
    (hrun : Transition.run (step cfg unpack sender) events (initial seq) =
      some l) :
    ∀ e ∈ l.ended, e.waiting.Awaits e.request ∧
      (e.Proper ∨ e.Wrapped) ∧
      ∀ what, e.turn = .threw what → ¬e.waiting.Mismatch what := by
  have hagrees : l.Agrees unpack sender (nextSeq seq) :=
    Transition.run_preserves_always (Agrees unpack sender (nextSeq seq))
      (fun _ _ _ hagrees hstep =>
        hagrees.step hin (validSeq_nextSeq seq) hstep)
      (agrees_initial seq) hrun
  intro e he
  obtain ⟨hawaits, hsettled⟩ := hagrees.endedWell e he
  exact ⟨hawaits, hsettled,
    fun what hthrew => hsettled.not_mismatch hawaits hthrew⟩

def rootSession : Identity := ⟨1, true, 1, true, lit "root"⟩

def emptyHub : Hub := (Server.initial Server.emptyDb).hub

/-- A `send` to nobody between two frames of the heartbeat thread. -/
def mixedRun : List LinkEvent :=
  [.autoHeartbeat true, .call (.send (lit "bob") [7] true) true,
    .autoHeartbeat true, .accept, .advance {} emptyHub,
    .advance {} emptyHub, .turn, .accept, .advance {} emptyHub,
    .advance {} emptyHub, .deliver ⟨kMsgDeliver, 5, [.map 0]⟩, .turn,
    .advance {} emptyHub, .advance {} emptyHub, .turn]

theorem calls_end_with_own_replies_mixedRun :
    ∃ l, Transition.run (step forwarderJson unpackFlat rootSession) mixedRun
        (initial 1) = some l ∧
      l.ended.map (fun e => e.turn) = [.returned .done] ∧
      ∀ e ∈ l.ended, e.waiting.Awaits e.request ∧
        (e.Proper ∨ e.Wrapped) ∧
        ∀ what, e.turn = .threw what → ¬e.waiting.Mismatch what := by
  have hfinal : ∃ l, Transition.run
      (step forwarderJson unpackFlat rootSession) mixedRun (initial 1) =
        some l ∧ l.ended.map (fun e => e.turn) = [.returned .done] :=
    Transition.exists_run_of_check (by decide +kernel)
  obtain ⟨l, hrun, hended⟩ := hfinal
  have hin : rootSession.loggedIn = true := rfl
  exact ⟨l, hrun, hended,
    calls_end_with_own_replies forwarderJson unpackFlat hin 1 hrun⟩

/-! ### A number which has come round -/

def heartbeatFrame (start : UInt32) (n : Nat) : Sent where
  id := n + 1
  header :=
    { msgType := kClientHeartbeat, seq := seqAt start (n + 1), bodyLen := 1 }
  body := packAll [.map 0]

/-- A link on which only the heartbeat thread has sent, `n` times. -/
def afterHeartbeats (seq : UInt32) (n : Nat) : Link :=
  { initial seq with
    session := { (initial seq).session with
      client.seq := seqAt (nextSeq seq) n }
    issued := n
    toServer := (List.range n).map (heartbeatFrame (nextSeq seq)) }

theorem request_afterHeartbeats (seq : UInt32) (n : Nat) :
    (afterHeartbeats seq n).request kClientHeartbeat (packAll [.map 0]) =
      heartbeatFrame (nextSeq seq) n := by
  rw [heartbeatFrame, seqAt_succ]
  rfl

theorem run_autoHeartbeats (cfg : Config) (unpack : Bytes → Option Obj)
    (sender : Identity) (seq : UInt32) (n : Nat) :
    Transition.run (step cfg unpack sender)
      (List.replicate n (.autoHeartbeat true)) (initial seq) =
        some (afterHeartbeats seq n) := by
  induction n with
  | zero => rfl
  | succ n ih =>
      have hnext : afterHeartbeats seq (n + 1) =
          { (afterHeartbeats seq n).post (heartbeatFrame (nextSeq seq) n)
              true with
            session := { (afterHeartbeats seq n).session with
              client.seq := nextSeq (seqAt (nextSeq seq) n) } } := by
        simp [afterHeartbeats, post, seqAt_succ, List.range_succ]
      rw [List.replicate_succ', Transition.run_append_eq_some]
      refine ⟨afterHeartbeats seq n, ih, ?_⟩
      rw [Transition.run_cons_eq_some]
      refine ⟨afterHeartbeats seq (n + 1), ?_, rfl⟩
      rw [hnext, ← request_afterHeartbeats]
      rfl

/-- A `heartbeat`, whose loop reads the reply to the first frame of the
heartbeat thread. -/
def lateHeartbeat : List LinkEvent :=
  [.call .heartbeat true, .accept, .advance {} emptyHub, .turn]

theorem run_lateHeartbeat (seq : UInt32) (n : Nat)
    (hround : seqAt (nextSeq seq) (n + 2) = seqAt (nextSeq seq) 1) :
    ∃ l, Transition.run (step forwarderJson unpackFlat rootSession)
        lateHeartbeat (afterHeartbeats seq (n + 1)) = some l ∧
      l.ended =
        [⟨.heartbeatOk (heartbeatFrame (nextSeq seq) (n + 1)).header.seq,
          some (heartbeatFrame (nextSeq seq) (n + 1)),
          some ⟨some (heartbeatFrame (nextSeq seq) 0),
            okReplyWire (seqAt (nextSeq seq) 1) (lit "HEARTBEAT")⟩,
          .returned .done⟩] := by
  have hcall : step forwarderJson unpackFlat rootSession
      (afterHeartbeats seq (n + 1)) (.call .heartbeat true) =
        some { (afterHeartbeats seq (n + 1)).post
            (heartbeatFrame (nextSeq seq) (n + 1)) true with
          session := { (afterHeartbeats seq (n + 1)).session with
            client.seq := seqAt (nextSeq seq) (n + 2)
            waiting := some (.heartbeatOk (seqAt (nextSeq seq) (n + 2))) }
          asked := some (heartbeatFrame (nextSeq seq) (n + 1)) } := by
    rw [← request_afterHeartbeats, seqAt_succ]
    rfl
  have hrest : (List.range (n + 1)).map (heartbeatFrame (nextSeq seq)) =
      heartbeatFrame (nextSeq seq) 0 ::
        (List.range n).map (fun i => heartbeatFrame (nextSeq seq) (i + 1)) := by
    simp [List.range_succ_eq_map]
  rw [afterHeartbeats, hrest] at hcall ⊢
  refine ⟨_, Transition.run_cons_eq_some.mpr ⟨_, hcall,
    Transition.run_cons_eq_some.mpr ⟨_, rfl,
    Transition.run_cons_eq_some.mpr ⟨_, rfl,
    Transition.run_cons_eq_some.mpr ⟨_, rfl, rfl⟩⟩⟩⟩, ?_⟩
  have hturn : ∀ c : Client, c.inOrder = [] →
      (c.turn (.heartbeatOk (seqAt (nextSeq seq) (n + 2)))
        (some (.serverReply
          { seq := seqAt (nextSeq seq) 1, ok := true,
            op := lit "HEARTBEAT" }))).2.2 = .returned .done := by
    intro c hdrained
    rw [Client.turn_read hdrained (by simp)]
    simp [Client.react, Waiting.onReply, hround]
  exact (if_neg (fun hagain => by
    cases (hturn _ rfl).symm.trans hagain)).trans
      (congrArg (fun turn => [Ended.mk _ _ _ turn]) (hturn _ rfl))

/-- After `2 ^ 31 - 1` frames of the heartbeat thread `heartbeat` is given
the number of the first of them, and returns at its reply. -/
theorem heartbeat_takes_earlier_reply :
    ∃ l own older item,
      Transition.run (step forwarderJson unpackFlat rootSession)
        (List.replicate seqPeriod (.autoHeartbeat true) ++ lateHeartbeat)
        (initial 0) = some l ∧
      l.ended = [⟨.heartbeatOk own.header.seq, some own, some item,
        .returned .done⟩] ∧
      item.request = some older ∧ older.id = 1 ∧ own.id = seqPeriod + 1 ∧
      own ≠ older := by
  have hround : seqAt (nextSeq 0) (2147483646 + 2) = seqAt (nextSeq 0) 1 := by
    symm
    rw [seqAt_eq_iff (validSeq_nextSeq 0) (by decide), seqPeriod]
  obtain ⟨l, hrun, hended⟩ := run_lateHeartbeat 0 2147483646 hround
  refine ⟨l, heartbeatFrame (nextSeq 0) (2147483646 + 1),
    heartbeatFrame (nextSeq 0) 0, _, ?_, hended, rfl, rfl, rfl, ?_⟩
  · have hperiod : seqPeriod = 2147483646 + 1 := by rw [seqPeriod]
    rw [hperiod, Transition.run_append_eq_some]
    exact ⟨_, run_autoHeartbeats _ _ _ _ _, hrun⟩
  · intro hsame
    have hid := congrArg Sent.id hsame
    simp [heartbeatFrame] at hid

end Link
end AsioForwarder
