import AsioForwarder.DeliveryOrder
import AsioForwarder.Termination
import Mathlib.Algebra.BigOperators.Group.List.Basic
import Mathlib.Data.List.Perm.Basic

/-!
# What becomes of the frames of a session

A frame passed to `send_frame` is accepted or refused by its handler, and an
accepted one is written, successfully or not.  The output of a session is
accounted for by the frames whose completion handler has run, what is in
flight, and what failed writes had sent; while a session is neither stopped
nor kicked, no frame passed to it is missing.  Both are kept by every step of
the session, whatever the order of its handlers and writes.
-/

namespace AsioForwarder

open Interaction

/-- What a list of items of all connections holds for one of them. -/
def itemsOf {ω : Type} (c : ConnId) (items : List (ConnId × ω)) : List ω :=
  items.filterMap (fun item => if item.1 = c then some item.2 else none)

section Items

variable {ω : Type} {c d : ConnId}

@[simp] theorem itemsOf_nil : itemsOf c ([] : List (ConnId × ω)) = [] := rfl

theorem itemsOf_append (first second : List (ConnId × ω)) :
    itemsOf c (first ++ second) = itemsOf c first ++ itemsOf c second :=
  List.filterMap_append

theorem itemsOf_map_self (items : List ω) :
    itemsOf c (items.map (Prod.mk c)) = items := by
  simp [itemsOf, List.filterMap_map]

theorem itemsOf_map_ne (hne : d ≠ c) (items : List ω) :
    itemsOf c (items.map (Prod.mk d)) = [] := by
  simp [itemsOf, hne]

end Items

/-! ## What a step of a strand or of a socket does -/

/-- What becomes of a frame in a session: it is written and its completion
handler has run, `send_frame` refuses it, or its write fails. -/
inductive Effect where
  | completed (w : Wire)
  | refused (w : Wire)
  | failed (write : PendingWrite)

/-- What a write has handed to the socket. -/
def PendingWrite.sent (write : PendingWrite) : Nat :=
  write.frame.bytes.length - write.rest.length

namespace Effect

def completed? : Effect → Option Wire
  | .completed w => some w
  | _ => none

def refused? : Effect → Option Wire
  | .refused w => some w
  | _ => none

def failed? : Effect → Option PendingWrite
  | .failed write => some write
  | _ => none

end Effect

namespace TcpSession

/-- Neither stopped nor about to be. -/
def live (s : TcpSession) : Bool :=
  !s.stopped && !s.kickPending

/-- What the handler does to its frame. -/
def handlerEffects (cfg : Config) (s : TcpSession) : Handler → List Effect
  | .sendFrame w =>
      if s.live = true ∧
          cfg.highWaterBytes.toNat < s.pendingBytes + w.bytes.length then
        [.refused w]
      else []
  | .written w none => [.completed w]
  | _ => []

def effects (cfg : Config) (s : TcpSession) : IoEvent → List Effect
  | .runHandler =>
      match s.posted with
      | handler :: _ => s.handlerEffects cfg handler
      | [] => []
  | .writeFailed index _ => (s.writes[index]?.toList).map .failed
  | _ => []

theorem doWrite_writes (s : TcpSession) :
    s.doWrite.writes = s.writes ∨
      ∃ w, s.doWrite.writes = s.writes ++ [⟨w, w.bytes⟩] := by
  unfold doWrite
  split
  · exact .inl rfl
  · split
    · exact .inl rfl
    · exact .inr ⟨_, rfl⟩

theorem writeNext_writes (s : TcpSession) :
    s.writeNext.writes = s.writes ∨
      ∃ w, s.writeNext.writes = s.writes ++ [⟨w, w.bytes⟩] := by
  unfold writeNext
  split
  · exact .inl rfl
  · exact s.doWrite_writes

/-- What a handler can do besides its effects: it may begin a write, and it
may post a stop. -/
structure Continues (s next : TcpSession) : Prop where
  writes : next.writes = s.writes ∨
    ∃ w, next.writes = s.writes ++ [⟨w, w.bytes⟩]
  posted : next.posted = s.posted ∨ ∃ why, next.posted = s.posted ++ [.stop why]

theorem continues_handle (cfg : Config) (handler : Handler) (s : TcpSession) :
    s.Continues (s.handle cfg handler) := by
  cases handler with
  | sendFrame bytes =>
      refine ⟨?_, handleSend_posted cfg s bytes⟩
      by_cases hrefused : s.stopped = true ∨ s.Refuses cfg (.sendFrame bytes)
      · left
        obtain hsame | ⟨why, hstop⟩ | hlogged := handleSend_refused hrefused
        · simp only [handle, hsame]
        · simp only [handle, hstop, TcpSession.stop, TcpSession.post]
        · simp only [handle, hlogged]
      · rw [not_or, Bool.not_eq_true] at hrefused
        have hsend := (handleSend_accepted hrefused.1 hrefused.2).2
        simp only [handle, hsend]
        exact (s.enqueue bytes).writeNext_writes
  | kick notifyWire logWhy =>
      simp only [handle, handleKick]
      split
      · exact ⟨.inl rfl, .inl rfl⟩
      · exact ⟨writeNext_writes _, .inl (writeNext_posted _)⟩
  | stop why =>
      simp only [handle, handleStop]
      split <;> exact ⟨.inl rfl, .inl rfl⟩
  | written bytes ec =>
      cases ec with
      | some message => exact ⟨.inl rfl, .inr ⟨_, rfl⟩⟩
      | none =>
          simp only [handle, handleWritten]
          split
          · exact ⟨.inl rfl, .inl rfl⟩
          · exact ⟨doWrite_writes _, .inl (doWrite_posted _)⟩

/-! ## Bytes out -/

/-- The frame of a successful write whose completion handler waits. -/
def writtenOf : Handler → Option Wire
  | .written w none => some w
  | _ => none

/-- The bytes handed over which have not been counted yet. -/
def inFlight (s : TcpSession) : Nat :=
  (s.writes.map PendingWrite.sent).sum +
    (wireBytes (s.posted.filterMap writtenOf)).length

/-- The output of a session is what has been counted, what is in flight, and
what failed writes had sent. -/
structure Balance (done : List Effect) (s : TcpSession) : Prop where
  whole : ∀ write ∈ s.writes, write.rest.length ≤ write.frame.bytes.length
  bytes : s.output.length =
    (wireBytes (done.filterMap Effect.completed?)).length + s.inFlight +
      ((done.filterMap Effect.failed?).map PendingWrite.sent).sum

theorem balance_fresh (ip : Bytes) : Balance [] { peerIp := ip } where
  whole := fun _ hwrite => by cases hwrite
  bytes := rfl

theorem Balance.frame {done : List Effect} {s next : TcpSession}
    (hbalance : s.Balance done) (hwrites : next.writes = s.writes)
    (hposted : next.posted.filterMap writtenOf = s.posted.filterMap writtenOf)
    (houtput : next.output = s.output) : next.Balance done where
  whole := by
    rw [hwrites]
    exact hbalance.whole
  bytes := by
    rw [inFlight, hwrites, hposted, houtput]
    exact hbalance.bytes

/-- A handler without a successful write leaves the balance. -/
theorem Balance.continues {done : List Effect} {s next : TcpSession}
    (hbalance : s.Balance done) (hcontinues : s.Continues next)
    (houtput : next.output = s.output) : next.Balance done := by
  have hposted : next.posted.filterMap writtenOf =
      s.posted.filterMap writtenOf := by
    rcases hcontinues.posted with hsame | ⟨why, hstop⟩
    · rw [hsame]
    · rw [hstop, List.filterMap_append]
      exact List.append_nil _
  rcases hcontinues.writes with hsame | ⟨w, hnew⟩
  · exact hbalance.frame hsame hposted houtput
  · refine ⟨?_, ?_⟩
    · intro write hwrite
      rw [hnew] at hwrite
      rcases List.mem_append.mp hwrite with hwrite | hwrite
      · exact hbalance.whole write hwrite
      · rw [List.mem_singleton] at hwrite
        rw [hwrite]
    · have hsent : PendingWrite.sent ⟨w, w.bytes⟩ = 0 := Nat.sub_self _
      rw [inFlight, hnew, List.map_append, List.sum_append, hposted, houtput,
        hbalance.bytes, inFlight]
      simp [hsent]

theorem sum_sent_eraseIdx {writes : List PendingWrite} {index : Nat}
    {write : PendingWrite} (hwrite : writes[index]? = some write) :
    write.sent + ((writes.eraseIdx index).map PendingWrite.sent).sum =
      (writes.map PendingWrite.sent).sum := by
  obtain ⟨hlt, rfl⟩ := List.getElem?_eq_some_iff.mp hwrite
  exact ((List.getElem_cons_eraseIdx_perm hlt).map PendingWrite.sent).sum_eq

theorem sum_sent_set {writes : List PendingWrite} {index : Nat}
    {write : PendingWrite} (hwrite : writes[index]? = some write)
    (later : PendingWrite) :
    ((writes.set index later).map PendingWrite.sent).sum + write.sent =
      later.sent + (writes.map PendingWrite.sent).sum := by
  have herase := sum_sent_eraseIdx hwrite
  obtain ⟨hlt, _⟩ := List.getElem?_eq_some_iff.mp hwrite
  have hset := ((List.set_perm_cons_eraseIdx hlt later).map
    PendingWrite.sent).sum_eq
  rw [List.map_cons, List.sum_cons] at hset
  omega

theorem wireBytes_cons_length (w : Wire) (frames : List Wire) :
    (wireBytes (w :: frames)).length =
      w.bytes.length + (wireBytes frames).length :=
  List.length_append

/-- The handler of a successful write moves its frame to the counted ones. -/
theorem handlerEffects_counts (cfg : Config) (s : TcpSession)
    (handler : Handler) (later : List Handler) :
    (wireBytes ((handler :: later).filterMap writtenOf)).length =
        (wireBytes ((s.handlerEffects cfg handler).filterMap
          Effect.completed?)).length +
        (wireBytes (later.filterMap writtenOf)).length ∧
      (s.handlerEffects cfg handler).filterMap Effect.failed? = [] := by
  cases handler with
  | sendFrame w =>
      simp only [handlerEffects]
      split
      · simp [List.filterMap_cons, writtenOf, Effect.completed?,
          Effect.failed?]
      · simp [List.filterMap_cons, writtenOf]
  | written w ec =>
      cases ec with
      | none =>
          simp [List.filterMap_cons, handlerEffects, writtenOf,
            wireBytes_cons_length, Effect.completed?, Effect.failed?]
      | some message => simp [List.filterMap_cons, handlerEffects, writtenOf]
  | kick w logWhy => simp [List.filterMap_cons, handlerEffects, writtenOf]
  | stop why => simp [List.filterMap_cons, handlerEffects, writtenOf]

theorem Balance.runHandler {cfg : Config} {done : List Effect}
    {s : TcpSession} {handler : Handler} {later : List Handler}
    (hbalance : s.Balance done) (hposted : s.posted = handler :: later) :
    Balance (done ++ s.handlerEffects cfg handler)
      { s with posted := later } := by
  refine ⟨hbalance.whole, ?_⟩
  have hbytes := hbalance.bytes
  obtain ⟨hcounted, hfailed⟩ := s.handlerEffects_counts cfg handler later
  rw [inFlight, hposted] at hbytes
  simp only [inFlight, List.filterMap_append, wireBytes_append, hfailed,
    List.append_nil, List.length_append]
  omega

theorem Balance.transmit {done : List Effect} {s : TcpSession}
    {index count : Nat} {write : PendingWrite} (hbalance : s.Balance done)
    (hwrite : s.writes[index]? = some write) :
    Balance done { s with
      writes := s.writes.set index { write with rest := write.rest.drop count }
      output := s.output ++ write.rest.take count } := by
  have hwhole := hbalance.whole write (List.mem_of_getElem? hwrite)
  refine ⟨?_, ?_⟩
  · intro other hother
    rcases List.mem_or_eq_of_mem_set hother with hother | rfl
    · exact hbalance.whole other hother
    · rw [List.length_drop]
      exact Nat.le_trans (Nat.sub_le _ _) hwhole
  · have hset := sum_sent_set hwrite
      { write with rest := write.rest.drop count }
    have hbytes := hbalance.bytes
    have hlater : PendingWrite.sent
        { write with rest := write.rest.drop count } =
        write.sent + min count write.rest.length := by
      simp only [PendingWrite.sent, List.length_drop]
      omega
    rw [inFlight] at hbytes ⊢
    rw [List.length_append, List.length_take]
    dsimp only
    omega

theorem Balance.writeDone {done : List Effect} {s : TcpSession} {index : Nat}
    {write : PendingWrite} (hbalance : s.Balance done)
    (hwrite : s.writes[index]? = some write) (hrest : write.rest = []) :
    Balance done ({ s with writes := s.writes.eraseIdx index }.post
      (.written write.frame none)) := by
  refine ⟨fun other hother => hbalance.whole other
    (List.mem_of_mem_eraseIdx hother), ?_⟩
  have herase := sum_sent_eraseIdx hwrite
  have hsent : write.sent = write.frame.bytes.length := by
    rw [PendingWrite.sent, hrest]
    rfl
  have hbytes := hbalance.bytes
  simp only [inFlight, TcpSession.post, List.filterMap_append,
    wireBytes_append, List.length_append] at hbytes ⊢
  simp only [writtenOf, List.filterMap_cons, List.filterMap_nil,
    wireBytes_singleton]
  omega

theorem Balance.writeFailed {done : List Effect} {s : TcpSession}
    {index : Nat} {write : PendingWrite} {message : Bytes}
    (hbalance : s.Balance done) (hwrite : s.writes[index]? = some write) :
    Balance (done ++ [.failed write])
      ({ s with writes := s.writes.eraseIdx index }.post
        (.written write.frame (some message))) := by
  refine ⟨fun other hother => hbalance.whole other
    (List.mem_of_mem_eraseIdx hother), ?_⟩
  have herase := sum_sent_eraseIdx hwrite
  have hbytes := hbalance.bytes
  simp only [inFlight, TcpSession.post, List.filterMap_append, List.map_append,
    List.sum_append, wireBytes_append, List.length_append] at hbytes ⊢
  simp only [writtenOf, Effect.completed?, Effect.failed?, List.filterMap_cons,
    List.filterMap_nil, wireBytes_nil, List.length_nil, List.map_cons,
    List.map_nil, List.sum_cons, List.sum_nil]
  omega

theorem Balance.ioStep {cfg : Config} {done : List Effect}
    {s next : TcpSession} {event : IoEvent} (hbalance : s.Balance done)
    (hstep : s.ioStep cfg event = some next) :
    next.Balance (done ++ s.effects cfg event) := by
  obtain ⟨handler, later, rfl, hposted, rfl⟩ |
    ⟨index, count, write, rfl, hwrite, hopen, rfl⟩ |
    ⟨index, write, rfl, hwrite, hrest, rfl⟩ |
    ⟨index, write, message, rfl, hwrite, _, rfl⟩ := ioStep_cases hstep
  · simp only [effects, hposted]
    exact (hbalance.runHandler hposted).continues
      (continues_handle cfg handler _) (handled_handle cfg handler _).output
  · simp only [effects, List.append_nil]
    exact hbalance.transmit hwrite
  · simp only [effects, List.append_nil]
    exact hbalance.writeDone hwrite hrest
  · simp only [effects, hwrite]
    exact hbalance.writeFailed hwrite

theorem Balance.call {done : List Effect} {s : TcpSession}
    (hbalance : s.Balance done) (made : Call) :
    (made.apply s).Balance done := by
  have hpost : ∀ handler, writtenOf handler = none →
      (s.post handler).posted.filterMap writtenOf =
        s.posted.filterMap writtenOf := by
    intro handler hnone
    simp [TcpSession.post, hnone]
  cases made with
  | sendFrame wire => exact hbalance.frame rfl (hpost _ rfl) rfl
  | stop why => exact hbalance.frame rfl (hpost _ rfl) rfl
  | markLogin uid isAdmin username => exact hbalance.frame rfl rfl rfl
  | notifyAndClose userReason logWhy =>
      simp only [Call.apply, TcpSession.notifyAndClose]
      split
      · exact hbalance.frame rfl
          (hpost (.kick (kickWire userReason) logWhy) rfl) rfl
      · exact hbalance.frame rfl (hpost _ rfl) rfl

/-! ## Frames passed to `send_frame` -/

/-- The frame of a `send_frame` which waits on the strand. -/
def waitingOf : Handler → Option Wire
  | .sendFrame w => some w
  | _ => none

/-- As long as a session is live, every frame passed to its `send_frame` has
been accepted, has been refused, or waits. -/
def Disposed (done : List Effect) (sent : List Wire) (s : TcpSession) : Prop :=
  s.live = true → sent.Perm (s.accepted ++ done.filterMap Effect.refused? ++
    s.posted.filterMap waitingOf)

theorem disposed_fresh (ip : Bytes) : Disposed [] [] { peerIp := ip } :=
  fun _ => List.Perm.refl []

theorem Disposed.frame {done : List Effect} {sent : List Wire}
    {s next : TcpSession} (hdisposed : s.Disposed done sent)
    (hlive : next.live = true → s.live = true)
    (haccepted : next.accepted = s.accepted)
    (hposted : next.posted.filterMap waitingOf =
      s.posted.filterMap waitingOf) : next.Disposed done sent := by
  intro hnext
  rw [haccepted, hposted]
  exact hdisposed (hlive hnext)

theorem disposed_dead {done : List Effect} {sent : List Wire}
    {s : TcpSession} (hdead : s.live = false) : s.Disposed done sent := by
  intro hlive
  rw [hdead] at hlive
  cases hlive

theorem live_eq_true {s : TcpSession} :
    s.live = true ↔ s.stopped = false ∧ s.kickPending = false := by
  simp [live]

theorem Disposed.sendFrame {cfg : Config} {done : List Effect}
    {sent : List Wire} {s : TcpSession} {w : Wire} {later : List Handler}
    (hdisposed : s.Disposed done sent)
    (hposted : s.posted = .sendFrame w :: later) :
    Disposed (done ++ s.handlerEffects cfg (.sendFrame w)) sent
      (handleSend cfg w { s with posted := later }) := by
  intro hnext
  obtain ⟨hstopped, hkick, _, _⟩ :=
    handleSend_flags cfg { s with posted := later } w
  have hlive : s.live = true := by
    rw [live, hstopped, hkick] at hnext
    exact hnext
  have hperm := hdisposed hlive
  obtain ⟨hrunning, hunkicked⟩ := live_eq_true.mp hlive
  have hcons : (Handler.sendFrame w :: later).filterMap waitingOf =
      w :: later.filterMap waitingOf := rfl
  rw [hposted, hcons] at hperm
  have hstops : (handleSend cfg w { s with posted := later }).posted.filterMap
      waitingOf = later.filterMap waitingOf := by
    rcases handleSend_posted cfg { s with posted := later } w with
      hsame | ⟨why, hstop⟩
    · rw [hsame]
    · rw [hstop, List.filterMap_append]
      exact List.append_nil _
  rw [hstops, List.filterMap_append]
  by_cases hover : cfg.highWaterBytes.toNat < s.pendingBytes + w.bytes.length
  · have haccepted : (handleSend cfg w { s with posted := later }).accepted =
        s.accepted := by
      have hrefused : Refuses cfg { s with posted := later } (.sendFrame w) :=
        .inr hover
      obtain hsame | ⟨why, hstop⟩ | hlogged :=
        handleSend_refused (.inr hrefused)
      · rw [hsame]
      · rw [hstop]
        rfl
      · rw [hlogged]
    have heffects : s.handlerEffects cfg (.sendFrame w) = [.refused w] :=
      if_pos ⟨hlive, hover⟩
    rw [haccepted, heffects]
    refine hperm.trans ?_
    rw [show [Effect.refused w].filterMap Effect.refused? = [w] from rfl,
      List.append_assoc, List.append_assoc, List.append_assoc]
    exact List.Perm.refl _
  · have haccepts : ¬Refuses cfg { s with posted := later } (.sendFrame w) := by
      simp only [Refuses, not_or, Bool.not_eq_true]
      exact ⟨hunkicked, hover⟩
    have hsend := (handleSend_accepted
      (s := { s with posted := later }) hrunning haccepts).2
    have heffects : s.handlerEffects cfg (.sendFrame w) = [] :=
      if_neg (fun hboth => hover hboth.2)
    rw [hsend, writeNext_accepted, heffects, List.filterMap_nil,
      List.append_nil]
    refine hperm.trans ?_
    have henqueued : (enqueue w { s with posted := later }).accepted =
        s.accepted ++ [w] := rfl
    rw [henqueued, List.append_assoc, List.append_assoc, List.append_assoc]
    exact List.perm_middle.append_left _

theorem Disposed.runHandler {cfg : Config} {done : List Effect}
    {sent : List Wire} {s : TcpSession} {handler : Handler}
    {later : List Handler} (hdisposed : s.Disposed done sent)
    (hposted : s.posted = handler :: later) :
    Disposed (done ++ s.handlerEffects cfg handler) sent
      ({ s with posted := later }.handle cfg handler) := by
  cases handler with
  | sendFrame w => exact hdisposed.sendFrame hposted
  | kick notifyWire logWhy =>
      apply disposed_dead
      simp only [handle, handleKick]
      split
      · rename_i hdead
        rw [live, ← Bool.not_or, hdead]
        rfl
      · simp [live, replaceQueue]
  | stop why =>
      apply disposed_dead
      simp only [handle, handleStop]
      split
      · rename_i hdead
        simp [live, hdead]
      · rfl
  | written bytes ec =>
      have hwaiting : s.posted.filterMap waitingOf =
          later.filterMap waitingOf := by
        rw [hposted]
        rfl
      have hnone : (s.handlerEffects cfg (.written bytes ec)).filterMap
          Effect.refused? = [] := by
        cases ec <;> rfl
      have hbefore : Disposed (done ++ s.handlerEffects cfg
          (.written bytes ec)) sent s := by
        intro hlive
        rw [List.filterMap_append, hnone, List.append_nil]
        exact hdisposed hlive
      cases ec with
      | some message =>
          refine hbefore.frame (fun hlive => hlive) rfl ?_
          simp only [handle, handleWritten, TcpSession.stop, TcpSession.post,
            List.filterMap_append, hwaiting]
          exact List.append_nil _
      | none =>
          simp only [handle, handleWritten]
          split
          · exact disposed_dead rfl
          · refine hbefore.frame ?_ ?_ ?_
            · simp [live, popWritten]
            · simp [popWritten]
            · simp [popWritten, hwaiting]

theorem Disposed.ioStep {cfg : Config} {done : List Effect}
    {sent : List Wire} {s next : TcpSession} {event : IoEvent}
    (hdisposed : s.Disposed done sent)
    (hstep : s.ioStep cfg event = some next) :
    next.Disposed (done ++ s.effects cfg event) sent := by
  obtain ⟨handler, later, rfl, hposted, rfl⟩ |
    ⟨index, count, write, rfl, hwrite, hopen, rfl⟩ |
    ⟨index, write, rfl, hwrite, hrest, rfl⟩ |
    ⟨index, write, message, rfl, hwrite, _, rfl⟩ := ioStep_cases hstep
  · simp only [effects, hposted]
    exact hdisposed.runHandler hposted
  · simp only [effects, List.append_nil]
    exact hdisposed.frame (fun hlive => hlive) rfl rfl
  · simp only [effects, List.append_nil]
    refine hdisposed.frame (fun hlive => hlive) rfl ?_
    simp [TcpSession.post, waitingOf]
  · intro hlive
    have hperm := hdisposed hlive
    simp only [effects, hwrite, List.filterMap_append]
    simpa [TcpSession.post, List.filterMap_cons, waitingOf, Effect.refused?]
      using hperm

theorem Disposed.call {done : List Effect} {sent : List Wire}
    {s : TcpSession} (hdisposed : s.Disposed done sent) (made : Call) :
    (made.apply s).Disposed done (sent ++ made.sent.toList) := by
  cases made with
  | sendFrame wire =>
      intro hlive
      have hperm := (hdisposed hlive).append_right [wire]
      simp only [Call.apply, TcpSession.sendFrame, TcpSession.post,
        List.filterMap_append]
      rw [← List.append_assoc]
      exact hperm
  | stop why =>
      rw [show (Call.stop why).sent.toList = [] from rfl, List.append_nil]
      refine hdisposed.frame (fun hlive => hlive) rfl ?_
      simp [Call.apply, TcpSession.stop, TcpSession.post, waitingOf]
  | markLogin uid isAdmin username =>
      rw [show (Call.markLogin uid isAdmin username).sent.toList = [] from rfl,
        List.append_nil]
      exact hdisposed.frame (fun hlive => hlive) rfl rfl
  | notifyAndClose userReason logWhy =>
      rw [show (Call.notifyAndClose userReason logWhy).sent.toList = []
        from rfl, List.append_nil]
      simp only [Call.apply, TcpSession.notifyAndClose]
      split
      · refine hdisposed.frame (fun hlive => hlive) rfl ?_
        simp [kickNotifyAndClose, TcpSession.post, waitingOf]
      · refine hdisposed.frame (fun hlive => hlive) rfl ?_
        simp [TcpSession.stop, TcpSession.post, waitingOf]

end TcpSession

/-! ## Connections to come -/

namespace Server

variable {cfg : Config} {unpack : Bytes → Option Obj}

/-- A connection which has not been accepted has no session yet, and none of
its methods has been called. -/
def Untouched (s : Server) : Prop :=
  ∀ c, s.hub.reg.nextConnId < c →
    s.hub.sessions c = {} ∧ Hub.callsOn c s.hub.calls = []

/-- Whose methods an operation calls. -/
theorem target_of_calls {sender : Identity} {seq : UInt32} {stage : Stage}
    {op : Op} (hallows : Allows sender seq stage op) {env : Env} {hub : Hub}
    {c : ConnId} {made : Call} (hmade : (c, made) ∈ op.calls cfg env hub) :
    c = sender.connId ∨ c ∈ stage.victims ∨ ∃ uid, c ∈ hub.reg.deque uid := by
  cases hallows with
  | evict uid victim todo userReason logWhy =>
      cases List.mem_singleton.mp hmade
      exact .inr (.inl List.mem_cons_self)
  | kick victim todo userReason logWhy =>
      cases List.mem_singleton.mp hmade
      exact .inr (.inl List.mem_cons_self)
  | purge uid name victim todo userReason logWhy =>
      cases List.mem_singleton.mp hmade
      exact .inr (.inl List.mem_cons_self)
  | route dst uid payload =>
      simp only [Op.calls, LockOp.exec, List.mem_map] at hmade
      obtain ⟨d, hd, hpair⟩ := hmade
      cases hpair
      exact .inr (.inr ⟨uid, Registry.recipients_subset hd⟩)
  | refuse why =>
      cases List.mem_singleton.mp hmade
      exact .inl rfl
  | welcome uid self lok =>
      cases List.mem_singleton.mp hmade
      exact .inl rfl
  | confirm uid =>
      cases List.mem_singleton.mp hmade
      exact .inl rfl
  | reply _ hmay wire htype hseq =>
      cases List.mem_singleton.mp hmade
      exact .inl rfl
  | register un info wantMode =>
      cases List.mem_singleton.mp hmade
      exact .inl rfl
  | _ => cases hmade

theorem callsOn_eq_nil {c : ConnId} {calls : List (ConnId × Call)}
    (hnone : ∀ made, (c, made) ∉ calls) : Hub.callsOn c calls = [] := by
  rw [List.eq_nil_iff_forall_not_mem]
  intro made hmade
  exact hnone made (Hub.mem_callsOn.mp hmade)

theorem Untouched.step {s s' : Server} {event : Event}
    (huntouched : s.Untouched) (hok : s.EndingOk cfg)
    (hstep : s.step cfg unpack event = some s') : s'.Untouched := by
  intro c hbeyond
  have hbefore : s.hub.reg.nextConnId < c :=
    Nat.lt_of_le_of_lt (nextConnId_le_of_step hstep) hbeyond
  obtain ⟨hsession, hcalls⟩ := huntouched c hbefore
  have hone : ∀ d made, d ≤ s.hub.reg.nextConnId →
      (s.hub.call d made).sessions c = {} ∧
        Hub.callsOn c (s.hub.call d made).calls = [] := by
    intro d made hknown
    have hne : c ≠ d := Nat.ne_of_gt (Nat.lt_of_le_of_lt hknown hbefore)
    rw [Hub.call_sessions_ne _ _ hne]
    refine ⟨hsession, ?_⟩
    have happend : (s.hub.call d made).calls = s.hub.calls ++ [(d, made)] := rfl
    rw [happend, Hub.callsOn, List.filterMap_append]
    simpa [Hub.callsOn, Ne.symm hne] using hcalls
  cases stepped_of_step hstep with
  | accept peerIp =>
      have hne : c ≠ s.hub.reg.nextConnId + 1 := Nat.ne_of_gt hbeyond
      exact ⟨by simpa [Hub.accept, hne] using hsession, hcalls⟩
  | give d event made hreader hkind =>
      apply hone d made (hok.sane.known_of_reader ?_)
      rcases hreader with hreader | ⟨h, hreader⟩ <;> simp [hreader]
  | perform d env q q' op hreader hop hallows hsender hheader hstage =>
      have hnone : Hub.callsOn c (op.calls cfg env s.hub) = [] := by
        apply callsOn_eq_nil
        intro made hmade
        have hknown : c ≤ s.hub.reg.nextConnId := by
          rcases target_of_calls hallows hmade with hself | hv | ⟨uid, hmem⟩
          · rw [hself, (hok.sane.fits d q hreader).1]
            exact hok.sane.known_of_reader (by simp [hreader])
          · exact hok.victims d q hreader c hv
          · exact hok.sane.known_of_login (hok.listed.loggedIn hmem)
        exact Nat.not_le.mpr hbefore hknown
      rw [setReader_hub, Op.exec_sessions, Op.exec_calls, hnone]
      refine ⟨hsession, ?_⟩
      rw [Hub.callsOn, List.filterMap_append]
      exact List.append_eq_nil_iff.mpr ⟨hcalls, hnone⟩
  | closeSocket d hreader =>
      have hne : c ≠ d := by
        rintro rfl
        exact Nat.not_le.mpr hbefore
          (hok.sane.known_of_reader (by simp [hreader]))
      exact ⟨by simpa [Hub.closeSocket, Hub.setSession, hne] using hsession,
        hcalls⟩
  | io d io session hio =>
      have hne : c ≠ d := by
        rintro rfl
        rw [hsession] at hio
        cases io <;> cases hio
      exact ⟨by simpa [Hub.setSession, hne] using hsession, hcalls⟩
  | heartbeatTimeout d hlogged hopen =>
      exact hone d heartbeatCall (hok.sane.known_of_login hlogged)
  | move d event loop loop' hreader hmoved => exact ⟨hsession, hcalls⟩
  | finish d env q hreader hdone => exact ⟨hsession, hcalls⟩
  | removeSession d hreader => exact ⟨hsession, hcalls⟩
  | snapshotStats => exact ⟨hsession, hcalls⟩

/-- The effects of an event, with their connection. -/
def effects (cfg : Config) (s : Server) : Event → List (ConnId × Effect)
  | .io c event => ((s.hub.sessions c).effects cfg event).map (Prod.mk c)
  | _ => []

/-- The writes on `c` which fail. -/
def failedWrites (c : ConnId) (s : Server) : Event → List PendingWrite
  | .io d (.writeFailed index _) =>
      if d = c then (s.hub.sessions c).writes[index]?.toList else []
  | _ => []

theorem failed_effects (cfg : Config) (c : ConnId) (s : Server)
    (event : Event) :
    (itemsOf c (s.effects cfg event)).filterMap Effect.failed? =
      s.failedWrites c event := by
  cases event with
  | io d event =>
      by_cases hsame : d = c
      · subst hsame
        rw [effects, itemsOf_map_self]
        cases event with
        | runHandler =>
            simp only [TcpSession.effects]
            cases (s.hub.sessions d).posted with
            | nil => rfl
            | cons handler later =>
                exact ((s.hub.sessions d).handlerEffects_counts cfg handler
                  later).2
        | writeFailed index message =>
            simp only [TcpSession.effects, failedWrites, if_true]
            cases (s.hub.sessions d).writes[index]? <;> rfl
        | transmit index count => rfl
        | writeDone index => rfl
      · rw [effects, itemsOf_map_ne hsame]
        cases event with
        | writeFailed index message => exact (if_neg hsame).symm
        | _ => rfl
  | _ => rfl

/-- The effects of one kind, each with its connection. -/
def pick {α : Type} (kind : Effect → Option α)
    (done : List (ConnId × Effect)) : List (ConnId × α) :=
  done.filterMap (fun item => (kind item.2).map (Prod.mk item.1))

theorem itemsOf_pick {α : Type} (kind : Effect → Option α) (c : ConnId)
    (done : List (ConnId × Effect)) :
    itemsOf c (pick kind done) = (itemsOf c done).filterMap kind := by
  unfold pick itemsOf
  rw [List.filterMap_filterMap, List.filterMap_filterMap]
  apply List.filterMap_congr
  rintro ⟨d, effect⟩ _
  by_cases hsame : d = c
  · subst hsame
    cases hkind : kind effect <;> simp [hkind]
  · cases kind effect <;> simp [hsame]

/-- A property of each session, of what has been done in it and of the frames
passed to it, kept by the calls of its methods and by its own steps. -/
theorem session_ledger {P : List Effect → List Wire → TcpSession → Prop}
    (hfresh : ∀ ip, P [] [] { peerIp := ip })
    (hcall : ∀ done sent session (made : Call), P done sent session →
      P done (sent ++ made.sent.toList) (made.apply session))
    (hio : ∀ done sent session event next, P done sent session →
      session.ioStep cfg event = some next →
      P (done ++ session.effects cfg event) sent next)
    (hclose : ∀ done sent session, P done sent session →
      P done sent session.closeSocket)
    {s s' : Server} {event : Event} (huntouched : s.Untouched)
    (hstep : s.step cfg unpack event = some s') {c : ConnId}
    {done : List (ConnId × Effect)}
    (hnone : s.hub.reg.nextConnId < c → itemsOf c done = [])
    (hold : P (itemsOf c done) (framesTo c s.hub.calls) (s.hub.sessions c)) :
    P (itemsOf c (done ++ s.effects cfg event)) (framesTo c s'.hub.calls)
      (s'.hub.sessions c) := by
  have hquiet : s.effects cfg event = [] →
      itemsOf c (done ++ s.effects cfg event) = itemsOf c done := by
    intro hnil
    rw [hnil, List.append_nil]
  have hone : ∀ d made, P (itemsOf c done)
      (framesTo c (s.hub.call d made).calls)
      ((s.hub.call d made).sessions c) := by
    intro d made
    have hcalls : (s.hub.call d made).calls = s.hub.calls ++ [(d, made)] := rfl
    rw [hcalls, framesTo_append]
    by_cases hsame : c = d
    · subst hsame
      rw [Hub.call_sessions_self, framesTo_singleton_self]
      exact hcall _ _ _ made hold
    · rw [Hub.call_sessions_ne _ _ hsame, framesTo_singleton_ne _ hsame,
        List.append_nil]
      exact hold
  cases stepped_of_step hstep with
  | accept peerIp =>
      rw [hquiet rfl]
      by_cases hnew : c = s.hub.reg.nextConnId + 1
      · have hbeyond : s.hub.reg.nextConnId < c := by
          rw [hnew]
          exact Nat.lt_succ_self _
        have hframes : framesTo c s.hub.calls = [] := by
          rw [framesTo, (huntouched c hbeyond).2]
          rfl
        have hsession : ((Hub.accept peerIp s.hub).sessions c) =
            { peerIp := peerIp } := by
          rw [hnew]
          simp [Hub.accept]
        have hcalls : (Hub.accept peerIp s.hub).calls = s.hub.calls := rfl
        rw [setReader_hub, hsession, hcalls, hframes, hnone hbeyond]
        exact hfresh peerIp
      · simpa [Hub.accept, hnew] using hold
  | give d event made hreader hkind =>
      rw [hquiet rfl]
      exact hone d made
  | perform d env q q' op hreader hop hallows hsender hheader hstage =>
      rw [hquiet rfl, setReader_hub, Op.exec_sessions, Op.exec_calls,
        framesTo_append, framesTo]
      unfold framesTo
      generalize Hub.callsOn c (op.calls cfg env s.hub) = calls
      rw [framesTo] at hold
      generalize (Hub.callsOn c s.hub.calls).filterMap Call.sent = sent
        at hold ⊢
      generalize s.hub.sessions c = session at hold
      induction calls generalizing session sent with
      | nil => simpa using hold
      | cons made rest ih =>
          have hnext := ih _ _ (hcall _ _ _ made hold)
          rw [List.append_assoc] at hnext
          cases made <;> exact hnext
  | closeSocket d hreader =>
      rw [hquiet rfl]
      by_cases hsame : c = d
      · subst hsame
        simpa [Hub.closeSocket, Hub.setSession] using hclose _ _ _ hold
      · simpa [Hub.closeSocket, Hub.setSession, hsame] using hold
  | io d io session hio' =>
      rw [itemsOf_append]
      by_cases hsame : c = d
      · subst hsame
        rw [effects, itemsOf_map_self]
        simpa [Hub.setSession] using hio _ _ _ _ _ hold hio'
      · rw [effects, itemsOf_map_ne (Ne.symm hsame), List.append_nil]
        simpa [Hub.setSession, hsame] using hold
  | heartbeatTimeout d hlogged hopen =>
      rw [hquiet rfl]
      exact hone d heartbeatCall
  | move d event loop loop' hreader hmoved =>
      rw [hquiet rfl]
      exact hold
  | finish d env q hreader hdone =>
      rw [hquiet rfl]
      exact hold
  | removeSession d hreader =>
      rw [hquiet rfl]
      exact hold
  | snapshotStats =>
      rw [hquiet rfl]
      exact hold

end Server

end AsioForwarder
