import AsioForwarder.SessionKick
import Mathlib.Algebra.GroupWithZero.Nat

/-!
# The accounts of the send queue

`pending_bytes_` is kept by three handlers, one of which replaces the queue
under a write in progress.  The counter, the flag `writing_` and the queue
stay in step in every run of a session which is not stopped, write errors
included: a failed write only clears the flag, and leaves its frame queued
and counted.
-/

namespace AsioForwarder

namespace TcpSession

/-- The frames of the writes which were started and whose completion handler
has not run. -/
def outstanding (s : TcpSession) : List Wire :=
  s.writes.map PendingWrite.frame ++ s.completions.map Prod.fst

def queuedBytes (s : TcpSession) : Nat :=
  (s.queue.map (fun w => w.bytes.length)).sum

structure Accounted (cfg : Config) (s : TcpSession) : Prop where
  counted : s.pendingBytes = s.queuedBytes
  single : s.outstanding.length = if s.writing then 1 else 0
  below : s.kickPending = false → s.pendingBytes ≤ cfg.highWaterBytes.toNat
  front : s.kickPending = false → ∀ w ∈ s.outstanding,
    s.queue.head? = some w
  kicked : s.kickPending = true → s.queue.length = 1

section Accounted

variable {cfg : Config} {s t : TcpSession}

theorem accounted_fresh (cfg : Config) (ip : Bytes) :
    Accounted cfg { peerIp := ip } where
  counted := rfl
  single := rfl
  below := fun _ => Nat.zero_le _
  front := fun _ w hw => absurd hw List.not_mem_nil
  kicked := fun hkick => by cases hkick

theorem Accounted.frame (haccounts : s.Accounted cfg)
    (hpending : t.pendingBytes = s.pendingBytes) (hqueue : t.queue = s.queue)
    (houtstanding : t.outstanding = s.outstanding)
    (hwriting : t.writing = s.writing)
    (hkick : t.kickPending = s.kickPending) : t.Accounted cfg where
  counted := by
    rw [hpending, queuedBytes, hqueue]
    exact haccounts.counted
  single := by
    rw [houtstanding, hwriting]
    exact haccounts.single
  below := by
    rw [hpending, hkick]
    exact haccounts.below
  front := by
    rw [houtstanding, hkick, hqueue]
    exact haccounts.front
  kicked := by
    rw [hkick, hqueue]
    exact haccounts.kicked

theorem outstanding_post {handler : Handler}
    (hnone : completionOf handler = none) (s : TcpSession) :
    (s.post handler).outstanding = s.outstanding := by
  simp [outstanding, completions, post, hnone]

theorem Accounted.post (haccounts : s.Accounted cfg) {handler : Handler}
    (hnone : completionOf handler = none) :
    (s.post handler).Accounted cfg :=
  haccounts.frame rfl rfl (outstanding_post hnone s) rfl rfl

theorem Accounted.idle (haccounts : s.Accounted cfg)
    (hwriting : s.writing = false) : s.outstanding = [] := by
  have hsingle := haccounts.single
  rw [hwriting, if_neg Bool.false_ne_true] at hsingle
  exact List.length_eq_zero_iff.mp hsingle

theorem Accounted.doWrite (haccounts : s.Accounted cfg)
    (hwriting : s.writing = false) : s.doWrite.Accounted cfg := by
  unfold TcpSession.doWrite
  split
  · exact haccounts
  rename_i w later hqueue
  split
  · exact haccounts
  have hidle := haccounts.idle hwriting
  rw [outstanding, List.append_eq_nil_iff, List.map_eq_nil_iff] at hidle
  have hstarted : ∀ writing writes, writes = s.writes ++ [⟨w, w.bytes⟩] →
      TcpSession.outstanding { s with writing := writing, writes := writes } =
        [w] := by
    intro writing writes hwrites
    have hcompletions : s.completions.map Prod.fst = [] := hidle.2
    simp only [outstanding, hwrites, hidle.1]
    change [w] ++ s.completions.map Prod.fst = [w]
    rw [hcompletions, List.append_nil]
  constructor
  · exact haccounts.counted
  · rw [hstarted _ _ rfl]
    rfl
  · exact haccounts.below
  · intro _ v hv
    rw [hstarted _ _ rfl, List.mem_singleton] at hv
    rw [hv]
    exact congrArg List.head? hqueue
  · exact haccounts.kicked

theorem Accounted.writeNext (haccounts : s.Accounted cfg) :
    s.writeNext.Accounted cfg := by
  unfold TcpSession.writeNext
  split
  · exact haccounts
  · rename_i hwriting
    exact haccounts.doWrite (by simpa using hwriting)

/-! ## The handlers -/

theorem Accounted.enqueue (haccounts : s.Accounted cfg) {bytes : Wire}
    (hkick : s.kickPending = false)
    (hfits : s.pendingBytes + bytes.bytes.length ≤
      cfg.highWaterBytes.toNat) :
    (s.enqueue bytes).Accounted cfg := by
  constructor
  · have hcounted := haccounts.counted
    simp only [TcpSession.enqueue, queuedBytes] at hcounted ⊢
    rw [List.map_append, List.sum_append, hcounted]
    simp
  · exact haccounts.single
  · exact fun _ => hfits
  · intro _ w hw
    have hfront := haccounts.front hkick w hw
    simp only [TcpSession.enqueue, List.head?_append, hfront, Option.some_or]
  · intro hpending
    rw [show (s.enqueue bytes).kickPending = s.kickPending from rfl, hkick]
      at hpending
    cases hpending

theorem Accounted.handleSend (haccounts : s.Accounted cfg) (bytes : Wire) :
    (s.handleSend cfg bytes).Accounted cfg := by
  by_cases hrefused : s.stopped = true ∨ s.Refuses cfg (.sendFrame bytes)
  · obtain hsame | ⟨why, hstop⟩ | hlogged := handleSend_refused hrefused
    · rw [hsame]
      exact haccounts
    · rw [hstop]
      exact haccounts.post rfl
    · rw [hlogged]
      exact haccounts.frame rfl rfl rfl rfl rfl
  · rw [not_or, Bool.not_eq_true] at hrefused
    obtain ⟨hkick, heq⟩ := handleSend_accepted hrefused.1 hrefused.2
    have hfits : s.pendingBytes + bytes.bytes.length ≤
        cfg.highWaterBytes.toNat := by
      have haccepts := hrefused.2
      simp only [Refuses, not_or] at haccepts
      exact Nat.not_lt.mp haccepts.2
    rw [heq]
    exact (haccounts.enqueue hkick hfits).writeNext

theorem Accounted.replaceQueue (haccounts : s.Accounted cfg)
    (notifyWire : Wire) (logWhy : Bytes) :
    (s.replaceQueue notifyWire logWhy).Accounted cfg where
  counted := by simp [TcpSession.replaceQueue, queuedBytes]
  single := haccounts.single
  below := fun hkick => by cases hkick
  front := fun hkick => by cases hkick
  kicked := fun _ => rfl

theorem Accounted.handleKick (haccounts : s.Accounted cfg)
    (notifyWire : Wire) (logWhy : Bytes) :
    (s.handleKick notifyWire logWhy).Accounted cfg := by
  unfold TcpSession.handleKick
  split
  · exact haccounts
  · exact (haccounts.replaceQueue notifyWire logWhy).writeNext

/-- What is known when a completion handler is taken off the strand: it is
the only one, and no other write is in progress. -/
theorem Accounted.completion (haccounts : s.Accounted cfg) {bytes : Wire}
    {ec : Option Bytes} {later : List Handler}
    (hposted : s.posted = .written bytes ec :: later) :
    s.outstanding = [bytes] ∧
      TcpSession.outstanding { s with posted := later } = [] := by
  have hcompletions : s.completions =
      (bytes, ec) :: later.filterMap completionOf := by
    simp [completions, hposted, completionOf]
  have hsingle := haccounts.single
  have hle : s.outstanding.length ≤ 1 := by
    rw [hsingle]
    split <;> omega
  rw [outstanding, hcompletions] at hle
  simp only [List.map_cons, List.length_append, List.length_map,
    List.length_cons] at hle
  have hwrites : s.writes = [] := List.length_eq_zero_iff.mp (by omega)
  have hlater : later.filterMap completionOf = [] :=
    List.length_eq_zero_iff.mp (by omega)
  constructor
  · rw [outstanding, hcompletions, hwrites, hlater]
    rfl
  · simp only [outstanding, hwrites, completions, hlater]
    rfl

theorem Accounted.handleWritten (haccounts : s.Accounted cfg) {bytes : Wire}
    {ec : Option Bytes} {later : List Handler}
    (hposted : s.posted = .written bytes ec :: later)
    (hopen : ({ s with posted := later }.handleWritten bytes ec).stopped =
      false) :
    ({ s with posted := later }.handleWritten bytes ec).Accounted cfg := by
  obtain ⟨hone, hnone⟩ := haccounts.completion hposted
  cases ec with
  | some message =>
      have hcleared : Accounted cfg
          { s with posted := later, writing := false } :=
        { counted := haccounts.counted
          single := congrArg List.length hnone
          below := haccounts.below
          front := fun _ w hw => absurd (hnone ▸ hw) List.not_mem_nil
          kicked := haccounts.kicked }
      exact hcleared.post rfl
  | none =>
      simp only [TcpSession.handleWritten] at hopen ⊢
      split at hopen
      · cases hopen
      rename_i hgoes
      rw [if_neg hgoes]
      -- A queue replaced by a kick is empty after the pop.
      have hkick : s.kickPending = false := by
        by_contra hkick
        rw [Bool.not_eq_false] at hkick
        obtain ⟨k, hqueue⟩ :=
          List.length_eq_one_iff.mp (haccounts.kicked hkick)
        simp [hkick, hqueue] at hgoes
      have hfront := haccounts.front hkick bytes
        (hone ▸ List.mem_singleton_self bytes)
      obtain ⟨todo, hqueue⟩ := List.head?_eq_some_iff.mp hfront
      refine Accounted.doWrite ?_ rfl
      constructor
      · have hcounted := haccounts.counted
        simp only [popWritten, queuedBytes, hqueue, List.map_cons,
          List.sum_cons, List.tail_cons] at hcounted ⊢
        omega
      · exact congrArg List.length hnone
      · intro _
        have hbelow := haccounts.below hkick
        simp only [popWritten]
        omega
      · intro _ w hw
        exact absurd (hnone ▸ hw) List.not_mem_nil
      · intro hpending
        exact absurd (hkick.symm.trans hpending) Bool.false_ne_true

theorem Accounted.handle (haccounts : s.Accounted cfg) {handler : Handler}
    {later : List Handler} (hposted : s.posted = handler :: later)
    (hopen : ({ s with posted := later }.handle cfg handler).stopped =
      false) :
    ({ s with posted := later }.handle cfg handler).Accounted cfg := by
  have htaken : completionOf handler = none →
      Accounted cfg { s with posted := later } := by
    intro hnone
    refine haccounts.frame rfl rfl ?_ rfl rfl
    simp [outstanding, completions, hposted, hnone]
  cases handler with
  | sendFrame bytes => exact (htaken rfl).handleSend bytes
  | kick notifyWire logWhy => exact (htaken rfl).handleKick notifyWire logWhy
  | written bytes ec => exact haccounts.handleWritten hposted hopen
  | stop why =>
      simp only [TcpSession.handle, TcpSession.handleStop] at hopen ⊢
      split at hopen
      · rename_i hstopped
        rw [if_pos hstopped]
        exact htaken rfl
      · cases hopen

/-! ## Steps and runs -/

theorem Accounted.writes_getElem (haccounts : s.Accounted cfg) {index : Nat}
    {write : PendingWrite} (hwrite : s.writes[index]? = some write) :
    index = 0 ∧ s.writes = [write] ∧ s.completions = [] := by
  have hle : s.outstanding.length ≤ 1 := by
    rw [haccounts.single]
    split <;> omega
  obtain ⟨hindex, hget⟩ := List.getElem?_eq_some_iff.mp hwrite
  simp only [outstanding, List.length_append, List.length_map] at hle
  have hcompletions : s.completions = [] :=
    List.length_eq_zero_iff.mp (by omega)
  obtain ⟨only, honly⟩ : ∃ only, s.writes = [only] :=
    List.length_eq_one_iff.mp (by omega)
  rw [honly, List.length_singleton] at hindex
  have hzero : index = 0 := by omega
  subst hzero
  rw [honly, List.getElem?_cons_zero, Option.some.injEq] at hwrite
  exact ⟨rfl, by rw [honly, hwrite], hcompletions⟩

theorem Accounted.complete (haccounts : s.Accounted cfg) {index : Nat}
    {write : PendingWrite} (hwrite : s.writes[index]? = some write)
    (ec : Option Bytes) :
    (TcpSession.post (.written write.frame ec)
      { s with writes := s.writes.eraseIdx index }).Accounted cfg := by
  obtain ⟨rfl, hwrites, hcompletions⟩ := haccounts.writes_getElem hwrite
  refine haccounts.frame rfl rfl ?_ rfl rfl
  have hnone : s.posted.filterMap completionOf = [] := hcompletions
  simp [outstanding, completions, TcpSession.post, completionOf, hwrites,
    hnone]

theorem Accounted.ioStep (haccounts : s.Accounted cfg) {event : IoEvent}
    (hstep : s.ioStep cfg event = some t) (hopen : t.stopped = false) :
    t.Accounted cfg := by
  obtain ⟨handler, later, rfl, hposted, rfl⟩ |
    ⟨index, count, write, rfl, hwrite, _, rfl⟩ |
    ⟨index, write, rfl, hwrite, _, rfl⟩ |
    ⟨index, write, message, rfl, hwrite, _, rfl⟩ := ioStep_cases hstep
  · exact haccounts.handle hposted hopen
  · obtain ⟨rfl, hwrites, _⟩ := haccounts.writes_getElem hwrite
    refine haccounts.frame rfl rfl ?_ rfl rfl
    simp [outstanding, completions, hwrites]
  · exact haccounts.complete hwrite none
  · exact haccounts.complete hwrite (some message)

theorem stopped_of_handle (cfg : Config) (handler : Handler) (s : TcpSession)
    (hstopped : s.stopped = true) : (s.handle cfg handler).stopped = true := by
  cases handler with
  | sendFrame bytes => exact (handleSend_flags cfg s bytes).1.trans hstopped
  | kick notifyWire logWhy =>
      simp [TcpSession.handle, TcpSession.handleKick, hstopped]
  | stop why => simp [TcpSession.handle, TcpSession.handleStop, hstopped]
  | written bytes ec =>
      cases ec with
      | some message => exact hstopped
      | none =>
          simp only [TcpSession.handle, TcpSession.handleWritten]
          split
          · rfl
          · rw [doWrite_stopped]
            exact hstopped

theorem stopped_of_step {event : Event} (hstopped : s.stopped = true)
    (hstep : s.step cfg event = some t) : t.stopped = true := by
  cases event with
  | sendFrame bytes =>
      cases hstep
      exact hstopped
  | notifyAndClose userReason logWhy =>
      cases hstep
      unfold TcpSession.notifyAndClose
      split
      · exact hstopped
      · exact hstopped
  | stop why =>
      cases hstep
      exact hstopped
  | markLogin uid isAdmin username =>
      cases hstep
      exact hstopped
  | closeSocket =>
      cases hstep
      exact hstopped
  | io event =>
      obtain ⟨handler, later, rfl, hposted, rfl⟩ |
        ⟨index, count, write, rfl, hwrite, _, rfl⟩ |
        ⟨index, write, rfl, hwrite, _, rfl⟩ |
        ⟨index, write, message, rfl, hwrite, _, rfl⟩ := ioStep_cases hstep
      · exact stopped_of_handle cfg handler _ hstopped
      · exact hstopped
      · exact hstopped
      · exact hstopped

theorem Accounted.step (haccounts : s.Accounted cfg) {event : Event}
    (hstep : s.step cfg event = some t) (hopen : t.stopped = false) :
    t.Accounted cfg := by
  cases event with
  | io event => exact haccounts.ioStep hstep hopen
  | sendFrame bytes =>
      cases hstep
      exact haccounts.post rfl
  | notifyAndClose userReason logWhy =>
      cases hstep
      unfold TcpSession.notifyAndClose
      split
      · exact (haccounts.post rfl).frame rfl rfl rfl rfl rfl
      · exact haccounts.post rfl
  | stop why =>
      cases hstep
      exact haccounts.post rfl
  | markLogin uid isAdmin username =>
      cases hstep
      exact haccounts.frame rfl rfl rfl rfl rfl
  | closeSocket =>
      cases hstep
      exact haccounts.frame rfl rfl rfl rfl rfl

structure QueueSound (cfg : Config) (s : TcpSession) : Prop where
  counted : s.pendingBytes = s.queuedBytes
  one : s.outstanding.length ≤ 1
  writing_iff : s.writing = true ↔ s.outstanding.length = 1
  below : s.kickPending = false → s.pendingBytes ≤ cfg.highWaterBytes.toNat
  front : s.kickPending = false → ∀ w ∈ s.outstanding,
    s.queue.head? = some w
  noFallback : s.kickPending = false → ∀ bytes ec later,
    s.posted = .written bytes ec :: later →
      bytes.bytes.length ≤ s.pendingBytes

theorem Accounted.sound (haccounts : s.Accounted cfg) : s.QueueSound cfg where
  counted := haccounts.counted
  one := by
    rw [haccounts.single]
    split <;> omega
  writing_iff := by
    rw [haccounts.single]
    split
    · rename_i hwriting
      simp [hwriting]
    · rename_i hwriting
      simp [hwriting]
  below := haccounts.below
  front := haccounts.front
  noFallback := by
    intro hkick bytes ec later hposted
    obtain ⟨hone, _⟩ := haccounts.completion hposted
    have hfront := haccounts.front hkick bytes
      (hone ▸ List.mem_singleton_self bytes)
    obtain ⟨todo, hqueue⟩ := List.head?_eq_some_iff.mp hfront
    rw [haccounts.counted, queuedBytes, hqueue, List.map_cons, List.sum_cons]
    omega

end Accounted

theorem accounted_of_run (cfg : Config) (ip : Bytes) {events : List Event}
    {s : TcpSession}
    (hrun : Transition.run (step cfg) events { peerIp := ip } = some s) :
    s.stopped = false → s.Accounted cfg := by
  refine Transition.run_preserves_always
    (fun s => s.stopped = false → s.Accounted cfg) ?_
    (fun _ => accounted_fresh cfg ip) hrun
  intro state event next haccounts hstep hopen
  cases hstopped : state.stopped with
  | true =>
      have hclosed := stopped_of_step hstopped hstep
      cases hopen.symm.trans hclosed
  | false => exact (haccounts hstopped).step hstep hopen

theorem queueSound_of_run (cfg : Config) (ip : Bytes) (events : List Event)
    (s : TcpSession)
    (hrun : Transition.run (step cfg) events { peerIp := ip } = some s)
    (hopen : s.stopped = false) : s.QueueSound cfg :=
  (accounted_of_run cfg ip hrun hopen).sound

theorem queueSound_of_run_two_frames :
    ∃ s, Transition.run (step forwarderJson)
        [.sendFrame ⟨kMsgServerReply, 1, []⟩,
          .sendFrame ⟨kMsgDeliver, 2, []⟩, .io .runHandler, .io .runHandler,
          .io (.transmit 0 24), .io (.writeDone 0), .io .runHandler] {} =
          some s ∧
      s.pendingBytes = 24 ∧ s.writing = true ∧ s.QueueSound forwarderJson := by
  obtain ⟨s, hrun, hpending, hwriting, hopen⟩ : ∃ s,
      Transition.run (step forwarderJson)
        [.sendFrame ⟨kMsgServerReply, 1, []⟩,
          .sendFrame ⟨kMsgDeliver, 2, []⟩, .io .runHandler, .io .runHandler,
          .io (.transmit 0 24), .io (.writeDone 0), .io .runHandler] {} =
          some s ∧
      s.pendingBytes = 24 ∧ s.writing = true ∧ s.stopped = false :=
    Transition.exists_run_of_check (by decide +kernel)
  exact ⟨s, hrun, hpending, hwriting,
    queueSound_of_run forwarderJson [] _ s hrun hopen⟩

end TcpSession

end AsioForwarder
