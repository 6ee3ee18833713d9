import AsioForwarder.DisconnectPolicy
import AsioForwarder.Metrics

/-!
# Sessions make progress

Left to itself, a session on whose open socket no write fails comes to rest:
each handler it runs, each byte its socket takes and each write which ends
lowers the work of the session.  A session at rest has written everything it
accepted, or its socket is closed; nothing stays in the queue with no write in
progress.
-/

namespace AsioForwarder

namespace TcpSession

/-! ## The work of a session -/

/-- A frame costs its bytes and four steps: it is accepted, its write is
started, its write ends, and the completion handler runs. -/
def frameWork (w : Wire) : Nat := w.bytes.length + 4

def handlerWork : Handler → Nat
  | .sendFrame w => frameWork w + 1
  | .kick notifyWire _ => frameWork notifyWire + 1
  | .stop _ => 1
  | .written _ _ => 2

def writeWork (write : PendingWrite) : Nat := write.rest.length + 3

/-- The frames of the queue whose write has not been started. -/
def unstarted (s : TcpSession) : List Wire :=
  if s.writing then s.queue.tail else s.queue

def work (s : TcpSession) : Nat :=
  (s.posted.map handlerWork).sum + (s.unstarted.map frameWork).sum +
    (s.writes.map writeWork).sum

/-- The steps a session takes by itself while its socket is open and takes
bytes. -/
def Advances (s : TcpSession) : IoEvent → Prop
  | .runHandler => s.isOpen = true
  | .transmit index count => s.isOpen = true ∧ 0 < count ∧
      ∀ write ∈ s.writes[index]?, write.rest ≠ []
  | .writeDone _ => s.isOpen = true
  | .writeFailed _ _ => False

instance (s : TcpSession) : DecidablePred s.Advances
  | .runHandler | .writeDone _ => inferInstanceAs (Decidable (_ = _))
  | .transmit _ _ => inferInstanceAs (Decidable (_ ∧ _ ∧ _))
  | .writeFailed _ _ => inferInstanceAs (Decidable False)

theorem work_doWrite {s : TcpSession} (hwriting : s.writing = false) :
    s.doWrite.work ≤ s.work := by
  unfold doWrite
  split
  · exact Nat.le_refl _
  · rename_i front rest hqueue
    split
    · exact Nat.le_refl _
    · simp only [work, unstarted, hwriting, hqueue, List.map_append,
        List.sum_append, List.map_cons, List.map_nil, List.sum_cons,
        List.sum_nil, List.tail_cons, frameWork, writeWork, if_true,
        Bool.false_eq_true, if_false]
      omega

theorem work_writeNext (s : TcpSession) : s.writeNext.work ≤ s.work := by
  unfold writeNext
  split
  · exact Nat.le_refl _
  · rename_i hwriting
    exact work_doWrite (Bool.eq_false_of_not_eq_true hwriting)

theorem work_enqueue (w : Wire) (s : TcpSession) :
    (s.enqueue w).work ≤ s.work + frameWork w := by
  have hunstarted : ((s.enqueue w).unstarted.map frameWork).sum ≤
      (s.unstarted.map frameWork).sum + frameWork w := by
    unfold unstarted enqueue
    dsimp only
    split
    · cases s.queue with
      | nil => simp
      | cons front rest => simp
    · simp
  simp only [work, enqueue] at hunstarted ⊢
  omega

theorem work_replaceQueue (notifyWire : Wire) (logWhy : Bytes)
    (s : TcpSession) :
    (s.replaceQueue notifyWire logWhy).work ≤
      s.work + frameWork notifyWire := by
  have hunstarted : ((s.replaceQueue notifyWire logWhy).unstarted.map
      frameWork).sum ≤ frameWork notifyWire := by
    unfold unstarted replaceQueue
    dsimp only
    split <;> simp
  simp only [work, replaceQueue] at hunstarted ⊢
  omega

theorem work_stop (why : Bytes) (s : TcpSession) :
    (s.stop why).work = s.work + 1 := by
  have hunstarted : (s.stop why).unstarted = s.unstarted := rfl
  rw [work, hunstarted]
  simp only [work, TcpSession.stop, TcpSession.post, List.map_append,
    List.sum_append, List.map_cons, List.map_nil, List.sum_cons,
    List.sum_nil, handlerWork]
  omega

theorem work_popWritten (bytes : Wire) (s : TcpSession) :
    (s.popWritten bytes).work ≤ s.work := by
  have htail : (s.queue.tail.map frameWork).sum ≤
      (s.unstarted.map frameWork).sum := by
    unfold unstarted
    split
    · exact Nat.le_refl _
    · cases s.queue with
      | nil => exact Nat.le_refl _
      | cons front rest => simp
  simp only [work, popWritten, unstarted] at htail ⊢
  simpa using htail

/-- No handler makes more work than it costs. -/
theorem work_handle (cfg : Config) (s : TcpSession) {handler : Handler}
    (hsuccess : ∀ bytes message, handler ≠ .written bytes (some message)) :
    (s.handle cfg handler).work < s.work + handlerWork handler := by
  cases handler with
  | sendFrame w =>
      simp only [handle, handlerWork]
      by_cases hrefused : s.stopped = true ∨ s.Refuses cfg (.sendFrame w)
      · obtain hsame | ⟨why, hstop⟩ | hlogged := handleSend_refused hrefused
        · rw [hsame]
          omega
        · rw [hstop, work_stop, frameWork]
          omega
        · rw [hlogged]
          have hwork : work { s with highWaterLogged := true } = s.work := rfl
          rw [hwork]
          omega
      · rw [not_or, Bool.not_eq_true] at hrefused
        rw [(handleSend_accepted hrefused.1 hrefused.2).2]
        have hnext := (s.enqueue w).work_writeNext
        have henqueue := s.work_enqueue w
        omega
  | kick notifyWire logWhy =>
      simp only [handle, handleKick, handlerWork]
      split
      · omega
      · have hnext := (s.replaceQueue notifyWire logWhy).work_writeNext
        have hreplace := s.work_replaceQueue notifyWire logWhy
        omega
  | stop why =>
      simp only [handle, handleStop, handlerWork]
      split
      · omega
      · exact Nat.lt_succ_self _
  | written bytes ec =>
      cases ec with
      | some message => exact absurd rfl (hsuccess bytes message)
      | none =>
          have hpop := s.work_popWritten bytes
          simp only [handle, handleWritten, handlerWork]
          split
          · have hclose : (s.popWritten bytes).closeAfterKick.work =
                (s.popWritten bytes).work := rfl
            omega
          · have hnext : (s.popWritten bytes).doWrite.work ≤
                (s.popWritten bytes).work := work_doWrite rfl
            omega

theorem work_pop {s : TcpSession} {handler : Handler} {later : List Handler}
    (hposted : s.posted = handler :: later) :
    s.work = work { s with posted := later } + handlerWork handler := by
  simp only [work, hposted, unstarted, List.map_cons, List.sum_cons]
  omega

theorem sum_writeWork_eraseIdx {writes : List PendingWrite} {index : Nat}
    {write : PendingWrite} (hwrite : writes[index]? = some write) :
    writeWork write + ((writes.eraseIdx index).map writeWork).sum =
      (writes.map writeWork).sum := by
  obtain ⟨hlt, rfl⟩ := List.getElem?_eq_some_iff.mp hwrite
  exact ((List.getElem_cons_eraseIdx_perm hlt).map writeWork).sum_eq

theorem sum_writeWork_set {writes : List PendingWrite} {index : Nat}
    {write : PendingWrite} (hwrite : writes[index]? = some write)
    (later : PendingWrite) :
    ((writes.set index later).map writeWork).sum + writeWork write =
      writeWork later + (writes.map writeWork).sum := by
  have herase := sum_writeWork_eraseIdx hwrite
  obtain ⟨hlt, _⟩ := List.getElem?_eq_some_iff.mp hwrite
  have hset := ((List.set_perm_cons_eraseIdx hlt later).map writeWork).sum_eq
  rw [List.map_cons, List.sum_cons] at hset
  omega

theorem work_ioStep {cfg : Config} {s next : TcpSession} {event : IoEvent}
    (hclean : ∀ completion ∈ s.completions, completion.2 = none)
    (hadvances : s.Advances event)
    (hstep : s.ioStep cfg event = some next) : next.work < s.work := by
  obtain ⟨handler, later, rfl, hposted, rfl⟩ |
    ⟨index, count, write, rfl, hwrite, hopen, rfl⟩ |
    ⟨index, write, rfl, hwrite, hrest, rfl⟩ |
    ⟨index, write, message, rfl, hwrite, _, rfl⟩ := ioStep_cases hstep
  · rw [work_pop hposted]
    apply work_handle
    rintro bytes message rfl
    have hmem : (bytes, some message) ∈ s.completions := by
      rw [completions, hposted, List.filterMap_cons]
      exact List.mem_cons_self
    cases hclean _ hmem
  · obtain ⟨_, hcount, hmore⟩ := hadvances
    have hrest := List.length_pos_of_ne_nil (hmore write hwrite)
    have hset := sum_writeWork_set hwrite
      { write with rest := write.rest.drop count }
    simp only [writeWork, List.length_drop] at hset
    simp only [work, unstarted] at hset ⊢
    omega
  · have herase := sum_writeWork_eraseIdx hwrite
    have hthree : writeWork write = 3 := by
      rw [writeWork, hrest]
      rfl
    have hunstarted : (TcpSession.post (.written write.frame none)
        { s with writes := s.writes.eraseIdx index }).unstarted =
          s.unstarted := rfl
    rw [work, hunstarted]
    simp only [work, TcpSession.post, List.map_append, List.sum_append,
      List.map_cons, List.map_nil, List.sum_cons, List.sum_nil, handlerWork]
    omega
  · exact hadvances.elim

/-! ## What has been written -/

/-- The accepted frames are those written and then the queue; the output and
what the current write still has make up the frames whose write has been
started. -/
def Flushing (s : TcpSession) : Prop :=
  ∃ done, s.accepted = done ++ s.queue ∧
    s.output ++ s.writes.flatMap PendingWrite.rest =
      wireBytes (done ++ s.outstanding)

theorem Flushing.frame {s next : TcpSession} (hflushing : s.Flushing)
    (haccepted : next.accepted = s.accepted) (hqueue : next.queue = s.queue)
    (houtput : next.output = s.output) (hwrites : next.writes = s.writes)
    (hcompletions : next.completions = s.completions) : next.Flushing := by
  obtain ⟨done, hline, hbytes⟩ := hflushing
  refine ⟨done, ?_, ?_⟩
  · rw [haccepted, hqueue, hline]
  · rw [houtput, hwrites, outstanding, hwrites, hcompletions]
    exact hbytes

theorem Flushing.post {s : TcpSession} {handler : Handler}
    (hflushing : s.Flushing) (hnone : completionOf handler = none) :
    (s.post handler).Flushing := by
  refine hflushing.frame rfl rfl rfl rfl ?_
  simp [completions, TcpSession.post, hnone]

theorem flushing_doWrite {s : TcpSession} (done : List Wire)
    (hstopped : s.stopped = false) (hnone : s.outstanding = [])
    (hline : s.accepted = done ++ s.queue)
    (houtput : s.output = wireBytes done) : s.doWrite.Flushing := by
  have hwrites : s.writes = [] := by
    rw [outstanding, List.append_eq_nil_iff, List.map_eq_nil_iff] at hnone
    exact hnone.1
  unfold doWrite
  split
  · refine ⟨done, hline, ?_⟩
    rw [hnone, hwrites, List.append_nil, houtput]
    exact List.append_nil _
  · rename_i front rest hqueue
    rw [if_neg (by simp [hstopped])]
    refine ⟨done, hline, ?_⟩
    have hstarted : outstanding
        { s with
          writing := true
          writes := s.writes ++ [⟨front, front.bytes⟩] } = [front] := by
      rw [outstanding, List.append_eq_nil_iff] at hnone
      rw [outstanding, hwrites]
      exact congrArg (front :: ·) hnone.2
    rw [hstarted, hwrites, houtput, wireBytes_append, wireBytes_singleton]
    exact congrArg (wireBytes done ++ ·) (List.append_nil _)

theorem Flushing.idle {s : TcpSession} (hflushing : s.Flushing)
    (hnone : s.outstanding = []) :
    ∃ done, s.accepted = done ++ s.queue ∧ s.output = wireBytes done := by
  obtain ⟨done, hline, hbytes⟩ := hflushing
  have hwrites : s.writes = [] := by
    rw [outstanding, List.append_eq_nil_iff, List.map_eq_nil_iff] at hnone
    exact hnone.1
  rw [hnone, hwrites, List.append_nil] at hbytes
  exact ⟨done, hline, (List.append_nil _).symm.trans hbytes⟩

/-- What every session satisfies on whose open socket no write has failed. -/
structure Steady (cfg : Config) (s : TcpSession) : Prop where
  shut : s.Shut
  clean : s.isOpen = true → s.NoFailure
  accounts : s.isOpen = true → s.Accounted cfg
  flushing : s.isOpen = true → s.kickPending = false → s.Flushing

theorem steady_fresh (cfg : Config) (ip : Bytes) :
    Steady cfg { peerIp := ip } where
  shut := fun hstopped => by cases hstopped
  clean := fun _ => ⟨fun _ hmem => (List.not_mem_nil hmem).elim, fun _ _ => rfl⟩
  accounts := fun _ => accounted_fresh cfg ip
  flushing := fun _ _ => ⟨[], rfl, rfl⟩

section Steady

variable {cfg : Config} {s next : TcpSession}

theorem Flushing.handleSend (hflushing : s.Flushing) (hclean : s.NoFailure)
    (haccounts : s.Accounted cfg) (w : Wire) :
    (s.handleSend cfg w).Flushing := by
  by_cases hrefused : s.stopped = true ∨ s.Refuses cfg (.sendFrame w)
  · obtain hsame | ⟨why, hstop⟩ | hlogged := handleSend_refused hrefused
    · rwa [hsame]
    · rw [hstop]
      exact hflushing.post rfl
    · rw [hlogged]
      exact hflushing.frame rfl rfl rfl rfl rfl
  · rw [not_or, Bool.not_eq_true] at hrefused
    rw [(handleSend_accepted hrefused.1 hrefused.2).2, TcpSession.writeNext]
    split
    · obtain ⟨done, hline, hbytes⟩ := hflushing
      refine ⟨done, ?_, hbytes⟩
      have hgrown : (s.enqueue w).accepted = s.accepted ++ [w] := rfl
      have hqueue : (s.enqueue w).queue = s.queue ++ [w] := rfl
      rw [hgrown, hqueue, hline, List.append_assoc]
    · rename_i hwriting
      have hidle : s.writing = false := Bool.eq_false_of_not_eq_true hwriting
      obtain ⟨done, hline, houtput⟩ :=
        hflushing.idle (haccounts.idle hidle)
      have hqueue := hclean.idle hrefused.1 hidle
      rw [hqueue, List.append_nil] at hline
      refine flushing_doWrite _ hrefused.1 (haccounts.idle hidle) ?_ houtput
      have hgrown : (s.enqueue w).accepted = s.accepted ++ [w] := rfl
      have hnew : (s.enqueue w).queue = s.queue ++ [w] := rfl
      rw [hgrown, hnew, hqueue, hline]
      rfl

/-- The front of the queue has been written. -/
theorem Flushing.written (hflushing : s.Flushing)
    (haccounts : s.Accounted cfg) (hstopped : s.stopped = false)
    (hkick : s.kickPending = false) {bytes : Wire} {later : List Handler}
    (hposted : s.posted = .written bytes none :: later) :
    (TcpSession.doWrite (TcpSession.popWritten bytes
      { s with posted := later })).Flushing := by
  obtain ⟨hone, hnone⟩ := haccounts.completion hposted
  obtain ⟨done, hline, hbytes⟩ := hflushing
  have hwrites : s.writes = [] := by
    rw [outstanding, List.append_eq_nil_iff, List.map_eq_nil_iff] at hnone
    exact hnone.1
  have hfront : s.queue.head? = some bytes := by
    apply haccounts.front hkick
    rw [hone]
    exact List.mem_cons_self
  obtain ⟨rest, hqueue⟩ := List.head?_eq_some_iff.mp hfront
  rw [hone, hwrites] at hbytes
  refine flushing_doWrite (done ++ [bytes]) hstopped hnone ?_ ?_
  · have hrest : (TcpSession.popWritten bytes
        { s with posted := later }).queue = s.queue.tail := rfl
    have hsame : (TcpSession.popWritten bytes
        { s with posted := later }).accepted = s.accepted := rfl
    rw [hrest, hsame, hline, hqueue, List.append_assoc]
    rfl
  · exact (List.append_nil _).symm.trans hbytes

theorem completions_pop {handler : Handler} {later : List Handler}
    (hposted : s.posted = handler :: later)
    (hnone : completionOf handler = none) :
    completions { s with posted := later } = s.completions := by
  rw [completions, completions, hposted, List.filterMap_cons_none hnone]

theorem Flushing.runHandler (hsteady : s.Steady cfg) {handler : Handler}
    {later : List Handler} (hposted : s.posted = handler :: later)
    (hopen : (TcpSession.handle cfg handler
      { s with posted := later }).isOpen = true)
    (hkick : (TcpSession.handle cfg handler
      { s with posted := later }).kickPending = false) :
    (TcpSession.handle cfg handler { s with posted := later }).Flushing := by
  have hbefore : s.isOpen = true :=
    isOpen_of_handle (s := { s with posted := later }) hopen
  have hrunning : s.stopped = false := by
    by_contra hstopped
    rw [hsteady.shut (Bool.eq_true_of_not_eq_false hstopped)] at hbefore
    cases hbefore
  have hclean := hsteady.clean hbefore
  have haccounts := hsteady.accounts hbefore
  have hpop : completionOf handler = none → s.kickPending = false →
      Flushing { s with posted := later } := by
    intro hnone hunkicked
    exact (hsteady.flushing hbefore hunkicked).frame rfl rfl rfl rfl
      (completions_pop hposted hnone)
  cases handler with
  | sendFrame w =>
      have hsame := (handleSend_flags cfg { s with posted := later } w).2.1
      have hcompletions := completions_pop hposted rfl
      have hcleared : NoFailure { s with posted := later } := by
        refine ⟨?_, hclean.idle⟩
        rw [hcompletions]
        exact hclean.success
      have htaken : Accounted cfg { s with posted := later } := by
        refine haccounts.frame rfl rfl ?_ rfl rfl
        rw [outstanding, hcompletions, outstanding]
      exact (hpop rfl (hsame.symm.trans hkick)).handleSend hcleared htaken w
  | kick notifyWire logWhy =>
      simp only [TcpSession.handle, TcpSession.handleKick] at hkick ⊢
      split
      · rename_i hdead
        rw [if_pos hdead] at hkick
        exact hpop rfl hkick
      · rename_i halive
        rw [if_neg halive, writeNext_kickPending] at hkick
        cases hkick
  | stop why =>
      simp only [TcpSession.handle, TcpSession.handleStop, hrunning] at hopen
      cases hopen
  | written bytes ec =>
      have hec : ec = none := by
        apply hclean.success (bytes, ec)
        rw [completions, hposted]
        exact List.mem_cons_self
      subst hec
      simp only [TcpSession.handle, TcpSession.handleWritten] at hopen hkick ⊢
      split at hopen
      · cases hopen
      · rename_i hnot
        rw [if_neg hnot, doWrite_kickPending] at hkick
        rw [if_neg hnot]
        exact (hsteady.flushing hbefore hkick).written haccounts hrunning hkick
          hposted

theorem Flushing.transmit (hflushing : s.Flushing)
    (haccounts : s.Accounted cfg) {index count : Nat} {write : PendingWrite}
    (hwrite : s.writes[index]? = some write) :
    Flushing { s with
      writes := s.writes.set index { write with rest := write.rest.drop count }
      output := s.output ++ write.rest.take count } := by
  obtain ⟨done, hline, hbytes⟩ := hflushing
  obtain ⟨rfl, hwrites, hcompletions⟩ := haccounts.writes_getElem hwrite
  refine ⟨done, hline, ?_⟩
  have hstarted : outstanding { s with
      writes := s.writes.set 0 { write with rest := write.rest.drop count }
      output := s.output ++ write.rest.take count } = s.outstanding := by
    rw [outstanding, outstanding, hwrites]
    rfl
  rw [hstarted, ← hbytes, hwrites, List.append_assoc]
  simp only [List.set_cons_zero, List.flatMap_cons, List.flatMap_nil,
    List.append_nil, List.take_append_drop]

theorem Flushing.writeDone (hflushing : s.Flushing)
    (haccounts : s.Accounted cfg) {index : Nat} {write : PendingWrite}
    (hwrite : s.writes[index]? = some write) (hrest : write.rest = []) :
    (TcpSession.post (.written write.frame none)
      { s with writes := s.writes.eraseIdx index }).Flushing := by
  obtain ⟨done, hline, hbytes⟩ := hflushing
  obtain ⟨rfl, hwrites, hcompletions⟩ := haccounts.writes_getElem hwrite
  refine ⟨done, hline, ?_⟩
  have hended : (TcpSession.post (.written write.frame none)
      { s with writes := s.writes.eraseIdx 0 }).outstanding =
        s.outstanding := by
    rw [completions] at hcompletions
    simp [outstanding, completions, TcpSession.post, hwrites, hcompletions,
      completionOf]
  rw [hended, ← hbytes, hwrites]
  simp [TcpSession.post, hrest]

theorem Flushing.ioStep (hsteady : s.Steady cfg) {event : IoEvent}
    (hgood : ¬s.WriteErrorOn event) (hstep : s.ioStep cfg event = some next)
    (hopen : next.isOpen = true) (hkick : next.kickPending = false) :
    next.Flushing := by
  obtain ⟨handler, later, rfl, hposted, rfl⟩ |
    ⟨index, count, write, rfl, hwrite, hbefore, rfl⟩ |
    ⟨index, write, rfl, hwrite, hrest, rfl⟩ |
    ⟨index, write, message, rfl, hwrite, _, rfl⟩ := ioStep_cases hstep
  · exact Flushing.runHandler hsteady hposted hopen hkick
  · exact (hsteady.flushing hopen hkick).transmit (hsteady.accounts hopen)
      hwrite
  · exact (hsteady.flushing hopen hkick).writeDone (hsteady.accounts hopen)
      hwrite hrest
  · exact absurd hopen hgood

theorem Steady.ioStep (hsteady : s.Steady cfg) {event : IoEvent}
    (hgood : ¬s.WriteErrorOn event)
    (hstep : s.ioStep cfg event = some next) : next.Steady cfg := by
  have hio : s.step cfg (.io event) = some next := hstep
  have hshut := shut_ioStep hsteady.shut hstep
  have hrunning : next.isOpen = true → next.stopped = false := by
    intro hopen
    by_contra hstopped
    rw [hshut (Bool.eq_true_of_not_eq_false hstopped)] at hopen
    cases hopen
  refine ⟨hshut, ?_, ?_, Flushing.ioStep hsteady hgood hstep⟩
  · intro hopen
    have hbefore := isOpen_of_step hio hopen
    refine (hsteady.clean hbefore).step ?_ hio
    cases event with
    | writeFailed index message => exact absurd hbefore hgood
    | _ => rfl
  · intro hopen
    exact (hsteady.accounts (isOpen_of_step hio hopen)).step hio
      (hrunning hopen)

theorem Steady.call (hsteady : s.Steady cfg) (made : Call) :
    (made.apply s).Steady cfg := by
  have hpost : ∀ handler, completionOf handler = none →
      (s.post handler).Steady cfg := by
    intro handler hnone
    refine ⟨hsteady.shut, ?_, ?_, ?_⟩
    · intro hopen
      exact (hsteady.clean hopen).post (by simp [hnone])
    · intro hopen
      exact (hsteady.accounts hopen).post hnone
    · intro hopen hkick
      exact (hsteady.flushing hopen hkick).post hnone
  cases made with
  | sendFrame wire => exact hpost _ rfl
  | stop why => exact hpost _ rfl
  | markLogin uid isAdmin username =>
      refine ⟨hsteady.shut, ?_, ?_, ?_⟩
      · intro hopen
        exact ⟨(hsteady.clean hopen).success, (hsteady.clean hopen).idle⟩
      · intro hopen
        exact (hsteady.accounts hopen).frame rfl rfl rfl rfl rfl
      · intro hopen hkick
        exact (hsteady.flushing hopen hkick).frame rfl rfl rfl rfl rfl
  | notifyAndClose userReason logWhy =>
      simp only [Call.apply, TcpSession.notifyAndClose]
      split
      · have hkicked := hpost (.kick (kickWire userReason) logWhy) rfl
        refine ⟨hkicked.shut, ?_, ?_, ?_⟩
        · intro hopen
          exact ⟨(hkicked.clean hopen).success, (hkicked.clean hopen).idle⟩
        · intro hopen
          exact (hkicked.accounts hopen).frame rfl rfl rfl rfl rfl
        · intro hopen hkick
          exact (hkicked.flushing hopen hkick).frame rfl rfl rfl rfl rfl
      · exact hpost _ rfl

theorem steady_closeSocket (cfg : Config) (s : TcpSession) :
    s.closeSocket.Steady cfg where
  shut := fun _ => rfl
  clean := fun hopen => by cases hopen
  accounts := fun hopen => by cases hopen
  flushing := fun hopen => by cases hopen

/-! ## Rest -/

/-- Everything accepted has been written, and nothing waits. -/
structure AtRest (s : TcpSession) : Prop where
  posted : s.posted = []
  writes : s.writes = []
  queue : s.queue = []
  pending : s.pendingBytes = 0
  unkicked : s.kickPending = false
  output : s.output = wireBytes s.accepted

/-- An open session which cannot advance is at rest. -/
theorem Steady.atRest (hsteady : s.Steady cfg) (hopen : s.isOpen = true)
    (hstuck : ∀ event, s.Advances event → s.ioStep cfg event = none) :
    s.AtRest := by
  have hrunning : s.stopped = false := by
    by_contra hstopped
    rw [hsteady.shut (Bool.eq_true_of_not_eq_false hstopped)] at hopen
    cases hopen
  have haccounts := hsteady.accounts hopen
  have hposted : s.posted = [] := by
    have hnone := hstuck .runHandler hopen
    simp only [TcpSession.ioStep] at hnone
    split at hnone
    · assumption
    · cases hnone
  have hwrites : s.writes = [] := by
    by_contra hsome
    obtain ⟨write, rest, hcons⟩ := List.exists_cons_of_ne_nil hsome
    have hwrite : s.writes[0]? = some write := by
      rw [hcons]
      rfl
    by_cases hrest : write.rest = []
    · have hnone := hstuck (.writeDone 0) hopen
      simp [TcpSession.ioStep, hwrite, hrest] at hnone
    · have hnone := hstuck (.transmit 0 1) ⟨hopen, Nat.one_pos, by
        simpa [hwrite] using hrest⟩
      simp [TcpSession.ioStep, hwrite, hopen] at hnone
  have houtstanding : s.outstanding = [] := by
    rw [outstanding, completions, hposted, hwrites]
    rfl
  have hwriting : s.writing = false := by
    by_contra hbusy
    have hsingle := haccounts.single
    rw [houtstanding, if_pos (Bool.eq_true_of_not_eq_false hbusy)] at hsingle
    cases hsingle
  have hqueue := (hsteady.clean hopen).idle hrunning hwriting
  have hkick : s.kickPending = false := by
    by_contra hkicked
    have hone := haccounts.kicked (Bool.eq_true_of_not_eq_false hkicked)
    rw [hqueue] at hone
    cases hone
  obtain ⟨done, hline, houtput⟩ :=
    (hsteady.flushing hopen hkick).idle houtstanding
  rw [hqueue, List.append_nil] at hline
  refine ⟨hposted, hwrites, hqueue, ?_, hkick, hline ▸ houtput⟩
  rw [haccounts.counted, queuedBytes, hqueue]
  rfl

end Steady

end TcpSession

/-! ## The sessions of a server -/

namespace Server

variable {cfg : Config} {unpack : Bytes → Option Obj}

theorem steady_of_step {s s' : Server} {event : Event}
    (hgood : s.NoWriteError event)
    (hstep : s.step cfg unpack event = some s') {c : ConnId}
    (hsteady : (s.hub.sessions c).Steady cfg) :
    (s'.hub.sessions c).Steady cfg := by
  have hone : ∀ d made, ((s.hub.call d made).sessions c).Steady cfg := by
    intro d made
    by_cases hsame : c = d
    · subst hsame
      rw [Hub.call_sessions_self]
      exact hsteady.call made
    · rwa [Hub.call_sessions_ne _ _ hsame]
  cases stepped_of_step hstep with
  | accept peerIp =>
      by_cases hnew : c = s.hub.reg.nextConnId + 1
      · subst hnew
        simpa [Hub.accept] using TcpSession.steady_fresh cfg peerIp
      · simpa [Hub.accept, hnew] using hsteady
  | give d event made hreader hkind => exact hone d made
  | perform d env q q' op hreader hop hallows hsender hheader hstage =>
      rw [setReader_hub, Op.exec_sessions]
      generalize Hub.callsOn c (op.calls cfg env s.hub) = calls
      generalize s.hub.sessions c = session at hsteady
      induction calls generalizing session with
      | nil => exact hsteady
      | cons made rest ih => exact ih (made.apply session) (hsteady.call made)
  | closeSocket d hreader =>
      by_cases hsame : c = d
      · subst hsame
        simpa [Hub.closeSocket, Hub.setSession] using
          TcpSession.steady_closeSocket cfg (s.hub.sessions c)
      · simpa [Hub.closeSocket, Hub.setSession, hsame] using hsteady
  | io d io session hio =>
      by_cases hsame : c = d
      · subst hsame
        simpa [Hub.setSession] using hsteady.ioStep hgood hio
      · simpa [Hub.setSession, hsame] using hsteady
  | heartbeatTimeout d hlogged hopen => exact hone d heartbeatCall
  | _ => exact hsteady

end Server

namespace Metered

variable {cfg : Config} {unpack : Bytes → Option Obj} {db : Db}
  {events : List Event} {t : Metered}

/-- The strand or the socket of `c` moves on. -/
def Drives (c : ConnId) (t : Metered) (event : Event) : Prop :=
  ∃ io, event = .io c io ∧ (t.server.hub.sessions c).Advances io

/-- The strand and the socket of `c` cannot move on. -/
def Exhausted (cfg : Config) (unpack : Bytes → Option Obj) (c : ConnId)
    (t : Metered) : Prop :=
  ∀ event, t.Drives c event → t.step cfg unpack event = none

theorem Drives.noWriteError {c : ConnId} {event : Event}
    (hdrives : t.Drives c event) : t.server.NoWriteError event := by
  obtain ⟨io, rfl, hadvances⟩ := hdrives
  cases io with
  | writeFailed index message => exact hadvances.elim
  | _ => exact not_false

theorem ioStep_of_step {c : ConnId} {event : TcpSession.IoEvent}
    {t' : Metered} (hstep : t.step cfg unpack (.io c event) = some t') :
    (t.server.hub.sessions c).ioStep cfg event =
      some (t'.server.hub.sessions c) := by
  have hserver := (step_eq_some hstep).1
  simp only [Server.step] at hserver
  cases hio : (t.server.hub.sessions c).ioStep cfg event with
  | none =>
      rw [hio] at hserver
      cases hserver
  | some session =>
      rw [hio, Option.some.injEq] at hserver
      rw [← hserver]
      simp [Hub.setSession]

theorem work_of_drives {c : ConnId} {event : Event} {t' : Metered}
    (hsteady : (t.server.hub.sessions c).Steady cfg)
    (hdrives : t.Drives c event)
    (hstep : t.step cfg unpack event = some t') :
    (t'.server.hub.sessions c).work < (t.server.hub.sessions c).work := by
  obtain ⟨io, rfl, hadvances⟩ := hdrives
  have hopen : (t.server.hub.sessions c).isOpen = true := by
    cases io with
    | runHandler => exact hadvances
    | transmit index count => exact hadvances.1
    | writeDone index => exact hadvances
    | writeFailed index message => exact hadvances.elim
  exact TcpSession.work_ioStep (hsteady.clean hopen).success hadvances
    (ioStep_of_step hstep)

theorem Exhausted.ioStep {c : ConnId} (hexhausted : t.Exhausted cfg unpack c)
    {event : TcpSession.IoEvent}
    (hadvances : (t.server.hub.sessions c).Advances event) :
    (t.server.hub.sessions c).ioStep cfg event = none := by
  have hnone := hexhausted (.io c event) ⟨event, rfl, hadvances⟩
  rw [step, Option.map_eq_none_iff] at hnone
  cases hio : (t.server.hub.sessions c).ioStep cfg event with
  | none => rfl
  | some session => simp [Server.step, hio] at hnone

theorem steady_of_run
    (hrun : Transition.run (step cfg unpack) events (initial db) = some t)
    (hclean : Transition.Along (step cfg unpack)
      (fun t => t.server.NoWriteError) events (initial db)) (c : ConnId) :
    (t.server.hub.sessions c).Steady cfg := by
  refine Transition.run_preserves
    (fun t => (t.server.hub.sessions c).Steady cfg) ?_ ?_ hclean hrun
  · intro t event t' hsteady hgood hstep
    exact Server.steady_of_step hgood (step_eq_some hstep).1 hsteady
  · exact TcpSession.steady_fresh cfg []

theorem steady_of_drives {c : ConnId} {event : Event} {t' : Metered}
    (hsteady : (t.server.hub.sessions c).Steady cfg)
    (hdrives : t.Drives c event)
    (hstep : t.step cfg unpack event = some t') :
    (t'.server.hub.sessions c).Steady cfg :=
  Server.steady_of_step hdrives.noWriteError (step_eq_some hstep).1 hsteady

/-- Nobody has asked for the end of `c`, everything passed to its `send_frame`
has been accepted or refused, what was accepted has been written, and `drops`
counts what was refused. -/
structure Settled (c : ConnId) (done : List (ConnId × Effect)) (t : Metered) :
    Prop where
  atRest : (t.server.hub.sessions c).AtRest
  unending : ∀ made, (c, made) ∈ t.server.hub.calls →
    made.isTermination = false
  disposed : (framesTo c t.server.hub.calls).Perm
    ((t.server.hub.sessions c).accepted ++
      (itemsOf c done).filterMap Effect.refused?)
  counted : t.metrics.drops =
    UInt64.ofNat (Server.pick Effect.refused? done).length

theorem Outbound.settled {c : ConnId} {done : List (ConnId × Effect)}
    (houtbound : t.Outbound cfg done)
    (hsteady : (t.server.hub.sessions c).Steady cfg)
    (hopen : (t.server.hub.sessions c).isOpen = true)
    (hexhausted : t.Exhausted cfg unpack c) : t.Settled c done := by
  have hrest := hsteady.atRest hopen (fun _ => hexhausted.ioStep)
  have hrunning : (t.server.hub.sessions c).stopped = false := by
    by_contra hstopped
    rw [hsteady.shut (Bool.eq_true_of_not_eq_false hstopped)] at hopen
    cases hopen
  refine ⟨hrest, ?_, ?_, houtbound.drops⟩
  · intro made hmade
    by_contra hends
    have hdoomed := (houtbound.ending.called c made hmade
      (Bool.eq_true_of_not_eq_false hends)).2
    rw [TcpSession.doomed_iff, hrunning, hrest.unkicked, hrest.posted]
      at hdoomed
    simp at hdoomed
  · have hlive : (t.server.hub.sessions c).live = true :=
      TcpSession.live_eq_true.mpr ⟨hrunning, hrest.unkicked⟩
    have hperm := houtbound.disposed c hlive
    rw [hrest.posted, List.filterMap_nil, List.append_nil] at hperm
    exact hperm

/-- After any run without write errors, what a session does by itself comes to
an end: the number of steps is bounded by its work, and once its strand and
its socket cannot move on, either the socket is closed or everything accepted
has been written, nothing waits, and no end of the session was asked for. -/
theorem settles_of_run (cfg : Config) (unpack : Bytes → Option Obj) (db : Db)
    {events : List Event} {t : Metered}
    (hrun : Transition.run (step cfg unpack) events (initial db) = some t)
    (hclean : Transition.Along (step cfg unpack)
      (fun t => t.server.NoWriteError) events (initial db))
    (c : ConnId) :
    (∀ more t', Transition.run (step cfg unpack) more t = some t' →
      Transition.Along (step cfg unpack) (Drives c) more t →
      more.length ≤ (t.server.hub.sessions c).work ∧
      (t'.Exhausted cfg unpack c →
        (t'.server.hub.sessions c).isOpen = true →
        t'.Settled c (Transition.observe (step cfg unpack)
          (shows (Server.effects cfg)) (events ++ more) (initial db)))) ∧
    ∃ more t', Transition.run (step cfg unpack) more t = some t' ∧
      Transition.Along (step cfg unpack) (Drives c) more t ∧
      t'.Exhausted cfg unpack c := by
  have hsteady := steady_of_run hrun hclean c
  refine ⟨?_, ?_⟩
  · intro more t' hmore hdrives
    have hlength := Transition.length_le_of_decreasing
      (fun t => (t.server.hub.sessions c).work)
      (fun t => (t.server.hub.sessions c).Steady cfg)
      (fun _ _ _ => steady_of_drives) (fun _ _ _ => work_of_drives) hsteady
      hdrives hmore
    refine ⟨Nat.le_of_add_right_le hlength, ?_⟩
    intro hexhausted hopen
    have hlater := Transition.run_preserves
      (fun t => (t.server.hub.sessions c).Steady cfg)
      (fun _ _ _ => steady_of_drives) hsteady hdrives hmore
    have hwhole := Transition.run_append_eq_some.mpr ⟨t, hrun, hmore⟩
    exact (outbound_of_run hwhole).settled hlater hopen hexhausted
  · exact Transition.exists_exhausted
      (fun t => (t.server.hub.sessions c).work)
      (fun t => (t.server.hub.sessions c).Steady cfg)
      (fun _ _ _ => steady_of_drives) (fun _ _ _ => work_of_drives) hsteady

theorem settles_of_run_rootLogin :
    ∃ t more t', Transition.run (step forwarderJson unpackFlat)
        Server.rootLogin (initial Server.emptyDb) = some t ∧
      0 < (t.server.hub.sessions 1).work ∧
      Transition.run (step forwarderJson unpackFlat) more t = some t' ∧
      t'.Exhausted forwarderJson unpackFlat 1 ∧
      more.length ≤ (t.server.hub.sessions 1).work := by
  obtain ⟨t, hrun, hwork⟩ : ∃ t : Metered,
      Transition.run (step forwarderJson unpackFlat) Server.rootLogin
        (initial Server.emptyDb) = some t ∧
      0 < (t.server.hub.sessions 1).work :=
    Transition.exists_run_of_check (by decide +kernel)
  have hclean : Transition.Along (step forwarderJson unpackFlat)
      (fun t => t.server.NoWriteError) Server.rootLogin
        (initial Server.emptyDb) :=
    Transition.along_of_check (by decide +kernel)
  obtain ⟨hbound, more, t', hmore, hdrives, hexhausted⟩ :=
    settles_of_run forwarderJson unpackFlat Server.emptyDb hrun hclean 1
  exact ⟨t, more, t', hrun, hwork, hmore, hexhausted,
    (hbound more t' hmore hdrives).1⟩

end Metered

end AsioForwarder
