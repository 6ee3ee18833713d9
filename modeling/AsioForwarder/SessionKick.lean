import AsioForwarder.SessionOutput

/-!
# The KICK notice of one session

`notify_and_close` promises a last frame with the reason before the socket
is closed.  The promise is kept from the call on if nothing disturbs it: the
kick handler finds no write in progress, no stop handler runs and the read
loop does not close the socket before the notice is out.  The invariant
follows the notice through its three stages: waiting on the strand, being
written, and written.
-/

namespace AsioForwarder

namespace TcpSession

def kickOf : Handler → Option Wire
  | .kick notifyWire _ => some notifyWire
  | _ => none

def postedKicks (s : TcpSession) : List Wire :=
  s.posted.filterMap kickOf

/-- The kick handler finds no write in progress, and no stop handler runs
once a notice has been asked for. -/
def HandlerUndisturbed (s : TcpSession) : Option Handler → Prop
  | some (.kick _ _) =>
      s.stopped = false → s.kickPending = false → s.writing = false
  | some (.stop _) => s.stopped = false → s.kicks = []
  | _ => True

instance (s : TcpSession) :
    (head : Option Handler) → Decidable (s.HandlerUndisturbed head)
  | some (.kick _ _) => inferInstanceAs (Decidable (_ → _ → _))
  | some (.stop _) => inferInstanceAs (Decidable (_ → _))
  | some (.sendFrame _) => inferInstanceAs (Decidable True)
  | some (.written _ _) => inferInstanceAs (Decidable True)
  | none => inferInstanceAs (Decidable True)

/-- Nothing gets in the way of a notice: the session is still alive when
`notify_and_close` is called for the first time, the kick handler finds no
write in progress, and from the call until the notice is written no stop
handler runs and the read loop does not close the socket. -/
def KickUndisturbed (s : TcpSession) : Event → Prop
  | .notifyAndClose _ _ =>
      s.loggedIn = true → s.kicks = [] → s.stopped = false ∧ s.isOpen = true
  | .io .runHandler => s.HandlerUndisturbed s.posted.head?
  | .closeSocket => s.kicks = [] ∨ s.stopped = true
  | _ => True

instance (s : TcpSession) :
    (event : Event) → Decidable (s.KickUndisturbed event)
  | .notifyAndClose _ _ => inferInstanceAs (Decidable (_ → _ → _ ∧ _))
  | .io .runHandler => inferInstanceAs (Decidable (HandlerUndisturbed _ _))
  | .closeSocket => inferInstanceAs (Decidable (_ ∨ _))
  | .sendFrame _ => inferInstanceAs (Decidable True)
  | .stop _ => inferInstanceAs (Decidable True)
  | .markLogin _ _ _ => inferInstanceAs (Decidable True)
  | .io (.transmit _ _) => inferInstanceAs (Decidable True)
  | .io (.writeDone _) => inferInstanceAs (Decidable True)
  | .io (.writeFailed _ _) => inferInstanceAs (Decidable True)

def Event.isWriteError : Event → Bool
  | .io (.writeFailed _ _) => true
  | _ => false

/-- `k` is the last frame accepted, and the output consists of whole frames
accepted before it and then the part `sent` of `k`. -/
def EndsWith (s : TcpSession) (k : Wire) (sent : Bytes) : Prop :=
  ∃ earlier whole, s.accepted = earlier ++ [k] ∧ whole.Sublist earlier ∧
    s.output = wireBytes whole ++ sent

/-- Once the socket is closed, the output ends with the complete KICK notice;
from the moment the kick handler has run, nothing but the notice is
written. -/
structure KickDelivered (s : TcpSession) (reason : Bytes) : Prop where
  complete : s.isOpen = false →
    s.EndsWith (kickWire reason) (kickWire reason).bytes
  last : s.kickPending = true → ∃ sent, sent <+: (kickWire reason).bytes ∧
    s.EndsWith (kickWire reason) sent

/-! ## Runs without write errors -/

/-- No write has failed: every completion is a success, and a session that is
not writing has an empty queue. -/
structure NoFailure (s : TcpSession) : Prop where
  success : ∀ completion ∈ s.completions, completion.2 = none
  idle : s.stopped = false → s.writing = false → s.queue = []

theorem NoFailure.not_writeFailed {s : TcpSession} (hclean : s.NoFailure) :
    ¬s.WriteFailed := by
  rintro ⟨hstopped, hwriting, hqueue⟩
  exact hqueue (hclean.idle hstopped hwriting)

theorem doWrite_idle {s : TcpSession} (hstopped : s.stopped = false)
    (hwriting : s.doWrite.writing = false) : s.queue = [] := by
  unfold doWrite at hwriting
  split at hwriting
  · assumption
  · rw [if_neg (by simp [hstopped])] at hwriting
    cases hwriting

theorem writeNext_idle {s : TcpSession} (hstopped : s.stopped = false)
    (hwriting : s.writeNext.writing = false) : s.queue = [] := by
  unfold writeNext at hwriting
  split at hwriting
  · rename_i hbusy
    rw [hbusy] at hwriting
    cases hwriting
  · exact doWrite_idle hstopped hwriting

/-- What the handler of `send_frame` can change besides the queue and the
write in progress: it may post a stop. -/
theorem handleSend_posted (cfg : Config) (s : TcpSession) (bytes : Wire) :
    (s.handleSend cfg bytes).posted = s.posted ∨
      ∃ why, (s.handleSend cfg bytes).posted = s.posted ++ [.stop why] := by
  by_cases hrefused : s.stopped = true ∨ s.Refuses cfg (.sendFrame bytes)
  · obtain hsame | ⟨why, hstop⟩ | hlogged := handleSend_refused hrefused
    · exact .inl (by rw [hsame])
    · exact .inr ⟨why, by rw [hstop]; rfl⟩
    · exact .inl (by rw [hlogged])
  · rw [not_or, Bool.not_eq_true] at hrefused
    rw [(handleSend_accepted hrefused.1 hrefused.2).2]
    exact .inl (by simp [enqueue])

theorem handleSend_flags (cfg : Config) (s : TcpSession) (bytes : Wire) :
    (s.handleSend cfg bytes).stopped = s.stopped ∧
      (s.handleSend cfg bytes).kickPending = s.kickPending ∧
      (s.handleSend cfg bytes).isOpen = s.isOpen ∧
      (s.handleSend cfg bytes).kicks = s.kicks := by
  by_cases hrefused : s.stopped = true ∨ s.Refuses cfg (.sendFrame bytes)
  · obtain hsame | ⟨why, hstop⟩ | hlogged := handleSend_refused hrefused
    · simp [hsame]
    · simp [hstop, TcpSession.stop, TcpSession.post]
    · simp [hlogged]
  · rw [not_or, Bool.not_eq_true] at hrefused
    rw [(handleSend_accepted hrefused.1 hrefused.2).2]
    simp [enqueue]

theorem NoFailure.handleSend {cfg : Config} {s : TcpSession}
    (hclean : s.NoFailure) (bytes : Wire) :
    (s.handleSend cfg bytes).NoFailure := by
  constructor
  · have hsame : (s.handleSend cfg bytes).completions = s.completions := by
      obtain hposted | ⟨why, hposted⟩ := handleSend_posted cfg s bytes
      · simp [completions, hposted]
      · simp [completions, hposted, completionOf]
    rw [hsame]
    exact hclean.success
  · by_cases hrefused : s.stopped = true ∨ s.Refuses cfg (.sendFrame bytes)
    · obtain hsame | ⟨why, hstop⟩ | hlogged := handleSend_refused hrefused
      · rw [hsame]
        exact hclean.idle
      · rw [hstop]
        exact hclean.idle
      · rw [hlogged]
        exact hclean.idle
    · rw [not_or, Bool.not_eq_true] at hrefused
      rw [(handleSend_accepted hrefused.1 hrefused.2).2]
      intro hstopped hwriting
      rw [writeNext_stopped] at hstopped
      rw [writeNext_queue]
      exact writeNext_idle hstopped hwriting

theorem NoFailure.handleKick {s : TcpSession} (hclean : s.NoFailure)
    (notifyWire : Wire) (logWhy : Bytes) :
    (s.handleKick notifyWire logWhy).NoFailure := by
  unfold TcpSession.handleKick
  split
  · exact hclean
  · refine ⟨?_, ?_⟩
    · simpa [completions, replaceQueue] using hclean.success
    · intro hstopped hwriting
      rw [writeNext_stopped] at hstopped
      rw [writeNext_queue]
      exact writeNext_idle hstopped hwriting

theorem NoFailure.handleStop {s : TcpSession} (hclean : s.NoFailure) :
    s.handleStop.NoFailure := by
  unfold TcpSession.handleStop
  split
  · exact hclean
  · exact ⟨hclean.success, fun hstopped => by cases hstopped⟩

theorem NoFailure.handleWritten {s : TcpSession} (hclean : s.NoFailure)
    (bytes : Wire) : (s.handleWritten bytes none).NoFailure := by
  simp only [TcpSession.handleWritten]
  split
  · exact ⟨hclean.success, fun hstopped => by cases hstopped⟩
  · refine ⟨?_, ?_⟩
    · simpa [completions, popWritten] using hclean.success
    · intro hstopped hwriting
      rw [doWrite_stopped] at hstopped
      rw [doWrite_queue]
      exact doWrite_idle hstopped hwriting

theorem NoFailure.handle {cfg : Config} {s : TcpSession} {handler : Handler}
    {later : List Handler} (hclean : s.NoFailure)
    (hposted : s.posted = handler :: later) :
    ({ s with posted := later }.handle cfg handler).NoFailure := by
  have hsuccess : ∀ completion ∈ (handler :: later).filterMap completionOf,
      completion.2 = none := hposted ▸ hclean.success
  have hrest : NoFailure { s with posted := later } := by
    refine ⟨fun completion hmem => hsuccess completion ?_, hclean.idle⟩
    obtain ⟨other, hother, heq⟩ := List.mem_filterMap.mp hmem
    exact List.mem_filterMap.mpr ⟨other, List.mem_cons_of_mem _ hother, heq⟩
  cases handler with
  | sendFrame bytes => exact hrest.handleSend bytes
  | kick notifyWire logWhy => exact hrest.handleKick notifyWire logWhy
  | stop why => exact hrest.handleStop
  | written bytes ec =>
      have hec : ec = none := hsuccess (bytes, ec) (by simp [completionOf])
      subst hec
      exact hrest.handleWritten bytes

theorem NoFailure.post {s : TcpSession} (hclean : s.NoFailure)
    {handler : Handler}
    (hsuccess : ∀ completion ∈ completionOf handler, completion.2 = none) :
    (s.post handler).NoFailure := by
  refine ⟨?_, hclean.idle⟩
  intro completion hmem
  rw [completions, TcpSession.post, List.filterMap_append,
    List.mem_append] at hmem
  rcases hmem with hold | hnew
  · exact hclean.success completion hold
  · obtain ⟨other, hother, heq⟩ := List.mem_filterMap.mp hnew
    rw [List.mem_singleton] at hother
    subst other
    exact hsuccess completion heq

theorem NoFailure.step {cfg : Config} {s next : TcpSession} {event : Event}
    (hclean : s.NoFailure) (hevent : event.isWriteError = false)
    (hstep : s.step cfg event = some next) : next.NoFailure := by
  cases event with
  | sendFrame bytes =>
      cases hstep
      exact hclean.post (by simp [completionOf])
  | stop why =>
      cases hstep
      exact hclean.post (by simp [completionOf])
  | notifyAndClose userReason logWhy =>
      cases hstep
      unfold TcpSession.notifyAndClose
      split
      · have hposted :
            (s.post (.kick (kickWire userReason) logWhy)).NoFailure :=
          hclean.post (by simp [completionOf])
        exact ⟨hposted.success, hposted.idle⟩
      · exact hclean.post (by simp [completionOf])
  | markLogin uid isAdmin username =>
      cases hstep
      exact ⟨hclean.success, hclean.idle⟩
  | closeSocket =>
      cases hstep
      exact ⟨hclean.success, hclean.idle⟩
  | io event =>
      obtain ⟨handler, later, rfl, hposted, rfl⟩ |
        ⟨index, count, write, rfl, hwrite, _, rfl⟩ |
        ⟨index, write, rfl, hwrite, _, rfl⟩ |
        ⟨index, write, message, rfl, hwrite, _, rfl⟩ := ioStep_cases hstep
      · exact hclean.handle hposted
      · exact ⟨hclean.success, hclean.idle⟩
      · have hrest : NoFailure { s with writes := s.writes.eraseIdx index } :=
          ⟨hclean.success, hclean.idle⟩
        exact hrest.post (by simp [completionOf])
      · cases hevent

/-! ## The notice on its way -/

/-- Where the first KICK frame of the session is. -/
inductive KickPhase (s : TcpSession) : Prop where
  | unasked (hkicks : s.kicks = []) (hpending : s.kickPending = false)
      (hposted : s.postedKicks = [])
  | waiting (k : Wire) (more later : List Wire) (hkicks : s.kicks = k :: more)
      (hstopped : s.stopped = false) (hpending : s.kickPending = false)
      (hopen : s.isOpen = true) (hposted : s.postedKicks = k :: later)
  | underway (k : Wire) (more : List Wire) (hkicks : s.kicks = k :: more)
      (hstopped : s.stopped = false) (hpending : s.kickPending = true)
      (hopen : s.isOpen = true) (hqueue : s.queue = [k])
      (hwrites : ∀ write ∈ s.writes, write.frame = k)
      (hcompletions : ∀ completion ∈ s.completions, completion.1 = k)
      (haccepted : ∃ earlier, s.accepted = earlier ++ [k])
  | finished (k : Wire) (more : List Wire) (hkicks : s.kicks = k :: more)
      (hstopped : s.stopped = true) (hpending : s.kickPending = false)
      (hopen : s.isOpen = false) (hwrites : s.writes = [])
      (hcompletions : s.completions = []) (houtput : s.EndsWith k k.bytes)

theorem kickPhase_fresh (ip : Bytes) : KickPhase { peerIp := ip } :=
  .unasked rfl rfl rfl

theorem KickPhase.post {s : TcpSession} (hphase : s.KickPhase)
    {handler : Handler} (hkick : kickOf handler = none)
    (hcompletion : completionOf handler = none) :
    (s.post handler).KickPhase := by
  have hkicks : (s.post handler).postedKicks = s.postedKicks := by
    simp [postedKicks, TcpSession.post, hkick]
  have hcompletions : (s.post handler).completions = s.completions := by
    simp [completions, TcpSession.post, hcompletion]
  cases hphase with
  | unasked h₁ h₂ h₃ => exact .unasked h₁ h₂ (hkicks.trans h₃)
  | waiting k more later h₁ h₂ h₃ h₄ h₅ =>
      exact .waiting k more later h₁ h₂ h₃ h₄ (hkicks.trans h₅)
  | underway k more h₁ h₂ h₃ h₄ h₅ h₆ h₇ h₈ =>
      exact .underway k more h₁ h₂ h₃ h₄ h₅ h₆ (hcompletions ▸ h₇) h₈
  | finished k more h₁ h₂ h₃ h₄ h₅ h₆ h₇ =>
      exact .finished k more h₁ h₂ h₃ h₄ h₅ (hcompletions.trans h₆) h₇

theorem KickPhase.notifyAndClose {s : TcpSession} (hphase : s.KickPhase)
    (userReason logWhy : Bytes)
    (halive : s.loggedIn = true → s.kicks = [] →
      s.stopped = false ∧ s.isOpen = true) :
    (s.notifyAndClose userReason logWhy).KickPhase := by
  unfold TcpSession.notifyAndClose
  split
  · rename_i hlogged
    have hcompletions : (s.kickNotifyAndClose (kickWire userReason)
        logWhy).completions = s.completions := by
      simp [completions, kickNotifyAndClose, TcpSession.post, completionOf]
    have hposted : (s.kickNotifyAndClose (kickWire userReason)
        logWhy).postedKicks = s.postedKicks ++ [kickWire userReason] := by
      simp [postedKicks, kickNotifyAndClose, TcpSession.post, kickOf]
    cases hphase with
    | unasked h₁ h₂ h₃ =>
        obtain ⟨hstopped, hopen⟩ := halive hlogged h₁
        exact .waiting (kickWire userReason) [] []
          (by simp [kickNotifyAndClose, h₁]) hstopped h₂ hopen
          (by rw [hposted, h₃]; rfl)
    | waiting k more later h₁ h₂ h₃ h₄ h₅ =>
        exact .waiting k (more ++ [kickWire userReason])
          (later ++ [kickWire userReason]) (by simp [kickNotifyAndClose, h₁])
          h₂ h₃ h₄ (by rw [hposted, h₅]; rfl)
    | underway k more h₁ h₂ h₃ h₄ h₅ h₆ h₇ h₈ =>
        exact .underway k (more ++ [kickWire userReason])
          (by simp [kickNotifyAndClose, h₁]) h₂ h₃ h₄ h₅ h₆
          (hcompletions ▸ h₇) h₈
    | finished k more h₁ h₂ h₃ h₄ h₅ h₆ h₇ =>
        exact .finished k (more ++ [kickWire userReason])
          (by simp [kickNotifyAndClose, h₁]) h₂ h₃ h₄ h₅
          (hcompletions.trans h₆) h₇
  · exact hphase.post rfl rfl

theorem handleKick_starts {s : TcpSession} {k : Wire} (logWhy : Bytes)
    (hstopped : s.stopped = false) (hpending : s.kickPending = false)
    (hwriting : s.writing = false) (hwrites : s.writes = []) :
    s.handleKick k logWhy =
      { s.replaceQueue k logWhy with
        writing := true
        writes := [⟨k, k.bytes⟩] } := by
  simp [handleKick, hstopped, hpending, writeNext, doWrite, replaceQueue,
    hwriting, hwrites]

theorem Phase.idle_of_not_writing {s : TcpSession} (hphase : s.Phase)
    (hwriting : s.writing = false) :
    s.writes = [] ∧ s.completions = [] := by
  cases hphase with
  | idle done _ hwrites hcompletions => exact ⟨hwrites, hcompletions⟩
  | failed done w sent rest _ hwrites hcompletions =>
      exact ⟨hwrites, hcompletions⟩
  | busy done w sent rest hbusy => simp [hwriting] at hbusy
  | ended done w sent rest ec hbusy => simp [hwriting] at hbusy

theorem Phase.ended_of_completion {s : TcpSession} (hphase : s.Phase)
    {bytes : Wire} {more : List (Wire × Option Bytes)}
    (hcons : s.completions = (bytes, none) :: more) :
    ∃ done, s.writes = [] ∧ more = [] ∧
      (done ++ [bytes]).Sublist s.accepted ∧
      s.output = wireBytes done ++ bytes.bytes := by
  cases hphase with
  | idle done _ _ hcompletions => simp [hcons] at hcompletions
  | busy done w sent rest _ _ hcompletions => simp [hcons] at hcompletions
  | failed done w sent rest _ _ hcompletions => simp [hcons] at hcompletions
  | ended done w sent rest ec _ hwrites hcompletions hec hbytes houtput
      hfrom =>
      rw [hcons, List.cons.injEq, Prod.mk.injEq] at hcompletions
      obtain ⟨⟨rfl, rfl⟩, hmore⟩ := hcompletions
      refine ⟨done, hwrites, hmore, hfrom.written, ?_⟩
      rw [houtput, hbytes, hec rfl, List.append_nil]

theorem KickPhase.pop {s : TcpSession} {handler : Handler}
    {later : List Handler} (hkick : s.KickPhase)
    (hposted : s.posted = handler :: later) (hof : kickOf handler = none)
    (hcompletion : completionOf handler = none) :
    KickPhase { s with posted := later } := by
  have hkicks : postedKicks { s with posted := later } = s.postedKicks := by
    simp [postedKicks, hposted, hof]
  have hcompletions : completions { s with posted := later } =
      s.completions := by
    simp [completions, hposted, hcompletion]
  cases hkick with
  | unasked h₁ h₂ h₃ => exact .unasked h₁ h₂ (hkicks.trans h₃)
  | waiting k more rest h₁ h₂ h₃ h₄ h₅ =>
      exact .waiting k more rest h₁ h₂ h₃ h₄ (hkicks.trans h₅)
  | underway k more h₁ h₂ h₃ h₄ h₅ h₆ h₇ h₈ =>
      exact .underway k more h₁ h₂ h₃ h₄ h₅ h₆ (hcompletions ▸ h₇) h₈
  | finished k more h₁ h₂ h₃ h₄ h₅ h₆ h₇ =>
      exact .finished k more h₁ h₂ h₃ h₄ h₅ (hcompletions.trans h₆) h₇

theorem KickPhase.handleSend {s : TcpSession} (hkick : s.KickPhase)
    (cfg : Config) (bytes : Wire) : (s.handleSend cfg bytes).KickPhase := by
  obtain ⟨hstopped, hpending, hopen, hkicks⟩ := handleSend_flags cfg s bytes
  have hposted : (s.handleSend cfg bytes).postedKicks = s.postedKicks := by
    obtain hsame | ⟨why, hstop⟩ := handleSend_posted cfg s bytes
    · simp [postedKicks, hsame]
    · simp [postedKicks, hstop, kickOf]
  have hignored : s.stopped = true ∨ s.kickPending = true →
      s.handleSend cfg bytes = s := by
    intro hflag
    simp [TcpSession.handleSend, hflag]
  cases hkick with
  | unasked h₁ h₂ h₃ =>
      exact .unasked (hkicks.trans h₁) (hpending.trans h₂) (hposted.trans h₃)
  | waiting k more rest h₁ h₂ h₃ h₄ h₅ =>
      exact .waiting k more rest (hkicks.trans h₁) (hstopped.trans h₂)
        (hpending.trans h₃) (hopen.trans h₄) (hposted.trans h₅)
  | underway k more h₁ h₂ h₃ h₄ h₅ h₆ h₇ h₈ =>
      rw [hignored (.inr h₃)]
      exact .underway k more h₁ h₂ h₃ h₄ h₅ h₆ h₇ h₈
  | finished k more h₁ h₂ h₃ h₄ h₅ h₆ h₇ =>
      rw [hignored (.inl h₂)]
      exact .finished k more h₁ h₂ h₃ h₄ h₅ h₆ h₇

theorem KickPhase.handleStop {s : TcpSession} (hkick : s.KickPhase)
    (hgood : s.stopped = false → s.kicks = []) : s.handleStop.KickPhase := by
  unfold TcpSession.handleStop
  split
  · exact hkick
  · rename_i hstopped
    rw [Bool.not_eq_true] at hstopped
    cases hkick with
    | unasked h₁ h₂ h₃ => exact .unasked h₁ h₂ h₃
    | waiting k more rest h₁ => simp [hgood hstopped] at h₁
    | underway k more h₁ => simp [hgood hstopped] at h₁
    | finished k more h₁ => simp [hgood hstopped] at h₁

theorem KickPhase.handleKick {s : TcpSession} {notifyWire : Wire}
    {logWhy : Bytes} {later : List Handler} (hkick : s.KickPhase)
    (hphase : s.Phase) (hposted : s.posted = .kick notifyWire logWhy :: later)
    (hgood : s.stopped = false → s.kickPending = false →
      s.writing = false) :
    ({ s with posted := later }.handleKick notifyWire logWhy).KickPhase := by
  have hkicks : s.postedKicks = notifyWire :: later.filterMap kickOf := by
    simp [postedKicks, hposted, kickOf]
  have hcompletions : completions { s with posted := later } =
      s.completions := by
    simp [completions, hposted, List.filterMap_cons, completionOf]
  have hignored : s.stopped = true ∨ s.kickPending = true →
      ({ s with posted := later } : TcpSession).handleKick notifyWire logWhy =
        { s with posted := later } := by
    intro hflag
    simp [TcpSession.handleKick, hflag]
  cases hkick with
  | unasked h₁ h₂ h₃ => simp [hkicks] at h₃
  | waiting k more rest h₁ h₂ h₃ h₄ h₅ =>
      rw [hkicks, List.cons.injEq] at h₅
      obtain ⟨rfl, _⟩ := h₅
      have hwriting : s.writing = false := hgood h₂ h₃
      obtain ⟨hwrites, hnone⟩ := hphase.idle_of_not_writing hwriting
      rw [handleKick_starts (s := { s with posted := later }) logWhy h₂ h₃
        hwriting hwrites]
      refine .underway notifyWire more h₁ h₂ rfl h₄ rfl (by simp) ?_
        ⟨s.accepted, rfl⟩
      intro completion hmem
      have hold : completion ∈ completions { s with posted := later } := hmem
      simp [hcompletions, hnone] at hold
  | underway k more h₁ h₂ h₃ h₄ h₅ h₆ h₇ h₈ =>
      rw [hignored (.inr h₃)]
      exact .underway k more h₁ h₂ h₃ h₄ h₅ h₆ (hcompletions ▸ h₇) h₈
  | finished k more h₁ h₂ h₃ h₄ h₅ h₆ h₇ =>
      rw [hignored (.inl h₂)]
      exact .finished k more h₁ h₂ h₃ h₄ h₅ (hcompletions.trans h₆) h₇

theorem KickPhase.handleWritten {s : TcpSession} {bytes : Wire}
    {later : List Handler} (hkick : s.KickPhase) (hphase : s.Phase)
    (hposted : s.posted = .written bytes none :: later) :
    ({ s with posted := later }.handleWritten bytes none).KickPhase := by
  have hkicks : later.filterMap kickOf = s.postedKicks := by
    simp [postedKicks, hposted, List.filterMap_cons, kickOf]
  have hcons : s.completions =
      (bytes, none) :: later.filterMap completionOf := by
    simp [completions, hposted, completionOf]
  simp only [TcpSession.handleWritten]
  cases hkick with
  | unasked h₁ h₂ h₃ =>
      rw [if_neg (by simp [h₂])]
      exact .unasked (by simpa [popWritten] using h₁)
        (by simpa [popWritten] using h₂)
        (by simpa [postedKicks, popWritten, hkicks] using h₃)
  | waiting k more rest h₁ h₂ h₃ h₄ h₅ =>
      rw [if_neg (by simp [h₃])]
      exact .waiting k more rest (by simpa [popWritten] using h₁)
        (by simpa [popWritten] using h₂) (by simpa [popWritten] using h₃)
        (by simpa [popWritten] using h₄)
        (by simpa [postedKicks, popWritten, hkicks] using h₅)
  | underway k more h₁ h₂ h₃ h₄ h₅ h₆ h₇ h₈ =>
      rw [if_pos (by simp [h₃, h₅])]
      obtain ⟨done, hwrites, hlater, hsub, houtput⟩ :=
        hphase.ended_of_completion hcons
      obtain ⟨earlier, haccepted⟩ := h₈
      have hk : bytes = k := h₇ (bytes, none) (by simp [hcons])
      subst hk
      rw [haccepted, List.append_sublist_append_right] at hsub
      exact .finished bytes more h₁ rfl rfl rfl hwrites hlater
        ⟨earlier, done, haccepted, hsub, houtput⟩
  | finished k more h₁ h₂ h₃ h₄ h₅ h₆ h₇ => simp [hcons] at h₆

theorem KickPhase.handle {cfg : Config} {s : TcpSession} {handler : Handler}
    {later : List Handler} (hkick : s.KickPhase) (hphase : s.Phase)
    (hclean : s.NoFailure) (hposted : s.posted = handler :: later)
    (hgood : s.KickUndisturbed (.io .runHandler)) :
    ({ s with posted := later }.handle cfg handler).KickPhase := by
  simp only [KickUndisturbed, HandlerUndisturbed, hposted,
    List.head?_cons] at hgood
  cases handler with
  | sendFrame bytes => exact (hkick.pop hposted rfl rfl).handleSend cfg bytes
  | kick notifyWire logWhy => exact hkick.handleKick hphase hposted hgood
  | stop why => exact (hkick.pop hposted rfl rfl).handleStop hgood
  | written bytes ec =>
      have hec : ec = none := by
        apply hclean.success (bytes, ec)
        simp [completions, hposted, completionOf]
      subst hec
      exact hkick.handleWritten hphase hposted

theorem KickPhase.step {cfg : Config} {s next : TcpSession} {event : Event}
    (hkick : s.KickPhase) (hphase : s.Phase) (hclean : s.NoFailure)
    (hevent : event.isWriteError = false) (hgood : s.KickUndisturbed event)
    (hstep : s.step cfg event = some next) : next.KickPhase := by
  cases event with
  | sendFrame bytes =>
      cases hstep
      exact hkick.post rfl rfl
  | stop why =>
      cases hstep
      exact hkick.post rfl rfl
  | notifyAndClose userReason logWhy =>
      cases hstep
      exact hkick.notifyAndClose userReason logWhy hgood
  | markLogin uid isAdmin username =>
      cases hstep
      cases hkick with
      | unasked h₁ h₂ h₃ => exact .unasked h₁ h₂ h₃
      | waiting k more later h₁ h₂ h₃ h₄ h₅ =>
          exact .waiting k more later h₁ h₂ h₃ h₄ h₅
      | underway k more h₁ h₂ h₃ h₄ h₅ h₆ h₇ h₈ =>
          exact .underway k more h₁ h₂ h₃ h₄ h₅ h₆ h₇ h₈
      | finished k more h₁ h₂ h₃ h₄ h₅ h₆ h₇ =>
          exact .finished k more h₁ h₂ h₃ h₄ h₅ h₆ h₇
  | closeSocket =>
      cases hstep
      cases hkick with
      | unasked h₁ h₂ h₃ => exact .unasked h₁ h₂ h₃
      | waiting k more later h₁ h₂ => simp [KickUndisturbed, h₁, h₂] at hgood
      | underway k more h₁ h₂ => simp [KickUndisturbed, h₁, h₂] at hgood
      | finished k more h₁ h₂ h₃ h₄ h₅ h₆ h₇ =>
          exact .finished k more h₁ h₂ h₃ rfl h₅ h₆ h₇
  | io event =>
      obtain ⟨handler, later, rfl, hposted, rfl⟩ |
        ⟨index, count, write, rfl, hwrite, hopen, rfl⟩ |
        ⟨index, write, rfl, hwrite, _, rfl⟩ |
        ⟨index, write, message, rfl, hwrite, _, rfl⟩ := ioStep_cases hstep
      · exact hkick.handle hphase hclean hposted hgood
      · cases hkick with
        | unasked h₁ h₂ h₃ => exact .unasked h₁ h₂ h₃
        | waiting k more later h₁ h₂ h₃ h₄ h₅ =>
            exact .waiting k more later h₁ h₂ h₃ h₄ h₅
        | underway k more h₁ h₂ h₃ h₄ h₅ h₆ h₇ h₈ =>
            refine .underway k more h₁ h₂ h₃ h₄ h₅ ?_ h₇ h₈
            intro other hother
            rcases List.mem_or_eq_of_mem_set hother with hold | rfl
            · exact h₆ other hold
            · exact h₆ write (List.mem_of_getElem? hwrite)
        | finished k more h₁ h₂ h₃ h₄ h₅ h₆ h₇ => simp [h₅] at hwrite
      · cases hkick with
        | unasked h₁ h₂ h₃ =>
            exact .unasked h₁ h₂
              (by simpa [postedKicks, TcpSession.post, List.filterMap_cons,
                kickOf] using h₃)
        | waiting k more later h₁ h₂ h₃ h₄ h₅ =>
            exact .waiting k more later h₁ h₂ h₃ h₄
              (by simpa [postedKicks, TcpSession.post, List.filterMap_cons,
                kickOf] using h₅)
        | underway k more h₁ h₂ h₃ h₄ h₅ h₆ h₇ h₈ =>
            refine .underway k more h₁ h₂ h₃ h₄ h₅
              (fun other hother => h₆ other (List.mem_of_mem_eraseIdx hother))
              ?_ h₈
            intro completion hmem
            simp only [completions, TcpSession.post, List.filterMap_append,
              List.mem_append] at hmem
            rcases hmem with hold | hnew
            · exact h₇ completion hold
            · simp only [List.filterMap_cons, completionOf,
                List.filterMap_nil, List.mem_singleton] at hnew
              rw [hnew]
              exact h₆ write (List.mem_of_getElem? hwrite)
        | finished k more h₁ h₂ h₃ h₄ h₅ h₆ h₇ => simp [h₅] at hwrite
      · cases hevent

/-! ## The whole run -/

theorem KickPhase.complete {s : TcpSession} (hkick : s.KickPhase)
    {k : Wire} {more : List Wire} (hkicks : s.kicks = k :: more)
    (hclosed : s.isOpen = false) : s.EndsWith k k.bytes := by
  cases hkick with
  | unasked h₁ => simp [hkicks] at h₁
  | waiting k' more' later h₁ h₂ h₃ h₄ => simp [hclosed] at h₄
  | underway k' more' h₁ h₂ h₃ h₄ => simp [hclosed] at h₄
  | finished k' more' h₁ h₂ h₃ h₄ h₅ h₆ h₇ =>
      rw [hkicks, List.cons.injEq] at h₁
      rw [h₁.1]
      exact h₇

theorem KickPhase.last {s : TcpSession} (hkick : s.KickPhase)
    (hphase : s.Phase) (hclean : s.NoFailure) {k : Wire} {more : List Wire}
    (hkicks : s.kicks = k :: more) (hpending : s.kickPending = true) :
    ∃ sent, sent <+: k.bytes ∧ s.EndsWith k sent := by
  cases hkick with
  | unasked h₁ => simp [hkicks] at h₁
  | waiting k' more' later h₁ h₂ h₃ => simp [hpending] at h₃
  | finished k' more' h₁ h₂ h₃ => simp [hpending] at h₃
  | underway k' more' h₁ h₂ h₃ h₄ h₅ h₆ h₇ h₈ =>
      rw [hkicks, List.cons.injEq] at h₁
      obtain ⟨rfl, _⟩ := h₁
      obtain ⟨earlier, haccepted⟩ := h₈
      have hbusy : s.writing = true := by
        by_contra hidle
        rw [Bool.not_eq_true] at hidle
        have hempty := hclean.idle h₂ hidle
        simp [h₅] at hempty
      cases hphase with
      | idle done hwriting => simp [hbusy] at hwriting
      | failed done w sent rest hwriting => simp [hbusy] at hwriting
      | busy done w sent rest _ hwrites _ hbytes houtput hfrom =>
          have hw : w = k := h₆ ⟨w, rest⟩ (by simp [hwrites])
          subst hw
          have hsub := hfrom.written
          rw [haccepted, List.append_sublist_append_right] at hsub
          exact ⟨sent, hbytes ▸ List.prefix_append sent rest, earlier, done,
            haccepted, hsub, houtput⟩
      | ended done w sent rest ec _ _ hcompletions _ hbytes houtput hfrom =>
          have hw : w = k := h₇ (w, ec) (by simp [hcompletions])
          subst hw
          have hsub := hfrom.written
          rw [haccepted, List.append_sublist_append_right] at hsub
          exact ⟨sent, hbytes ▸ List.prefix_append sent rest, earlier, done,
            haccepted, hsub, houtput⟩

theorem kicks_extend {cfg : Config} {s next : TcpSession} {event : Event}
    (hstep : s.step cfg event = some next) : s.kicks <+: next.kicks := by
  cases event with
  | notifyAndClose userReason logWhy =>
      cases hstep
      unfold TcpSession.notifyAndClose
      split
      · exact List.prefix_append _ _
      · exact List.prefix_refl _
  | sendFrame bytes | stop why | markLogin uid isAdmin username | closeSocket =>
      cases hstep
      exact List.prefix_refl _
  | io event =>
      obtain ⟨handler, later, rfl, hposted, rfl⟩ |
        ⟨index, count, write, rfl, _, _, rfl⟩ |
        ⟨index, write, rfl, _, _, rfl⟩ |
        ⟨index, write, message, rfl, _, _, rfl⟩ := ioStep_cases hstep
      · suffices hsame : (({ s with posted := later } : TcpSession).handle cfg
            handler).kicks = s.kicks by
          exact ⟨[], by rw [hsame, List.append_nil]⟩
        cases handler with
        | sendFrame bytes =>
            exact (handleSend_flags cfg { s with posted := later } bytes).2.2.2
        | kick notifyWire logWhy =>
            simp only [TcpSession.handle, TcpSession.handleKick]
            split <;> simp [replaceQueue]
        | stop why =>
            simp only [TcpSession.handle, TcpSession.handleStop]
            split <;> rfl
        | written bytes ec =>
            cases ec with
            | some message => rfl
            | none =>
                simp only [TcpSession.handle, TcpSession.handleWritten]
                split <;> simp [popWritten, closeAfterKick]
      · exact List.prefix_refl _
      · exact List.prefix_refl _
      · exact List.prefix_refl _

/-- In every run without write errors in which nothing disturbs a notice, the
KICK frame of the first `notify_and_close` is written completely before the
socket is closed, and no frame is written after it. -/
theorem kickDelivered_of_undisturbed (cfg : Config) (ip : Bytes)
    (before after : List Event) (reason logWhy : Bytes)
    (called final : TcpSession)
    (hbefore : Transition.run (step cfg) before { peerIp := ip } =
      some called)
    (hlogged : called.loggedIn = true) (hfirst : called.kicks = [])
    (hrun : Transition.run (step cfg)
      (before ++ .notifyAndClose reason logWhy :: after) { peerIp := ip } =
        some final)
    (herrors : ∀ event ∈ before ++ .notifyAndClose reason logWhy :: after,
      event.isWriteError = false)
    (hgood : Transition.Along (step cfg) KickUndisturbed
      (before ++ .notifyAndClose reason logWhy :: after) { peerIp := ip }) :
    final.KickDelivered reason := by
  have hinv : final.Phase ∧ final.NoFailure ∧ final.KickPhase := by
    refine Transition.run_preserves
      (fun s => s.Phase ∧ s.NoFailure ∧ s.KickPhase) ?_
      ⟨phase_fresh ip, ⟨by simp [completions], by simp⟩, kickPhase_fresh ip⟩
      (hgood.and_forall herrors) hrun
    rintro s event next ⟨hphase, hclean, hkick⟩ ⟨herror, hgood⟩ hstep
    have hquiet : QuietAfterFailure cfg s event := by
      unfold QuietAfterFailure
      split
      · intro hfailed
        exact absurd hfailed hclean.not_writeFailed
      · trivial
    exact ⟨hphase.step hquiet hstep, hclean.step herror hstep,
      hkick.step hphase hclean herror hgood hstep⟩
  obtain ⟨middle, hmiddle, hrest⟩ := Transition.run_append_eq_some.mp hrun
  rw [hbefore, Option.some.injEq] at hmiddle
  subst middle
  obtain ⟨asked, hasked, hafter⟩ := Transition.run_cons_eq_some.mp hrest
  have hkicks : asked.kicks = [kickWire reason] := by
    cases hasked
    simp [TcpSession.notifyAndClose, hlogged, kickNotifyAndClose, hfirst]
  obtain ⟨more, hmore⟩ : asked.kicks <+: final.kicks :=
    Transition.run_relates (fun s t => s.kicks <+: t.kicks)
      (fun s => List.prefix_refl _) (fun _ _ _ => List.IsPrefix.trans)
      (fun _ _ _ hstep => kicks_extend hstep) hafter
  rw [hkicks] at hmore
  exact ⟨hinv.2.2.complete hmore.symm,
    hinv.2.2.last hinv.1 hinv.2.1 hmore.symm⟩

/-- A kick while a frame is being written: the completion of that frame pops
the KICK frame, and the socket is closed. -/
def kickUnderWriteRun : List Event :=
  [.markLogin 1 false (lit "bob"), .sendFrame ⟨kMsgDeliver, 7, []⟩,
    .io .runHandler, .notifyAndClose (lit "bye") (lit "kick_user"),
    .io .runHandler, .io (.transmit 0 24), .io (.writeDone 0),
    .io .runHandler]

/-- The idle path of the read loop: it closes the socket right after the
call. -/
def idleKickRun : List Event :=
  [.markLogin 1 false (lit "bob"),
    .notifyAndClose (lit "bye") (lit "idle timeout"), .closeSocket,
    .io .runHandler]

theorem kick_lost_under_write_and_on_idle_path :
    (∃ s, Transition.run (step forwarderJson) kickUnderWriteRun {} = some s ∧
      ¬s.KickDelivered (lit "bye")) ∧
    ∃ s, Transition.run (step forwarderJson) idleKickRun {} = some s ∧
      ¬s.KickDelivered (lit "bye") := by
  have hshort : ∀ (s : TcpSession), s.isOpen = false →
      s.output.length < (kickWire (lit "bye")).bytes.length →
      ¬s.KickDelivered (lit "bye") := by
    intro s hclosed hlength hdelivered
    obtain ⟨_, whole, _, _, houtput⟩ := hdelivered.complete hclosed
    rw [houtput, List.length_append] at hlength
    omega
  constructor
  · obtain ⟨s, hrun, hclosed, hlength⟩ : ∃ s,
        Transition.run (step forwarderJson) kickUnderWriteRun {} = some s ∧
        s.isOpen = false ∧
        s.output.length < (kickWire (lit "bye")).bytes.length :=
      Transition.exists_run_of_check (by decide +kernel)
    exact ⟨s, hrun, hshort s hclosed hlength⟩
  · obtain ⟨s, hrun, hclosed, hlength⟩ : ∃ s,
        Transition.run (step forwarderJson) idleKickRun {} = some s ∧
        s.isOpen = false ∧
        s.output.length < (kickWire (lit "bye")).bytes.length :=
      Transition.exists_run_of_check (by decide +kernel)
    exact ⟨s, hrun, hshort s hclosed hlength⟩

theorem kickDelivered_of_undisturbed_idle_session :
    ∃ s, Transition.run (step forwarderJson)
        ([.markLogin 1 false (lit "bob")] ++
          .notifyAndClose (lit "bye") (lit "kick_user") ::
            [.io .runHandler, .io (.transmit 0 100), .io (.writeDone 0),
              .io .runHandler, .closeSocket]) {} = some s ∧
      s.isOpen = false ∧ s.KickDelivered (lit "bye") := by
  obtain ⟨s, hrun, hclosed⟩ : ∃ s, Transition.run (step forwarderJson)
        ([.markLogin 1 false (lit "bob")] ++
          .notifyAndClose (lit "bye") (lit "kick_user") ::
            [.io .runHandler, .io (.transmit 0 100), .io (.writeDone 0),
              .io .runHandler, .closeSocket]) {} = some s ∧
      s.isOpen = false :=
    Transition.exists_run_of_check (by decide +kernel)
  exact ⟨s, hrun, hclosed,
    kickDelivered_of_undisturbed forwarderJson [] _ _ _ _ _ s rfl rfl rfl hrun
      (by decide) (Transition.along_of_check (by decide +kernel))⟩

end TcpSession

end AsioForwarder
