import AsioForwarder.TcpSession
import Mathlib.Data.List.Basic

/-!
# The byte stream of one session

What a session hands to its socket is described by one phase: nothing is
being written, a write is in progress, its completion handler is waiting on
the strand, or a write has failed and the stop it posted has not run.  The
phase determines which accepted frames the output consists of, and every
handler takes a phase to a phase as long as no handler starts a second write
after a failed one.
-/

namespace AsioForwarder

namespace TcpSession

def completionOf : Handler → Option (Wire × Option Bytes)
  | .written bytes ec => some (bytes, ec)
  | _ => none

def completions (s : TcpSession) : List (Wire × Option Bytes) :=
  s.posted.filterMap completionOf

/-- `w` is the frame of the current write.  Unless the session is stopped,
it heads the queue, or a kick has put its single frame in place of the
queue. -/
structure WritingFrom (s : TcpSession) (done : List Wire) (w : Wire) :
    Prop where
  written : (done ++ [w]).Sublist s.accepted
  upcoming : s.stopped = false →
    ∃ todo, (done ++ w :: todo).Sublist s.accepted ∧
      (s.queue = w :: todo ∨
        s.kickPending = true ∧ s.queue = todo ∧ todo.length = 1)

/-- The state of the output: `done` are the frames written completely, and
`sent` is the part of the current frame handed over so far. -/
inductive Phase (s : TcpSession) : Prop where
  | idle (done : List Wire)
      (hwriting : s.writing = false) (hwrites : s.writes = [])
      (hcompletions : s.completions = [])
      (hqueue : s.stopped = true ∨ s.queue = [])
      (houtput : s.output = wireBytes done)
      (hdone : done.Sublist s.accepted)
  | busy (done : List Wire) (w : Wire) (sent rest : Bytes)
      (hwriting : s.writing = true) (hwrites : s.writes = [⟨w, rest⟩])
      (hcompletions : s.completions = [])
      (hbytes : w.bytes = sent ++ rest)
      (houtput : s.output = wireBytes done ++ sent)
      (hfrom : s.WritingFrom done w)
  | ended (done : List Wire) (w : Wire) (sent rest : Bytes)
      (ec : Option Bytes)
      (hwriting : s.writing = true) (hwrites : s.writes = [])
      (hcompletions : s.completions = [(w, ec)])
      (hec : ec = none → rest = [])
      (hbytes : w.bytes = sent ++ rest)
      (houtput : s.output = wireBytes done ++ sent)
      (hfrom : s.WritingFrom done w)
  | failed (done : List Wire) (w : Wire) (sent rest : Bytes)
      (hwriting : s.writing = false) (hwrites : s.writes = [])
      (hcompletions : s.completions = [])
      (hqueue : s.stopped = true ∨ s.queue ≠ [])
      (hbytes : w.bytes = sent ++ rest)
      (houtput : s.output = wireBytes done ++ sent)
      (hdone : (done ++ [w]).Sublist s.accepted)

theorem phase_fresh (ip : Bytes) : Phase { peerIp := ip } :=
  .idle [] rfl rfl rfl (.inr rfl) rfl (List.Sublist.refl [])

theorem Phase.post {s : TcpSession} (hphase : s.Phase) {handler : Handler}
    (hnone : completionOf handler = none) : (s.post handler).Phase := by
  have hsame : (s.post handler).completions = s.completions := by
    simp [completions, TcpSession.post, hnone]
  cases hphase with
  | idle done hwriting hwrites hcompletions hqueue houtput hdone =>
      exact .idle done hwriting hwrites (hsame.trans hcompletions) hqueue
        houtput hdone
  | busy done w sent rest hwriting hwrites hcompletions hbytes houtput hfrom =>
      exact .busy done w sent rest hwriting hwrites
        (hsame.trans hcompletions) hbytes houtput ⟨hfrom.1, hfrom.2⟩
  | ended done w sent rest ec hwriting hwrites hcompletions hec hbytes
      houtput hfrom =>
      exact .ended done w sent rest ec hwriting hwrites
        (hsame.trans hcompletions) hec hbytes houtput ⟨hfrom.1, hfrom.2⟩
  | failed done w sent rest hwriting hwrites hcompletions hqueue hbytes
      houtput hdone =>
      exact .failed done w sent rest hwriting hwrites
        (hsame.trans hcompletions) hqueue hbytes houtput hdone

theorem Phase.frame {s t : TcpSession} (hphase : s.Phase)
    (hwriting : t.writing = s.writing) (hwrites : t.writes = s.writes)
    (hposted : t.completions = s.completions)
    (hstopped : t.stopped = s.stopped) (hqueue : t.queue = s.queue)
    (hkick : t.kickPending = s.kickPending)
    (houtput : t.output = s.output) (haccepted : t.accepted = s.accepted) :
    t.Phase := by
  have hfrom : ∀ done w, s.WritingFrom done w → t.WritingFrom done w := by
    intro done w hfrom
    refine ⟨haccepted ▸ hfrom.written, ?_⟩
    rw [hstopped, haccepted, hqueue, hkick]
    exact hfrom.upcoming
  cases hphase with
  | idle done h₁ h₂ h₃ h₄ h₅ h₆ =>
      exact .idle done (hwriting.trans h₁) (hwrites.trans h₂)
        (hposted.trans h₃) (by rw [hstopped, hqueue]; exact h₄)
        (houtput.trans h₅) (haccepted ▸ h₆)
  | busy done w sent rest h₁ h₂ h₃ h₄ h₅ h₆ =>
      exact .busy done w sent rest (hwriting.trans h₁) (hwrites.trans h₂)
        (hposted.trans h₃) h₄ (houtput.trans h₅) (hfrom done w h₆)
  | ended done w sent rest ec h₁ h₂ h₃ h₄ h₅ h₆ h₇ =>
      exact .ended done w sent rest ec (hwriting.trans h₁)
        (hwrites.trans h₂) (hposted.trans h₃) h₄ h₅ (houtput.trans h₆)
        (hfrom done w h₇)
  | failed done w sent rest h₁ h₂ h₃ h₄ h₅ h₆ h₇ =>
      exact .failed done w sent rest (hwriting.trans h₁) (hwrites.trans h₂)
        (hposted.trans h₃) (by rw [hstopped, hqueue]; exact h₄) h₅
        (houtput.trans h₆) (haccepted ▸ h₇)

theorem Phase.notifyAndClose {s : TcpSession} (hphase : s.Phase)
    (userReason logWhy : Bytes) :
    (s.notifyAndClose userReason logWhy).Phase := by
  unfold TcpSession.notifyAndClose kickNotifyAndClose TcpSession.stop
  split
  · have hposted : (s.post (.kick (kickWire userReason) logWhy)).Phase :=
      hphase.post rfl
    exact hposted.frame rfl rfl rfl rfl rfl rfl rfl rfl
  · exact hphase.post rfl

theorem phase_writeNext_singleton {s : TcpSession} {done : List Wire}
    {w : Wire} (hwriting : s.writing = false) (hwrites : s.writes = [])
    (hcompletions : s.completions = [])
    (hstopped : s.stopped = false) (hqueue : s.queue = [w])
    (houtput : s.output = wireBytes done)
    (hdone : (done ++ [w]).Sublist s.accepted) : s.writeNext.Phase := by
  have hstart : s.writeNext =
      { s with writing := true, writes := [⟨w, w.bytes⟩] } := by
    simp [writeNext, doWrite, hwriting, hqueue, hstopped, hwrites]
  rw [hstart]
  refine .busy done w [] w.bytes rfl rfl hcompletions rfl ?_ ⟨hdone, ?_⟩
  · simpa using houtput
  · intro _
    exact ⟨[], hdone, .inl hqueue⟩

theorem Phase.writeNext_of_writing {s : TcpSession} (hphase : s.Phase)
    (hwriting : s.writing = true) : s.writeNext.Phase := by
  rw [writeNext, if_pos hwriting]
  exact hphase

theorem WritingFrom.enqueue {s : TcpSession} {done : List Wire} {w : Wire}
    (hfrom : s.WritingFrom done w) (hkick : s.kickPending = false)
    (bytes : Wire) :
    (s.enqueue bytes).WritingFrom done w := by
  refine ⟨hfrom.written.trans (List.sublist_append_left _ _), ?_⟩
  intro hstopped
  obtain ⟨todo, hsub, hqueue⟩ := hfrom.upcoming hstopped
  have hhead : s.queue = w :: todo := by simpa [hkick] using hqueue
  refine ⟨todo ++ [bytes], ?_, .inl ?_⟩
  · simpa [TcpSession.enqueue] using
      hsub.append (List.Sublist.refl [bytes])
  · simp [TcpSession.enqueue, hhead]

theorem WritingFrom.replace {s : TcpSession} {done : List Wire} {w : Wire}
    (hfrom : s.WritingFrom done w) (notifyWire : Wire) (logWhy : Bytes) :
    (s.replaceQueue notifyWire logWhy).WritingFrom done w := by
  refine ⟨hfrom.written.trans (List.sublist_append_left _ _), ?_⟩
  intro _
  refine ⟨[notifyWire], ?_, .inr ⟨rfl, rfl, rfl⟩⟩
  simpa [replaceQueue] using
    hfrom.written.append (List.Sublist.refl [notifyWire])

/-! ## The handlers -/

/-- A write has failed and the stop it posted has not run yet: the frame is
still queued, but nothing is being written. -/
def WriteFailed (s : TcpSession) : Prop :=
  s.stopped = false ∧ s.writing = false ∧ s.queue ≠ []

/-- `send_frame` or the kick drops its frame. -/
def Refuses (cfg : Config) (s : TcpSession) : Handler → Prop
  | .sendFrame bytes =>
      s.kickPending = true ∨
        cfg.highWaterBytes.toNat < s.pendingBytes + bytes.bytes.length
  | .kick _ _ => s.kickPending = true
  | _ => True

instance (cfg : Config) (s : TcpSession) (handler : Handler) :
    Decidable (s.Refuses cfg handler) :=
  match handler with
  | .sendFrame _ => inferInstanceAs (Decidable (_ ∨ _))
  | .kick _ _ => inferInstanceAs (Decidable (_ = _))
  | .stop _ => inferInstanceAs (Decidable True)
  | .written _ _ => inferInstanceAs (Decidable True)

instance (s : TcpSession) : Decidable s.WriteFailed :=
  inferInstanceAs (Decidable (_ ∧ _))

theorem handleSend_refused {cfg : Config} {s : TcpSession} {bytes : Wire}
    (hrefused : s.stopped = true ∨ s.Refuses cfg (.sendFrame bytes)) :
    s.handleSend cfg bytes = s ∨
      (∃ why, s.handleSend cfg bytes = s.stop why) ∨
      s.handleSend cfg bytes = { s with highWaterLogged := true } := by
  unfold handleSend
  by_cases hignored : (s.stopped || s.kickPending) = true
  · exact .inl (by simp [hignored])
  · simp only [Bool.or_eq_true, not_or, Bool.not_eq_true] at hignored
    simp only [Refuses, hignored.1, hignored.2, Bool.false_eq_true,
      false_or] at hrefused
    simp only [hignored.1, hignored.2, Bool.or_self, Bool.false_eq_true,
      if_false]
    by_cases hhard : s.pendingBytes + bytes.bytes.length ≤
        cfg.hardLimitBytes.toNat
    · by_cases hpolicy : cfg.onHighWater = .disconnect
      · exact .inr (.inl ⟨lit "high-water disconnect",
          by simp [hrefused, hhard, hpolicy]⟩)
      · exact .inr (.inr (by simp [hrefused, hhard, hpolicy]))
    · exact .inr (.inl ⟨lit "hard-limit disconnect",
        by simp [hhard, Nat.lt_of_not_le hhard]⟩)

theorem handleSend_accepted {cfg : Config} {s : TcpSession} {bytes : Wire}
    (hstopped : s.stopped = false)
    (haccepts : ¬s.Refuses cfg (.sendFrame bytes)) :
    s.kickPending = false ∧
      s.handleSend cfg bytes = (s.enqueue bytes).writeNext := by
  simp only [Refuses, not_or, Bool.not_eq_true] at haccepts
  have hlimits : cfg.highWaterBytes.toNat ≤ cfg.hardLimitBytes.toNat :=
    cfg.highWater_le_hardLimit
  refine ⟨haccepts.1, ?_⟩
  have hlow : ¬(s.pendingBytes + bytes.bytes.length >
      cfg.highWaterBytes.toNat) := by omega
  have hhard : ¬(s.pendingBytes + bytes.bytes.length >
      cfg.hardLimitBytes.toNat) := by omega
  simp [handleSend, hstopped, haccepts.1, hlow, hhard]

theorem Phase.handleSend {cfg : Config} {s : TcpSession} (hphase : s.Phase)
    (bytes : Wire) (hquiet : s.WriteFailed → s.Refuses cfg (.sendFrame bytes)) :
    (s.handleSend cfg bytes).Phase := by
  by_cases hrefused : s.stopped = true ∨ s.Refuses cfg (.sendFrame bytes)
  · obtain hsame | ⟨why, hstop⟩ | hlogged := handleSend_refused hrefused
    · rw [hsame]
      exact hphase
    · rw [hstop]
      exact hphase.post rfl
    · rw [hlogged]
      exact hphase.frame rfl rfl rfl rfl rfl rfl rfl rfl
  rw [not_or, Bool.not_eq_true] at hrefused
  obtain ⟨hstopped, haccepts⟩ := hrefused
  obtain ⟨hkick, heq⟩ := handleSend_accepted hstopped haccepts
  rw [heq]
  cases hphase with
  | idle done hwriting hwrites hcompletions hqueue houtput hdone =>
      have hempty : s.queue = [] := by simpa [hstopped] using hqueue
      exact phase_writeNext_singleton hwriting hwrites hcompletions hstopped
        (by simp [enqueue, hempty]) houtput
        (hdone.append (List.Sublist.refl [bytes]))
  | busy done w sent rest hwriting hwrites hcompletions hbytes houtput hfrom =>
      exact writeNext_of_writing (.busy done w sent rest hwriting hwrites
        hcompletions hbytes houtput (hfrom.enqueue hkick bytes)) hwriting
  | ended done w sent rest ec hwriting hwrites hcompletions hec hbytes
      houtput hfrom =>
      exact writeNext_of_writing (.ended done w sent rest ec hwriting hwrites
        hcompletions hec hbytes houtput (hfrom.enqueue hkick bytes)) hwriting
  | failed done w sent rest hwriting hwrites hcompletions hqueue hbytes
      houtput hdone =>
      have hne : s.queue ≠ [] := by simpa [hstopped] using hqueue
      exact absurd (hquiet ⟨hstopped, hwriting, hne⟩) haccepts

theorem Phase.handleKick (cfg : Config) {s : TcpSession} (hphase : s.Phase)
    (notifyWire : Wire) (logWhy : Bytes)
    (hquiet : s.WriteFailed → s.Refuses cfg (.kick notifyWire logWhy)) :
    (s.handleKick notifyWire logWhy).Phase := by
  unfold TcpSession.handleKick
  by_cases hignored : (s.stopped || s.kickPending) = true
  · simp only [hignored, if_true]
    exact hphase
  simp only [hignored, Bool.false_eq_true, if_false]
  simp only [Bool.or_eq_true, not_or, Bool.not_eq_true] at hignored
  obtain ⟨hstopped, hkick⟩ := hignored
  cases hphase with
  | idle done hwriting hwrites hcompletions hqueue houtput hdone =>
      exact phase_writeNext_singleton hwriting hwrites hcompletions hstopped
        rfl houtput (hdone.append (List.Sublist.refl [notifyWire]))
  | busy done w sent rest hwriting hwrites hcompletions hbytes houtput hfrom =>
      exact writeNext_of_writing (.busy done w sent rest hwriting hwrites
        hcompletions hbytes houtput (hfrom.replace notifyWire logWhy)) hwriting
  | ended done w sent rest ec hwriting hwrites hcompletions hec hbytes
      houtput hfrom =>
      exact writeNext_of_writing (.ended done w sent rest ec hwriting hwrites
        hcompletions hec hbytes houtput (hfrom.replace notifyWire logWhy))
        hwriting
  | failed done w sent rest hwriting hwrites hcompletions hqueue hbytes
      houtput hdone =>
      have hne : s.queue ≠ [] := by simpa [hstopped] using hqueue
      have hpending : s.kickPending = true := hquiet ⟨hstopped, hwriting, hne⟩
      rw [hkick] at hpending
      cases hpending

theorem Phase.handleStop {s : TcpSession} (hphase : s.Phase) :
    s.handleStop.Phase := by
  unfold TcpSession.handleStop
  split
  · exact hphase
  cases hphase with
  | idle done hwriting hwrites hcompletions hqueue houtput hdone =>
      exact .idle done hwriting hwrites hcompletions (.inl rfl) houtput hdone
  | busy done w sent rest hwriting hwrites hcompletions hbytes houtput hfrom =>
      exact .busy done w sent rest hwriting hwrites hcompletions hbytes
        houtput ⟨hfrom.written, by simp⟩
  | ended done w sent rest ec hwriting hwrites hcompletions hec hbytes
      houtput hfrom =>
      exact .ended done w sent rest ec hwriting hwrites hcompletions hec
        hbytes houtput ⟨hfrom.written, by simp⟩
  | failed done w sent rest hwriting hwrites hcompletions hqueue hbytes
      houtput hdone =>
      exact .failed done w sent rest hwriting hwrites hcompletions (.inl rfl)
        hbytes houtput hdone

theorem phase_doWrite_after {s : TcpSession} {done : List Wire}
    (todo : List Wire)
    (hwriting : s.writing = false) (hwrites : s.writes = [])
    (hcompletions : s.completions = [])
    (hqueue : s.stopped = true ∨ s.queue = todo)
    (houtput : s.output = wireBytes done)
    (hdone : done.Sublist s.accepted)
    (htodo : s.stopped = false → (done ++ todo).Sublist s.accepted) :
    s.doWrite.Phase := by
  have hidle : s.stopped = true ∨ s.queue = [] → s.doWrite.Phase := by
    intro hrest
    have hsame : s.doWrite = s := by
      unfold doWrite
      rcases hrest with hstopped | hempty
      · split <;> simp [hstopped]
      · simp [hempty]
    rw [hsame]
    exact .idle done hwriting hwrites hcompletions hrest houtput hdone
  cases hstopped : s.stopped with
  | true => exact hidle (.inl hstopped)
  | false =>
      have hqueue' : s.queue = todo := by simpa [hstopped] using hqueue
      cases todo with
      | nil => exact hidle (.inr hqueue')
      | cons w later =>
          have hstart : s.doWrite =
              { s with writing := true, writes := [⟨w, w.bytes⟩] } := by
            simp [doWrite, hqueue', hstopped, hwrites]
          have hsub := htodo hstopped
          rw [hstart]
          refine .busy done w [] w.bytes rfl rfl hcompletions rfl ?_ ⟨?_, ?_⟩
          · simpa using houtput
          · refine List.Sublist.trans ?_ hsub
            simp
          · intro _
            exact ⟨later, hsub, .inl hqueue'⟩

theorem Phase.handleWritten {s : TcpSession} {later : List Handler}
    {bytes : Wire} {ec : Option Bytes} (hphase : s.Phase)
    (hposted : s.posted = .written bytes ec :: later) :
    ({ s with posted := later }.handleWritten bytes ec).Phase := by
  have hcons : s.completions =
      (bytes, ec) :: later.filterMap completionOf := by
    simp [completions, hposted, completionOf]
  cases hphase with
  | idle done hwriting hwrites hcompletions => simp [hcons] at hcompletions
  | busy done w sent rest hwriting hwrites hcompletions =>
      simp [hcons] at hcompletions
  | failed done w sent rest hwriting hwrites hcompletions =>
      simp [hcons] at hcompletions
  | ended done w sent rest ec' hwriting hwrites hcompletions hec hbytes
      houtput hfrom =>
      rw [hcons, List.cons.injEq, Prod.mk.injEq] at hcompletions
      obtain ⟨⟨rfl, rfl⟩, hlater⟩ := hcompletions
      cases ec with
      | some message =>
          have hfailed : Phase
              { s with posted := later, writing := false } := by
            refine .failed done bytes sent rest rfl hwrites hlater ?_ hbytes
              houtput hfrom.written
            by_cases hstopped : s.stopped = true
            · exact .inl hstopped
            · rw [Bool.not_eq_true] at hstopped
              obtain ⟨todo, _, hqueue⟩ := hfrom.upcoming hstopped
              refine .inr ?_
              rcases hqueue with hhead | ⟨_, hreplaced, hlength⟩
              · simp [hhead]
              · intro hempty
                simp [← hreplaced, show s.queue = [] from hempty] at hlength
          exact hfailed.post rfl
      | none =>
          have hsent : sent = bytes.bytes := by
            simpa [hec rfl] using hbytes.symm
          have hwhole : s.output = wireBytes (done ++ [bytes]) := by
            rw [houtput, hsent]
            simp
          simp only [TcpSession.handleWritten]
          split
          · exact .idle (done ++ [bytes]) rfl hwrites hlater (.inl rfl) hwhole
              hfrom.written
          · rename_i hgoes
            by_cases hstopped : s.stopped = true
            · exact phase_doWrite_after [] rfl hwrites hlater
                (.inl hstopped) hwhole hfrom.written
                (fun _ => by rw [List.append_nil]; exact hfrom.written)
            · rw [Bool.not_eq_true] at hstopped
              obtain ⟨todo, hsub, hqueue⟩ := hfrom.upcoming hstopped
              -- A queue replaced by a kick would be empty after the pop and
              -- is the other branch.
              have hhead : s.queue.tail = todo := by
                rcases hqueue with hhead | ⟨hkick, hreplaced, hlength⟩
                · simp [hhead]
                · obtain ⟨k, rfl⟩ := List.length_eq_one_iff.mp hlength
                  simp [hkick, hreplaced] at hgoes
              have htodo : (done ++ [bytes] ++ todo).Sublist s.accepted := by
                simpa using hsub
              exact phase_doWrite_after todo rfl hwrites hlater (.inr hhead)
                hwhole hfrom.written (fun _ => htodo)

/-! ## Steps and runs -/

/-- No frame is accepted, and hence no write started, between the failure of
a write and the stop posted by its completion handler. -/
def QuietAfterFailure (cfg : Config) (s : TcpSession) : Event → Prop
  | .io .runHandler =>
      s.WriteFailed → ∀ handler ∈ s.posted.head?, s.Refuses cfg handler
  | _ => True

instance (cfg : Config) (s : TcpSession) :
    (event : Event) → Decidable (QuietAfterFailure cfg s event)
  | .io .runHandler =>
      inferInstanceAs (Decidable (WriteFailed _ → ∀ handler ∈ _, _))
  | .io (.transmit _ _) => inferInstanceAs (Decidable True)
  | .io (.writeDone _) => inferInstanceAs (Decidable True)
  | .io (.writeFailed _ _) => inferInstanceAs (Decidable True)
  | .sendFrame _ => inferInstanceAs (Decidable True)
  | .notifyAndClose _ _ => inferInstanceAs (Decidable True)
  | .stop _ => inferInstanceAs (Decidable True)
  | .markLogin _ _ _ => inferInstanceAs (Decidable True)
  | .closeSocket => inferInstanceAs (Decidable True)

theorem Phase.runHandler {cfg : Config} {s : TcpSession}
    {handler : Handler} {later : List Handler} (hphase : s.Phase)
    (hposted : s.posted = handler :: later)
    (hquiet : s.WriteFailed → s.Refuses cfg handler) :
    ({ s with posted := later }.handle cfg handler).Phase := by
  have hframe : completionOf handler = none →
      Phase { s with posted := later } := by
    intro hnone
    refine hphase.frame rfl rfl ?_ rfl rfl rfl rfl rfl
    simp [completions, hposted, hnone]
  cases handler with
  | written bytes ec => exact hphase.handleWritten hposted
  | sendFrame bytes => exact (hframe rfl).handleSend bytes hquiet
  | kick notifyWire logWhy =>
      exact (hframe rfl).handleKick cfg notifyWire logWhy hquiet
  | stop why => exact (hframe rfl).handleStop

theorem Phase.writes_getElem {s : TcpSession} (hphase : s.Phase)
    {index : Nat} {write : PendingWrite}
    (hwrite : s.writes[index]? = some write) :
    index = 0 ∧ ∃ done sent, s.writing = true ∧ s.writes = [write] ∧
      s.completions = [] ∧ write.frame.bytes = sent ++ write.rest ∧
      s.output = wireBytes done ++ sent ∧ s.WritingFrom done write.frame := by
  cases hphase with
  | idle done hwriting hwrites => simp [hwrites] at hwrite
  | ended done w sent rest ec hwriting hwrites => simp [hwrites] at hwrite
  | failed done w sent rest hwriting hwrites => simp [hwrites] at hwrite
  | busy done w sent rest hwriting hwrites hcompletions hbytes houtput hfrom =>
      rw [hwrites] at hwrite
      cases index with
      | succ index => simp at hwrite
      | zero =>
          simp only [List.getElem?_cons_zero, Option.some.injEq] at hwrite
          subst write
          exact ⟨rfl, done, sent, hwriting, hwrites, hcompletions, hbytes,
            houtput, hfrom⟩

theorem Phase.ioStep {cfg : Config} {s next : TcpSession} {event : IoEvent}
    (hphase : s.Phase) (hquiet : QuietAfterFailure cfg s (.io event))
    (hstep : s.ioStep cfg event = some next) : next.Phase := by
  obtain ⟨handler, later, rfl, hposted, rfl⟩ |
    ⟨index, count, write, rfl, hwrite, _, rfl⟩ |
    ⟨index, write, rfl, hwrite, hrest, rfl⟩ |
    ⟨index, write, message, rfl, hwrite, hrest, rfl⟩ := ioStep_cases hstep
  · exact hphase.runHandler hposted
      (fun hfailed => hquiet hfailed handler (by simp [hposted]))
  · obtain ⟨rfl, done, sent, hwriting, hwrites, hcompletions, hbytes, houtput,
      hfrom⟩ := hphase.writes_getElem hwrite
    refine .busy done write.frame (sent ++ write.rest.take count)
      (write.rest.drop count) hwriting (by simp [hwrites]) hcompletions ?_ ?_
      ⟨hfrom.written, hfrom.upcoming⟩
    · rw [List.append_assoc, List.take_append_drop]
      exact hbytes
    · rw [← List.append_assoc, ← houtput]
  · obtain ⟨rfl, done, sent, hwriting, hwrites, hcompletions, hbytes, houtput,
      hfrom⟩ := hphase.writes_getElem hwrite
    have hcompletion : (TcpSession.post (.written write.frame none)
        { s with writes := s.writes.eraseIdx 0 }).completions =
          [(write.frame, none)] := by
      simpa [completions, TcpSession.post, completionOf] using hcompletions
    exact .ended done write.frame sent write.rest none hwriting
      (by simp [TcpSession.post, hwrites]) hcompletion (fun _ => hrest) hbytes
      houtput ⟨hfrom.written, hfrom.upcoming⟩
  · obtain ⟨rfl, done, sent, hwriting, hwrites, hcompletions, hbytes, houtput,
      hfrom⟩ := hphase.writes_getElem hwrite
    have hcompletion : (TcpSession.post (.written write.frame (some message))
        { s with writes := s.writes.eraseIdx 0 }).completions =
          [(write.frame, some message)] := by
      simpa [completions, TcpSession.post, completionOf] using hcompletions
    exact .ended done write.frame sent write.rest (some message) hwriting
      (by simp [TcpSession.post, hwrites]) hcompletion (by simp) hbytes
      houtput ⟨hfrom.written, hfrom.upcoming⟩

theorem Phase.step {cfg : Config} {s next : TcpSession} {event : Event}
    (hphase : s.Phase) (hquiet : QuietAfterFailure cfg s event)
    (hstep : s.step cfg event = some next) : next.Phase := by
  cases event with
  | io event => exact hphase.ioStep hquiet hstep
  | sendFrame bytes =>
      cases hstep
      exact hphase.post rfl
  | notifyAndClose userReason logWhy =>
      cases hstep
      exact hphase.notifyAndClose userReason logWhy
  | stop why =>
      cases hstep
      exact hphase.post rfl
  | markLogin uid isAdmin username =>
      cases hstep
      exact hphase.frame rfl rfl rfl rfl rfl rfl rfl rfl
  | closeSocket =>
      cases hstep
      exact hphase.frame rfl rfl rfl rfl rfl rfl rfl rfl

/-- The output consists of whole accepted frames in the order in which they
were accepted, none of them twice, and at most one partial frame after
them. -/
def StreamIntact (s : TcpSession) : Prop :=
  ∃ whole tail, s.output = wireBytes whole ++ tail ∧
    (tail = [] ∧ whole.Sublist s.accepted ∨
      ∃ w, tail <+: w.bytes ∧ (whole ++ [w]).Sublist s.accepted)

theorem Phase.streamIntact {s : TcpSession} (hphase : s.Phase) :
    s.StreamIntact := by
  cases hphase with
  | idle done _ _ _ _ houtput hdone =>
      exact ⟨done, [], by simpa using houtput, .inl ⟨rfl, hdone⟩⟩
  | busy done w sent rest _ _ _ hbytes houtput hfrom =>
      exact ⟨done, sent, houtput,
        .inr ⟨w, hbytes ▸ List.prefix_append sent rest, hfrom.written⟩⟩
  | ended done w sent rest ec _ _ _ _ hbytes houtput hfrom =>
      exact ⟨done, sent, houtput,
        .inr ⟨w, hbytes ▸ List.prefix_append sent rest, hfrom.written⟩⟩
  | failed done w sent rest _ _ _ _ hbytes houtput hdone =>
      exact ⟨done, sent, houtput,
        .inr ⟨w, hbytes ▸ List.prefix_append sent rest, hdone⟩⟩

/-- In every run in which no frame is accepted between the failure of a
write and the stop it posts, the stream of the session stays intact. -/
theorem streamIntact_of_quietAfterFailure (cfg : Config) (ip : Bytes)
    (events : List Event) (s : TcpSession)
    (hquiet : Transition.Along (step cfg) (QuietAfterFailure cfg) events
      { peerIp := ip })
    (hrun : Transition.run (step cfg) events { peerIp := ip } = some s) :
    s.StreamIntact := by
  have hphase : s.Phase := by
    refine Transition.run_preserves Phase ?_ (phase_fresh ip)
      hquiet hrun
    intro state event next hphase hgood hstep
    exact hphase.step hgood hstep
  exact hphase.streamIntact

/-- A read timer fires while a frame is being written: the write is aborted
after ten bytes, and a frame submitted before the stop runs starts the
aborted frame again. -/
def abortedWriteRun : List Event :=
  [.sendFrame ⟨kMsgServerReply, 1, []⟩, .io .runHandler, .io (.transmit 0 10),
    .io (.writeFailed 0 (lit "Operation canceled")),
    .sendFrame ⟨kMsgDeliver, 2, []⟩, .io .runHandler, .io .runHandler,
    .io (.transmit 0 24)]

theorem streamIntact_fails_after_abortedWriteRun :
    ∃ s, Transition.run (step forwarderJson) abortedWriteRun {} = some s ∧
      ¬s.StreamIntact := by
  obtain ⟨s, hrun, haccepted, hlength, hbyte⟩ : ∃ s,
      Transition.run (step forwarderJson) abortedWriteRun {} = some s ∧
      s.accepted = [⟨kMsgServerReply, 1, []⟩, ⟨kMsgDeliver, 2, []⟩] ∧
      s.output.length = 34 ∧ s.output[10]? = some 65 :=
    Transition.exists_run_of_check (by decide +kernel)
  refine ⟨s, hrun, ?_⟩
  -- Both accepted frames have 24 bytes and a zero at position 10.
  have hframes : ∀ w ∈ s.accepted, w.bytes.length = 24 ∧
      w.bytes[10]? = some 0 := by
    rw [haccepted]
    decide
  rintro ⟨whole, tail, houtput, hshape⟩
  cases whole with
  | nil =>
      rcases hshape with ⟨rfl, _⟩ | ⟨w, hprefix, hsub⟩
      · simp [houtput] at hlength
      · have hw := (hframes w (hsub.mem (by simp))).1
        have hle := hprefix.length_le
        simp only [houtput, wireBytes_nil, List.nil_append] at hlength
        omega
  | cons first later =>
      have hmem : first ∈ s.accepted := by
        rcases hshape with ⟨_, hsub⟩ | ⟨w, _, hsub⟩
        · exact hsub.mem (by simp)
        · exact hsub.mem (by simp)
      obtain ⟨hfirst, hzero⟩ := hframes first hmem
      have hsplit : s.output =
          first.bytes ++ (wireBytes later ++ tail) := by
        simpa [wireBytes] using houtput
      rw [hsplit, List.getElem?_append_left (by omega), hzero] at hbyte
      exact absurd hbyte (by decide)

/-- A frame is written; the write of the next one fails after ten bytes, and
its completion stops the session. -/
def tornFrameRun : List Event :=
  [.sendFrame ⟨kMsgServerReply, 1, []⟩, .io .runHandler, .io (.transmit 0 24),
    .io (.writeDone 0), .io .runHandler, .sendFrame ⟨kMsgDeliver, 2, []⟩,
    .io .runHandler, .io (.transmit 0 10),
    .io (.writeFailed 0 (lit "Broken pipe")), .io .runHandler,
    .io .runHandler]

theorem streamIntact_of_quietAfterFailure_tornFrame :
    ∃ s, Transition.run (step forwarderJson) tornFrameRun {} = some s ∧
      s.stopped = true ∧ s.output.length = 34 ∧ s.StreamIntact := by
  obtain ⟨s, hrun, hstopped, hlength⟩ : ∃ s,
      Transition.run (step forwarderJson) tornFrameRun {} = some s ∧
      s.stopped = true ∧ s.output.length = 34 :=
    Transition.exists_run_of_check (by decide +kernel)
  exact ⟨s, hrun, hstopped, hlength,
    streamIntact_of_quietAfterFailure forwarderJson [] _ s
      (Transition.along_of_check (by decide +kernel)) hrun⟩

end TcpSession

end AsioForwarder
