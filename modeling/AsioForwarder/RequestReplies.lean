import AsioForwarder.FrameRun
import AsioForwarder.LoginOrder

/-!
# One answer to every request

A frame handler answers its request once: it passes one SERVER_REPLY with the
request's sequence number to the sender or it stops the sender, as its last
operation.  It passes no reply to anybody else.  Over a run the replies passed
to a session are therefore its requests, in order, without those which ended
in `stop`.
-/

namespace AsioForwarder

open Interaction

/-- The sequence number of the reply a call passes. -/
def Call.replySeq : Call → Option UInt32
  | .sendFrame wire =>
      if wire.msgType = kMsgServerReply then some wire.seq else none
  | _ => none

/-- The call passes a reply or stops its session. -/
def Call.isAnswer (made : Call) : Bool :=
  match made with
  | .stop _ => true
  | _ => made.replySeq.isSome

/-- A call which answers the request `seq` of the session `c`. -/
inductive AnswersRequest (c : ConnId) (seq : UInt32) :
    ConnId × Call → Prop where
  | stop (why : Bytes) : AnswersRequest c seq (c, .stop why)
  | reply (wire : Wire) (htype : wire.msgType = kMsgServerReply)
      (hseq : wire.seq = seq) : AnswersRequest c seq (c, .sendFrame wire)

theorem AnswersRequest.isAnswer {c : ConnId} {seq : UInt32}
    {entry : ConnId × Call} (hanswers : AnswersRequest c seq entry) :
    entry.2.isAnswer = true := by
  cases hanswers with
  | stop why => rfl
  | reply wire htype hseq => simp [Call.isAnswer, Call.replySeq, htype]

/-! ## One frame -/

section OneFrame

variable {cfg : Config} {sender : Identity} {seq : UInt32} {stage : Stage}
  {op : Op}

theorem Allows.answers_or (hallows : Allows sender seq stage op) :
    (∃ entry, AnswersRequest sender.connId seq entry ∧
      op = .call entry.1 entry.2 ∧ ∀ result, stage.next op result = .done) ∨
    (∀ env hub, ∀ entry ∈ op.calls cfg env hub, entry.2.isAnswer = false) ∧
      ∀ result, stage.next op result ≠ .done := by
  cases hallows with
  | welcome uid self lok =>
      exact .inl ⟨_, .reply _ rfl rfl, rfl, fun _ => rfl⟩
  | confirm uid => exact .inl ⟨_, .reply _ rfl rfl, rfl, fun _ => rfl⟩
  | reply _ hstage wire htype hseq =>
      exact .inl ⟨_, .reply wire htype hseq, rfl,
        fun result => Stage.next_sendFrame stage _ wire result⟩
  | refuse why => exact .inl ⟨_, .stop why, rfl, fun _ => rfl⟩
  | address => exact .inr ⟨by simp [Op.calls], fun _ => by simp [Stage.next]⟩
  | allowIp ip =>
      refine .inr ⟨by simp [Op.calls], fun listed => ?_⟩
      cases listed <;> simp [Stage.next]
  | authenticate un password wantAdmin =>
      refine .inr ⟨by simp [Op.calls], fun outcome => ?_⟩
      cases outcome <;> simp [Stage.next]
  | register un info wantMode =>
      refine .inr ⟨?_, fun _ => by simp [Stage.next]⟩
      simp [Op.calls, LockOp.exec, Call.isAnswer, Call.replySeq]
  | evict uid victim todo userReason logWhy =>
      refine .inr ⟨?_, fun _ => by simp [Stage.next]⟩
      simp [Op.calls, Call.isAnswer, Call.replySeq]
  | lookup dst =>
      refine .inr ⟨by simp [Op.calls, LockOp.exec], fun cached => ?_⟩
      cases cached <;> simp [Stage.next]
  | ask dst =>
      refine .inr ⟨by simp [Op.calls], fun stored => ?_⟩
      cases stored <;> simp [Stage.next]
  | remember dst uid =>
      exact .inr ⟨by simp [Op.calls, LockOp.exec],
        fun _ => by simp [Stage.next]⟩
  | route dst uid payload =>
      refine .inr ⟨?_, fun _ => by simp [Stage.next]⟩
      intro env hub entry hentry
      simp only [Op.calls, LockOp.exec, List.mem_map] at hentry
      obtain ⟨c, _, rfl⟩ := hentry
      rfl
  | list =>
      exact .inr ⟨by simp [Op.calls, LockOp.exec],
        fun _ => by simp [Stage.next]⟩
  | snapshot uid =>
      exact .inr ⟨by simp [Op.calls, LockOp.exec],
        fun _ => by simp [Stage.next]⟩
  | kick victim todo userReason logWhy =>
      refine .inr ⟨?_, fun _ => by simp [Stage.next]⟩
      simp [Op.calls, Call.isAnswer, Call.replySeq]
  | manage operation hordinary =>
      refine .inr ⟨by simp [Op.calls], fun result => ?_⟩
      cases operation <;> simp [Stage.next]
  | nameOf uid =>
      refine .inr ⟨by simp [Op.calls], fun outcome => ?_⟩
      cases outcome <;> simp [Stage.next]
  | update uid name newName password isAdmin =>
      refine .inr ⟨by simp [Op.calls], fun err => ?_⟩
      cases err <;> simp [Stage.next]
  | rename uid oldName newName =>
      exact .inr ⟨by simp [Op.calls, LockOp.exec],
        fun _ => by simp [Stage.next]⟩
  | condemn uid name =>
      exact .inr ⟨by simp [Op.calls, LockOp.exec],
        fun _ => by simp [Stage.next]⟩
  | purge uid name victim todo userReason logWhy =>
      refine .inr ⟨?_, fun _ => by simp [Stage.next]⟩
      simp [Op.calls, Call.isAnswer, Call.replySeq]
  | forget uid name =>
      exact .inr ⟨by simp [Op.calls, LockOp.exec],
        fun _ => by simp [Stage.next]⟩
  | delete uid name =>
      refine .inr ⟨by simp [Op.calls], fun err => ?_⟩
      cases err <;> simp [Stage.next]

theorem not_allows_done : ¬Allows sender seq .done op := by
  intro hallows
  cases hallows with
  | reply _ hstage => cases hstage

/-- A walk through the stages to the end makes one call which answers. -/
theorem Walks.answers {steps : List Performed}
    (hwalks : Walks cfg (frameProtocol sender seq) stage steps .done)
    (hstage : stage ≠ .done) :
    ∃ entry, AnswersRequest sender.connId seq entry ∧
      (steps.flatMap (Performed.calls cfg)).filter
        (fun entry => entry.2.isAnswer) = [entry] := by
  induction steps generalizing stage with
  | nil => exact absurd hwalks.eq_of_nil hstage
  | cons step later ih =>
      obtain ⟨operation, env, hub⟩ := step
      obtain ⟨hallows, hlater⟩ := hwalks.of_cons
      rcases Allows.answers_or hallows with ⟨entry, hanswers, rfl, hdone⟩ |
        ⟨hquiet, hgoes⟩
      · refine ⟨entry, hanswers, ?_⟩
        have hend : later = [] := by
          cases later with
          | nil => rfl
          | cons step later =>
              have hallows' := hlater.of_cons.1
              rw [show (frameProtocol sender seq).next stage _ _ = Stage.done
                from hdone ()] at hallows'
              exact (not_allows_done hallows').elim
        simp [hend, Performed.calls, Op.calls, hanswers.isAnswer]
      · obtain ⟨entry, hanswers, hrest⟩ := ih hlater (hgoes _)
        refine ⟨entry, hanswers, ?_⟩
        have hnone : (operation.calls cfg env hub).filter
            (fun entry => entry.2.isAnswer) = [] := by
          rw [List.filter_eq_nil_iff]
          intro entry hentry
          rw [hquiet env hub entry hentry]
          exact Bool.false_ne_true
        rw [List.flatMap_cons, List.filter_append, hrest]
        simp only [Performed.calls, hnone, List.nil_append]

theorem initialStage_ne_done (unpack : Bytes → Option Obj)
    (sender : Identity) (h : Header) (body : Bytes) :
    initialStage unpack sender h body ≠ .done := by
  intro hdone
  have hopening := initialStage_opening unpack sender h body
  rw [hdone] at hopening
  cases hopening

theorem Request.stage_eq_done_iff (q : Request) :
    q.stage = .done ↔ q.nextOp = none := by
  obtain ⟨sender, h, stage, program, hends⟩ := q
  cases program with
  | ret value => exact ⟨fun _ => rfl, fun _ => hends⟩
  | op operation rest =>
      refine ⟨?_, fun hnone => by cases hnone⟩
      rintro rfl
      exact (not_allows_done hends.1).elim

/-- Every execution of `handle_client_frame` makes exactly one call which
answers, and it answers the request. -/
theorem handleClientFrame_answers (cfg : Config)
    (unpack : Bytes → Option Obj) (sender : Identity) (h : Header)
    (body : Bytes) (found : Nat → Env × Hub) :
    ∃ entry, AnswersRequest sender.connId h.seq entry ∧
      ((execution cfg (handleClientFrame unpack sender h body) found).flatMap
        (Performed.calls cfg)).filter (fun entry => entry.2.isAnswer) =
          [entry] := by
  obtain ⟨value, hfollows⟩ := follows_execution cfg
    (handleClientFrame unpack sender h body) found
  obtain ⟨final, hwalks, hfinal⟩ :=
    hfollows.walks (handleClientFrame_ends unpack sender h body)
  have hend : final = .done := hfinal
  subst hend
  exact hwalks.answers (initialStage_ne_done unpack sender h body)

end OneFrame

/-! ## Runs -/

def replySeqs (c : ConnId) (calls : List (ConnId × Call)) : List UInt32 :=
  (Hub.callsOn c calls).filterMap Call.replySeq

theorem replySeqs_append (c : ConnId) (first second : List (ConnId × Call)) :
    replySeqs c (first ++ second) =
      replySeqs c first ++ replySeqs c second := by
  simp [replySeqs, Hub.callsOn]

theorem replySeqs_of_not_isAnswer {c : ConnId}
    {calls : List (ConnId × Call)}
    (hquiet : ∀ entry ∈ calls, entry.1 = c → entry.2.isAnswer = false) :
    replySeqs c calls = [] := by
  rw [replySeqs, List.filterMap_eq_nil_iff]
  intro made hmade
  have hnot := hquiet (c, made) (Hub.mem_callsOn.mp hmade) rfl
  cases made with
  | sendFrame wire => simpa [Call.isAnswer] using hnot
  | _ => rfl

/-- What a session's requests come to: a request is handled, and it is
stopped. -/
inductive Mark where
  | request (seq : UInt32)
  | stopped
  deriving DecidableEq

def unstopped : List Mark → List UInt32
  | [] => []
  | .stopped :: rest => unstopped rest
  | .request _ :: .stopped :: rest => unstopped rest
  | .request seq :: rest => seq :: unstopped rest

theorem unstopped_append_request (marks : List Mark) (seq : UInt32) :
    unstopped (marks ++ [.request seq]) = unstopped marks ++ [seq] := by
  induction marks using unstopped.induct with
  | case1 => rfl
  | case2 rest ih => exact ih
  | case3 first rest ih => exact ih
  | case4 first rest hnext ih =>
      cases rest with
      | nil => rfl
      | cons mark rest =>
          cases mark with
          | stopped => exact absurd rfl (hnext rest)
          | request second =>
              simpa only [List.cons_append, unstopped, List.cons.injEq,
                true_and] using ih

theorem unstopped_append_stopped (marks : List Mark) (seq : UInt32) :
    unstopped (marks ++ [.request seq, .stopped]) = unstopped marks := by
  induction marks using unstopped.induct with
  | case1 => rfl
  | case2 rest ih => exact ih
  | case3 first rest ih => exact ih
  | case4 first rest hnext ih =>
      cases rest with
      | nil => rfl
      | cons mark rest =>
          cases mark with
          | stopped => exact absurd rfl (hnext rest)
          | request second =>
              simpa only [List.cons_append, unstopped, List.cons.injEq,
                true_and] using ih

namespace Server

variable {cfg : Config} {unpack : Bytes → Option Obj}

/-- `handle_client_frame` is entered for a frame of `c`, or the handler of
`c` stops its session. -/
def marks (c : ConnId) (s : Server) : Event → List Mark
  | .read d .resume =>
      match s.readers d with
      | .gotBody h _ => if d = c then [.request h.seq] else []
      | _ => []
  | .advance d _ =>
      match s.pendingOp d with
      | some (.call e (.stop _)) => if d = c ∧ e = c then [.stopped] else []
      | _ => []
  | _ => []

/-- Replies and requests of a session: all are matched, but for the request
in progress. -/
structure Replied (c : ConnId) (seen : List Mark) (s : Server) : Prop where
  idle : (∀ q, s.readers c = .handling q → q.stage = .done) →
    replySeqs c s.hub.calls = unstopped seen
  busy : ∀ q, s.readers c = .handling q → q.stage ≠ .done →
    ∃ earlier, seen = earlier ++ [.request q.header.seq] ∧
      replySeqs c s.hub.calls = unstopped earlier

theorem replied_initial (db : Db) (c : ConnId) :
    Replied c [] (initial db) where
  idle := fun _ => rfl
  busy := by
    intro q hreader
    cases hreader

section OneStep

variable {c : ConnId} {seen : List Mark} {s s' : Server}

theorem Replied.of_same (hreplied : Replied c seen s)
    (hreader : s'.readers c = s.readers c)
    (hcalls : replySeqs c s'.hub.calls = replySeqs c s.hub.calls) :
    Replied c seen s' where
  idle := by
    rw [hreader, hcalls]
    exact hreplied.idle
  busy := by
    rw [hreader, hcalls]
    exact hreplied.busy

theorem Replied.of_idle (hreplied : Replied c seen s)
    (hbefore : ∀ q, s.readers c = .handling q → q.stage = .done)
    (hafter : ∀ q, s'.readers c ≠ .handling q)
    (hcalls : replySeqs c s'.hub.calls = replySeqs c s.hub.calls) :
    Replied c seen s' where
  idle := fun _ => hcalls.trans (hreplied.idle hbefore)
  busy := fun q hreader => absurd hreader (hafter q)

theorem replySeqs_give (c d : ConnId) {made : Call}
    (hkind : (∃ why, made = .stop why) ∨
      ∃ userReason logWhy, made = .notifyAndClose userReason logWhy)
    (calls : List (ConnId × Call)) :
    replySeqs c (calls ++ [(d, made)]) = replySeqs c calls := by
  have hnone : replySeqs c [(d, made)] = [] := by
    rcases hkind with ⟨why, rfl⟩ | ⟨userReason, logWhy, rfl⟩ <;>
      simp only [replySeqs, Hub.callsOn, List.filterMap_cons] <;>
      split_ifs <;> rfl
  rw [replySeqs_append, hnone, List.append_nil]

theorem Replied.perform (hreplied : Replied c seen s) {env : Env}
    {q q' : Request} {op : Op} (hconn : q.sender.connId = c)
    (hreader : s.readers c = .handling q) (hop : q.nextOp = some op)
    (hheader : q'.header = q.header)
    (hstage : q'.stage = q.stageAfter cfg env s.hub op) :
    Replied c (seen ++ marks c s (.advance c env))
      ({ s with hub := (op.exec cfg env s.hub).1 }.setReader c
        (.handling q')) := by
  have hallows := Request.allows_of_nextOp hop
  have hnot : q.stage ≠ .done := by
    intro hdone
    rw [hdone] at hallows
    exact not_allows_done hallows
  obtain ⟨earlier, hseen, hreplies⟩ := hreplied.busy q hreader hnot
  have hpending := (pendingOp_of_handling hreader).trans hop
  have hcalls : replySeqs c (op.exec cfg env s.hub).1.calls =
      unstopped earlier ++ replySeqs c (op.calls cfg env s.hub) := by
    rw [Op.exec_calls, replySeqs_append, hreplies]
  rcases Allows.answers_or hallows with ⟨entry, hanswers, rfl, hdone⟩ |
    ⟨hquiet, hgoes⟩
  · have hdone' : q'.stage = .done := hstage.trans (hdone ())
    refine ⟨fun _ => ?_, ?_⟩
    · rw [setReader_hub]
      refine hcalls.trans ?_
      rw [hconn] at hanswers
      cases hanswers with
      | stop why =>
          rw [hseen, marks, hpending]
          simp [unstopped_append_stopped, Op.calls, replySeqs, Hub.callsOn,
            Call.replySeq]
      | reply wire htype hseq =>
          rw [hseen, marks, hpending]
          simp [unstopped_append_request, Op.calls, replySeqs, Hub.callsOn,
            Call.replySeq, htype, hseq]
    · intro q₁ hreader₁ hnot₁
      rw [setReader_self, ReadLoop.handling.injEq] at hreader₁
      exact absurd (hreader₁ ▸ hdone') hnot₁
  · have hgoes' : q'.stage ≠ .done := fun hdone =>
      hgoes _ (hstage.symm.trans hdone)
    have hmarks : marks c s (.advance c env) = [] := by
      simp only [marks, hpending]
      split
      · rename_i e why hcall
        cases hcall
        have hstop := hquiet env s.hub (e, .stop why) (by simp [Op.calls])
        cases hstop
      · rfl
    rw [hmarks, List.append_nil]
    have hnone : replySeqs c (op.calls cfg env s.hub) = [] :=
      replySeqs_of_not_isAnswer
        (fun entry hentry _ => hquiet env s.hub entry hentry)
    rw [hnone, List.append_nil] at hcalls
    refine ⟨fun hdone => ?_, ?_⟩
    · exact absurd (hdone q' (setReader_self _ _ _)) hgoes'
    · intro q₁ hreader₁ _
      rw [setReader_self, ReadLoop.handling.injEq] at hreader₁
      rw [← hreader₁, hheader]
      exact ⟨earlier, hseen, hcalls⟩

theorem Replied.move (hreplied : Replied c seen s) {event : ReadEvent}
    {loop' : ReadLoop}
    (hmoved : ReadLoop.Moved unpack (s.hub.identity c) (s.hub.sessions c)
      (s.readers c) event loop') :
    Replied c (seen ++ marks c s (.read c event)) (s.setReader c loop') := by
  have hidle : ∀ loop, s.readers c = loop → (∀ q, loop ≠ .handling q) →
      (∀ q, loop' ≠ .handling q) → marks c s (.read c event) = [] →
      Replied c (seen ++ marks c s (.read c event))
        (s.setReader c loop') := by
    intro loop hloop hbefore hafter hmarks
    rw [hmarks, List.append_nil]
    refine hreplied.of_idle ?_ ?_ rfl
    · intro q hreader
      exact absurd (hloop.symm.trans hreader) (hbefore q)
    · rw [setReader_self]
      exact hafter
  generalize hreader : s.readers c = loop at hmoved
  cases hmoved with
  | handle h body =>
      have hmarks : marks c s (.read c .resume) = [.request h.seq] := by
        simp [marks, hreader]
      rw [hmarks]
      have hstart := initialStage_ne_done unpack (s.hub.identity c) h body
      refine ⟨fun hdone => ?_, ?_⟩
      · exact absurd (hdone _ (setReader_self _ _ _)) hstart
      · intro q hreader' _
        rw [setReader_self, ReadLoop.handling.injEq] at hreader'
        subst hreader'
        refine ⟨seen, rfl, hreplied.idle ?_⟩
        intro q hhandling
        rw [hreader] at hhandling
        cases hhandling
  | stopped idle hstopped => exact hidle _ hreader (by simp) (by simp) rfl
  | await hstopped => exact hidle _ hreader (by simp) (by simp) rfl
  | header h hopen => exact hidle _ hreader (by simp) (by simp) rfl
  | empty h hempty =>
      exact hidle _ hreader (by simp) (by simp) (by simp [marks, hreader])
  | more h hmore =>
      exact hidle _ hreader (by simp) (by simp) (by simp [marks, hreader])
  | body h bytes hopen hlength => exact hidle _ hreader (by simp) (by simp) rfl
  | headerFailed => exact hidle _ hreader (by simp) (by simp) rfl
  | bodyFailed h => exact hidle _ hreader (by simp) (by simp) rfl

end OneStep

theorem marks_read_ne {c d : ConnId} (s : Server) (event : ReadEvent)
    (hne : d ≠ c) : marks c s (.read d event) = [] := by
  cases event with
  | resume =>
      simp only [marks]
      split
      · exact if_neg hne
      · rfl
  | _ => rfl

theorem marks_advance_ne {c d : ConnId} (s : Server) (env : Env)
    (hne : d ≠ c) : marks c s (.advance d env) = [] := by
  simp only [marks]
  split
  · exact if_neg (fun hboth => hne hboth.1)
  · rfl

theorem Replied.step {c : ConnId} {seen : List Mark} {s s' : Server}
    {event : Event} (hsane : s.Sane) (hreplied : Replied c seen s)
    (hstep : s.step cfg unpack event = some s') :
    Replied c (seen ++ marks c s event) s' := by
  cases stepped_of_step hstep with
  | accept peerIp =>
      simp only [marks, List.append_nil]
      by_cases hnew : c = s.hub.reg.nextConnId + 1
      · subst hnew
        have hfresh := (hsane.fresh _ (Nat.lt_succ_self _)).1
        refine hreplied.of_idle ?_ ?_ rfl
        · simp [hfresh]
        · simp [setReader_self]
      · exact hreplied.of_same (setReader_ne _ _ hnew) rfl
  | move d event loop loop' hreader hmoved =>
      by_cases hself : d = c
      · subst hself
        subst hreader
        exact hreplied.move hmoved
      · rw [marks_read_ne s event hself, List.append_nil]
        exact hreplied.of_same (setReader_ne _ _ (Ne.symm hself)) rfl
  | give d event made hreader hkind =>
      have hcalls := replySeqs_give c d hkind s.hub.calls
      by_cases hself : d = c
      · subst hself
        have hmarks : marks d s (.read d event) = [] := by
          cases event with
          | resume => rcases hreader with htop | ⟨h, hgot⟩ <;> simp [marks, *]
          | _ => rfl
        rw [hmarks, List.append_nil]
        refine hreplied.of_idle ?_ ?_ hcalls
        · rcases hreader with htop | ⟨h, hgot⟩ <;> simp [*]
        · simp [setReader_self]
      · rw [marks_read_ne s event hself, List.append_nil]
        exact hreplied.of_same (setReader_ne _ _ (Ne.symm hself)) hcalls
  | finish d env q hreader hdone =>
      by_cases hself : d = c
      · subst hself
        have hmarks : marks d s (.advance d env) = [] := by
          simp [marks, pendingOp_of_handling hreader, hdone.2]
        rw [hmarks, List.append_nil]
        refine hreplied.of_idle ?_ ?_ rfl
        · intro q₁ hreader₁
          rw [hreader, ReadLoop.handling.injEq] at hreader₁
          exact hreader₁ ▸ hdone.1
        · simp [setReader_self]
      · rw [marks_advance_ne s env hself, List.append_nil]
        exact hreplied.of_same (setReader_ne _ _ (Ne.symm hself)) rfl
  | perform d env q q' op hreader hop hallows hsender hheader hstage =>
      have hconn := (hsane.fits d q hreader).1
      by_cases hself : d = c
      · subst hself
        exact hreplied.perform hconn hreader hop hheader hstage
      · rw [marks_advance_ne s env hself, List.append_nil]
        refine hreplied.of_same (setReader_ne _ _ (Ne.symm hself)) ?_
        -- a handler answers its own session only
        have hnone : replySeqs c (op.calls cfg env s.hub) = [] := by
          apply replySeqs_of_not_isAnswer
          rcases Allows.answers_or hallows with ⟨entry, hanswers, rfl, _⟩ |
            ⟨hquiet, _⟩
          · intro other hother hc
            rw [Op.calls, List.mem_singleton] at hother
            rw [hother] at hc
            cases hanswers with
            | stop why => exact absurd (hconn.symm.trans hc) hself
            | reply wire htype hseq =>
                exact absurd (hconn.symm.trans hc) hself
          · exact fun entry hentry _ => hquiet env s.hub entry hentry
        rw [setReader_hub]
        dsimp only
        rw [Op.exec_calls, replySeqs_append, hnone, List.append_nil]
  | removeSession d hreader =>
      simp only [marks, List.append_nil]
      by_cases hself : d = c
      · subst hself
        exact hreplied.of_idle (by simp [hreader]) (by simp [setReader_self])
          rfl
      · exact hreplied.of_same (setReader_ne _ _ (Ne.symm hself)) rfl
  | closeSocket d hreader =>
      simp only [marks, List.append_nil]
      by_cases hself : d = c
      · subst hself
        exact hreplied.of_idle (by simp [hreader]) (by simp [setReader_self])
          rfl
      · exact hreplied.of_same (setReader_ne _ _ (Ne.symm hself)) rfl
  | io d event session hio =>
      simp only [marks, List.append_nil]
      exact hreplied.of_same rfl rfl
  | heartbeatTimeout d hlogged hopen =>
      simp only [marks, List.append_nil]
      exact hreplied.of_same rfl
        (replySeqs_give c d (.inr ⟨_, _, rfl⟩) s.hub.calls)
  | snapshotStats =>
      simp only [marks, List.append_nil]
      exact hreplied.of_same rfl rfl

/-- `handle_client_frame` answers every request once.  Whatever state its
operations find, an execution makes exactly one call which stops a session or
passes a reply: it stops the sender, or it passes the sender a reply with the
request's sequence number.  In a run, if the handler of `c` has returned, the
replies passed to `c` are the requests of `c` handled so far, in order,
without those ended by `stop`; a request in progress is not answered yet. -/
theorem replies_match_requests (cfg : Config)
    (unpack : Bytes → Option Obj) :
    (∀ (sender : Identity) (h : Header) (body : Bytes)
      (found : Nat → Env × Hub),
      ∃ entry, AnswersRequest sender.connId h.seq entry ∧
        ((execution cfg (handleClientFrame unpack sender h body)
          found).flatMap (Performed.calls cfg)).filter
            (fun entry => entry.2.isAnswer) = [entry]) ∧
    (∀ (db : Db) (events : List Event) (s : Server),
      Transition.run (step cfg unpack) events (initial db) = some s →
      ∀ c, ((∀ q, s.readers c = .handling q → q.nextOp = none) →
          replySeqs c s.hub.calls = unstopped
            (Transition.observe (step cfg unpack) (marks c) events
              (initial db))) ∧
        ∀ q, s.readers c = .handling q → q.nextOp ≠ none →
          ∃ earlier, Transition.observe (step cfg unpack) (marks c) events
              (initial db) = earlier ++ [.request q.header.seq] ∧
            replySeqs c s.hub.calls = unstopped earlier) := by
  constructor
  · exact handleClientFrame_answers cfg unpack
  · intro db events s hrun c
    have hreplied : s.Sane ∧ Replied c ([] ++ Transition.observe
        (step cfg unpack) (marks c) events (initial db)) s :=
      Transition.observe_preserves
      (fun seen state => state.Sane ∧ Replied c seen state)
      (fun seen state event next hboth hstep =>
        ⟨hboth.1.step hstep, hboth.2.step hboth.1 hstep⟩)
      ⟨sane_initial db, replied_initial db c⟩ hrun
    rw [List.nil_append] at hreplied
    constructor
    · intro hidle
      refine hreplied.2.idle (fun q hreader => ?_)
      exact q.stage_eq_done_iff.mpr (hidle q hreader)
    · intro q hreader hnext
      refine hreplied.2.busy q hreader (fun hdone => ?_)
      exact hnext (q.stage_eq_done_iff.mp hdone)

/-- Session 1 logs in, sends a heartbeat and then a frame whose body is no
map. -/
def stoppedRequestRun : List Event :=
  rootLogin ++ receive 1 kClientHeartbeat 2 [.map 0] ++ advances 1 2 ++
    receive 1 kClientData 3 [.bool true] ++ advances 1 2

theorem replies_match_requests_stoppedRequestRun :
    ∃ s, Transition.run (step forwarderJson unpackFlat) stoppedRequestRun
        (initial emptyDb) = some s ∧
      replySeqs 1 s.hub.calls = [1, 2] ∧
      Transition.observe (step forwarderJson unpackFlat) (marks 1)
        stoppedRequestRun (initial emptyDb) =
          [.request 1, .request 2, .request 3, .stopped] ∧
      replySeqs 1 s.hub.calls = unstopped
        (Transition.observe (step forwarderJson unpackFlat) (marks 1)
          stoppedRequestRun (initial emptyDb)) := by
  have hfinal : ∃ s, Transition.run (step forwarderJson unpackFlat)
      stoppedRequestRun (initial emptyDb) = some s ∧
      replySeqs 1 s.hub.calls = [1, 2] ∧ s.pendingOp 1 = none :=
    Transition.exists_run_of_check (by decide +kernel)
  obtain ⟨s, hrun, hreplies, hpending⟩ := hfinal
  refine ⟨s, hrun, hreplies, by decide +kernel, ?_⟩
  refine ((replies_match_requests forwarderJson unpackFlat).2 emptyDb _ s hrun
    1).1 ?_
  intro q hreader
  exact (pendingOp_of_handling hreader).symm.trans hpending

end Server

end AsioForwarder
