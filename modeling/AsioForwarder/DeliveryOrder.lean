import AsioForwarder.DeliveryStream
import AsioForwarder.FrameRun
import AsioForwarder.LoginOrder
import AsioForwarder.Subsequence

/-!
# The order of deliveries

A DATA frame is routed in one critical section, in which its DELIVER frames
are passed to `send_frame` of the recipients.  The critical sections of a run
are one sequence, of which every connection receives a part, and the sections
which one sender's frames lead to come in the order of the frames.
-/

namespace AsioForwarder

open Interaction

/-! ## From `send_frame` to the socket -/

/-- A session and the frames passed to its `send_frame` so far. -/
structure InLine (session : TcpSession) (sent : List Wire) : Prop where
  sound : session.Sound
  line : (session.line.filter Wire.isDeliver).Sublist
    (sent.filter Wire.isDeliver)

theorem inLine_fresh (ip : Bytes) (sent : List Wire) :
    InLine { peerIp := ip } sent where
  sound := TcpSession.sound_fresh ip
  line := List.nil_sublist _

theorem TcpSession.Sound.call {session : TcpSession} (cfg : Config)
    (hsound : session.Sound) (made : Call) : (made.apply session).Sound := by
  obtain ⟨event, hclean, hquiet, hstep⟩ : ∃ event : TcpSession.Event,
      event.isWriteError = false ∧
      TcpSession.QuietAfterFailure cfg session event ∧
      session.step cfg event = some (made.apply session) := by
    cases made with
    | sendFrame wire => exact ⟨.sendFrame wire, rfl, trivial, rfl⟩
    | notifyAndClose userReason logWhy =>
        exact ⟨.notifyAndClose userReason logWhy, rfl, trivial, rfl⟩
    | stop why => exact ⟨.stop why, rfl, trivial, rfl⟩
    | markLogin uid isAdmin username =>
        exact ⟨.markLogin uid isAdmin username, rfl, trivial, rfl⟩
  obtain ⟨hopen, houtput, haccepted⟩ :
      (made.apply session).isOpen = session.isOpen ∧
      (made.apply session).output = session.output ∧
      (made.apply session).accepted = session.accepted := by
    cases made with
    | notifyAndClose userReason logWhy =>
        simp only [Call.apply, TcpSession.notifyAndClose]
        split <;> exact ⟨rfl, rfl, rfl⟩
    | _ => exact ⟨rfl, rfl, rfl⟩
  refine ⟨fun h => ?_, fun h => ?_, ?_⟩
  · rw [hopen] at h
    exact (hsound.phase h).step hquiet hstep
  · rw [hopen] at h
    exact (hsound.clean h).step hclean hstep
  · unfold TcpSession.Streaming
    rw [houtput, haccepted]
    exact hsound.streaming

theorem Call.apply_line (made : Call) (session : TcpSession) :
    (made.apply session).line.filter Wire.isDeliver =
      session.line.filter Wire.isDeliver ++
        made.sent.toList.filter Wire.isDeliver := by
  have hpost : ∀ handler, (session.post handler).line =
      session.line ++ (TcpSession.frameOf handler).toList := by
    intro handler
    unfold TcpSession.line TcpSession.post
    rw [List.filterMap_append, ← List.append_assoc]
    cases handler <;> rfl
  cases made with
  | sendFrame wire =>
      have hline := hpost (.sendFrame wire)
      simp only [apply, TcpSession.sendFrame, hline, List.filter_append]
      rfl
  | stop why =>
      have hline := hpost (.stop why)
      simp only [apply, TcpSession.stop, hline, List.filter_append]
      rfl
  | notifyAndClose userReason logWhy =>
      simp only [apply, TcpSession.notifyAndClose]
      split
      · have hline : (session.kickNotifyAndClose (kickWire userReason)
            logWhy).line = session.line ++ [kickWire userReason] :=
          hpost (.kick (kickWire userReason) logWhy)
        rw [hline, List.filter_append]
        rfl
      · have hline := hpost (.stop logWhy)
        simp only [TcpSession.stop, hline, List.filter_append]
        rfl
  | markLogin uid isAdmin username =>
      simp [apply, TcpSession.markLogin, TcpSession.line, sent]

theorem InLine.call {session : TcpSession} {sent : List Wire} (cfg : Config)
    (hinline : InLine session sent) (made : Call) :
    InLine (made.apply session) (sent ++ made.sent.toList) where
  sound := hinline.sound.call cfg made
  line := by
    rw [Call.apply_line, List.filter_append]
    exact hinline.line.append (List.Sublist.refl _)

theorem InLine.ioStep {cfg : Config} {session next : TcpSession}
    {sent : List Wire} {event : TcpSession.IoEvent}
    (hinline : InLine session sent) (hgood : ¬session.WriteErrorOn event)
    (hstep : session.ioStep cfg event = some next) : InLine next sent where
  sound := hinline.sound.ioStep hgood hstep
  line := ((TcpSession.ioStep_line hstep).filter _).trans hinline.line

/-- The DELIVER frames which have reached the socket are a part of those
passed to `send_frame`. -/
theorem InLine.received {session : TcpSession} {sent : List Wire}
    (hinline : InLine session sent) :
    ∃ frames, Received session.output frames ∧
      (frames.filter Wire.isDeliver).Sublist (sent.filter Wire.isDeliver) := by
  obtain ⟨whole, hreceived, hwhole⟩ := hinline.sound.streaming
  refine ⟨whole, hreceived, ?_⟩
  apply (hwhole.filter _).trans
  apply List.Sublist.trans ?_ hinline.line
  exact (List.sublist_append_left _ _).filter _

namespace Server

variable {cfg : Config} {unpack : Bytes → Option Obj}

def NoWriteError (s : Server) : Event → Prop
  | .io c event => ¬(s.hub.sessions c).WriteErrorOn event
  | _ => True

instance (s : Server) : DecidablePred s.NoWriteError
  | .io _ _ => inferInstanceAs (Decidable ¬_)
  | .accept _ | .read _ _ | .advance _ _ | .removeSession _ | .closeSocket _
  | .heartbeatTimeout _ | .snapshotStats => inferInstanceAs (Decidable True)

theorem framesTo_singleton_self (c : ConnId) (made : Call) :
    framesTo c [(c, made)] = made.sent.toList := by
  cases made <;> simp [framesTo, Hub.callsOn, Call.sent]

theorem framesTo_singleton_ne {c d : ConnId} (made : Call) (hne : c ≠ d) :
    framesTo c [(d, made)] = [] := by
  simp [framesTo, Hub.callsOn, Ne.symm hne]

theorem inLine_callAll (cfg : Config) {hub : Hub} {c : ConnId}
    {sent : List Wire} (hinline : InLine (hub.sessions c) sent)
    (calls : List (ConnId × Call)) :
    InLine ((Hub.callsOn c calls).foldl (fun s made => made.apply s)
      (hub.sessions c)) (sent ++ framesTo c calls) := by
  unfold framesTo
  generalize Hub.callsOn c calls = made
  generalize hub.sessions c = session at hinline
  induction made generalizing session sent with
  | nil =>
      rw [List.filterMap_nil, List.append_nil]
      exact hinline
  | cons made rest ih =>
      have hnext := ih _ (hinline.call cfg made)
      rw [List.append_assoc] at hnext
      cases made <;> exact hnext

theorem inLine_call (cfg : Config) {s : Server} {c : ConnId}
    (hinline : InLine (s.hub.sessions c) (framesTo c s.hub.calls))
    (d : ConnId) (made : Call) :
    InLine ((s.hub.call d made).sessions c)
      (framesTo c (s.hub.call d made).calls) := by
  have hcalls : (s.hub.call d made).calls = s.hub.calls ++ [(d, made)] := rfl
  rw [hcalls, framesTo_append]
  by_cases hsame : c = d
  · subst hsame
    rw [Hub.call_sessions_self, framesTo_singleton_self]
    exact hinline.call cfg made
  · rw [Hub.call_sessions_ne _ _ hsame, framesTo_singleton_ne _ hsame,
      List.append_nil]
    exact hinline

theorem inLine_of_step {s s' : Server} {event : Event}
    (hgood : s.NoWriteError event)
    (hstep : s.step cfg unpack event = some s') {c : ConnId}
    (hinline : InLine (s.hub.sessions c) (framesTo c s.hub.calls)) :
    InLine (s'.hub.sessions c) (framesTo c s'.hub.calls) := by
  cases stepped_of_step hstep with
  | accept peerIp =>
      by_cases hnew : c = s.hub.reg.nextConnId + 1
      · subst hnew
        simpa [Hub.accept] using inLine_fresh peerIp _
      · simpa [Hub.accept, hnew] using hinline
  | give d event made hreader hkind =>
      exact inLine_call cfg hinline d made
  | perform d env q q' op hreader hop hallows hsender hheader hstage =>
      rw [setReader_hub, Op.exec_sessions, Op.exec_calls, framesTo_append]
      exact inLine_callAll cfg hinline _
  | closeSocket d hreader =>
      by_cases hsame : c = d
      · subst hsame
        have hclosed : InLine (s.hub.sessions c).closeSocket
            (framesTo c s.hub.calls) :=
          ⟨hinline.sound.closeSocket, hinline.line⟩
        simpa [Hub.closeSocket, Hub.setSession] using hclosed
      · simpa [Hub.closeSocket, Hub.setSession, hsame] using hinline
  | io d io session hio =>
      by_cases hsame : c = d
      · subst hsame
        have hnext := hinline.ioStep hgood hio
        simpa [Hub.setSession] using hnext
      · simpa [Hub.setSession, hsame] using hinline
  | heartbeatTimeout d hlogged hopen =>
      exact inLine_call cfg hinline d heartbeatCall
  | move d event loop loop' hreader hmoved => exact hinline
  | finish d env q hreader hdone => exact hinline
  | removeSession d hreader => exact hinline
  | snapshotStats => exact hinline

end Server

/-! ## From a DATA frame to its critical section -/

/-- A DATA frame of a logged-in session. -/
structure DataFrame where
  sender : Identity
  header : Header
  body : Bytes
  deriving DecidableEq

def DataFrame.Yields (unpack : Bytes → Option Obj) (f : DataFrame)
    (d : ConnId) (wire : Wire) : Prop :=
  ∃ mp dst payload, unpack f.body = some (.map mp) ∧
    mapGetStr mp (lit "dst_username") = some dst ∧
    extractPayloadBin (mapGetObj mp (lit "payload")) = some payload ∧
    wire = deliverWire f.header.seq payload f.sender.connId d
      f.sender.username dst

/-- Stages of a DATA frame whose critical section is still to come. -/
def Stage.unrouted : Stage → Bool
  | .data | .missed _ | .found _ _ | .routed _ _ => true
  | _ => false

section Stages

variable {sender : Identity} {seq : UInt32} {stage : Stage} {op : Op}

theorem Allows.unrouted_of_next (hallows : Allows sender seq stage op)
    (result : op.Res) (hnext : (stage.next op result).unrouted = true) :
    stage.unrouted = true := by
  cases hallows with
  | allowIp ip => cases result <;> cases hnext
  | authenticate un password wantAdmin => cases result <;> cases hnext
  | nameOf uid => cases result <;> cases hnext
  | update uid name newName password isAdmin =>
      cases result <;> cases hnext
  | delete uid name => cases result <;> cases hnext
  | manage operation hordinary =>
      rw [control_next_store] at hnext
      cases hnext
  | lookup dst => rfl
  | ask dst => rfl
  | remember dst uid => rfl
  | route dst uid payload => rfl
  | _ => cases hnext

end Stages

theorem Registry.recipients_nodup (cfg : Config) (isOpen : ConnId → Bool)
    {reg : Registry} {uid : Nat} (hnodup : (reg.deque uid).Nodup) :
    (reg.recipients cfg isOpen uid).2.Nodup := by
  unfold recipients
  cases hlookup : reg.userDeque.lookup uid with
  | none => exact List.nodup_nil
  | some dq =>
      rw [deque_of_lookup hlookup] at hnodup
      dsimp only
      split
      · exact List.nodup_nil
      · split
        · exact (hnodup.filter _).sublist (List.take_sublist _ _)
        · exact (show ∀ chosen : Option ConnId, chosen.toList.Nodup by
            intro chosen
            cases chosen <;> simp) _

theorem framesTo_each (c : ConnId) {recipients : List ConnId}
    (hnodup : recipients.Nodup) (frame : ConnId → Wire) :
    framesTo c (recipients.map (fun d => (d, Call.sendFrame (frame d)))) =
      if c ∈ recipients then [frame c] else [] := by
  induction recipients with
  | nil => rfl
  | cons d rest ih =>
      obtain ⟨hd, hrest⟩ := List.nodup_cons.mp hnodup
      have hsplit : framesTo c (List.map
          (fun d => (d, Call.sendFrame (frame d))) (d :: rest)) =
          framesTo c [(d, .sendFrame (frame d))] ++
            framesTo c (rest.map (fun d => (d, .sendFrame (frame d)))) := by
        rw [← framesTo_append]
        rfl
      rw [hsplit, ih hrest]
      by_cases hsame : c = d
      · subst hsame
        rw [Server.framesTo_singleton_self, if_neg hd,
          if_pos List.mem_cons_self]
        rfl
      · rw [Server.framesTo_singleton_ne _ hsame, List.nil_append]
        simp only [List.mem_cons, hsame, false_or]

namespace Server

variable {cfg : Config} {unpack : Bytes → Option Obj}

/-- The DATA frames of logged-in sessions, as their handlers start. -/
def dataFrames (s : Server) : Event → List DataFrame
  | .read c .resume =>
      match s.readers c with
      | .gotBody h body =>
          if (s.hub.identity c).loggedIn = true ∧ h.msgType = kClientData then
            [⟨s.hub.identity c, h, body⟩]
          else []
      | _ => []
  | _ => []

/-- The critical sections of a run up to now, each with the number of its
DATA frame among `seen`, and those in which each connection was passed a
DELIVER. -/
structure Attributed (unpack : Bytes → Option Obj) (seen : List DataFrame)
    (routed : List (Nat × DataFrame))
    (passedTo : ConnId → List (Nat × DataFrame)) (s : Server) : Prop where
  upward : Subsequence.Upward (fun entry => entry.2.sender.connId) Prod.fst
    routed
  numbered : ∀ entry ∈ routed, seen[entry.1]? = some entry.2
  part : ∀ d, (passedTo d).Sublist routed
  passed : ∀ d, List.Forall₂ (fun entry wire => entry.2.Yields unpack d wire)
    (passedTo d) ((framesTo d s.hub.calls).filter Wire.isDeliver)
  awaiting : s.Carries unpack (fun c q body _ => q.stage.unrouted = true →
    ∃ number, seen[number]? = some ⟨q.sender, q.header, body⟩ ∧
      ∀ entry ∈ routed, entry.2.sender.connId = c → entry.1 < number)

theorem attributed_initial (db : Db) :
    (initial db).Attributed unpack [] [] (fun _ => []) where
  upward := List.Pairwise.nil
  numbered := fun _ hentry => by cases hentry
  part := fun _ => List.Sublist.refl []
  passed := fun _ => .nil
  awaiting := carries_initial db _

section OneStep

variable {seen : List DataFrame} {routed : List (Nat × DataFrame)}
  {passedTo : ConnId → List (Nat × DataFrame)} {s s' : Server}

theorem getElem?_append_of_some {more : List DataFrame} {number : Nat}
    {f : DataFrame} (hf : seen[number]? = some f) :
    (seen ++ more)[number]? = some f := by
  obtain ⟨hlt, _⟩ := List.getElem?_eq_some_iff.mp hf
  rw [List.getElem?_append_left hlt]
  exact hf

/-- The number of a DATA frame whose handler has just started is above all
others. -/
theorem Attributed.start
    (hattributed : s.Attributed unpack seen routed passedTo) {c : ConnId}
    {h : Header} {body : Bytes} (hreader : s.readers c = .gotBody h body)
    (hunrouted : (Request.start unpack (s.hub.identity c) h
      body).stage.unrouted = true) :
    ∃ number, (seen ++ s.dataFrames (.read c .resume))[number]? =
        some ⟨s.hub.identity c, h, body⟩ ∧
      ∀ entry ∈ routed, entry.2.sender.connId = c → entry.1 < number := by
  have hopening := initialStage_opening unpack (s.hub.identity c) h body
  have hstage : (Request.start unpack (s.hub.identity c) h body).stage =
      initialStage unpack (s.hub.identity c) h body := rfl
  rw [hstage] at hunrouted
  generalize initialStage unpack (s.hub.identity c) h body = stage
    at hopening hunrouted
  cases hopening with
  | data htype hin =>
      have hframes : s.dataFrames (.read c .resume) =
          [⟨s.hub.identity c, h, body⟩] := by
        simp only [dataFrames, hreader]
        exact if_pos ⟨hin, htype⟩
      rw [hframes]
      refine ⟨seen.length, List.getElem?_concat_length, ?_⟩
      intro entry hentry _
      exact (List.getElem?_eq_some_iff.mp
        (hattributed.numbered entry hentry)).1
  | _ => cases hunrouted

theorem Attributed.step_quiet
    (hattributed : s.Attributed unpack seen routed passedTo) {event : Event}
    (hstep : s.step cfg unpack event = some s')
    (hpassed : ∀ d, (framesTo d s'.hub.calls).filter Wire.isDeliver =
      (framesTo d s.hub.calls).filter Wire.isDeliver) :
    s'.Attributed unpack (seen ++ s.dataFrames event) routed passedTo where
  upward := hattributed.upward
  numbered := by
    intro entry hentry
    exact getElem?_append_of_some (hattributed.numbered entry hentry)
  part := hattributed.part
  passed := by
    intro d
    rw [hpassed]
    exact hattributed.passed d
  awaiting := by
    refine carries_of_step hattributed.awaiting hstep ?_ ?_ ?_
    · intro c q body learned _ _ hfact hunrouted
      obtain ⟨number, hnumber, hlast⟩ := hfact hunrouted
      exact ⟨number, getElem?_append_of_some hnumber, hlast⟩
    · intro c h body hevent hreader hunrouted
      rw [hevent]
      exact hattributed.start hreader hunrouted
    · intro c env q q' body learned op hevent hreader hop _ hsender hheader
        hstage _ hfact hunrouted
      rw [hstage] at hunrouted
      obtain ⟨number, hnumber, hlast⟩ := hfact
        ((Request.allows_of_nextOp hop).unrouted_of_next _ hunrouted)
      refine ⟨number, ?_, hlast⟩
      rw [hsender, hheader]
      exact getElem?_append_of_some hnumber

theorem Attributed.step_route (hsane : s.Sane) (hlisted : s.Listed cfg)
    (hattributed : s.Attributed unpack seen routed passedTo) {c : ConnId}
    {env : Env} {q : Request} {dst payload : Bytes} {uid : Nat}
    (hreader : s.readers c = .handling q)
    (hop : q.nextOp = some (.lock (.deliver q.sender.username
      q.sender.connId dst uid payload q.header.seq)))
    (hstage : q.stage = .routed dst uid)
    (hstep : s.step cfg unpack (.advance c env) = some s')
    (hcalls : s'.hub.calls = s.hub.calls ++ (Op.lock (.deliver
      q.sender.username q.sender.connId dst uid payload
      q.header.seq)).calls cfg env s.hub) :
    ∃ routed' passedTo', s'.Attributed unpack seen routed' passedTo' := by
  obtain ⟨body, learned, hasks, hfact⟩ := hattributed.awaiting.asks hreader hop
  obtain ⟨number, hnumber, hlast⟩ := hfact (by rw [hstage]; rfl)
  have hconn : q.sender.connId = c := (hsane.fits c q hreader).1
  have hnodup : (s.hub.reg.recipients cfg s.hub.isOpen uid).2.Nodup :=
    Registry.recipients_nodup cfg s.hub.isOpen
      ((hlisted.ordered uid).nodup hlisted.loginsNodup)
  have hframes := fun d => framesTo_each d hnodup (fun e =>
    deliverWire q.header.seq payload q.sender.connId e q.sender.username dst)
  refine ⟨routed ++ [(number, ⟨q.sender, q.header, body⟩)], fun d =>
    if d ∈ (s.hub.reg.recipients cfg s.hub.isOpen uid).2 then
      passedTo d ++ [(number, ⟨q.sender, q.header, body⟩)]
    else passedTo d, ?_, ?_, ?_, ?_, ?_⟩
  · apply hattributed.upward.concat
    intro entry hentry hsame
    exact hlast entry hentry (hsame.trans hconn)
  · intro entry hentry
    rcases List.mem_append.mp hentry with hold | hnew
    · exact hattributed.numbered entry hold
    · rw [List.mem_singleton] at hnew
      subst hnew
      exact hnumber
  · intro d
    split
    · exact (hattributed.part d).append (List.Sublist.refl _)
    · exact (hattributed.part d).trans (List.sublist_append_left _ _)
  · intro d
    have hnew : framesTo d ((Op.lock (.deliver q.sender.username
        q.sender.connId dst uid payload q.header.seq)).calls cfg env s.hub) =
        if d ∈ (s.hub.reg.recipients cfg s.hub.isOpen uid).2 then
          [deliverWire q.header.seq payload q.sender.connId d
            q.sender.username dst]
        else [] := hframes d
    rw [hcalls, framesTo_append, List.filter_append]
    by_cases hmem : d ∈ (s.hub.reg.recipients cfg s.hub.isOpen uid).2
    · rw [if_pos hmem] at hnew
      rw [if_pos hmem, hnew]
      apply List.rel_append (hattributed.passed d)
      have hcall : (d, Call.sendFrame (deliverWire q.header.seq payload
          q.sender.connId d q.sender.username dst)) ∈
          (Op.lock (.deliver q.sender.username q.sender.connId dst uid
            payload q.header.seq)).calls cfg env s.hub := by
        rw [← mem_framesTo, hnew]
        exact List.mem_singleton.mpr rfl
      obtain ⟨mp, dst', payload', hyields⟩ := AsksFrame.deliver hasks hcall rfl
      exact .cons ⟨mp, dst', payload', hyields⟩ .nil
    · rw [if_neg hmem] at hnew
      rw [if_neg hmem, hnew, List.filter_nil, List.append_nil]
      exact hattributed.passed d
  · refine carries_of_step hattributed.awaiting hstep ?_ ?_ ?_
    · intro e q' body' learned' _ hother hfact' hunrouted
      obtain ⟨number', hnumber', hlast'⟩ := hfact' hunrouted
      refine ⟨number', hnumber', ?_⟩
      intro entry hentry hsender
      rcases List.mem_append.mp hentry with hold | hnew
      · exact hlast' entry hold hsender
      · rw [List.mem_singleton] at hnew
        subst hnew
        rw [hconn] at hsender
        subst hsender
        exact absurd rfl (hother env)
    · intro e h body' hevent
      cases hevent
    · intro e env' q₁ q' body' learned' op hevent hreader₁ hop₁ _ _ _ hstage' _
        _ hunrouted
      cases hevent
      rw [hreader] at hreader₁
      cases hreader₁
      rw [hop] at hop₁
      cases hop₁
      rw [hstage', Request.stageAfter, hstage] at hunrouted
      cases hunrouted

theorem attributed_of_step (hsane : s.Sane) (hlisted : s.Listed cfg)
    (hattributed : s.Attributed unpack seen routed passedTo) {event : Event}
    (hstep : s.step cfg unpack event = some s') :
    ∃ routed' passedTo', s'.Attributed unpack (seen ++ s.dataFrames event)
      routed' passedTo' := by
  rcases calls_of_step hstep with hsame | ⟨c, made, hmade, hcalls⟩ |
    ⟨c, env, q, op, rfl, hreader, hop, hallows, _, hcalls⟩
  · exact ⟨routed, passedTo,
      hattributed.step_quiet hstep (fun d => by rw [hsame])⟩
  · refine ⟨routed, passedTo, hattributed.step_quiet hstep ?_⟩
    intro d
    have hnone : framesTo d [(c, made)] = [] := by
      rw [List.eq_nil_iff_forall_not_mem]
      intro frame hframe
      rw [mem_framesTo, List.mem_singleton, Prod.mk.injEq] at hframe
      rcases hmade with ⟨why, rfl⟩ | ⟨userReason, logWhy, rfl⟩
      · cases hframe.2
      · cases hframe.2
    rw [hcalls, framesTo_append, hnone, List.append_nil]
  · by_cases hroute : ∃ dst uid payload, q.stage = .routed dst uid ∧
        op = .lock (.deliver q.sender.username q.sender.connId dst uid
          payload q.header.seq)
    · obtain ⟨dst, uid, payload, hstage, rfl⟩ := hroute
      have hnone : s.dataFrames (.advance c env) = [] := rfl
      rw [hnone, List.append_nil]
      exact hattributed.step_route hsane hlisted hreader hop hstage hstep
        hcalls
    · refine ⟨routed, passedTo, hattributed.step_quiet hstep ?_⟩
      intro d
      have hnone : (framesTo d (op.calls cfg env s.hub)).filter
          Wire.isDeliver = [] := by
        rw [List.filter_eq_nil_iff]
        intro frame hframe hdeliver
        rw [mem_framesTo] at hframe
        obtain ⟨dst, uid, payload, hstage, heq, _⟩ := deliver_of_calls hallows
          hframe rfl (of_decide_eq_true hdeliver)
        exact hroute ⟨dst, uid, payload, hstage, heq⟩
      rw [hcalls, framesTo_append, List.filter_append, hnone,
        List.append_nil]

end OneStep

/-! ## Runs -/

/-- The DELIVER frames the connections have received, each attributed to a
DATA frame by `origin`: no connection receives two for one DATA frame, those
for one sender's frames come in the order of the frames, and two connections
receive what both receive in the same order. -/
structure DeliveredInOrder (unpack : Bytes → Option Obj)
    (frames : List DataFrame) (received : ConnId → List Wire)
    (origin : ConnId → List (Nat × DataFrame)) : Prop where
  numbered : ∀ d, ∀ entry ∈ origin d, frames[entry.1]? = some entry.2
  stems : ∀ d, List.Forall₂
    (fun entry wire => entry.2.Yields unpack d wire) (origin d)
    ((received d).filter Wire.isDeliver)
  once : ∀ d, ((origin d).map Prod.fst).Nodup
  sendOrder : ∀ d, (origin d).Pairwise (fun earlier later =>
    earlier.2.sender.connId = later.2.sender.connId → earlier.1 < later.1)
  agree : ∀ d e,
    (origin d).filter (fun entry => entry ∈ origin e) =
      (origin e).filter (fun entry => entry ∈ origin d)

theorem deliveries_in_order (cfg : Config) (unpack : Bytes → Option Obj)
    (db : Db) (events : List Event) (s : Server)
    (hgood : Transition.Along (step cfg unpack) NoWriteError events
      (initial db))
    (hrun : Transition.run (step cfg unpack) events (initial db) = some s) :
    ∃ received origin,
      (∀ d, Received (s.hub.sessions d).output (received d)) ∧
      DeliveredInOrder unpack
        (Transition.observe (step cfg unpack) dataFrames events (initial db))
        received origin := by
  have hinline : ∀ d, InLine (s.hub.sessions d) (framesTo d s.hub.calls) := by
    refine Transition.run_preserves
      (fun s => ∀ d, InLine (s.hub.sessions d) (framesTo d s.hub.calls))
      ?_ (fun _ => inLine_fresh _ _) hgood hrun
    intro s event s' hbefore hgood hstep d
    exact inLine_of_step hgood hstep (hbefore d)
  obtain ⟨-, -, routed, passedTo, hattributed⟩ : s.Sane ∧ s.Listed cfg ∧
      ∃ routed passedTo, s.Attributed unpack
        (Transition.observe (step cfg unpack) dataFrames events (initial db))
        routed passedTo := by
    have hinitial : (initial db).Sane ∧ (initial db).Listed cfg ∧
        ∃ routed passedTo, (initial db).Attributed unpack [] routed
          passedTo :=
      ⟨sane_initial db, listed_initial db, [], fun _ => [],
        attributed_initial db⟩
    refine Transition.observe_preserves (fun seen s => s.Sane ∧
      s.Listed cfg ∧ ∃ routed passedTo,
        s.Attributed unpack seen routed passedTo) ?_ hinitial hrun
    rintro seen s event s' ⟨hsane, hlisted, routed, passedTo, hattributed⟩
      hstep
    exact ⟨hsane.step hstep, hlisted.step hsane hstep,
      attributed_of_step hsane hlisted hattributed hstep⟩
  choose received hreceived hpart using fun d => (hinline d).received
  choose origin horigin hstems using fun d =>
    Subsequence.exists_sublist_forall₂ (hattributed.passed d) (hpart d)
  have hwhole := fun d => (horigin d).trans (hattributed.part d)
  refine ⟨received, origin, hreceived, ?_, hstems, ?_, ?_, ?_⟩
  · intro d entry hentry
    exact hattributed.numbered entry ((hwhole d).subset hentry)
  · intro d
    apply List.Nodup.map_on ?_ (hattributed.upward.nodup.sublist (hwhole d))
    intro entry hentry other hother hsame
    have hframe := hattributed.numbered entry ((hwhole d).subset hentry)
    rw [hsame, hattributed.numbered other ((hwhole d).subset hother)] at hframe
    exact Prod.ext hsame (Option.some.inj hframe).symm
  · intro d
    exact hattributed.upward.sublist (hwhole d)
  · intro d e
    exact Subsequence.agree_of_sublist (hwhole d) (hwhole e)
      hattributed.upward.nodup

/-- Whatever is posted on the strand runs, and `count` frames are written. -/
def writes (c : ConnId) (posted count : Nat) : List Event :=
  List.replicate posted (.io c .runHandler) ++
    (List.replicate count [Event.io c (.transmit 0 1000),
      .io c (.writeDone 0), .io c .runHandler]).flatten

/-- Sessions 1 and 2 are logged in as `root`; session 1 sends two messages
to the account, and both sessions write what they were passed. -/
def twoMessagesRun : List Event :=
  rootLogin ++ [.accept (lit "10.0.0.1")] ++
    receive 2 kClientLogin 1 (loginBody (lit "root") (lit "pw") (lit "admin"))
    ++ advances 2 6 ++
    receive 1 kClientData 2 (dataBody (lit "root")) ++ advances 1 4 ++
    receive 1 kClientData 3 (dataBody (lit "root")) ++ advances 1 4 ++
    writes 1 5 5 ++ writes 2 3 3

theorem deliveries_in_order_twoMessagesRun :
    ∃ s, Transition.run (step forwarderJson unpackFlat) twoMessagesRun
        (initial emptyDb) = some s ∧
      (s.hub.sessions 2).output = wireBytes (framesTo 2 s.hub.calls) ∧
      ((framesTo 2 s.hub.calls).filter Wire.isDeliver).map Wire.seq =
        [2, 3] ∧
      ∃ received origin,
        (∀ d, Received (s.hub.sessions d).output (received d)) ∧
        DeliveredInOrder unpackFlat
          (Transition.observe (step forwarderJson unpackFlat) dataFrames
            twoMessagesRun (initial emptyDb)) received origin := by
  obtain ⟨s, hrun, houtput, hseqs⟩ : ∃ s,
      Transition.run (step forwarderJson unpackFlat) twoMessagesRun
        (initial emptyDb) = some s ∧
      (s.hub.sessions 2).output = wireBytes (framesTo 2 s.hub.calls) ∧
      ((framesTo 2 s.hub.calls).filter Wire.isDeliver).map Wire.seq =
        [2, 3] :=
    Transition.exists_run_of_check (by decide +kernel)
  exact ⟨s, hrun, houtput, hseqs,
    deliveries_in_order forwarderJson unpackFlat emptyDb twoMessagesRun s
      (Transition.along_of_check (by decide +kernel)) hrun⟩

end Server

end AsioForwarder
