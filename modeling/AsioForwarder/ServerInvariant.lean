import AsioForwarder.Server
import AsioForwarder.StoreEffects

/-!
# What every reachable server satisfies

A read loop handles one frame at a time, so what a frame handler knows about
its own session stays true while it runs: `Stage.Fits` says what that is at
each stage.  `Sane` collects it for all read loops, together with the fact
that conn ids beyond the counter are unused.  The lemmas at the end say what
a step does to the login fields of a session and to the deque of an account.
-/

namespace AsioForwarder

open Interaction

/-! ## Login fields -/

theorem LockOp.markLogin_not_mem_calls (cfg : Config) (env : Env)
    (isOpen : ConnId → Bool) (reg : Registry) (operation : LockOp)
    (hlogin : ∀ self un uinfo wantMode,
      operation ≠ .login self un uinfo wantMode)
    (c : ConnId) (uid : Nat) (isAdmin : Bool) (username : Bytes) :
    (c, Call.markLogin uid isAdmin username) ∉
      (operation.exec cfg env isOpen reg).2.1 := by
  cases operation with
  | login self un uinfo wantMode =>
      exact absurd rfl (hlogin self un uinfo wantMode)
  | deliver srcUsername srcConn dstUsername dstUid payload seq =>
      simp [LockOp.exec]
  | _ => simp [LockOp.exec]

theorem Op.markLogin_not_mem_calls (cfg : Config) (env : Env) (hub : Hub)
    {op : Op}
    (hlogin : ∀ self un uinfo wantMode,
      op ≠ .lock (.login self un uinfo wantMode))
    (hmark : ∀ d uid isAdmin username,
      op ≠ .call d (.markLogin uid isAdmin username))
    (c : ConnId) (uid : Nat) (isAdmin : Bool) (username : Bytes) :
    (c, Call.markLogin uid isAdmin username) ∉ op.calls cfg env hub := by
  intro hmem
  cases op with
  | store operation => simp [Op.calls] at hmem
  | lock operation =>
      refine LockOp.markLogin_not_mem_calls cfg env hub.isOpen hub.reg
        operation ?_ c uid isAdmin username hmem
      intro self un uinfo wantMode hop
      exact hlogin self un uinfo wantMode (congrArg Op.lock hop)
  | call d made =>
      simp only [Op.calls, List.mem_singleton, Prod.mk.injEq] at hmem
      exact hmark d uid isAdmin username (by rw [hmem.2])
  | clientIp d => simp [Op.calls] at hmem

theorem Op.exec_identity (cfg : Config) (env : Env) (hub : Hub) (op : Op)
    (c : ConnId)
    (hmark : ∀ uid isAdmin username,
      (c, Call.markLogin uid isAdmin username) ∉ op.calls cfg env hub) :
    (op.exec cfg env hub).1.identity c = hub.identity c := by
  unfold Hub.identity
  rw [Op.exec_sessions]
  refine foldl_apply_identity c _ ?_
  intro uid isAdmin username hmem
  exact hmark uid isAdmin username (Hub.mem_callsOn.mp hmem)

theorem Op.exec_login_identity (cfg : Config) (env : Env) (hub : Hub)
    (self : ConnId) (un : Bytes) (uinfo : UserInfo) (wantMode : RecvMode) :
    ((Op.lock (.login self un uinfo wantMode)).exec cfg env hub).1.identity
      self = ⟨self, true, uinfo.id, uinfo.isAdmin, un⟩ := by
  simp [Op.exec, LockOp.exec, Hub.callAll, Hub.call, Hub.identity,
    TcpSession.identity, Call.apply, TcpSession.markLogin]

theorem Op.exec_login_identity_ne (cfg : Config) (env : Env) (hub : Hub)
    (un : Bytes) (uinfo : UserInfo) (wantMode : RecvMode)
    {self c : ConnId} (hne : c ≠ self) :
    ((Op.lock (.login self un uinfo wantMode)).exec cfg env hub).1.identity
      c = hub.identity c := by
  simp [Op.exec, LockOp.exec, Hub.callAll, Hub.call, Hub.identity, hne]

theorem Allows.login_or {sender : Identity} {seq : UInt32} {stage : Stage}
    {op : Op} (hallows : Allows sender seq stage op) :
    (∃ un info wantMode, stage = .authed un info ∧
      op = .lock (.login sender.connId un info wantMode)) ∨
    (∀ self un info wantMode, op ≠ .lock (.login self un info wantMode)) ∧
      ∀ cfg env hub c uid isAdmin username,
        (c, Call.markLogin uid isAdmin username) ∉ op.calls cfg env hub := by
  by_cases hlogin : ∃ self un info wantMode,
      op = .lock (.login self un info wantMode)
  · obtain ⟨self, un, info, wantMode, rfl⟩ := hlogin
    cases hallows with
    | register _ _ _ => exact .inl ⟨un, info, wantMode, rfl, rfl⟩
  · have hnot : ∀ self un info wantMode,
        op ≠ .lock (.login self un info wantMode) := by
      intro self un info wantMode hop
      exact hlogin ⟨self, un, info, wantMode, hop⟩
    refine .inr ⟨hnot, fun cfg env hub =>
      Op.markLogin_not_mem_calls cfg env hub hnot ?_⟩
    intro d uid isAdmin username hop
    subst hop
    cases hallows

/-! ## Stages and the session they belong to -/

/-- What a stage says about the session: `sender` was read when the frame
arrived, `self` is what the session says now. -/
def Stage.Fits (sender self : Identity) : Stage → Prop
  | .login | .addressed _ | .admitted | .authed _ _ =>
      self = sender ∧ self.loggedIn = false
  | .welcoming uid _ => self.loggedIn = true ∧ self.userId = uid
  | .data | .missed _ | .found _ _ | .routed _ _ =>
      self = sender ∧ self.loggedIn = true
  | .control | .kicking _ | .maintenance | .named _ _ | .renamed _ _ _
  | .purging _ _ _ | .forgotten _ _ | .deleted _ =>
      self = sender ∧ self.loggedIn = true ∧ self.isAdmin = true
  | .answering | .done => True

theorem Opening.fits {sender : Identity} {h : Header} {stage : Stage}
    (hopening : Opening sender h stage) : stage.Fits sender sender := by
  cases hopening with
  | login htype hout => exact ⟨rfl, hout⟩
  | data htype hin => exact ⟨rfl, hin⟩
  | control htype hin hadmin => exact ⟨rfl, hin, hadmin⟩
  | maintenance htype hin hadmin => exact ⟨rfl, hin, hadmin⟩
  | answering => trivial

@[simp] theorem Stage.next_sendFrame (stage : Stage) (c : ConnId)
    (wire : Wire) (result : Unit) :
    stage.next (.call c (.sendFrame wire)) result = .done := by
  cases stage <;> rfl

theorem Stage.Fits.next {sender self : Identity} {seq : UInt32}
    {stage : Stage} {op : Op} (hallows : Allows sender seq stage op)
    (hfits : stage.Fits sender self)
    (hlogin : ∀ un info wantMode,
      op ≠ .lock (.login sender.connId un info wantMode))
    (result : op.Res) : (stage.next op result).Fits sender self := by
  cases hallows with
  | address => exact hfits
  | allowIp ip =>
      cases result with
      | false => trivial
      | true => exact hfits
  | authenticate un password wantAdmin =>
      cases result with
      | error e => trivial
      | ok info => exact hfits
  | register un info wantMode => exact absurd rfl (hlogin un info wantMode)
  | evict uid victim todo userReason logWhy => exact hfits
  | welcome uid self lok => trivial
  | lookup dst =>
      cases result with
      | none => exact hfits
      | some uid => exact hfits
  | ask dst =>
      cases result with
      | none => trivial
      | some uid => exact hfits
  | remember dst uid => exact hfits
  | route dst uid payload => trivial
  | list => trivial
  | snapshot uid => exact hfits
  | kick victim todo userReason logWhy => exact hfits
  | manage operation hordinary =>
      rw [control_next_store]
      exact hfits
  | nameOf uid =>
      cases result with
      | error e => trivial
      | ok name => exact hfits
  | update uid name newName password isAdmin =>
      cases result with
      | none => exact hfits
      | some err => trivial
  | rename uid oldName newName => trivial
  | condemn uid name => exact hfits
  | purge uid name victim todo userReason logWhy => exact hfits
  | forget uid name => exact hfits
  | delete uid name =>
      cases result with
      | none => exact hfits
      | some err => trivial
  | confirm uid => trivial
  | reply _ hstage wire htype hseq =>
      rw [Stage.next_sendFrame]
      trivial
  | refuse why => trivial

/-- The type of the frames which can be at a stage; the last two stages are
common to all. -/
def Stage.msgType : Stage → Option UInt32
  | .login | .addressed _ | .admitted | .authed _ _ | .welcoming _ _ =>
      some kClientLogin
  | .data | .missed _ | .found _ _ | .routed _ _ => some kClientData
  | .control | .kicking _ | .maintenance | .named _ _ | .renamed _ _ _
  | .purging _ _ _ | .forgotten _ _ | .deleted _ => some kClientControl
  | .answering | .done => none

theorem Opening.msgType {sender : Identity} {h : Header} {stage : Stage}
    (hopening : Opening sender h stage) {mtype : UInt32}
    (hstage : stage.msgType = some mtype) : h.msgType = mtype := by
  cases hopening with
  | login htype => exact htype.trans (Option.some.inj hstage)
  | data htype => exact htype.trans (Option.some.inj hstage)
  | control htype => exact htype.trans (Option.some.inj hstage)
  | maintenance htype => exact htype.trans (Option.some.inj hstage)
  | answering => cases hstage

theorem Opening.ne_authed {sender : Identity} {h : Header} {stage : Stage}
    (hopening : Opening sender h stage) {un : Bytes} {info : UserInfo} :
    stage ≠ .authed un info := by
  rintro rfl
  cases hopening

theorem Stage.msgType_of_next {sender : Identity} {seq : UInt32}
    {stage : Stage} {op : Op} (hallows : Allows sender seq stage op)
    {result : op.Res} {mtype : UInt32}
    (hnext : (stage.next op result).msgType = some mtype) :
    stage.msgType = some mtype := by
  cases hallows with
  | allowIp ip => cases result <;> first | exact hnext | cases hnext
  | authenticate un password wantAdmin =>
      cases result <;> first | exact hnext | cases hnext
  | lookup dst => cases result <;> exact hnext
  | ask dst => cases result <;> first | exact hnext | cases hnext
  | manage operation hordinary =>
      rw [control_next_store] at hnext
      exact hnext
  | nameOf uid => cases result <;> first | exact hnext | cases hnext
  | update uid name newName password isAdmin =>
      cases result <;> first | exact hnext | cases hnext
  | delete uid name => cases result <;> first | exact hnext | cases hnext
  | reply _ hstage wire htype hseq =>
      rw [Stage.next_sendFrame] at hnext
      cases hnext
  | _ => first | exact hnext | cases hnext

def Op.isAnswer (c : ConnId) : Op → Bool
  | .call d (.sendFrame _) => d = c
  | .call d (.stop _) => d = c
  | _ => false

theorem Allows.msgType_isSome {sender : Identity} {seq : UInt32}
    {stage : Stage} {op : Op} (hallows : Allows sender seq stage op)
    (hanswer : op.isAnswer sender.connId = false) :
    ∃ mtype, stage.msgType = some mtype := by
  cases hallows with
  | reply _ hstage wire htype hseq => simp [Op.isAnswer] at hanswer
  | refuse why => simp [Op.isAnswer] at hanswer
  | _ => exact ⟨_, rfl⟩

theorem Stage.Fits.admin {sender self : Identity} {stage : Stage}
    (hfits : stage.Fits sender self)
    (htype : stage.msgType = some kClientControl) :
    self = sender ∧ self.loggedIn = true ∧ self.isAdmin = true := by
  cases stage <;> first
    | exact hfits
    | simp [Stage.msgType, kClientLogin, kClientData, kClientControl] at htype

namespace Server

variable {cfg : Config} {unpack : Bytes → Option Obj}

/-- Read loops handle frames of their own session at a fitting stage, and
conn ids which have not been handed out are unused. -/
structure Sane (s : Server) : Prop where
  fits : ∀ c q, s.readers c = .handling q →
    q.sender.connId = c ∧ q.stage.Fits q.sender (s.hub.identity c)
  typed : ∀ c q, s.readers c = .handling q →
    ∀ mtype, q.stage.msgType = some mtype → q.header.msgType = mtype
  fresh : ∀ c, s.hub.reg.nextConnId < c →
    s.readers c = .notAccepted ∧ (s.hub.sessions c).loggedIn = false

theorem sane_initial (db : Db) : (initial db).Sane where
  fits := by
    intro c q hreader
    cases hreader
  typed := by
    intro c q hreader
    cases hreader
  fresh := fun _ _ => ⟨rfl, rfl⟩

/-! ## What a step does to the login fields -/

/-- The step is the registration of a login by `c`. -/
def Registers (s : Server) (event : Event) (c : ConnId) (un : Bytes)
    (info : UserInfo) (wantMode : RecvMode) : Prop :=
  ∃ env q, event = .advance c env ∧ s.readers c = .handling q ∧
    q.stage = .authed un info ∧
    q.nextOp = some (.lock (.login c un info wantMode))

theorem hub_of_registers {s s' : Server} {event : Event} {c : ConnId}
    {un : Bytes} {info : UserInfo} {wantMode : RecvMode}
    (hstep : s.step cfg unpack event = some s')
    (hregisters : s.Registers event c un info wantMode) :
    ∃ env, s'.hub =
      ((Op.lock (.login c un info wantMode)).exec cfg env s.hub).1 := by
  obtain ⟨env, q, rfl, hreader, hauthed, hop⟩ := hregisters
  obtain ⟨q', _, _, rfl⟩ := perform_of_nextOp hstep hreader hop
  exact ⟨env, rfl⟩

theorem registers_or_not {s s' : Server} {event : Event} (hsane : s.Sane)
    (hstep : s.step cfg unpack event = some s') :
    (∃ c un info wantMode, s.Registers event c un info wantMode) ∨
    ∃ new, s'.hub.calls = s.hub.calls ++ new ∧
      ∀ c uid isAdmin username,
        (c, Call.markLogin uid isAdmin username) ∉ new := by
  cases stepped_of_step hstep with
  | give c event made hreader hkind =>
      refine .inr ⟨[(c, made)], rfl, ?_⟩
      rintro d uid isAdmin username hmem
      rcases hkind with ⟨why, rfl⟩ | ⟨userReason, logWhy, rfl⟩ <;>
        simp at hmem
  | perform c env q q' op hreader hop hallows hsender hheader hstage =>
      rcases hallows.login_or with
        ⟨un, info, wantMode, hauthed, rfl⟩ | ⟨_, hmark⟩
      · rw [(hsane.fits c q hreader).1] at hop
        exact .inl ⟨c, un, info, wantMode, env, q, rfl, hreader, hauthed,
          hop⟩
      · exact .inr ⟨_, Op.exec_calls cfg env s.hub op,
          hmark cfg env s.hub⟩
  | heartbeatTimeout c hlogged hopen =>
      exact .inr ⟨[(c, heartbeatCall)], rfl, by simp [heartbeatCall]⟩
  | _ => exact .inr ⟨[], (List.append_nil _).symm, by simp⟩

/-- The login fields of a session change when its conn id is handed out and
when its own LOGIN frame registers it. -/
theorem identity_of_step {s s' : Server} {event : Event} (hsane : s.Sane)
    (hstep : s.step cfg unpack event = some s') (c : ConnId) :
    s'.hub.identity c = s.hub.identity c ∨
    (c = s.hub.reg.nextConnId + 1 ∧
      s'.hub.identity c = ({} : TcpSession).identity c) ∨
    (∃ un info wantMode, s.Registers event c un info wantMode ∧
      s'.hub.identity c = ⟨c, true, info.id, info.isAdmin, un⟩) := by
  cases stepped_of_step hstep with
  | accept peerIp =>
      by_cases hnew : c = s.hub.reg.nextConnId + 1
      · subst hnew
        refine .inr (.inl ⟨rfl, ?_⟩)
        simp [Hub.accept, Hub.identity, TcpSession.identity]
      · left
        simp [Hub.accept, Hub.identity, hnew]
  | move d event loop loop' hreader hmoved => exact .inl rfl
  | give d event made hreader hkind =>
      left
      by_cases hsame : c = d
      · subst hsame
        unfold Hub.identity
        rw [setReader_hub, Hub.call_sessions_self]
        refine Call.apply_identity c _ ?_
        intro uid isAdmin username hmade
        rcases hkind with ⟨why, rfl⟩ | ⟨userReason, logWhy, rfl⟩ <;>
          cases hmade
      · unfold Hub.identity
        rw [setReader_hub, Hub.call_sessions_ne _ _ hsame]
  | finish d env q hreader hdone => exact .inl rfl
  | perform d env q q' op hreader hop hallows hsender hheader hstage =>
      rcases hallows.login_or with
        ⟨un, info, wantMode, hauthed, rfl⟩ | ⟨_, hmark⟩
      · have hconn := (hsane.fits d q hreader).1
        rw [hconn] at hop
        by_cases hsame : c = d
        · subst hsame
          refine .inr (.inr ⟨un, info, wantMode,
            ⟨env, q, rfl, hreader, hauthed, hop⟩, ?_⟩)
          rw [setReader_hub, hconn]
          exact Op.exec_login_identity cfg env s.hub c un info wantMode
        · left
          rw [setReader_hub, hconn]
          exact Op.exec_login_identity_ne cfg env s.hub un info wantMode hsame
      · exact .inl (Op.exec_identity cfg env s.hub op c
          (hmark cfg env s.hub c))
  | removeSession d hreader => exact .inl rfl
  | closeSocket d hreader =>
      left
      by_cases hsame : c = d
      · subst hsame
        simp [Hub.closeSocket, Hub.setSession, Hub.identity,
          TcpSession.closeSocket, TcpSession.identity]
      · simp [Hub.closeSocket, Hub.setSession, Hub.identity, hsame]
  | io d event session hio =>
      left
      by_cases hsame : c = d
      · subst hsame
        have hkept := TcpSession.ioStep_identity c hio
        simpa [Hub.setSession, Hub.identity] using hkept
      · simp [Hub.setSession, Hub.identity, hsame]
  | heartbeatTimeout d hlogged hopen =>
      left
      by_cases hsame : c = d
      · subst hsame
        unfold Hub.identity
        dsimp only
        rw [Hub.call_sessions_self]
        refine Call.apply_identity c _ ?_
        intro uid isAdmin username hmade
        cases hmade
      · unfold Hub.identity
        dsimp only
        rw [Hub.call_sessions_ne _ _ hsame]
  | snapshotStats => exact .inl rfl

theorem identity_stable {s s' : Server} {event : Event} (hsane : s.Sane)
    (hstep : s.step cfg unpack event = some s') {c : ConnId}
    (hlogged : (s.hub.sessions c).loggedIn = true) :
    s'.hub.identity c = s.hub.identity c := by
  rcases identity_of_step hsane hstep c with hkept | ⟨hnew, _⟩ |
    ⟨un, info, wantMode, ⟨env, q, _, hreader, hauthed, _⟩, _⟩
  · exact hkept
  · have hfresh := (hsane.fresh c (hnew ▸ Nat.lt_succ_self _)).2
    rw [hfresh] at hlogged
    cases hlogged
  · have hfits := (hsane.fits c q hreader).2
    rw [hauthed] at hfits
    have hout : (s.hub.sessions c).loggedIn = false := hfits.2
    rw [hout] at hlogged
    cases hlogged

/-! ## Conn ids -/

theorem exec_connections (env : Env) (hub : Hub) (op : Op) :
    (op.exec cfg env hub).1.reg.nextConnId = hub.reg.nextConnId ∧
      (op.exec cfg env hub).1.reg.byId = hub.reg.byId := by
  cases op with
  | lock operation =>
      rw [Op.exec_lock_reg]
      cases operation with
      | login self un uinfo wantMode =>
          exact hub.reg.login_connections cfg self un uinfo.id wantMode
      | deliver srcUsername srcConn dstUsername dstUid payload seq =>
          obtain ⟨_, hshape⟩ :=
            hub.reg.recipients_shape cfg hub.isOpen dstUid
          simp only [LockOp.exec, hshape]
          exact ⟨trivial, trivial⟩
      | _ => exact ⟨rfl, rfl⟩
  | _ => exact ⟨rfl, rfl⟩

theorem nextConnId_of_step {s s' : Server} {event : Event}
    (hstep : s.step cfg unpack event = some s') :
    s'.hub.reg.nextConnId = s.hub.reg.nextConnId ∨
    (∃ peerIp, event = .accept peerIp) ∧
      s'.hub.reg.nextConnId = s.hub.reg.nextConnId + 1 := by
  cases stepped_of_step hstep with
  | accept peerIp => exact .inr ⟨⟨peerIp, rfl⟩, rfl⟩
  | perform d env q q' op hreader hop hallows hsender hheader hstage =>
      exact .inl (exec_connections env s.hub op).1
  | removeSession d hreader =>
      exact .inl (Registry.removeSession_nextConnId _ _ _ _)
  | _ => exact .inl rfl

theorem notAccepted_of_step {s s' : Server} {event : Event}
    (hstep : s.step cfg unpack event = some s') {c : ConnId}
    (hnot : s.readers c = .notAccepted)
    (hlt : s'.hub.reg.nextConnId < c) :
    s'.readers c = .notAccepted := by
  have hother : ∀ (d : ConnId) (t : Server) (loop : ReadLoop),
      t.readers = s.readers → s.readers d ≠ .notAccepted →
      (t.setReader d loop).readers c = .notAccepted := by
    intro d t loop ht hd
    rw [setReader_ne, ht, hnot]
    rintro rfl
    exact hd hnot
  cases stepped_of_step hstep with
  | accept peerIp =>
      have hne : c ≠ s.hub.reg.nextConnId + 1 := Nat.ne_of_gt hlt
      rwa [setReader_ne _ _ hne]
  | move d event loop loop' hreader hmoved =>
      refine hother d s loop' rfl ?_
      rw [hreader]
      cases hmoved <;> simp
  | give d event made hreader hkind =>
      refine hother d _ _ rfl ?_
      rcases hreader with hreader | ⟨h, hreader⟩ <;> simp [hreader]
  | finish d env q hreader hdone =>
      exact hother d _ _ rfl (by simp [hreader])
  | perform d env q q' op hreader hop hallows hsender hheader hstage =>
      exact hother d _ _ rfl (by simp [hreader])
  | removeSession d hreader => exact hother d _ _ rfl (by simp [hreader])
  | closeSocket d hreader => exact hother d _ _ rfl (by simp [hreader])
  | io d event session hio => exact hnot
  | heartbeatTimeout d hlogged hopen => exact hnot
  | snapshotStats => exact hnot

/-! ## Requests before and after a step -/

theorem request_of_step {s s' : Server} {event : Event}
    (hstep : s.step cfg unpack event = some s') {c : ConnId} {q' : Request}
    (hreader' : s'.readers c = .handling q') :
    (s.readers c = .handling q' ∧ ∀ env, event ≠ .advance c env) ∨
    (∃ h body, event = .read c .resume ∧ s.readers c = .gotBody h body ∧
      q' = Request.start unpack (s.hub.identity c) h body ∧
      s'.hub = s.hub) ∨
    (∃ env q op, event = .advance c env ∧ s.readers c = .handling q ∧
      q.nextOp = some op ∧ Allows q.sender q.header.seq q.stage op ∧
      q'.sender = q.sender ∧ q'.header = q.header ∧
      q'.stage = q.stageAfter cfg env s.hub op ∧
      s'.hub = (op.exec cfg env s.hub).1) := by
  have hother : ∀ (d : ConnId) (t : Server) (loop : ReadLoop),
      t.readers = s.readers → (t.setReader d loop).readers c = .handling q' →
      (∀ q, loop ≠ .handling q) → s.readers c = .handling q' ∧ c ≠ d := by
    intro d t loop ht hset hloop
    by_cases hsame : c = d
    · subst hsame
      rw [setReader_self] at hset
      exact absurd hset (hloop q')
    · rw [setReader_ne _ _ hsame, ht] at hset
      exact ⟨hset, hsame⟩
  cases stepped_of_step hstep with
  | accept peerIp =>
      obtain ⟨hkept, -⟩ := hother _ _ _ rfl hreader' (by simp)
      exact .inl ⟨hkept, by simp⟩
  | move d event loop loop' hreader hmoved =>
      by_cases hsame : c = d
      · subst hsame
        rw [setReader_self] at hreader'
        subst hreader'
        cases hmoved with
        | handle h body =>
            exact .inr (.inl ⟨h, body, rfl, hreader, rfl, rfl⟩)
      · rw [setReader_ne _ _ hsame] at hreader'
        exact .inl ⟨hreader', by simp⟩
  | give d event made hreader hkind =>
      obtain ⟨hkept, -⟩ := hother _ _ _ rfl hreader' (by simp)
      exact .inl ⟨hkept, by simp⟩
  | finish d env q hreader hdone =>
      obtain ⟨hkept, hne⟩ := hother _ _ _ rfl hreader' (by simp)
      refine .inl ⟨hkept, ?_⟩
      intro env' hevent
      cases hevent
      exact hne rfl
  | perform d env q q'' op hreader hop hallows hsender hheader hstage =>
      by_cases hsame : c = d
      · subst hsame
        rw [setReader_self, ReadLoop.handling.injEq] at hreader'
        subst hreader'
        exact .inr (.inr ⟨env, q, op, rfl, hreader, hop, hallows, hsender,
          hheader, hstage, rfl⟩)
      · rw [setReader_ne _ _ hsame] at hreader'
        refine .inl ⟨hreader', ?_⟩
        intro env' hevent
        cases hevent
        exact hsame rfl
  | removeSession d hreader =>
      obtain ⟨hkept, -⟩ := hother _ _ _ rfl hreader' (by simp)
      exact .inl ⟨hkept, by simp⟩
  | closeSocket d hreader =>
      obtain ⟨hkept, -⟩ := hother _ _ _ rfl hreader' (by simp)
      exact .inl ⟨hkept, by simp⟩
  | io d event session hio => exact .inl ⟨hreader', by simp⟩
  | heartbeatTimeout d hlogged hopen => exact .inl ⟨hreader', by simp⟩
  | snapshotStats => exact .inl ⟨hreader', by simp⟩

/-- Nobody else moves a read loop which is handling a frame. -/
theorem handling_of_step {s s' : Server} {event : Event}
    (hstep : s.step cfg unpack event = some s') (hsane : s.Sane)
    {c : ConnId} {q : Request} (hreader : s.readers c = .handling q)
    (hevent : ∀ env, event ≠ .advance c env) :
    s'.readers c = .handling q := by
  have hother : ∀ (d : ConnId) (t : Server) (loop : ReadLoop),
      t.readers = s.readers → c ≠ d →
      (t.setReader d loop).readers c = .handling q := by
    intro d t loop ht hne
    rw [setReader_ne _ _ hne, ht, hreader]
  cases stepped_of_step hstep with
  | accept peerIp =>
      refine hother _ _ _ rfl ?_
      rintro rfl
      rw [(hsane.fresh _ (Nat.lt_succ_self _)).1] at hreader
      cases hreader
  | move d event loop loop' hreader' hmoved =>
      refine hother _ _ _ rfl ?_
      rintro rfl
      rw [hreader] at hreader'
      subst hreader'
      cases hmoved
  | give d event made hreader' hkind =>
      refine hother _ _ _ rfl ?_
      rintro rfl
      rcases hreader' with hreader' | ⟨h, hreader'⟩ <;>
        rw [hreader] at hreader' <;> cases hreader'
  | finish d env q' hreader' hdone =>
      refine hother _ _ _ rfl ?_
      rintro rfl
      exact hevent env rfl
  | perform d env q' q'' op hreader' hop hallows hsender hheader hstage =>
      refine hother _ _ _ rfl ?_
      rintro rfl
      exact hevent env rfl
  | removeSession d hreader' =>
      refine hother _ _ _ rfl ?_
      rintro rfl
      rw [hreader] at hreader'
      cases hreader'
  | closeSocket d hreader' =>
      refine hother _ _ _ rfl ?_
      rintro rfl
      rw [hreader] at hreader'
      cases hreader'
  | io d event session hio => exact hreader
  | heartbeatTimeout d hlogged hopen => exact hreader
  | snapshotStats => exact hreader

theorem Sane.step {s s' : Server} {event : Event} (hsane : s.Sane)
    (hstep : s.step cfg unpack event = some s') : s'.Sane where
  fits := by
    intro c q' hreader'
    rcases request_of_step hstep hreader' with ⟨hreader, hevent⟩ |
      ⟨h, body, _, _, rfl, hhub⟩ |
      ⟨env, q, op, _, hreader, _, hallows, hsender, _, hstage, hhub⟩
    · obtain ⟨hconn, hfits⟩ := hsane.fits c q' hreader
      refine ⟨hconn, ?_⟩
      rcases identity_of_step hsane hstep c with hkept | ⟨hnew, _⟩ |
        ⟨_, _, _, ⟨env, _, hadvance, _⟩, _⟩
      · rwa [hkept]
      · have hnot := (hsane.fresh c (hnew ▸ Nat.lt_succ_self _)).1
        rw [hreader] at hnot
        cases hnot
      · exact absurd hadvance (hevent env)
    · rw [hhub]
      exact ⟨rfl, (initialStage_opening unpack _ h body).fits⟩
    · obtain ⟨hconn, hfits⟩ := hsane.fits c q hreader
      rw [hsender, hstage, hhub]
      refine ⟨hconn, ?_⟩
      rcases hallows.login_or with
        ⟨un, info, wantMode, hauthed, rfl⟩ | ⟨hlogin, hmark⟩
      · rw [Request.stageAfter, hauthed, hconn, Op.exec_login_identity]
        exact ⟨rfl, rfl⟩
      · rw [Op.exec_identity cfg env s.hub op c (hmark cfg env s.hub c)]
        exact Stage.Fits.next hallows hfits (hlogin _) _
  typed := by
    intro c q' hreader' mtype htype
    rcases request_of_step hstep hreader' with ⟨hreader, _⟩ |
      ⟨h, body, _, _, rfl, _⟩ |
      ⟨env, q, op, _, hreader, _, hallows, _, hheader, hstage, _⟩
    · exact hsane.typed c q' hreader mtype htype
    · exact (initialStage_opening unpack _ h body).msgType htype
    · rw [hstage] at htype
      rw [hheader]
      exact hsane.typed c q hreader mtype
        (Stage.msgType_of_next hallows htype)
  fresh := by
    intro c hlt
    have hlt' : s.hub.reg.nextConnId < c := by
      rcases nextConnId_of_step hstep with hsame | ⟨_, hsucc⟩
      · rwa [hsame] at hlt
      · rw [hsucc] at hlt
        exact Nat.lt_of_succ_lt hlt
    obtain ⟨hnot, hout⟩ := hsane.fresh c hlt'
    refine ⟨notAccepted_of_step hstep hnot hlt, ?_⟩
    rcases identity_of_step hsane hstep c with hkept | ⟨_, hnew⟩ |
      ⟨_, _, _, ⟨_, _, _, hreader, _⟩, _⟩
    · exact (congrArg Identity.loggedIn hkept).trans hout
    · exact congrArg Identity.loggedIn hnew
    · rw [hnot] at hreader
      cases hreader

theorem sane_of_run {db : Db} {events : List Event} {s : Server}
    (hrun : Transition.run (step cfg unpack) events (initial db) = some s) :
    s.Sane :=
  Transition.run_preserves_always _
    (fun _ _ _ hsane hstep => Sane.step hsane hstep) (sane_initial db) hrun

/-! ## Deques and calls -/

theorem exec_deque_of_not_login (env : Env) (hub : Hub) {op : Op}
    (hlogin : ∀ self un info wantMode,
      op ≠ .lock (.login self un info wantMode)) (uid : Nat) :
    (op.exec cfg env hub).1.reg.deque uid = hub.reg.deque uid := by
  cases op with
  | lock operation =>
      rw [Op.exec_lock_reg]
      cases operation with
      | login self un uinfo wantMode =>
          exact absurd rfl (hlogin self un uinfo wantMode)
      | deliver srcUsername srcConn dstUsername dstUid payload seq =>
          simp only [LockOp.exec, Registry.deque,
            Registry.recipients_userDeque]
      | _ => rfl
  | _ => rfl

theorem deque_of_step {s s' : Server} {event : Event} (hsane : s.Sane)
    (hstep : s.step cfg unpack event = some s') (uid : Nat) :
    s'.hub.reg.deque uid = s.hub.reg.deque uid ∨
    (∃ c un info wantMode, s.Registers event c un info wantMode ∧
      uid = info.id ∧ s'.hub.reg.deque uid = (s.hub.reg.deque uid).drop
        (Registry.excess cfg (s.hub.reg.deque uid)) ++ [c]) ∨
    (∃ c, event = .removeSession c ∧ s.readers c = .leaving ∧
      (s.hub.sessions c).loggedIn = true ∧
      (s.hub.sessions c).userId = uid ∧
      s'.hub.reg.deque uid = (s.hub.reg.deque uid).erase c) := by
  cases stepped_of_step hstep with
  | perform c env q q' op hreader hop hallows hsender hheader hstage =>
      rcases hallows.login_or with
        ⟨un, info, wantMode, hauthed, rfl⟩ | ⟨hlogin, _⟩
      · have hconn := (hsane.fits c q hreader).1
        rw [hconn] at hop
        rw [setReader_hub, hconn, Op.exec_lock_reg]
        by_cases hsame : uid = info.id
        · subst hsame
          exact .inr (.inl ⟨c, un, info, wantMode,
            ⟨env, q, rfl, hreader, hauthed, hop⟩, rfl,
            Registry.login_deque_self _ _ _ _ _ _⟩)
        · exact .inl (Registry.login_deque_ne _ _ _ _ _ hsame)
      · exact .inl (exec_deque_of_not_login env s.hub hlogin uid)
  | removeSession c hreader =>
      rw [setReader_hub]
      cases hlogged : (s.hub.sessions c).loggedIn with
      | false =>
          left
          simp [Hub.removeSession, hlogged]
      | true =>
          by_cases hsame : uid = (s.hub.sessions c).userId
          · subst hsame
            refine .inr (.inr ⟨c, rfl, hreader, hlogged, rfl, ?_⟩)
            simp only [Hub.removeSession, hlogged]
            exact Registry.removeSession_deque_self _ _ _
          · exact .inl (Registry.removeSession_deque_ne _ _ _ hsame)
  | _ => exact .inl rfl

theorem calls_of_step {s s' : Server} {event : Event}
    (hstep : s.step cfg unpack event = some s') :
    s'.hub.calls = s.hub.calls ∨
    (∃ c made, ((∃ why, made = .stop why) ∨
        ∃ userReason logWhy, made = .notifyAndClose userReason logWhy) ∧
      s'.hub.calls = s.hub.calls ++ [(c, made)]) ∨
    (∃ c env q op, event = .advance c env ∧ s.readers c = .handling q ∧
      q.nextOp = some op ∧ Allows q.sender q.header.seq q.stage op ∧
      s'.hub = (op.exec cfg env s.hub).1 ∧
      s'.hub.calls = s.hub.calls ++ op.calls cfg env s.hub) := by
  cases stepped_of_step hstep with
  | give c event made hreader hkind =>
      exact .inr (.inl ⟨c, made, hkind, rfl⟩)
  | perform c env q q' op hreader hop hallows hsender hheader hstage =>
      exact .inr (.inr ⟨c, env, q, op, rfl, hreader, hop, hallows, rfl,
        Op.exec_calls cfg env s.hub op⟩)
  | heartbeatTimeout c hlogged hopen =>
      exact .inr (.inl ⟨c, heartbeatCall, .inr ⟨_, _, rfl⟩, rfl⟩)
  | _ => exact .inl rfl

theorem calls_extend {s s' : Server} {event : Event}
    (hstep : s.step cfg unpack event = some s') :
    s.hub.calls <+: s'.hub.calls := by
  rcases calls_of_step hstep with hsame | ⟨c, made, _, hcalls⟩ |
    ⟨_, _, _, _, _, _, _, _, _, hcalls⟩
  · exact ⟨[], by rw [hsame, List.append_nil]⟩
  · rw [hcalls]
    exact List.prefix_append _ _
  · rw [hcalls]
    exact List.prefix_append _ _

/-! ## The `users` table -/

/-- The operation the frame handler of `c` performs next. -/
def pendingOp (s : Server) (c : ConnId) : Option Op :=
  match s.readers c with
  | .handling q => q.nextOp
  | _ => none

theorem pendingOp_of_handling {s : Server} {c : ConnId} {q : Request}
    (hreader : s.readers c = .handling q) : s.pendingOp c = q.nextOp := by
  simp [pendingOp, hreader]

theorem handling_of_pendingOp {s : Server} {c : ConnId} {op : Op}
    (hop : op ∈ s.pendingOp c) :
    ∃ q, s.readers c = .handling q ∧ q.nextOp = some op := by
  unfold pendingOp at hop
  split at hop
  · rename_i q hreader
    exact ⟨q, hreader, hop⟩
  · cases hop

/-- The request a session's read loop is handling. -/
def request? (s : Server) (c : ConnId) : Option Request :=
  match s.readers c with
  | .handling q => some q
  | _ => none

theorem mem_request? {s : Server} {c : ConnId} {q : Request} :
    q ∈ s.request? c ↔ s.readers c = .handling q := by
  unfold request?
  cases s.readers c <;> simp

def pendingStore (s : Server) (c : ConnId) : Option StoreOp :=
  match s.pendingOp c with
  | some (.store operation) => some operation
  | _ => none

theorem pendingStore_of_handling {s : Server} {c : ConnId} {q : Request}
    {operation : StoreOp} (hreader : s.readers c = .handling q)
    (hop : q.nextOp = some (.store operation)) :
    operation ∈ s.pendingStore c := by
  simp [pendingStore, pendingOp, hreader, hop]

theorem db_of_step {s s' : Server} {event : Event}
    (hstep : s.step cfg unpack event = some s') :
    s'.hub.db = s.hub.db ∨
    ∃ c env q operation, event = .advance c env ∧
      s.readers c = .handling q ∧ q.nextOp = some (.store operation) ∧
      Allows q.sender q.header.seq q.stage (.store operation) ∧
      s'.hub.db = (operation.exec env s.hub.db).1 := by
  cases stepped_of_step hstep with
  | perform c env q q' op hreader hop hallows hsender hheader hstage =>
      rw [setReader_hub]
      cases op with
      | store operation =>
          exact .inr ⟨c, env, q, operation, rfl, hreader, hop, hallows, rfl⟩
      | lock operation => exact .inl (Op.exec_db _ _ _ _ (by simp))
      | call d made => exact .inl (Op.exec_db _ _ _ _ (by simp))
      | clientIp d => exact .inl (Op.exec_db _ _ _ _ (by simp))
  | _ => exact .inl rfl

/-! ## Live read loops -/

end Server

def ReadLoop.live : ReadLoop → Bool
  | .notAccepted | .leaving | .closing | .exited => false
  | _ => true

namespace Server

theorem live_of_step {s s' : Server} {event : Event}
    (hstep : s.step cfg unpack event = some s') {c : ConnId}
    (hlive : (s'.readers c).live = true) :
    (s.readers c).live = true ∨ c = s.hub.reg.nextConnId + 1 := by
  have hset : ∀ (d : ConnId) (t : Server) (loop : ReadLoop),
      t.readers = s.readers →
      (loop.live = true → (s.readers d).live = true) →
      ((t.setReader d loop).readers c).live = true →
      (s.readers c).live = true := by
    intro d t loop ht hloop hafter
    by_cases hsame : c = d
    · subst hsame
      rw [setReader_self] at hafter
      exact hloop hafter
    · rwa [setReader_ne _ _ hsame, ht] at hafter
  cases stepped_of_step hstep with
  | accept peerIp =>
      by_cases hnew : c = s.hub.reg.nextConnId + 1
      · exact .inr hnew
      · rw [setReader_ne _ _ hnew] at hlive
        exact .inl hlive
  | move d event loop loop' hreader hmoved =>
      refine .inl (hset d _ _ rfl ?_ hlive)
      rw [hreader]
      cases hmoved <;> simp [ReadLoop.live]
  | give d event made hreader hkind =>
      exact .inl (hset d _ _ rfl (by simp [ReadLoop.live]) hlive)
  | finish d env q hreader hdone =>
      exact .inl (hset d _ _ rfl (by simp [hreader, ReadLoop.live]) hlive)
  | perform d env q q' op hreader hop hallows hsender hheader hstage =>
      exact .inl (hset d _ _ rfl (by simp [hreader, ReadLoop.live]) hlive)
  | removeSession d hreader =>
      exact .inl (hset d _ _ rfl (by simp [ReadLoop.live]) hlive)
  | closeSocket d hreader =>
      exact .inl (hset d _ _ rfl (by simp [ReadLoop.live]) hlive)
  | io d event session hio => exact .inl hlive
  | heartbeatTimeout d hlogged hopen => exact .inl hlive
  | snapshotStats => exact .inl hlive

theorem authed_of_next {sender : Identity} {seq : UInt32} {stage : Stage}
    {op : Op} (hallows : Allows sender seq stage op) {env : Env} {hub : Hub}
    {un : Bytes} {info : UserInfo}
    (hnext : stage.next op (op.exec cfg env hub).2 = .authed un info) :
    ∃ password wantAdmin,
      op = .store (.authenticateOrRegister un password wantAdmin) ∧
      ((StoreOp.authenticateOrRegister un password wantAdmin).exec env
        hub.db).2 = .ok info := by
  generalize hresult : (op.exec cfg env hub).2 = result at hnext
  cases hallows with
  | allowIp ip => cases result <;> cases hnext
  | authenticate un' password wantAdmin =>
      cases result with
      | error e => cases hnext
      | ok info' =>
          cases hnext
          exact ⟨password, wantAdmin, rfl, hresult⟩
  | lookup dst => cases result <;> cases hnext
  | ask dst => cases result <;> cases hnext
  | manage operation hordinary =>
      rw [control_next_store] at hnext
      cases hnext
  | nameOf uid => cases result <;> cases hnext
  | update uid name newName password isAdmin =>
      cases result <;> cases hnext
  | delete uid name => cases result <;> cases hnext
  | reply _ hstage wire htype hseq =>
      rw [Stage.next_sendFrame] at hnext
      cases hnext
  | _ => cases hnext

/-! ## The stages of all requests -/

def stageOf (s : Server) (c : ConnId) : Option Stage :=
  (s.request? c).map Request.stage

def stages (s : Server) : List Stage :=
  (List.range (s.hub.reg.nextConnId + 1)).filterMap s.stageOf

theorem stageOf_eq_some {s : Server} {c : ConnId} {stage : Stage} :
    s.stageOf c = some stage ↔
      ∃ q, s.readers c = .handling q ∧ q.stage = stage := by
  simp only [stageOf, Option.map_eq_some_iff, ← mem_request?,
    Option.mem_def]

theorem mem_stages {s : Server} (hsane : s.Sane) {stage : Stage} :
    stage ∈ s.stages ↔
      ∃ c q, s.readers c = .handling q ∧ q.stage = stage := by
  simp only [stages, List.mem_filterMap, List.mem_range, stageOf_eq_some]
  constructor
  · rintro ⟨c, _, q, hreader, hstage⟩
    exact ⟨c, q, hreader, hstage⟩
  · rintro ⟨c, q, hreader, hstage⟩
    refine ⟨c, ?_, q, hreader, hstage⟩
    by_contra hbeyond
    rw [(hsane.fresh c (by omega)).1] at hreader
    cases hreader

end Server

end AsioForwarder
