import AsioForwarder.FrameRun
import AsioForwarder.LoginOrder
import AsioForwarder.ReplyDecoding

/-!
# The receive mode of an account

The first session of an account sets its receive mode, the sessions after it
are told the mode in force, and the mode goes with the last session.  A mode
announced to a session is the one used as long as the session is in the deque
of its account.  A reply which is still to be sent when its session has been
evicted may announce a mode which is no longer in force.
-/

namespace AsioForwarder

/-! ## The critical sections -/

namespace Registry

/-- The recipients of a message under a given mode. -/
def recipientsBy (mode : RecvMode) (cfg : Config) (isOpen : ConnId → Bool)
    (uid : Nat) (r : Registry) : List ConnId :=
  let openSessions := (r.deque uid).filter isOpen
  match mode with
  | .broadcast => openSessions.take cfg.broadcastMaxRecipients.toNat
  | .roundRobin =>
      (openSessions[(r.rrNextIndex.lookup uid).getD 0 %
        openSessions.length]?).toList

theorem recipients_of_mode {cfg : Config} {r : Registry} {uid : Nat}
    {mode : RecvMode} (hmode : r.userRecvMode.lookup uid = some mode)
    (isOpen : ConnId → Bool) :
    (r.recipients cfg isOpen uid).2 = r.recipientsBy mode cfg isOpen uid := by
  unfold recipients recipientsBy
  cases hlookup : r.userDeque.lookup uid with
  | none =>
      have hdeque : r.deque uid = [] := by simp [deque, hlookup]
      cases mode <;> simp [hdeque]
  | some dq =>
      rw [deque_of_lookup hlookup, hmode]
      by_cases hnone : dq.filter isOpen = []
      · cases mode <;> simp [hnone]
      · cases mode <;> simp [hnone]

theorem settleMode_effective (r : Registry) (uid : Nat)
    (wantMode : RecvMode) :
    (r.settleMode uid wantMode).1.userRecvMode.lookup uid =
      some (r.settleMode uid wantMode).2.effectiveMode ∧
    ((r.settleMode uid wantMode).2.recvModeNotice.isSome ↔
      (r.settleMode uid wantMode).2.effectiveMode ≠ wantMode) := by
  unfold settleMode
  split
  · simp
  · split
    · rename_i established hlookup
      refine ⟨hlookup, ?_⟩
      dsimp only
      split_ifs with hsame <;> simp [hsame]
    · refine ⟨AList.lookup_insert _, ?_⟩
      dsimp only
      split_ifs with hsame <;> simp [hsame]

theorem settleMode_of_deque_ne_nil {r : Registry} {uid : Nat}
    {mode : RecvMode} (wantMode : RecvMode) (hdeque : r.deque uid ≠ [])
    (hmode : r.userRecvMode.lookup uid = some mode) :
    (r.settleMode uid wantMode).1.userRecvMode.lookup uid = some mode := by
  unfold settleMode
  rw [if_neg hdeque, hmode]
  exact hmode

theorem settleMode_of_deque_eq_nil {r : Registry} {uid : Nat}
    (wantMode : RecvMode) (hdeque : r.deque uid = []) :
    (r.settleMode uid wantMode).1.userRecvMode.lookup uid =
      some wantMode := by
  unfold settleMode
  rw [if_pos hdeque]
  exact AList.lookup_insert _

theorem dropFromDeque_mode (r : Registry) (c : ConnId) (uid : Nat)
    (dq : List ConnId) (other : Nat) :
    (r.dropFromDeque c uid dq).userRecvMode.lookup other =
        r.userRecvMode.lookup other ∨
      (r.dropFromDeque c uid dq).deque other = [] ∧
        (r.dropFromDeque c uid dq).userRecvMode.lookup other = none := by
  unfold dropFromDeque
  split
  · by_cases hsame : other = uid
    · subst hsame
      right
      simp [deque, AList.lookup_erase]
    · left
      simp [AList.lookup_erase_ne hsame]
  · exact .inl rfl

theorem removeSession_mode (r : Registry) (c : ConnId) (loggedIn : Bool)
    (uid other : Nat) :
    (r.removeSession c loggedIn uid).userRecvMode.lookup other =
        r.userRecvMode.lookup other ∨
      (r.removeSession c loggedIn uid).deque other = [] ∧
        (r.removeSession c loggedIn uid).userRecvMode.lookup other =
          none := by
  unfold removeSession
  dsimp only
  split
  · split
    · exact .inl rfl
    · exact dropFromDeque_mode _ c uid _ other
  · exact .inl rfl

theorem Tidy.mode_isSome {cfg : Config} {r : Registry} (htidy : r.Tidy cfg)
    {uid : Nat} (hdeque : r.deque uid ≠ []) :
    ∃ mode, r.userRecvMode.lookup uid = some mode := by
  have hkey : uid ∈ r.userDeque := by
    rw [← AList.lookup_isSome]
    unfold deque at hdeque
    cases hlookup : r.userDeque.lookup uid with
    | none => simp [hlookup] at hdeque
    | some dq => rfl
  exact Option.isSome_iff_exists.mp
    (AList.lookup_isSome.mpr ((htidy.modes uid).mpr hkey))

end Registry

/-! ## What a LOGIN reply says -/

def Wire.fields (frame : Wire) : ObjMap :=
  match unpackToks frame.body with
  | some (.map entries) => entries
  | _ => []

/-- The receive mode a successful LOGIN reply announces. -/
def Wire.announcedMode (frame : Wire) : Option RecvMode :=
  if frame.isLoginOk then
    (mapGetStr frame.fields (lit "recv_mode")).bind parseRecvModeStr
  else none

def Wire.hasNotice (frame : Wire) : Bool :=
  mapHasKey frame.fields (lit "recv_mode_notice")

def requestedMode (mp : ObjMap) : Option RecvMode :=
  (mapGetStr mp (lit "recv_mode")).bind parseRecvModeStr

theorem announcedMode_loginReplyWire (seq : UInt32) (self : Identity)
    (lok : LoginOk) :
    (loginReplyWire seq self lok).announcedMode =
      some lok.effectiveMode := by
  rw [Wire.announcedMode, if_pos (loginReplyWire_isLoginOk seq self lok)]
  obtain ⟨mode, notice⟩ := lok
  cases notice with
  | none => cases mode <;> rfl
  | some notice => cases mode <;> rfl

theorem hasNotice_loginReplyWire (seq : UInt32) (self : Identity)
    (lok : LoginOk) :
    (loginReplyWire seq self lok).hasNotice = lok.recvModeNotice.isSome := by
  obtain ⟨mode, notice⟩ := lok
  cases notice with
  | none => cases mode <;> rfl
  | some notice => cases mode <;> rfl

theorem Wire.isLoginOk_eq (frame : Wire) :
    frame.isLoginOk =
      match RelayClient.eventOfWire frame with
      | some (.serverReply reply) => reply.ok && reply.op = lit "LOGIN"
      | _ => false := by
  rw [Wire.isLoginOk, RelayClient.recv_eq_eventOf]
  cases RelayClient.eventOfWire frame with
  | none => rfl
  | some event => cases event <;> rfl

theorem Wire.isLoginOk_of_op {frame : Wire} {reply : ServerReply}
    (hevent : RelayClient.eventOfWire frame = some (.serverReply reply))
    (hop : reply.op ≠ lit "LOGIN") : frame.isLoginOk = false := by
  rw [Wire.isLoginOk_eq, hevent]
  simp [hop]

theorem isLoginOk_report (seq : UInt32) {key : Bytes}
    (hkey : key ∉ replyKeys) (value : List Tok) :
    (replyWire seq (RelayClient.reportBody key value)).isLoginOk = false := by
  rcases RelayClient.eventOfWire_report seq hkey value with hnone | hreply
  · rw [Wire.isLoginOk_eq, hnone]
  · apply Wire.isLoginOk_of_op hreply
    dsimp only
    decide

theorem Answers.isLoginOk {h : Header} {wire : Wire}
    (hanswer : Answers h wire) : wire.isLoginOk = false := by
  cases hanswer with
  | refusal code message => rfl
  | heartbeat htype =>
      apply Wire.isLoginOk_of_op (RelayClient.eventOfWire_okReplyWire _ _)
      dsimp only
      decide
  | data htype =>
      apply Wire.isLoginOk_of_op (RelayClient.eventOfWire_okReplyWire _ _)
      dsimp only
      decide
  | control htype =>
      apply Wire.isLoginOk_of_op (RelayClient.eventOfWire_okReplyWire _ _)
      dsimp only
      decide
  | report htype key hkey value => exact isLoginOk_report h.seq hkey value

theorem isLoginOk_of_not_reply {frame : Wire}
    (htype : frame.msgType = kMsgDeliver) : frame.isLoginOk = false := by
  rw [Wire.isLoginOk_eq]
  simp only [RelayClient.eventOfWire, RelayClient.eventOf, htype, if_true]
  cases unpackToks frame.body with
  | none => rfl
  | some obj =>
      cases obj with
      | map entries =>
          dsimp only
          cases RelayClient.deliverFields entries { seq := frame.seq } <;> rfl
      | _ => rfl

/-- What a handler has learned makes no other reply look like one to a
LOGIN. -/
def Learned.NoOtherLogin : Learned → Prop
  | .listed body => ∀ seq, (replyWire seq body).isLoginOk = false
  | _ => True

theorem AsksFrame.loginReply {unpack : Bytes → Option Obj} {cfg : Config}
    {sender : Identity} {h : Header} {body : Bytes} {learned : Learned}
    {op : Op} (hasks : AsksFrame unpack sender h body learned op)
    (hlearned : learned.NoOtherLogin) {env : Env} {hub : Hub} {d : ConnId}
    {wire : Wire} (hcall : (d, Call.sendFrame wire) ∈ op.calls cfg env hub)
    (hok : wire.isLoginOk = true) :
    ∃ self wantMode lok, learned = .registered self wantMode lok ∧
      d = sender.connId ∧ wire = loginReplyWire h.seq self lok := by
  cases hasks with
  | stop why => simp [Op.calls] at hcall
  | ask mp _ _ hbody hasks =>
      cases hasks with
      | welcome self wantMode lok =>
          simp only [Op.calls, List.mem_singleton, Prod.mk.injEq,
            Call.sendFrame.injEq] at hcall
          exact ⟨self, wantMode, lok, rfl, hcall.1, hcall.2⟩
      | listing htype listed =>
          simp only [Op.calls, List.mem_singleton, Prod.mk.injEq,
            Call.sendFrame.injEq] at hcall
          rw [hcall.2, hlearned h.seq] at hok
          cases hok
      | answer _ hanswer =>
          simp only [Op.calls, List.mem_singleton, Prod.mk.injEq,
            Call.sendFrame.injEq] at hcall
          rw [hcall.2, hanswer.isLoginOk] at hok
          cases hok
      | route dst payload uid htype hdst hpayload =>
          simp only [Op.calls, LockOp.exec, List.mem_map] at hcall
          obtain ⟨c, _, hcall⟩ := hcall
          cases hcall
          rw [isLoginOk_of_not_reply rfl] at hok
          cases hok
      | manage operation hchecked => simp [Op.calls] at hcall
      | _ => simp [Op.calls, LockOp.exec] at hcall

theorem Learned.NoOtherLogin.next {learned : Learned}
    (hlearned : learned.NoOtherLogin) (cfg : Config) (env : Env) (hub : Hub)
    (op : Op) :
    (learned.next op (op.exec cfg env hub).2).NoOtherLogin := by
  cases op with
  | lock operation =>
      cases operation with
      | login self un info wantMode => trivial
      | listUsers =>
          intro seq
          obtain ⟨value, hbody⟩ := RelayClient.listUsersBody_eq hub.isOpen
            (fun c => hub.isOpen c && env.stillOpen c) env.endpointStr hub.reg
          refine Eq.trans (congrArg Wire.isLoginOk
            (congrArg (replyWire seq) hbody)) ?_
          exact isLoginOk_report seq (by decide) value
      | _ => exact hlearned
  | _ => exact hlearned

/-! ## Steps -/

namespace Server

variable {cfg : Config} {unpack : Bytes → Option Obj}

theorem exec_mode_of_not_login (env : Env) (hub : Hub) {op : Op}
    (hlogin : ∀ self un info wantMode,
      op ≠ .lock (.login self un info wantMode)) (uid : Nat) :
    (op.exec cfg env hub).1.reg.userRecvMode.lookup uid =
      hub.reg.userRecvMode.lookup uid := by
  cases op with
  | lock operation =>
      rw [Op.exec_lock_reg]
      cases operation with
      | login self un info wantMode =>
          exact absurd rfl (hlogin self un info wantMode)
      | deliver srcUsername srcConn dst dstUid payload seq =>
          simp [LockOp.exec]
      | _ => rfl
  | _ => rfl

theorem mode_of_step {s s' : Server} {event : Event} (hsane : s.Sane)
    (htidy : s.hub.reg.Tidy cfg)
    (hstep : s.step cfg unpack event = some s') (uid : Nat) :
    s'.hub.reg.userRecvMode.lookup uid = s.hub.reg.userRecvMode.lookup uid ∨
    (∃ c un info wantMode, s.Registers event c un info wantMode ∧
      uid = info.id ∧ s.hub.reg.deque uid = [] ∧
      s'.hub.reg.userRecvMode.lookup uid = some wantMode) ∨
    (s'.hub.reg.deque uid = [] ∧
      s'.hub.reg.userRecvMode.lookup uid = none) := by
  cases stepped_of_step hstep with
  | perform c env q q' op hreader hop hallows hsender hheader hstage =>
      rcases hallows.login_or with
        ⟨un, info, wantMode, hauthed, rfl⟩ | ⟨hlogin, _⟩
      · have hconn := (hsane.fits c q hreader).1
        rw [hconn] at hop
        rw [setReader_hub, hconn, Op.exec_lock_reg]
        by_cases hsame : uid = info.id
        · subst hsame
          by_cases hdeque : s.hub.reg.deque info.id = []
          · refine .inr (.inl ⟨c, un, info, wantMode,
              ⟨env, q, rfl, hreader, hauthed, hop⟩, rfl, hdeque, ?_⟩)
            exact Registry.settleMode_of_deque_eq_nil wantMode hdeque
          · left
            obtain ⟨mode, hmode⟩ := htidy.mode_isSome hdeque
            refine Eq.trans ?_ hmode.symm
            exact Registry.settleMode_of_deque_ne_nil wantMode hdeque hmode
        · exact .inl (Registry.login_recvMode_ne _ _ _ _ _ hsame)
      · exact .inl (exec_mode_of_not_login env s.hub hlogin uid)
  | removeSession c hreader =>
      rcases s.hub.reg.removeSession_mode c (s.hub.sessions c).loggedIn
          (s.hub.sessions c).userId uid with hsame | hgone
      · exact .inl hsame
      · exact .inr (.inr hgone)
  | _ => exact .inl rfl

theorem mode_kept {s s' : Server} {event : Event} (hsane : s.Sane)
    (htidy : s.hub.reg.Tidy cfg)
    (hstep : s.step cfg unpack event = some s') {uid : Nat} {c : ConnId}
    {mode : RecvMode} (hmem : c ∈ s.hub.reg.deque uid)
    (hmem' : c ∈ s'.hub.reg.deque uid)
    (hmode : s.hub.reg.userRecvMode.lookup uid = some mode) :
    s'.hub.reg.userRecvMode.lookup uid = some mode := by
  rcases mode_of_step hsane htidy hstep uid with hsame |
    ⟨_, _, _, _, _, _, hempty, _⟩ | ⟨hempty, _⟩
  · exact hsame.trans hmode
  · rw [hempty] at hmem
    cases hmem
  · rw [hempty] at hmem'
    cases hmem'

/-- The session is logged in, and if it is listed then its account uses
`mode`. -/
def Uses (s : Server) (c : ConnId) (mode : RecvMode) : Prop :=
  (s.hub.sessions c).loggedIn = true ∧
  ∀ uid, c ∈ s.hub.reg.deque uid →
    s.hub.reg.userRecvMode.lookup uid = some mode

theorem Uses.step {s s' : Server} {event : Event} {c : ConnId}
    {mode : RecvMode} (huses : s.Uses c mode) (hsane : s.Sane)
    (htidy : s.hub.reg.Tidy cfg)
    (hstep : s.step cfg unpack event = some s') : s'.Uses c mode := by
  have hlogged := huses.1
  have hidentity := identity_stable hsane hstep hlogged
  refine ⟨(congrArg Identity.loggedIn hidentity).trans hlogged, ?_⟩
  intro uid hmem'
  rcases mem_deque_of_step hsane hstep hmem' with hmem |
    ⟨un, info, wantMode, ⟨env, q, _, hreader, hauthed, _⟩, _⟩
  · exact mode_kept hsane htidy hstep hmem hmem' (huses.2 uid hmem)
  · have hfits := (hsane.fits c q hreader).2
    rw [hauthed] at hfits
    have hout : (s.hub.sessions c).loggedIn = false := hfits.2
    rw [hlogged] at hout
    cases hout

/-- What the handler of `c` has learned about the mode holds. -/
def ModeFact (s : Server) (c : ConnId) (learned : Learned) : Prop :=
  learned.NoOtherLogin ∧
  ∀ self wantMode lok, learned = .registered self wantMode lok →
    s.Uses c lok.effectiveMode

structure ModeOk (cfg : Config) (unpack : Bytes → Option Obj) (s : Server) :
    Prop where
  sane : s.Sane
  listed : s.Listed cfg
  carries : s.Carries unpack (fun c _ _ learned => s.ModeFact c learned)
  announced : ∀ c reply mode, reply ∈ framesTo c s.hub.calls →
    reply.announcedMode = some mode → s.Uses c mode

theorem modeOk_initial (db : Db) : (initial db).ModeOk cfg unpack where
  sane := sane_initial db
  listed := listed_initial db
  carries := carries_initial db _
  announced := by
    intro c reply mode hreply
    cases hreply

theorem ModeFact.step {s s' : Server} {event : Event} {c : ConnId}
    {learned : Learned} (hfact : s.ModeFact c learned) (hsane : s.Sane)
    (htidy : s.hub.reg.Tidy cfg)
    (hstep : s.step cfg unpack event = some s') : s'.ModeFact c learned :=
  ⟨hfact.1, fun self wantMode lok hlearned =>
    (hfact.2 self wantMode lok hlearned).step hsane htidy hstep⟩

theorem uses_of_login (env : Env) {s' : Server} {hub : Hub} {c : ConnId}
    {un : Bytes} {info : UserInfo} {wantMode : RecvMode}
    (hlisted' : s'.Listed cfg)
    (hhub : s'.hub =
      ((Op.lock (.login c un info wantMode)).exec cfg env hub).1) :
    s'.Uses c ((Op.lock (.login c un info wantMode)).exec cfg env
      hub).2.1.effectiveMode := by
  have hidentity : s'.hub.identity c =
      ⟨c, true, info.id, info.isAdmin, un⟩ := by
    rw [hhub]
    exact Op.exec_login_identity cfg env hub c un info wantMode
  refine ⟨congrArg Identity.loggedIn hidentity, ?_⟩
  intro uid hmem
  have howner : (s'.hub.sessions c).userId = uid :=
    hlisted'.owner uid c hmem
  have huid : uid = info.id :=
    howner.symm.trans (congrArg Identity.userId hidentity)
  rw [huid, hhub, Op.exec_lock_reg]
  exact (Registry.settleMode_effective _ info.id wantMode).1

theorem modeFact_passed {s s' : Server} {event : Event} {c : ConnId}
    {env : Env} {learned : Learned} {op : Op} {q : Request} {body : Bytes}
    (hfact : s.ModeFact c learned) (hsane : s.Sane)
    (htidy : s.hub.reg.Tidy cfg) (hlisted' : s'.Listed cfg)
    (hstep : s.step cfg unpack event = some s')
    (hconn : q.sender.connId = c)
    (hasks : AsksFrame unpack q.sender q.header body learned op)
    (hhub : s'.hub = (op.exec cfg env s.hub).1) :
    s'.ModeFact c (learned.next op (op.exec cfg env s.hub).2) := by
  refine ⟨hfact.1.next cfg env s.hub op, ?_⟩
  intro self wantMode lok hlearned
  by_cases hlogin : ∃ d un info want,
      op = .lock (.login d un info want)
  · obtain ⟨d, un, info, want, rfl⟩ := hlogin
    have hself : d = c := by
      cases hasks with
      | ask mp _ _ hbody hasks =>
          cases hasks with
          | register login hbody' info => exact hconn
    subst hself
    cases hlearned
    exact uses_of_login env hlisted' hhub
  · refine (hfact.2 self wantMode lok ?_).step hsane htidy hstep
    cases op with
    | lock operation =>
        cases operation with
        | login d un info want => exact absurd ⟨d, un, info, want, rfl⟩ hlogin
        | listUsers => cases hlearned
        | _ => exact hlearned
    | _ => exact hlearned

theorem ModeOk.uses_of_reply {s : Server} (hok : s.ModeOk cfg unpack)
    {c d : ConnId} {q : Request} {op : Op} {env : Env} {reply : Wire}
    {mode : RecvMode} (hreader : s.readers d = .handling q)
    (hop : q.nextOp = some op)
    (hcall : (c, Call.sendFrame reply) ∈ op.calls cfg env s.hub)
    (hannounced : reply.announcedMode = some mode) :
    s.Uses c mode := by
  have hlogin : reply.isLoginOk = true := by
    by_contra hnot
    rw [Wire.announcedMode, if_neg hnot] at hannounced
    cases hannounced
  obtain ⟨body, learned, hasks, hfact⟩ := hok.carries.asks hreader hop
  obtain ⟨self, wantMode, lok, hlearned, rfl, rfl⟩ :=
    hasks.loginReply hfact.1 hcall hlogin
  rw [announcedMode_loginReplyWire, Option.some.injEq] at hannounced
  subst hannounced
  rw [(hok.sane.fits d q hreader).1]
  exact hfact.2 self wantMode lok hlearned

theorem ModeOk.step {s s' : Server} {event : Event}
    (hok : s.ModeOk cfg unpack)
    (hstep : s.step cfg unpack event = some s') :
    s'.ModeOk cfg unpack := by
  have htidy := hok.listed.tidy
  have hlisted' := hok.listed.step hok.sane hstep
  refine ⟨hok.sane.step hstep, hlisted', ?_, ?_⟩
  · refine carries_of_step hok.carries hstep ?_ ?_ ?_
    · intro c q body learned _ _ hfact
      exact hfact.step hok.sane htidy hstep
    · intro c h body _ _
      exact ⟨trivial, fun self wantMode lok hlearned => by cases hlearned⟩
    · intro c env q q' body learned op hevent hreader hop hasks _ _ _ hhub
        hfact
      exact modeFact_passed hfact hok.sane htidy hlisted' hstep
        (hok.sane.fits c q hreader).1 hasks hhub
  · intro c reply mode hreply hannounced
    suffices hbefore : s.Uses c mode from
      hbefore.step hok.sane htidy hstep
    rcases calls_of_step hstep with hsame | ⟨d, made, hmade, hcalls⟩ |
      ⟨d, env, q, op, rfl, hreader, hop, hallows, _, hcalls⟩
    · rw [hsame] at hreply
      exact hok.announced c reply mode hreply hannounced
    · rw [hcalls, framesTo_append, List.mem_append] at hreply
      rcases hreply with hold | hnew
      · exact hok.announced c reply mode hold hannounced
      · rw [mem_framesTo, List.mem_singleton, Prod.mk.injEq] at hnew
        rcases hmade with ⟨why, rfl⟩ | ⟨userReason, logWhy, rfl⟩
        · cases hnew.2
        · cases hnew.2
    · rw [hcalls, framesTo_append, List.mem_append] at hreply
      rcases hreply with hold | hnew
      · exact hok.announced c reply mode hold hannounced
      · rw [mem_framesTo] at hnew
        exact hok.uses_of_reply hreader hop hnew hannounced

/-! ## Announced and used modes -/

/-- What a handler has learned about the mode its frame asked for. -/
def NoticeFact (mp : ObjMap) (learned : Learned) : Prop :=
  learned.NoOtherLogin ∧
  ∀ self wantMode lok, learned = .registered self wantMode lok →
    requestedMode mp = some wantMode ∧
    (lok.recvModeNotice.isSome ↔ lok.effectiveMode ≠ wantMode)

theorem NoticeFact.next {mp : ObjMap} {learned : Learned} {op : Op}
    {sender : Identity} {h : Header} {body : Bytes}
    (hbody : unpack body = some (.map mp))
    (hasks : AsksFrame unpack sender h body learned op)
    (hfact : NoticeFact mp learned) (env : Env) (hub : Hub) :
    NoticeFact mp (learned.next op (op.exec cfg env hub).2) := by
  refine ⟨hfact.1.next cfg env hub op, ?_⟩
  intro self wantMode lok hlearned
  cases hasks with
  | stop why => cases hlearned
  | ask mp' _ _ hbody' hasks =>
      rw [hbody', Option.some.injEq, Obj.map.injEq] at hbody
      subst hbody
      cases hasks with
      | register login hlogin info =>
          obtain ⟨_, _, _, text, htext, hmode⟩ := checkLoginBody_ok hlogin
          cases hlearned
          refine ⟨by rw [requestedMode, htext, Option.bind_some, hmode], ?_⟩
          exact (Registry.settleMode_effective _ info.id login.wantMode).2
      | manage operation hchecked => cases hlearned
      | welcome self₁ wantMode₁ lok₁ => exact hfact.2 _ _ _ hlearned
      | notify _ victim userReason logWhy => exact hfact.2 _ _ _ hlearned
      | _ => cases hlearned

theorem notice_of_walks {mp : ObjMap} {sender : Identity} {h : Header}
    {body : Bytes} (hbody : unpack body = some (.map mp))
    {steps : List Performed} {learned final : Learned}
    (hwalks : Walks cfg (frameContent unpack sender h body) learned steps
      final)
    (hfact : NoticeFact mp learned) {p : Performed} (hp : p ∈ steps)
    {d : ConnId} {wire : Wire}
    (hcall : (d, Call.sendFrame wire) ∈ p.calls cfg)
    (hok : wire.isLoginOk = true) :
    ∃ requested, requestedMode mp = some requested ∧
      (wire.hasNotice = true ↔ wire.announcedMode ≠ some requested) := by
  induction steps generalizing learned with
  | nil => cases hp
  | cons step later ih =>
      obtain ⟨hasks, hlater⟩ := hwalks.of_cons
      rcases List.mem_cons.mp hp with rfl | hp
      · obtain ⟨self, wantMode, lok, hlearned, _, rfl⟩ :=
          AsksFrame.loginReply hasks hfact.1 hcall hok
        obtain ⟨hrequested, hnotice⟩ := hfact.2 self wantMode lok hlearned
        refine ⟨wantMode, hrequested, ?_⟩
        rw [hasNotice_loginReplyWire, announcedMode_loginReplyWire, hnotice,
          ne_eq, ne_eq, Option.some.injEq]
      · exact ih hlater (hfact.next hbody hasks step.env step.hub) hp

/-- The receive mode is stable and as announced.  In every state of a run, if
a LOGIN reply announcing `mode` has been passed to a session which is in the
deque of its account, then messages to the account are routed with `mode`, and
a LOGIN reply which is now passed to a session in this deque announces `mode`.
The mode of an account is set by a login which finds no session of it and goes
with the last session.  A reply carries the notice exactly if the mode it
announces is not the one its frame asks for. -/
theorem recvMode_as_announced (cfg : Config) (unpack : Bytes → Option Obj) :
    (∀ (db : Db) (events : List Event) (s : Server),
      Transition.run (step cfg unpack) events (initial db) = some s →
      (∀ c reply mode uid, reply ∈ framesTo c s.hub.calls →
        reply.announcedMode = some mode → c ∈ s.hub.reg.deque uid →
        (∀ isOpen, (s.hub.reg.recipients cfg isOpen uid).2 =
          s.hub.reg.recipientsBy mode cfg isOpen uid) ∧
        ∀ event s', s.step cfg unpack event = some s' →
          ∀ d new, framesTo d s'.hub.calls = framesTo d s.hub.calls ++ new →
          d ∈ s.hub.reg.deque uid → ∀ other ∈ new, ∀ mode',
            other.announcedMode = some mode' → mode' = mode) ∧
      ∀ event s', s.step cfg unpack event = some s' → ∀ uid,
        s'.hub.reg.userRecvMode.lookup uid ≠
          s.hub.reg.userRecvMode.lookup uid →
        (∃ c un info wantMode, s.Registers event c un info wantMode ∧
          uid = info.id ∧ s.hub.reg.deque uid = [] ∧
          s'.hub.reg.userRecvMode.lookup uid = some wantMode) ∨
        (s'.hub.reg.deque uid = [] ∧
          s'.hub.reg.userRecvMode.lookup uid = none)) ∧
    (∀ (sender : Identity) (h : Header) (body : Bytes) (mp : ObjMap)
      (found : Nat → Env × Hub), unpack body = some (.map mp) →
      ∀ p ∈ execution cfg (handleClientFrame unpack sender h body) found,
      ∀ d wire, (d, Call.sendFrame wire) ∈ p.calls cfg →
        wire.isLoginOk = true →
        ∃ requested, requestedMode mp = some requested ∧
          (wire.hasNotice = true ↔
            wire.announcedMode ≠ some requested)) := by
  constructor
  · intro db events s hrun
    have hok : s.ModeOk cfg unpack := Transition.run_preserves_always _
      (fun _ _ _ hok hstep => ModeOk.step hok hstep) (modeOk_initial db) hrun
    constructor
    · intro c reply mode uid hreply hannounced hmem
      have hmode := (hok.announced c reply mode hreply hannounced).2 uid hmem
      refine ⟨Registry.recipients_of_mode hmode, ?_⟩
      intro event s' hstep d new hframes hmemd other hother mode' hother'
      have huses : s.Uses d mode' := by
        rcases calls_of_step hstep with hsame | ⟨e, made, hmade, hcalls⟩ |
          ⟨e, env, q, op, rfl, hreader, hop, _, _, hcalls⟩
        · rw [hsame] at hframes
          rw [List.self_eq_append_right.mp hframes] at hother
          cases hother
        · rw [hcalls, framesTo_append, List.append_cancel_left_eq] at hframes
          rw [← hframes, mem_framesTo, List.mem_singleton,
            Prod.mk.injEq] at hother
          rcases hmade with ⟨why, rfl⟩ | ⟨userReason, logWhy, rfl⟩
          · cases hother.2
          · cases hother.2
        · rw [hcalls, framesTo_append, List.append_cancel_left_eq] at hframes
          rw [← hframes, mem_framesTo] at hother
          exact hok.uses_of_reply hreader hop hother hother'
      have hmode' := huses.2 uid hmemd
      rw [hmode, Option.some.injEq] at hmode'
      exact hmode'.symm
    · intro event s' hstep uid hchanged
      rcases mode_of_step hok.sane hok.listed.tidy hstep uid with hsame | hset
      · exact absurd hsame hchanged
      · exact hset
  · intro sender h body mp found hbody p hp d wire hcall hlogin
    obtain ⟨value, hfollows⟩ := follows_execution cfg
      (handleClientFrame unpack sender h body) found
    obtain ⟨final, hwalks, _⟩ :=
      hfollows.walks (handleClientFrame_content unpack sender h body)
    refine notice_of_walks hbody hwalks ⟨trivial, ?_⟩ hp hcall hlogin
    intro self wantMode lok hlearned
    cases hlearned

def roundRobinBody : List Tok :=
  [.map 4, .str (lit "username"), .str (lit "root"),
    .str (lit "password"), .str (lit "pw"),
    .str (lit "peer_role"), .str (lit "admin"),
    .str (lit "recv_mode"), .str (lit "round_robin")]

/-- Session 1 logs in with broadcast, session 2 with round-robin. -/
def secondModeRun : List Event :=
  rootLogin ++ [.accept (lit "10.0.0.1")] ++
    receive 2 kClientLogin 1 roundRobinBody ++ advances 2 6

theorem recvMode_as_announced_secondModeRun :
    ∃ s, Transition.run (step forwarderJson unpackFlat) secondModeRun
        (initial emptyDb) = some s ∧
      (framesTo 2 s.hub.calls).map Wire.announcedMode = [some .broadcast] ∧
      (framesTo 2 s.hub.calls).map Wire.hasNotice = [true] ∧
      ∀ isOpen, (s.hub.reg.recipients forwarderJson isOpen 1).2 =
        s.hub.reg.recipientsBy .broadcast forwarderJson isOpen 1 := by
  have hfinal : ∃ s, Transition.run (step forwarderJson unpackFlat)
      secondModeRun (initial emptyDb) = some s ∧
      (framesTo 2 s.hub.calls).map Wire.announcedMode = [some .broadcast] ∧
      (framesTo 2 s.hub.calls).map Wire.hasNotice = [true] ∧
      2 ∈ s.hub.reg.deque 1 ∧ ∃ reply ∈ framesTo 2 s.hub.calls,
        reply.announcedMode = some .broadcast :=
    Transition.exists_run_of_check (by decide +kernel)
  obtain ⟨s, hrun, hmodes, hnotices, hmem, reply, hreply, hannounced⟩ :=
    hfinal
  exact ⟨s, hrun, hmodes, hnotices,
    (((recvMode_as_announced forwarderJson unpackFlat).1 emptyDb _ s hrun).1
      2 reply .broadcast 1 hreply hannounced hmem).1⟩

/-- Session 1 is registered and session 2 evicts it, and both stop there.
Session 3 evicts session 2, is answered and leaves, and session 4 logs in
with round-robin.  Then session 1 gets its reply. -/
def staleReplyRun : List Event :=
  List.replicate 4 (.accept (lit "10.0.0.1")) ++
    receive 1 kClientLogin 1 (loginBody (lit "root") (lit "pw") (lit "admin"))
    ++ advances 1 4 ++
    receive 2 kClientLogin 1 (loginBody (lit "root") (lit "pw") (lit "admin"))
    ++ advances 2 4 ++
    receive 3 kClientLogin 1 (loginBody (lit "root") (lit "pw") (lit "admin"))
    ++ advances 3 7 ++
    [.read 3 (.loopTop false), .read 3 .failed, .removeSession 3] ++
    receive 4 kClientLogin 1 roundRobinBody ++ advances 4 6 ++
    advances 1 1 ++ [.io 1 .runHandler]

/-- The last reply of the run is for the account of session 4, which is
listed and was told another mode; and it is put into the send queue. -/
theorem stale_login_reply :
    ∃ s, Transition.run (step oneSession unpackFlat) staleReplyRun
        (initial emptyDb) = some s ∧
      s.hub.reg.deque 1 = [4] ∧
      (framesTo 4 s.hub.calls).map Wire.announcedMode =
        [some .roundRobin] ∧
      (s.hub.sessions 1).userId = 1 ∧
      s.hub.calls.getLast?.map (fun entry =>
        (entry.1, entry.2.sent.bind Wire.announcedMode)) =
          some (1, some .broadcast) ∧
      (s.hub.sessions 1).queue.map Wire.announcedMode =
        [some .broadcast] :=
  Transition.exists_run_of_check (by decide +kernel)

end Server

end AsioForwarder
