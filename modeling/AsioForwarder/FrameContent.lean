import AsioForwarder.HandleFrame

/-!
# What a frame asks for

The stages of a request say in which order its operations come.  Here it is
said where their arguments come from: `Asks` lists the operations the handler
may perform for a frame whose body is the map `mp`, each with its arguments
as they are read from the header, the body and the sender, and `Answers` the
replies.  Two results are used again later in the handler: the reply to a
LOGIN announces what its registration returned, and the reply to `list_users`
is the body made in the critical section.  `Learned` keeps them.
-/

namespace AsioForwarder

open Interaction

/-- The results a handler carries on. -/
inductive Learned where
  | nothing
  /-- The session is registered, as `self`, and `lok` was returned. -/
  | registered (self : Identity) (wantMode : RecvMode) (lok : LoginOk)
  | listed (body : List Tok)

def Learned.next : Learned → (op : Op) → op.Res → Learned
  | _, .lock (.login self un info wantMode), outcome =>
      .registered ⟨self, true, info.id, info.isAdmin, un⟩ wantMode outcome.1
  | _, .lock .listUsers, body => .listed body
  | learned, _, _ => learned

/-- What a CONTROL action has checked when it calls the store. -/
def StoreOp.Checked : StoreOp → Prop
  | .adminInsertAllowlist ip => ip ≠ []
  | .adminInsertUser un pw _ => un ≠ [] ∧ pw ≠ []
  | .ipWhitelisted _ | .authenticateOrRegister _ _ _
  | .userIdByUsername _ => False
  | _ => True

/-- Keys under which `RelayClient::recv` looks for something in a reply. -/
def replyKeys : List Bytes :=
  [lit "ok", lit "op", lit "message", lit "error"]

/-- The replies to a frame which are known before the handler starts, up to
the values in them. -/
inductive Answers (h : Header) : Wire → Prop where
  | refusal (code : Nat) (message : Bytes) :
      Answers h (errReplyWire h.seq code message)
  | heartbeat (htype : h.msgType = kClientHeartbeat) :
      Answers h (okReplyWire h.seq (lit "HEARTBEAT"))
  | data (htype : h.msgType = kClientData) :
      Answers h (okReplyWire h.seq (lit "DATA"))
  | control (htype : h.msgType = kClientControl) :
      Answers h (okReplyWire h.seq (lit "CONTROL"))
  | report (htype : h.msgType = kClientControl) (key : Bytes)
      (hkey : key ∉ replyKeys) (value : List Tok) :
      Answers h (replyWire h.seq ([.map 3, .str (lit "ok"), .bool true,
        .str (lit "op"), .str (lit "CONTROL"), .str key] ++ value))

/-- The operations a frame with the body `mp` may lead to. -/
inductive Asks (sender : Identity) (h : Header) (mp : ObjMap) :
    Learned → Op → Prop where
  | address : Asks sender h mp .nothing (.clientIp sender.connId)
  | allowIp (ip : Bytes) :
      Asks sender h mp .nothing (.store (.ipWhitelisted ip))
  | authenticate (login : LoginBody) (hbody : checkLoginBody mp = .ok login) :
      Asks sender h mp .nothing (.store (.authenticateOrRegister
        login.username login.password login.wantAdmin))
  | register (login : LoginBody) (hbody : checkLoginBody mp = .ok login)
      (info : UserInfo) :
      Asks sender h mp .nothing (.lock (.login sender.connId login.username
        info login.wantMode))
  | welcome (self : Identity) (wantMode : RecvMode) (lok : LoginOk) :
      Asks sender h mp (.registered self wantMode lok)
        (.call sender.connId (.sendFrame (loginReplyWire h.seq self lok)))
  | notify (learned : Learned) (victim : ConnId)
      (userReason logWhy : Bytes) :
      Asks sender h mp learned
        (.call victim (.notifyAndClose userReason logWhy))
  | lookup (dst : Bytes) (hdst : mapGetStr mp (lit "dst_username") = some dst) :
      Asks sender h mp .nothing (.lock (.cacheLookup dst))
  | ask (dst : Bytes) (hdst : mapGetStr mp (lit "dst_username") = some dst) :
      Asks sender h mp .nothing (.store (.userIdByUsername dst))
  | remember (dst : Bytes) (uid : Nat)
      (hdst : mapGetStr mp (lit "dst_username") = some dst) :
      Asks sender h mp .nothing (.lock (.cacheStore dst uid))
  | route (dst payload : Bytes) (uid : Nat)
      (htype : h.msgType = kClientData)
      (hdst : mapGetStr mp (lit "dst_username") = some dst)
      (hpayload : extractPayloadBin (mapGetObj mp (lit "payload")) =
        some payload) :
      Asks sender h mp .nothing (.lock (.deliver sender.username
        sender.connId dst uid payload h.seq))
  | snapshot (uid : Nat) :
      Asks sender h mp .nothing (.lock (.snapshotSessions uid))
  | rename (oldName newName : Bytes) (uid : Nat) :
      Asks sender h mp .nothing (.lock (.cacheRename oldName newName uid))
  | forget (name : Bytes) (uid : Nat) :
      Asks sender h mp .nothing (.lock (.cacheForget name uid))
  | list (htype : h.msgType = kClientControl) :
      Asks sender h mp .nothing (.lock .listUsers)
  | listing (htype : h.msgType = kClientControl) (body : List Tok) :
      Asks sender h mp (.listed body)
        (.call sender.connId (.sendFrame (replyWire h.seq body)))
  | manage (operation : StoreOp) (hchecked : operation.Checked) :
      Asks sender h mp .nothing (.store operation)
  | answer (wire : Wire) (hanswer : Answers h wire) :
      Asks sender h mp .nothing (.call sender.connId (.sendFrame wire))

/-- A body which is no map leads to nothing but a `stop`. -/
inductive AsksFrame (unpack : Bytes → Option Obj) (sender : Identity)
    (h : Header) (body : Bytes) : Learned → Op → Prop where
  | stop (why : Bytes) :
      AsksFrame unpack sender h body .nothing (.call sender.connId (.stop why))
  | ask (mp : ObjMap) (learned : Learned) (op : Op)
      (hbody : unpack body = some (.map mp))
      (hasks : Asks sender h mp learned op) :
      AsksFrame unpack sender h body learned op

def contentProtocol (sender : Identity) (h : Header) (mp : ObjMap) :
    Protocol Op Op.Res where
  Stage := Learned
  Allows := Asks sender h mp
  next := Learned.next

def frameContent (unpack : Bytes → Option Obj) (sender : Identity)
    (h : Header) (body : Bytes) : Protocol Op Op.Res where
  Stage := Learned
  Allows := AsksFrame unpack sender h body
  next := Learned.next

/-! ## The handler keeps to it -/

section Content

variable {sender : Identity} {h : Header} {mp : ObjMap}

/-- The handler asks for no more than the frame does. -/
def KeepsTo (sender : Identity) (h : Header) (mp : ObjMap)
    (learned : Learned) (program : Frame Unit) : Prop :=
  (contentProtocol sender h mp).Conforms (fun _ _ => True) learned program

theorem keepsTo_answer {wire : Wire} (hanswer : Answers h wire) :
    KeepsTo sender h mp .nothing (Frame.sendFrame sender.connId wire) :=
  ⟨.answer wire hanswer, fun _ => trivial⟩

theorem keepsTo_refusal (code : Nat) (message : Bytes) :
    KeepsTo sender h mp .nothing (sendErrReply sender h.seq code message) :=
  keepsTo_answer (.refusal code message)

theorem keepsTo_store (operation : StoreOp)
    {next : operation.Res → Frame Unit} (hchecked : operation.Checked)
    (hnext : ∀ result, KeepsTo sender h mp .nothing (next result)) :
    KeepsTo sender h mp .nothing (Frame.store operation >>= next) :=
  Protocol.conforms_perform_bind (.manage operation hchecked) hnext

theorem content_notifyEach (learned : Learned) (userReason logWhy : Bytes)
    (todo : List ConnId) :
    (contentProtocol sender h mp).Conforms
      (fun _ reached => reached = learned) learned
      (Frame.notifyEach userReason logWhy todo) := by
  induction todo with
  | nil => rfl
  | cons victim rest ih =>
      exact ⟨.notify learned victim userReason logWhy, fun _ => ih⟩

/-! ### LOGIN -/

theorem checkLoginBody_ok {mp : ObjMap} {login : LoginBody}
    (hcheck : checkLoginBody mp = .ok login) :
    mapGetStr mp (lit "username") = some login.username ∧
    mapGetStr mp (lit "password") = some login.password ∧
    mapGetStr mp (lit "peer_role") =
      some (if login.wantAdmin then lit "admin" else lit "user") ∧
    ∃ text, mapGetStr mp (lit "recv_mode") = some text ∧
      parseRecvModeStr text = some login.wantMode := by
  unfold checkLoginBody at hcheck
  split at hcheck
  · cases hcheck
  · cases hcheck
  rename_i un _ hun
  split at hcheck
  · cases hcheck
  rename_i pw hpw
  split at hcheck
  · cases hcheck
  rename_i peer hpeer
  split at hcheck
  · cases hcheck
  rename_i text htext
  split_ifs at hcheck with hrole
  split at hcheck
  · cases hcheck
  rename_i wantMode hmode
  cases hcheck
  refine ⟨hun, hpw, ?_, text, htext, hmode⟩
  rw [hpeer]
  by_cases hadmin : peer = lit "admin"
  · simp [hadmin]
  · have huser : peer = lit "user" := by
      by_contra hnot
      exact hrole ⟨hadmin, hnot⟩
    simp [huser]

/-- What `try_authenticate` leaves for the reply. -/
def LeftForReply : Except (Nat × Bytes) (Identity × LoginOk) → Learned → Prop
  | .error _, learned => learned = .nothing
  | .ok (self, lok), learned => ∃ wantMode,
      learned = .registered self wantMode lok

theorem tryAuthenticate_content :
    (contentProtocol sender h mp).Conforms LeftForReply Learned.nothing
      (tryAuthenticate sender mp) := by
  unfold tryAuthenticate
  split
  · exact rfl
  · rename_i login hlogin
    refine Protocol.conforms_perform_bind Asks.address ?_
    intro cip
    split
    · exact rfl
    · refine Protocol.conforms_perform_bind (Asks.allowIp cip) ?_
      intro listed
      cases listed with
      | false => exact rfl
      | true =>
          refine Protocol.conforms_perform_bind
            (Asks.authenticate login hlogin) ?_
          intro outcome
          cases outcome with
          | error e => exact rfl
          | ok uinfo =>
              refine Protocol.conforms_perform_bind
                (Asks.register login hlogin uinfo) ?_
              intro registered
              refine Protocol.conforms_bind (content_notifyEach _ _ _ _) ?_
              intro _ reached hreached
              exact ⟨login.wantMode, hreached⟩

theorem handleLogin_content :
    KeepsTo sender h mp .nothing (handleLogin sender h.seq mp) := by
  refine Protocol.conforms_bind tryAuthenticate_content ?_
  intro outcome reached hreached
  cases outcome with
  | error failure =>
      subst hreached
      exact keepsTo_refusal _ _
  | ok result =>
      obtain ⟨wantMode, rfl⟩ := hreached
      exact ⟨.welcome result.1 wantMode result.2, fun _ => trivial⟩

/-! ### DATA -/

theorem deliver_content {dst payload : Bytes}
    (htype : h.msgType = kClientData)
    (hdst : mapGetStr mp (lit "dst_username") = some dst)
    (hpayload : extractPayloadBin (mapGetObj mp (lit "payload")) =
      some payload) :
    (contentProtocol sender h mp).Conforms
      (fun _ reached => reached = Learned.nothing) Learned.nothing
      (deliverToUserByRecvMode sender.username sender.connId dst payload
        h.seq) := by
  refine Protocol.conforms_perform_bind (Asks.lookup dst hdst) ?_
  intro cached
  cases cached with
  | some uid => exact ⟨.route dst payload uid htype hdst hpayload, fun _ => rfl⟩
  | none =>
      refine Protocol.conforms_perform_bind (Asks.ask dst hdst) ?_
      intro stored
      cases stored with
      | none => exact rfl
      | some uid =>
          exact ⟨.remember dst uid hdst,
            fun _ => ⟨.route dst payload uid htype hdst hpayload,
              fun _ => rfl⟩⟩

theorem handleData_content (htype : h.msgType = kClientData) :
    KeepsTo sender h mp .nothing (handleData sender h.seq mp) := by
  unfold handleData
  split
  · exact keepsTo_refusal _ _
  · rename_i payload hpayload
    split
    · exact keepsTo_refusal _ _
    · exact keepsTo_refusal _ _
    · rename_i dst _ hdst
      refine Protocol.conforms_bind (deliver_content htype hdst hpayload) ?_
      intro _ reached hreached
      subst hreached
      exact keepsTo_answer (.data htype)

/-! ### CONTROL -/

section Control

variable (htype : h.msgType = kClientControl)

include htype

theorem replyToStore_content (outcome : Option Bytes) :
    KeepsTo sender h mp .nothing (replyToStore sender h.seq outcome) := by
  cases outcome with
  | none => exact keepsTo_answer (.control htype)
  | some err => exact keepsTo_refusal _ _

theorem listUsers_content :
    KeepsTo sender h mp .nothing (listUsers sender h.seq) := by
  refine Protocol.conforms_perform_bind (Asks.list htype) ?_
  intro body
  exact ⟨.listing htype body, fun _ => trivial⟩

theorem kickUser_content :
    KeepsTo sender h mp .nothing (kickUser sender h.seq mp) := by
  unfold kickUser
  split
  · exact keepsTo_refusal _ _
  · rename_i target _
    refine Protocol.conforms_perform_bind (Asks.snapshot target) ?_
    intro victims
    refine Protocol.conforms_bind (content_notifyEach _ _ _ _) ?_
    intro _ reached hreached
    subst hreached
    exact keepsTo_answer (.report htype (lit "kicked_count") (by decide)
      [.uint victims.length])

theorem allowlistList_content :
    KeepsTo sender h mp .nothing (allowlistList sender h.seq) := by
  refine keepsTo_store .adminListAllowlist trivial ?_
  intro outcome
  cases outcome with
  | error err => exact keepsTo_refusal _ _
  | ok rows =>
      exact keepsTo_answer (.report htype (lit "rows") (by decide)
        (.array rows.length :: _))

theorem userTableList_content :
    KeepsTo sender h mp .nothing (userTableList sender h.seq) := by
  refine keepsTo_store .adminListUsers trivial ?_
  intro outcome
  cases outcome with
  | error err => exact keepsTo_refusal _ _
  | ok rows =>
      exact keepsTo_answer (.report htype (lit "rows") (by decide)
        (.array rows.length :: _))

theorem allowlistAdd_content :
    KeepsTo sender h mp .nothing (allowlistAdd sender h.seq mp) := by
  unfold allowlistAdd
  split
  · exact keepsTo_refusal _ _
  · exact keepsTo_refusal _ _
  · rename_i ip hne hip
    refine keepsTo_store (.adminInsertAllowlist ip) ?_
      (replyToStore_content htype)
    exact hne

theorem allowlistUpdate_content :
    KeepsTo sender h mp .nothing (allowlistUpdate sender h.seq mp) := by
  unfold allowlistUpdate
  split
  · exact keepsTo_store (.adminUpdateAllowlist _ _) trivial
      (replyToStore_content htype)
  · exact keepsTo_refusal _ _

theorem allowlistDelete_content :
    KeepsTo sender h mp .nothing (allowlistDelete sender h.seq mp) := by
  unfold allowlistDelete
  split
  · exact keepsTo_refusal _ _
  · exact keepsTo_store (.adminDeleteAllowlist _) trivial
      (replyToStore_content htype)

theorem userTableAdd_content :
    KeepsTo sender h mp .nothing (userTableAdd sender h.seq mp) := by
  unfold userTableAdd
  split
  · split
    · exact keepsTo_refusal _ _
    · rename_i hempty
      rw [not_or] at hempty
      exact keepsTo_store (.adminInsertUser _ _ _) hempty
        (replyToStore_content htype)
  · exact keepsTo_refusal _ _

theorem applyUserUpdate_content (uid : Nat) (oldName : Bytes)
    (newUsername newPassword : Option Bytes) (newIsAdmin : Option Bool) :
    KeepsTo sender h mp .nothing (applyUserUpdate sender h.seq uid oldName
      newUsername newPassword newIsAdmin) := by
  refine keepsTo_store (.adminUpdateUser _ _ _ _) trivial ?_
  intro outcome
  cases outcome with
  | some err => exact keepsTo_refusal _ _
  | none =>
      cases newUsername with
      | none => exact keepsTo_answer (.control htype)
      | some newName =>
          exact ⟨.rename oldName newName uid,
            fun _ => keepsTo_answer (.control htype)⟩

theorem userTableUpdate_content :
    KeepsTo sender h mp .nothing (userTableUpdate sender h.seq mp) := by
  unfold userTableUpdate
  split
  · exact keepsTo_refusal _ _
  · refine keepsTo_store (.adminGetUsernameById _) trivial ?_
    intro outcome
    cases outcome with
    | error err => exact keepsTo_refusal _ _
    | ok oldName =>
        dsimp only
        split
        · exact keepsTo_refusal _ _
        · split
          · exact keepsTo_refusal _ _
          · exact applyUserUpdate_content htype _ _ _ _ _

theorem userTableDelete_content :
    KeepsTo sender h mp .nothing (userTableDelete sender h.seq mp) := by
  unfold userTableDelete
  split
  · exact keepsTo_refusal _ _
  · rename_i uid _
    refine keepsTo_store (.adminGetUsernameById uid) trivial ?_
    intro outcome
    cases outcome with
    | error err => exact keepsTo_refusal _ _
    | ok uname =>
        refine Protocol.conforms_perform_bind (Asks.snapshot uid) ?_
        intro victims
        refine Protocol.conforms_bind (content_notifyEach _ _ _ _) ?_
        intro _ reached hreached
        subst hreached
        refine Protocol.conforms_perform_bind (Asks.forget uname uid) ?_
        intro _
        exact keepsTo_store (.adminDeleteUser uid) trivial
          (replyToStore_content htype)

theorem handleControl_content :
    KeepsTo sender h mp .nothing (handleControl sender h.seq mp) := by
  unfold handleControl
  dsimp only
  split
  · exact listUsers_content htype
  split
  · exact kickUser_content htype
  split
  · exact allowlistList_content htype
  split
  · exact allowlistAdd_content htype
  split
  · exact allowlistUpdate_content htype
  split
  · exact allowlistDelete_content htype
  split
  · exact userTableList_content htype
  split
  · exact userTableAdd_content htype
  split
  · exact userTableUpdate_content htype
  split
  · exact userTableDelete_content htype
  · exact keepsTo_refusal _ _

end Control

/-! ### The whole handler -/

theorem loggedIn_content :
    KeepsTo sender h mp .nothing
      (if h.msgType = kClientHeartbeat then
        sendOkReply sender h.seq (lit "HEARTBEAT")
      else if h.msgType = kClientData then handleData sender h.seq mp
      else if h.msgType = kClientControl then
        if !sender.isAdmin then
          sendErrReply sender h.seq kProtocol (lit "需要管理员账号权限")
        else handleControl sender h.seq mp
      else
        sendErrReply sender h.seq kProtocol
          (lit "未知 msg_type（已登录帧须为 heartbeat=2 / control=3 / data=4）")) := by
  split
  · rename_i hheartbeat
    exact keepsTo_answer (.heartbeat hheartbeat)
  split
  · rename_i hdata
    exact handleData_content hdata
  split
  · rename_i hcontrol
    split
    · exact keepsTo_refusal _ _
    · exact handleControl_content hcontrol
  · exact keepsTo_refusal _ _

theorem KeepsTo.frame {unpack : Bytes → Option Obj} {body : Bytes}
    (hbody : unpack body = some (.map mp)) {learned : Learned}
    {program : Frame Unit} (hkeeps : KeepsTo sender h mp learned program) :
    (frameContent unpack sender h body).Conforms (fun _ _ => True) learned
      program := by
  induction program generalizing learned with
  | ret value => trivial
  | op operation rest ih =>
      exact ⟨.ask mp learned operation hbody hkeeps.1,
        fun result => ih result (hkeeps.2 result)⟩

theorem content_stop (unpack : Bytes → Option Obj) (body why : Bytes) :
    (frameContent unpack sender h body).Conforms (fun _ _ => True)
      Learned.nothing (Frame.stop sender.connId why) :=
  ⟨.stop why, fun _ => trivial⟩

theorem withMap_content (unpack : Bytes → Option Obj) (body : Bytes)
    {next : ObjMap → Frame Unit}
    (hnext : ∀ mp, KeepsTo sender h mp .nothing (next mp)) :
    (frameContent unpack sender h body).Conforms (fun _ _ => True)
      Learned.nothing (withMap unpack sender body next) := by
  unfold withMap
  split
  · exact content_stop unpack body _
  · rename_i mp hbody
    exact (hnext mp).frame hbody
  · exact content_stop unpack body _

end Content

/-- Every operation of the handler has its arguments from the frame. -/
theorem handleClientFrame_content (unpack : Bytes → Option Obj)
    (sender : Identity) (h : Header) (body : Bytes) :
    (frameContent unpack sender h body).Conforms (fun _ _ => True)
      Learned.nothing (handleClientFrame unpack sender h body) := by
  unfold handleClientFrame
  split
  · split
    · exact content_stop unpack body _
    · exact withMap_content unpack body (fun _ => handleLogin_content)
  · exact withMap_content unpack body (fun _ => loggedIn_content)

/-- A DELIVER frame the handler queues carries what the scanners found in the
body. -/
theorem AsksFrame.deliver {unpack : Bytes → Option Obj} {cfg : Config}
    {sender : Identity} {h : Header} {body : Bytes} {learned : Learned}
    {op : Op} (hasks : AsksFrame unpack sender h body learned op) {env : Env}
    {hub : Hub} {d : ConnId} {wire : Wire}
    (hcall : (d, Call.sendFrame wire) ∈ op.calls cfg env hub)
    (hdeliver : wire.msgType = kMsgDeliver) :
    ∃ mp dst payload, unpack body = some (.map mp) ∧
      mapGetStr mp (lit "dst_username") = some dst ∧
      extractPayloadBin (mapGetObj mp (lit "payload")) = some payload ∧
      wire = deliverWire h.seq payload sender.connId d sender.username dst := by
  cases hasks with
  | stop why => simp [Op.calls] at hcall
  | ask mp _ _ hbody hasks =>
      cases hasks with
      | route dst payload uid htype hdst hpayload =>
          simp only [Op.calls, LockOp.exec, List.mem_map, Prod.mk.injEq,
            Call.sendFrame.injEq] at hcall
          obtain ⟨c, _, rfl, rfl⟩ := hcall
          exact ⟨mp, dst, payload, hbody, hdst, hpayload, rfl⟩
      | welcome self wantMode lok =>
          simp only [Op.calls, List.mem_singleton, Prod.mk.injEq,
            Call.sendFrame.injEq] at hcall
          rw [hcall.2] at hdeliver
          cases hdeliver
      | listing htype listed =>
          simp only [Op.calls, List.mem_singleton, Prod.mk.injEq,
            Call.sendFrame.injEq] at hcall
          rw [hcall.2] at hdeliver
          cases hdeliver
      | answer answered hanswer =>
          simp only [Op.calls, List.mem_singleton, Prod.mk.injEq,
            Call.sendFrame.injEq] at hcall
          rw [hcall.2] at hdeliver
          cases hanswer <;> cases hdeliver
      | _ => simp [Op.calls, LockOp.exec] at hcall

end AsioForwarder
