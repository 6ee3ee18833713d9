import AsioForwarder.HandleFrame

/-!
# Stages of a request

The handler of one frame goes through stages: what it has learned and what
it still has to do.  `Allows` lists the operations of each stage and
`Stage.next` the stage after a result.  `handleClientFrame_ends` says
that the handler keeps to this on every path; everything about runs of the
server uses the stages and never the text of the handler again.
-/

namespace AsioForwarder

open Interaction

inductive Stage where
  /-- A LOGIN frame of a session which is not logged in. -/
  | login
  | addressed (ip : Bytes)
  | admitted
  /-- The database has accepted the login; the session is not registered. -/
  | authed (un : Bytes) (info : UserInfo)
  /-- Registered; evicted sessions to be notified, then the reply. -/
  | welcoming (uid : Nat) (todo : List ConnId)
  /-- A DATA frame of a logged-in session. -/
  | data
  | missed (dst : Bytes)
  | found (dst : Bytes) (uid : Nat)
  | routed (dst : Bytes) (uid : Nat)
  /-- A CONTROL frame of an administrator, except for the next kind. -/
  | control
  | kicking (todo : List ConnId)
  /-- An administrator's `user_table_update` with a name, or
  `user_table_delete`. -/
  | maintenance
  | named (uid : Nat) (name : Bytes)
  | renamed (uid : Nat) (oldName newName : Bytes)
  | purging (uid : Nat) (name : Bytes) (todo : List ConnId)
  | forgotten (uid : Nat) (name : Bytes)
  | deleted (uid : Nat)
  /-- Nothing is left but one reply, or a `stop`. -/
  | answering
  | done
  deriving DecidableEq

/-- Stages from which the handler may answer and end. -/
def Stage.mayReply : Stage → Bool
  | .login | .addressed _ | .admitted | .data | .control | .maintenance
  | .named _ _ | .answering => true
  | .kicking todo => todo.isEmpty
  | _ => false

/-- The store calls of the CONTROL actions which leave names and rows of
other accounts in place. -/
def StoreOp.Ordinary : StoreOp → Prop
  | .adminListAllowlist | .adminInsertAllowlist _ | .adminUpdateAllowlist _ _
  | .adminDeleteAllowlist _ | .adminListUsers | .adminInsertUser _ _ _
  | .adminGetUsernameById _ | .adminUpdateUser _ none _ _ => True
  | _ => False

/-- The operations of a stage. -/
inductive Allows (sender : Identity) (seq : UInt32) : Stage → Op → Prop where
  | address : Allows sender seq .login (.clientIp sender.connId)
  | allowIp (ip : Bytes) :
      Allows sender seq (.addressed ip) (.store (.ipWhitelisted ip))
  | authenticate (un password : Bytes) (wantAdmin : Bool) :
      Allows sender seq .admitted
        (.store (.authenticateOrRegister un password wantAdmin))
  | register (un : Bytes) (info : UserInfo) (wantMode : RecvMode) :
      Allows sender seq (.authed un info)
        (.lock (.login sender.connId un info wantMode))
  | evict (uid : Nat) (victim : ConnId) (todo : List ConnId)
      (userReason logWhy : Bytes) :
      Allows sender seq (.welcoming uid (victim :: todo))
        (.call victim (.notifyAndClose userReason logWhy))
  | welcome (uid : Nat) (self : Identity) (lok : LoginOk) :
      Allows sender seq (.welcoming uid [])
        (.call sender.connId (.sendFrame (loginReplyWire seq self lok)))
  | lookup (dst : Bytes) :
      Allows sender seq .data (.lock (.cacheLookup dst))
  | ask (dst : Bytes) :
      Allows sender seq (.missed dst) (.store (.userIdByUsername dst))
  | remember (dst : Bytes) (uid : Nat) :
      Allows sender seq (.found dst uid) (.lock (.cacheStore dst uid))
  | route (dst : Bytes) (uid : Nat) (payload : Bytes) :
      Allows sender seq (.routed dst uid)
        (.lock (.deliver sender.username sender.connId dst uid payload seq))
  | list : Allows sender seq .control (.lock .listUsers)
  | snapshot (uid : Nat) :
      Allows sender seq .control (.lock (.snapshotSessions uid))
  | kick (victim : ConnId) (todo : List ConnId)
      (userReason logWhy : Bytes) :
      Allows sender seq (.kicking (victim :: todo))
        (.call victim (.notifyAndClose userReason logWhy))
  | manage (operation : StoreOp) (hordinary : operation.Ordinary) :
      Allows sender seq .control (.store operation)
  | nameOf (uid : Nat) :
      Allows sender seq .maintenance (.store (.adminGetUsernameById uid))
  | update (uid : Nat) (name newName : Bytes) (password : Option Bytes)
      (isAdmin : Option Bool) :
      Allows sender seq (.named uid name)
        (.store (.adminUpdateUser uid (some newName) password isAdmin))
  | rename (uid : Nat) (oldName newName : Bytes) :
      Allows sender seq (.renamed uid oldName newName)
        (.lock (.cacheRename oldName newName uid))
  | condemn (uid : Nat) (name : Bytes) :
      Allows sender seq (.named uid name) (.lock (.snapshotSessions uid))
  | purge (uid : Nat) (name : Bytes) (victim : ConnId) (todo : List ConnId)
      (userReason logWhy : Bytes) :
      Allows sender seq (.purging uid name (victim :: todo))
        (.call victim (.notifyAndClose userReason logWhy))
  | forget (uid : Nat) (name : Bytes) :
      Allows sender seq (.purging uid name []) (.lock (.cacheForget name uid))
  | delete (uid : Nat) (name : Bytes) :
      Allows sender seq (.forgotten uid name) (.store (.adminDeleteUser uid))
  | confirm (uid : Nat) :
      Allows sender seq (.deleted uid)
        (.call sender.connId (.sendFrame (okReplyWire seq (lit "CONTROL"))))
  | reply (stage : Stage) (hstage : stage.mayReply = true) (wire : Wire)
      (htype : wire.msgType = kMsgServerReply) (hseq : wire.seq = seq) :
      Allows sender seq stage (.call sender.connId (.sendFrame wire))
  | refuse (why : Bytes) :
      Allows sender seq .answering (.call sender.connId (.stop why))

/-- The stage after an operation and its result. -/
def Stage.next : Stage → (op : Op) → op.Res → Stage
  | _, .call _ (.sendFrame _), _ => .done
  | _, .call _ (.stop _), _ => .done
  | _, .clientIp _, ip => .addressed ip
  | .addressed _, .store (.ipWhitelisted _), listed =>
      bif listed then .admitted else .answering
  | .admitted, .store (.authenticateOrRegister un _ _), outcome =>
      match outcome with
      | .ok info => .authed un info
      | .error _ => .answering
  | .authed _ info, .lock (.login self _ _ _), registered =>
      .welcoming info.id (registered.2.filter (fun c => c ≠ self))
  | .welcoming uid todo, .call _ (.notifyAndClose _ _), _ =>
      .welcoming uid todo.tail
  | .data, .lock (.cacheLookup dst), cached =>
      match cached with
      | some uid => .routed dst uid
      | none => .missed dst
  | .missed dst, .store (.userIdByUsername _), stored =>
      match stored with
      | some uid => .found dst uid
      | none => .answering
  | .found dst uid, .lock (.cacheStore _ _), _ => .routed dst uid
  | .routed _ _, .lock (.deliver _ _ _ _ _ _), _ => .answering
  | .control, .lock .listUsers, _ => .answering
  | .control, .lock (.snapshotSessions _), victims => .kicking victims
  | .kicking todo, .call _ (.notifyAndClose _ _), _ => .kicking todo.tail
  | .maintenance, .store (.adminGetUsernameById uid), outcome =>
      match outcome with
      | .ok name => .named uid name
      | .error _ => .answering
  | .named uid name, .store (.adminUpdateUser _ (some newName) _ _), err =>
      match err with
      | none => .renamed uid name newName
      | some _ => .answering
  | .named uid name, .lock (.snapshotSessions _), victims =>
      .purging uid name victims
  | .renamed _ _ _, .lock (.cacheRename _ _ _), _ => .answering
  | .purging uid name todo, .call _ (.notifyAndClose _ _), _ =>
      .purging uid name todo.tail
  | .purging uid name _, .lock (.cacheForget _ _), _ => .forgotten uid name
  | .forgotten uid _, .store (.adminDeleteUser _), err =>
      match err with
      | none => .deleted uid
      | some _ => .answering
  | stage, _, _ => stage

def frameProtocol (sender : Identity) (seq : UInt32) :
    Protocol Op Op.Res where
  Stage := Stage
  Allows := Allows sender seq
  next := Stage.next

/-- A `user_table_update` which gives a name, or a `user_table_delete`. -/
def maintains (mp : ObjMap) : Bool :=
  (actionOf mp = lit "user_table_update" && mapHasKey mp (lit "username")) ||
    actionOf mp = lit "user_table_delete"

/-- What kind of request a frame is, from its header and body alone. -/
def initialStage (unpack : Bytes → Option Obj) (sender : Identity)
    (h : Header) (body : Bytes) : Stage :=
  match unpack body with
  | some (.map mp) =>
      if !sender.loggedIn then
        if h.msgType = kClientLogin then .login else .answering
      else if h.msgType = kClientData then .data
      else if h.msgType = kClientControl ∧ sender.isAdmin = true then
        if maintains mp then .maintenance else .control
      else .answering
  | _ => .answering

/-- The stages in which a request can start, with what each says about the
frame and its sender. -/
inductive Opening (sender : Identity) (h : Header) : Stage → Prop where
  | login (htype : h.msgType = kClientLogin)
      (hout : sender.loggedIn = false) : Opening sender h .login
  | data (htype : h.msgType = kClientData)
      (hin : sender.loggedIn = true) : Opening sender h .data
  | control (htype : h.msgType = kClientControl)
      (hin : sender.loggedIn = true) (hadmin : sender.isAdmin = true) :
      Opening sender h .control
  | maintenance (htype : h.msgType = kClientControl)
      (hin : sender.loggedIn = true) (hadmin : sender.isAdmin = true) :
      Opening sender h .maintenance
  | answering : Opening sender h .answering

theorem initialStage_opening (unpack : Bytes → Option Obj)
    (sender : Identity) (h : Header) (body : Bytes) :
    Opening sender h (initialStage unpack sender h body) := by
  unfold initialStage
  split
  · cases hlogged : sender.loggedIn with
    | false =>
        simp only [Bool.not_false, if_true]
        split
        · rename_i hlogin
          exact .login hlogin hlogged
        · exact .answering
    | true =>
        simp only [Bool.not_true, Bool.false_eq_true, if_false]
        split
        · rename_i hdata
          exact .data hdata hlogged
        · split
          · rename_i hcontrol
            split
            · exact .maintenance hcontrol.1 hlogged hcontrol.2
            · exact .control hcontrol.1 hlogged hcontrol.2
          · exact .answering
  · exact .answering

/-! ## The handler keeps to the stages -/

section Conformance

variable {sender : Identity} {seq : UInt32}

def Ends (sender : Identity) (seq : UInt32) (stage : Stage)
    (program : Frame Unit) : Prop :=
  (frameProtocol sender seq).Conforms (fun _ reached => reached = Stage.done)
    stage program

theorem Ends.store {α : Type} {stage : Stage} {operation : StoreOp}
    {post : α → Stage → Prop} {next : operation.Res → Frame α}
    (hallows : Allows sender seq stage (.store operation))
    (hnext : ∀ result, (frameProtocol sender seq).Conforms post
      (stage.next (.store operation) result) (next result)) :
    (frameProtocol sender seq).Conforms post stage
      (Frame.store operation >>= next) :=
  Protocol.conforms_perform_bind hallows hnext

theorem Ends.lock {α : Type} {stage : Stage} {operation : LockOp}
    {post : α → Stage → Prop} {next : operation.Res → Frame α}
    (hallows : Allows sender seq stage (.lock operation))
    (hnext : ∀ result, (frameProtocol sender seq).Conforms post
      (stage.next (.lock operation) result) (next result)) :
    (frameProtocol sender seq).Conforms post stage
      (Frame.lock operation >>= next) :=
  Protocol.conforms_perform_bind hallows hnext

theorem ends_sendFrame {stage : Stage} {wire : Wire}
    (hallows : Allows sender seq stage
      (.call sender.connId (.sendFrame wire))) :
    Ends sender seq stage (Frame.sendFrame sender.connId wire) := by
  refine ⟨hallows, ?_⟩
  intro result
  cases stage <;> rfl

theorem ends_reply {stage : Stage} (body : List Tok)
    (hstage : stage.mayReply = true) :
    Ends sender seq stage
      (Frame.sendFrame sender.connId (replyWire seq body)) :=
  ends_sendFrame (.reply stage hstage _ rfl rfl)

theorem ends_stop (why : Bytes) :
    Ends sender seq .answering (Frame.stop sender.connId why) :=
  ⟨.refuse why, fun _ => rfl⟩

theorem conforms_notifyEach (phase : List ConnId → Stage)
    {userReason logWhy : Bytes} {todo : List ConnId}
    (hallows : ∀ victim rest, Allows sender seq (phase (victim :: rest))
      (.call victim (.notifyAndClose userReason logWhy)))
    (hnext : ∀ victim rest, (phase (victim :: rest)).next
      (.call victim (.notifyAndClose userReason logWhy)) () = phase rest) :
    (frameProtocol sender seq).Conforms (fun _ reached => reached = phase [])
      (phase todo) (Frame.notifyEach userReason logWhy todo) := by
  induction todo with
  | nil => rfl
  | cons victim rest ih =>
      refine ⟨hallows victim rest, ?_⟩
      intro result
      have hstage : (frameProtocol sender seq).next (phase (victim :: rest))
          (.call victim (.notifyAndClose userReason logWhy)) result =
            phase rest := hnext victim rest
      rw [hstage]
      exact ih

/-! ### LOGIN -/

/-- Where `try_authenticate` leaves the request. -/
def AfterAuthenticate :
    Except (Nat × Bytes) (Identity × LoginOk) → Stage → Prop
  | .error _, stage => stage.mayReply = true
  | .ok _, stage => ∃ uid, stage = .welcoming uid []

theorem tryAuthenticate_conforms (mp : ObjMap) :
    (frameProtocol sender seq).Conforms AfterAuthenticate Stage.login
      (tryAuthenticate sender mp) := by
  unfold tryAuthenticate
  split
  · exact rfl
  · rename_i login hlogin
    refine Protocol.conforms_perform_bind Allows.address ?_
    intro cip
    split
    · exact rfl
    · refine Ends.store (.allowIp cip) ?_
      intro listed
      cases listed with
      | false => exact rfl
      | true =>
          refine Ends.store (.authenticate _ _ _) ?_
          intro outcome
          cases outcome with
          | error e => exact rfl
          | ok uinfo =>
              refine Ends.lock (.register _ _ _) ?_
              intro registered
              refine Protocol.conforms_bind
                (conforms_notifyEach (Stage.welcoming uinfo.id)
                  (fun _ _ => .evict _ _ _ _ _) (fun _ _ => rfl)) ?_
              intro _ reached hreached
              exact ⟨uinfo.id, hreached⟩

theorem handleLogin_ends (mp : ObjMap) :
    Ends sender seq .login (handleLogin sender seq mp) := by
  refine Protocol.conforms_bind (tryAuthenticate_conforms mp) ?_
  intro outcome reached hreached
  cases outcome with
  | error failure => exact ends_reply _ hreached
  | ok result =>
      obtain ⟨uid, rfl⟩ := hreached
      exact ends_sendFrame (.welcome uid result.1 result.2)

/-! ### DATA -/

theorem deliver_conforms (dstUsername payload : Bytes) :
    (frameProtocol sender seq).Conforms
      (fun _ reached => reached = Stage.answering) Stage.data
      (deliverToUserByRecvMode sender.username sender.connId dstUsername
        payload seq) := by
  refine Ends.lock (.lookup dstUsername) ?_
  intro cached
  cases cached with
  | some uid => exact ⟨.route _ _ _, fun _ => rfl⟩
  | none =>
      refine Ends.store (.ask dstUsername) ?_
      intro stored
      cases stored with
      | none => exact rfl
      | some uid =>
          exact ⟨.remember _ _, fun _ => ⟨.route _ _ _, fun _ => rfl⟩⟩

theorem handleData_ends (mp : ObjMap) :
    Ends sender seq .data (handleData sender seq mp) := by
  unfold handleData
  split
  · exact ends_reply _ (by rfl)
  · split
    · exact ends_reply _ (by rfl)
    · exact ends_reply _ (by rfl)
    · refine Protocol.conforms_bind (deliver_conforms _ _) ?_
      rintro _ reached rfl
      exact ends_reply _ (by rfl)

/-! ### CONTROL -/

theorem replyToStore_ends {stage : Stage} (hstage : stage.mayReply = true)
    (outcome : Option Bytes) :
    Ends sender seq stage (replyToStore sender seq outcome) := by
  cases outcome with
  | none => exact ends_reply _ hstage
  | some err => exact ends_reply _ hstage

theorem control_next_store (operation : StoreOp) (result : operation.Res) :
    Stage.control.next (.store operation) result = .control := by
  cases operation with
  | adminUpdateUser uid newUsername newPassword newIsAdmin =>
      cases newUsername <;> rfl
  | _ => rfl

theorem manage_ends (operation : StoreOp) (hordinary : operation.Ordinary)
    {next : operation.Res → Frame Unit}
    (hnext : ∀ result, Ends sender seq .control (next result)) :
    Ends sender seq .control (Frame.store operation >>= next) := by
  refine Ends.store (.manage operation hordinary) ?_
  intro result
  rw [control_next_store]
  exact hnext result

theorem listUsers_ends : Ends sender seq .control (listUsers sender seq) := by
  refine Ends.lock .list ?_
  intro body
  exact ends_reply _ (by rfl)

theorem kickUser_ends (mp : ObjMap) :
    Ends sender seq .control (kickUser sender seq mp) := by
  unfold kickUser
  split
  · exact ends_reply _ (by rfl)
  · refine Ends.lock (.snapshot _) ?_
    intro victims
    refine Protocol.conforms_bind
      (conforms_notifyEach Stage.kicking
        (fun _ _ => .kick _ _ _ _) (fun _ _ => rfl)) ?_
    rintro _ reached rfl
    exact ends_reply _ (by rfl)

theorem allowlistList_ends :
    Ends sender seq .control (allowlistList sender seq) := by
  refine manage_ends .adminListAllowlist trivial ?_
  intro outcome
  cases outcome with
  | error err => exact ends_reply _ (by rfl)
  | ok rows => exact ends_reply _ (by rfl)

theorem userTableList_ends :
    Ends sender seq .control (userTableList sender seq) := by
  refine manage_ends .adminListUsers trivial ?_
  intro outcome
  cases outcome with
  | error err => exact ends_reply _ (by rfl)
  | ok rows => exact ends_reply _ (by rfl)

theorem allowlistAdd_ends (mp : ObjMap) :
    Ends sender seq .control (allowlistAdd sender seq mp) := by
  unfold allowlistAdd
  split
  · exact ends_reply _ (by rfl)
  · exact ends_reply _ (by rfl)
  · exact manage_ends (.adminInsertAllowlist _) trivial
      (fun outcome => replyToStore_ends rfl outcome)

theorem allowlistUpdate_ends (mp : ObjMap) :
    Ends sender seq .control (allowlistUpdate sender seq mp) := by
  unfold allowlistUpdate
  split
  · exact manage_ends (.adminUpdateAllowlist _ _) trivial
      (fun outcome => replyToStore_ends rfl outcome)
  · exact ends_reply _ (by rfl)

theorem allowlistDelete_ends (mp : ObjMap) :
    Ends sender seq .control (allowlistDelete sender seq mp) := by
  unfold allowlistDelete
  split
  · exact ends_reply _ (by rfl)
  · exact manage_ends (.adminDeleteAllowlist _) trivial
      (fun outcome => replyToStore_ends rfl outcome)

theorem userTableAdd_ends (mp : ObjMap) :
    Ends sender seq .control (userTableAdd sender seq mp) := by
  unfold userTableAdd
  split
  · split
    · exact ends_reply _ (by rfl)
    · exact manage_ends (.adminInsertUser _ _ _) trivial
        (fun outcome => replyToStore_ends rfl outcome)
  · exact ends_reply _ (by rfl)

theorem applyUserUpdate_ends_control (uid : Nat) (oldName : Bytes)
    (newPassword : Option Bytes) (newIsAdmin : Option Bool) :
    Ends sender seq .control
      (applyUserUpdate sender seq uid oldName none newPassword newIsAdmin) := by
  refine manage_ends (.adminUpdateUser _ none _ _) trivial ?_
  intro outcome
  cases outcome with
  | none => exact ends_reply _ (by rfl)
  | some err => exact ends_reply _ (by rfl)

theorem applyUserUpdate_ends_named (uid : Nat) (oldName newName : Bytes)
    (newPassword : Option Bytes) (newIsAdmin : Option Bool) :
    Ends sender seq (.named uid oldName)
      (applyUserUpdate sender seq uid oldName (some newName) newPassword
        newIsAdmin) := by
  refine Ends.store (.update _ _ _ _ _) ?_
  intro outcome
  cases outcome with
  | none => exact ⟨.rename _ _ _, fun _ => ends_reply _ (by rfl)⟩
  | some err => exact ends_reply _ (by rfl)

theorem updateField_ok {mp : ObjMap} {key : Bytes} {field : Option Bytes}
    (hfield : updateField mp key = .ok field) :
    field.isSome = mapHasKey mp key := by
  unfold updateField at hfield
  split at hfield
  · rename_i hkey
    split at hfield
    · cases hfield
    · cases hfield
      simp [hkey]
  · rename_i hkey
    cases hfield
    simp [Bool.not_eq_true] at hkey
    simp [hkey]

theorem userTableUpdate_ends_control (mp : ObjMap)
    (hkey : mapHasKey mp (lit "username") = false) :
    Ends sender seq .control (userTableUpdate sender seq mp) := by
  unfold userTableUpdate
  split
  · exact ends_reply _ (by rfl)
  · refine manage_ends (.adminGetUsernameById _) trivial ?_
    intro outcome
    cases outcome with
    | error err => exact ends_reply _ (by rfl)
    | ok oldName =>
        dsimp only
        split
        · exact ends_reply _ (by rfl)
        · rename_i newUsername hname
          have hnone := updateField_ok hname
          rw [hkey, Option.isSome_eq_false_iff, Option.isNone_iff_eq_none]
            at hnone
          subst hnone
          split
          · exact ends_reply _ (by rfl)
          · exact applyUserUpdate_ends_control _ _ _ _

theorem userTableUpdate_ends_maintenance (mp : ObjMap)
    (hkey : mapHasKey mp (lit "username") = true) :
    Ends sender seq .maintenance (userTableUpdate sender seq mp) := by
  unfold userTableUpdate
  split
  · exact ends_reply _ (by rfl)
  · refine Ends.store (.nameOf _) ?_
    intro outcome
    cases outcome with
    | error err => exact ends_reply _ (by rfl)
    | ok oldName =>
        dsimp only
        split
        · exact ends_reply _ (by rfl)
        · rename_i newUsername hname
          have hsome := updateField_ok hname
          rw [hkey, Option.isSome_iff_exists] at hsome
          obtain ⟨newName, rfl⟩ := hsome
          split
          · exact ends_reply _ (by rfl)
          · exact applyUserUpdate_ends_named _ _ _ _ _

theorem userTableDelete_ends (mp : ObjMap) :
    Ends sender seq .maintenance (userTableDelete sender seq mp) := by
  unfold userTableDelete
  split
  · exact ends_reply _ (by rfl)
  · refine Ends.store (.nameOf _) ?_
    intro outcome
    cases outcome with
    | error err => exact ends_reply _ (by rfl)
    | ok uname =>
        refine Ends.lock (.condemn _ _) ?_
        intro victims
        refine Protocol.conforms_bind
          (conforms_notifyEach (Stage.purging _ uname)
            (fun _ _ => .purge _ _ _ _ _ _) (fun _ _ => rfl)) ?_
        rintro _ reached rfl
        refine Ends.lock (.forget _ _) ?_
        intro _
        refine Ends.store (.delete _ _) ?_
        intro outcome
        cases outcome with
        | none => exact ends_sendFrame (.confirm _)
        | some err => exact ends_reply _ (by rfl)

theorem handleControl_ends_control (mp : ObjMap)
    (hkind : maintains mp = false) :
    Ends sender seq .control (handleControl sender seq mp) := by
  simp only [maintains, Bool.or_eq_false_iff, Bool.and_eq_false_iff,
    decide_eq_false_iff_not] at hkind
  unfold handleControl
  dsimp only
  split
  · exact listUsers_ends
  split
  · exact kickUser_ends mp
  split
  · exact allowlistList_ends
  split
  · exact allowlistAdd_ends mp
  split
  · exact allowlistUpdate_ends mp
  split
  · exact allowlistDelete_ends mp
  split
  · exact userTableList_ends
  split
  · exact userTableAdd_ends mp
  split
  · rename_i hupdate
    exact userTableUpdate_ends_control mp
      (hkind.1.resolve_left (not_not_intro hupdate))
  split
  · rename_i hdelete
    exact absurd hdelete hkind.2
  · exact ends_reply _ (by rfl)

theorem handleControl_ends_maintenance (mp : ObjMap)
    (hkind : maintains mp = true) :
    Ends sender seq .maintenance (handleControl sender seq mp) := by
  simp only [maintains, Bool.or_eq_true, Bool.and_eq_true,
    decide_eq_true_eq] at hkind
  unfold handleControl
  dsimp only
  -- the two actions are tested last, after eight other texts
  rcases hkind with ⟨haction, hkey⟩ | haction
  · rw [haction, if_neg (by decide), if_neg (by decide), if_neg (by decide),
      if_neg (by decide), if_neg (by decide), if_neg (by decide),
      if_neg (by decide), if_neg (by decide), if_pos rfl]
    exact userTableUpdate_ends_maintenance mp hkey
  · rw [haction, if_neg (by decide), if_neg (by decide), if_neg (by decide),
      if_neg (by decide), if_neg (by decide), if_neg (by decide),
      if_neg (by decide), if_neg (by decide), if_neg (by decide),
      if_pos rfl]
    exact userTableDelete_ends mp

/-! ### The whole handler -/

theorem loggedIn_ends (h : Header) (mp : ObjMap) :
    Ends sender h.seq
      (if h.msgType = kClientData then .data
      else if h.msgType = kClientControl ∧ sender.isAdmin = true then
        if maintains mp then .maintenance else .control
      else .answering)
      (if h.msgType = kClientHeartbeat then
        sendOkReply sender h.seq (lit "HEARTBEAT")
      else if h.msgType = kClientData then handleData sender h.seq mp
      else if h.msgType = kClientControl then
        if !sender.isAdmin then
          sendErrReply sender h.seq kProtocol (lit "需要管理员账号权限")
        else handleControl sender h.seq mp
      else
        sendErrReply sender h.seq kProtocol
          (lit "未知 msg_type（已登录帧须为 heartbeat=2 / control=3 / data=4）")) := by
  by_cases hdata : h.msgType = kClientData
  · rw [if_pos hdata, hdata, if_neg (by decide), if_pos rfl]
    exact handleData_ends mp
  rw [if_neg hdata, if_neg hdata]
  by_cases hcontrol : h.msgType = kClientControl
  · have hheartbeat : h.msgType ≠ kClientHeartbeat := by
      rw [hcontrol]
      decide
    rw [if_neg hheartbeat, if_pos hcontrol]
    cases hadmin : sender.isAdmin with
    | false =>
        simp only [Bool.false_eq_true, and_false, if_false, Bool.not_false,
          if_true]
        exact ends_reply _ (by rfl)
    | true =>
        simp only [hcontrol, and_true, if_true, Bool.not_true,
          Bool.false_eq_true, if_false]
        split
        · rename_i hkind
          exact handleControl_ends_maintenance mp hkind
        · rename_i hkind
          exact handleControl_ends_control mp
            (Bool.eq_false_of_not_eq_true hkind)
  · rw [if_neg (fun hboth => hcontrol hboth.1), if_neg hcontrol]
    split
    · exact ends_reply _ (by rfl)
    · exact ends_reply _ (by rfl)

/-- Every request goes through the stages of its kind and ends with exactly
one reply or `stop`. -/
theorem handleClientFrame_ends (unpack : Bytes → Option Obj)
    (sender : Identity) (h : Header) (body : Bytes) :
    Ends sender h.seq (initialStage unpack sender h body)
      (handleClientFrame unpack sender h body) := by
  unfold handleClientFrame initialStage withMap
  cases hlogged : sender.loggedIn with
  | false =>
      by_cases hlogin : h.msgType = kClientLogin
      · cases hbody : unpack body with
        | none => simpa [hlogin] using ends_stop _
        | some root =>
            cases root with
            | map mp => simpa [hlogin] using handleLogin_ends mp
            | _ => simpa [hlogin] using ends_stop _
      · cases hbody : unpack body with
        | none => simpa [hlogin] using ends_stop _
        | some root =>
            cases root <;> simpa [hlogin] using ends_stop _
  | true =>
      cases hbody : unpack body with
      | none => simpa using ends_stop _
      | some root =>
          cases root with
          | map mp =>
              simp only [Bool.not_true, Bool.false_eq_true, if_false]
              exact loggedIn_ends h mp
          | _ => simpa using ends_stop _

end Conformance

end AsioForwarder
