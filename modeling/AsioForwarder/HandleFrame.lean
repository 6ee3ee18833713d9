import AsioForwarder.Hub

/-!
# `handle_client_frame`

The frame handler as a program of atomic operations, branch by branch.  The
msgpack unpacker is a library outside this repository and appears as the
parameter `unpack`: `none` is the exception of `msgpack::unpack`.

The log lines and admin events the handler emits besides are left out.
-/

namespace AsioForwarder

open Interaction

/-- A piece of the frame handler. -/
abbrev Frame (α : Type) := Prog Op Op.Res α

namespace Frame

def store (operation : StoreOp) : Frame operation.Res :=
  Prog.perform (Op.store operation)

def lock (operation : LockOp) : Frame operation.Res :=
  Prog.perform (Op.lock operation)

def clientIp (c : ConnId) : Frame Bytes :=
  Prog.perform (Op.clientIp c)

def stop (c : ConnId) (why : Bytes) : Frame Unit :=
  Prog.perform (Op.call c (.stop why))

def notifyAndClose (c : ConnId) (userReason logWhy : Bytes) : Frame Unit :=
  Prog.perform (Op.call c (.notifyAndClose userReason logWhy))

def sendFrame (c : ConnId) (wire : Wire) : Frame Unit :=
  Prog.perform (Op.call c (.sendFrame wire))

/-- `notify_and_close` on each session of a snapshot. -/
def notifyEach (userReason logWhy : Bytes) : List ConnId → Frame Unit
  | [] => pure ()
  | c :: rest => do
      notifyAndClose c userReason logWhy
      notifyEach userReason logWhy rest

end Frame

open AsioForwarder.Frame

/-- `send_err_reply` to the sender of the request. -/
def sendErrReply (sender : Identity) (seq : UInt32) (code : Nat)
    (message : Bytes) : Frame Unit :=
  sendFrame sender.connId (errReplyWire seq code message)

def sendOkReply (sender : Identity) (seq : UInt32) (op : Bytes) : Frame Unit :=
  sendFrame sender.connId (okReplyWire seq op)

/-! ## LOGIN -/

/-- The fields of an acceptable login body. -/
structure LoginBody where
  username : Bytes
  password : Bytes
  wantAdmin : Bool
  wantMode : RecvMode

/-- The tests of `try_authenticate` on the body. -/
def checkLoginBody (mp : ObjMap) : Except (Nat × Bytes) LoginBody :=
  match mapGetStr mp (lit "username") with
  | none | some [] => .error (kInvalidLoginBody, lit "缺少 username")
  | some un =>
  match mapGetStr mp (lit "password") with
  | none => .error (kInvalidLoginBody, lit "缺少 password")
  | some pw =>
  match mapGetStr mp (lit "peer_role") with
  | none =>
      .error (kInvalidLoginBody, lit "缺少 peer_role（user 或 admin）")
  | some peer =>
  match mapGetStr mp (lit "recv_mode") with
  | none =>
      .error (kInvalidLoginBody,
        lit "缺少 recv_mode（broadcast 或 round_robin）")
  | some rm =>
      if peer ≠ lit "admin" ∧ peer ≠ lit "user" then
        .error (kInvalidLoginBody, lit "peer_role 必须是 user 或 admin")
      else
        match parseRecvModeStr rm with
        | none =>
            .error (kInvalidLoginBody,
              lit "recv_mode 须为 broadcast 或 round_robin")
        | some wantMode =>
            .ok ⟨un, pw, decide (peer = lit "admin"), wantMode⟩

/-- `try_authenticate`: on success the identity the session now has and the
receive mode, on failure the code and message of the reply. -/
def tryAuthenticate (sender : Identity) (mp : ObjMap) :
    Frame (Except (Nat × Bytes) (Identity × LoginOk)) :=
  match checkLoginBody mp with
  | .error failure => pure (.error failure)
  | .ok login => do
      let cip ← clientIp sender.connId
      if cip = [] then
        pure (.error (kIpNotAllowed, lit "IP 不在白名单"))
      else do
        let listed ← store (.ipWhitelisted cip)
        if !listed then
          pure (.error (kIpNotAllowed, lit "IP 不在白名单"))
        else do
          let outcome ← store (.authenticateOrRegister login.username
            login.password login.wantAdmin)
          match outcome with
          | .error e => pure (.error (kAuthFailed, e))
          | .ok uinfo => do
              let registered ← lock (.login sender.connId login.username
                uinfo login.wantMode)
              notifyEach
                (lit "因单用户连接数达到上限，服务端按策略释放了最旧的一条连接")
                (lit "max_connections_per_user")
                (registered.2.filter (fun c => c ≠ sender.connId))
              pure (.ok (⟨sender.connId, true, uinfo.id, uinfo.isAdmin,
                login.username⟩, registered.1))

/-- The reply to a successful LOGIN. -/
def loginReplyWire (seq : UInt32) (self : Identity) (lok : LoginOk) : Wire :=
  replyWire seq
    ([.map (if lok.recvModeNotice.isSome then 8 else 7),
      .str (lit "ok"), .bool true, .str (lit "op"), .str (lit "LOGIN"),
      .str (lit "conn_id"), .uint self.connId,
      .str (lit "user_id"), .uint self.userId,
      .str (lit "username"), .str self.username,
      .str (lit "peer_role"),
      .str (if self.isAdmin then lit "admin" else lit "user"),
      .str (lit "recv_mode"), .str (recvModeCstr lok.effectiveMode)] ++
    match lok.recvModeNotice with
    | none => []
    | some notice => [.str (lit "recv_mode_notice"), .str notice])

def handleLogin (sender : Identity) (seq : UInt32) (mp : ObjMap) :
    Frame Unit := do
  let outcome ← tryAuthenticate sender mp
  match outcome with
  | .error failure => sendErrReply sender seq failure.1 failure.2
  | .ok (self, lok) => sendFrame sender.connId (loginReplyWire seq self lok)

/-! ## DATA -/

/-- `ensure_uid_for_username`. -/
def ensureUidForUsername (username : Bytes) : Frame (Option Nat) := do
  let cached ← lock (.cacheLookup username)
  match cached with
  | some uid => pure (some uid)
  | none => do
      let stored ← store (.userIdByUsername username)
      match stored with
      | none => pure none
      | some uid => do
          lock (.cacheStore username uid)
          pure (some uid)

/-- `deliver_to_user_by_recv_mode`. -/
def deliverToUserByRecvMode (srcUsername : Bytes) (srcConn : ConnId)
    (dstUsername payload : Bytes) (seq : UInt32) : Frame Unit := do
  let found ← ensureUidForUsername dstUsername
  match found with
  | none => pure ()
  | some dstUid =>
      lock (.deliver srcUsername srcConn dstUsername dstUid payload seq)

def handleData (sender : Identity) (seq : UInt32) (mp : ObjMap) :
    Frame Unit :=
  match extractPayloadBin (mapGetObj mp (lit "payload")) with
  | none =>
      sendErrReply sender seq kProtocol
        (lit "DATA 缺少 payload（bin 或 str）")
  | some payload =>
      match mapGetStr mp (lit "dst_username") with
      | none | some [] =>
          sendErrReply sender seq kProtocol (lit "DATA 需要 dst_username")
      | some dstUsername => do
          deliverToUserByRecvMode sender.username sender.connId dstUsername
            payload seq
          sendOkReply sender seq (lit "DATA")

/-! ## CONTROL -/

def listUsers (sender : Identity) (seq : UInt32) : Frame Unit := do
  let body ← lock .listUsers
  sendFrame sender.connId (replyWire seq body)

def kickUser (sender : Identity) (seq : UInt32) (mp : ObjMap) :
    Frame Unit :=
  match mapGetU64 mp (lit "target_user_id") with
  | none =>
      sendErrReply sender seq kProtocol (lit "kick_user 需要 target_user_id")
  | some target => do
      let victims ← lock (.snapshotSessions target)
      notifyEach
        (lit "被管理员踢出：操作者 " ++ sender.username ++
          lit "（user_id=" ++ toDecimal sender.userId ++
          lit "）执行了 kick_user，目标 user_id=" ++ toDecimal target)
        (lit "kick_user") victims
      sendFrame sender.connId (replyWire seq
        [.map 3, .str (lit "ok"), .bool true, .str (lit "op"),
          .str (lit "CONTROL"), .str (lit "kicked_count"),
          .uint victims.length])

/-- The actions which end with a store call: the reply is the error of the
call or the plain acknowledgement. -/
def replyToStore (sender : Identity) (seq : UInt32) :
    Option Bytes → Frame Unit
  | some err => sendErrReply sender seq kProtocol err
  | none => sendOkReply sender seq (lit "CONTROL")

def rowsReplyWire (seq : UInt32) (count : Nat) (rows : List Tok) : Wire :=
  replyWire seq ([.map 3, .str (lit "ok"), .bool true, .str (lit "op"),
    .str (lit "CONTROL"), .str (lit "rows"), .array count] ++ rows)

def allowlistList (sender : Identity) (seq : UInt32) : Frame Unit := do
  let outcome ← store .adminListAllowlist
  match outcome with
  | .error err => sendErrReply sender seq kProtocol err
  | .ok rows =>
      sendFrame sender.connId (rowsReplyWire seq rows.length
        (rows.flatMap (fun row => [.map 2, .str (lit "id"), .uint row.1,
          .str (lit "ip"), .str row.2])))

def allowlistAdd (sender : Identity) (seq : UInt32) (mp : ObjMap) :
    Frame Unit :=
  match mapGetStr mp (lit "ip") with
  | none | some [] =>
      sendErrReply sender seq kProtocol (lit "allowlist_add 需要 ip")
  | some ip => do
      let outcome ← store (.adminInsertAllowlist ip)
      replyToStore sender seq outcome

def allowlistUpdate (sender : Identity) (seq : UInt32) (mp : ObjMap) :
    Frame Unit :=
  match mapGetU64 mp (lit "id"), mapGetStr mp (lit "ip") with
  | some rid, some ip => do
      let outcome ← store (.adminUpdateAllowlist rid ip)
      replyToStore sender seq outcome
  | _, _ =>
      sendErrReply sender seq kProtocol (lit "allowlist_update 需要 id 与 ip")

def allowlistDelete (sender : Identity) (seq : UInt32) (mp : ObjMap) :
    Frame Unit :=
  match mapGetU64 mp (lit "id") with
  | none =>
      sendErrReply sender seq kProtocol (lit "allowlist_delete 需要 id")
  | some rid => do
      let outcome ← store (.adminDeleteAllowlist rid)
      replyToStore sender seq outcome

def userTableList (sender : Identity) (seq : UInt32) : Frame Unit := do
  let outcome ← store .adminListUsers
  match outcome with
  | .error err => sendErrReply sender seq kProtocol err
  | .ok rows =>
      sendFrame sender.connId (rowsReplyWire seq rows.length
        (rows.flatMap (fun row => [.map 3, .str (lit "id"), .uint row.1,
          .str (lit "username"), .str row.2.1,
          .str (lit "is_admin"), .bool row.2.2])))

def userTableAdd (sender : Identity) (seq : UInt32) (mp : ObjMap) :
    Frame Unit :=
  match mapGetStr mp (lit "username"), mapGetStr mp (lit "password") with
  | some un, some pw =>
      if un = [] ∨ pw = [] then
        sendErrReply sender seq kProtocol
          (lit "user_table_add 需要 username/password")
      else do
        let outcome ← store (.adminInsertUser un pw
          (mapGetBool mp (lit "is_admin") false))
        replyToStore sender seq outcome
  | _, _ =>
      sendErrReply sender seq kProtocol
        (lit "user_table_add 需要 username/password")

/-- A text field of `user_table_update`: absent, given, or given under the
key with no text value. -/
def updateField (mp : ObjMap) (key : Bytes) : Except Unit (Option Bytes) :=
  if mapHasKey mp key then
    match mapGetStr mp key with
    | none => .error ()
    | some v => .ok (some v)
  else .ok none

/-- `is_admin` falls back to `false` when no value under the key is a
boolean. -/
def updateIsAdmin (mp : ObjMap) : Option Bool :=
  if mapHasKey mp (lit "is_admin") then
    some (mapGetBool mp (lit "is_admin") false)
  else none

/-- The part of `user_table_update` after the fields have been read. -/
def applyUserUpdate (sender : Identity) (seq : UInt32) (uid : Nat)
    (oldName : Bytes) (newUsername newPassword : Option Bytes)
    (newIsAdmin : Option Bool) : Frame Unit := do
  let outcome ← store (.adminUpdateUser uid newUsername newPassword
    newIsAdmin)
  match outcome with
  | some err => sendErrReply sender seq kProtocol err
  | none =>
      match newUsername with
      | none => sendOkReply sender seq (lit "CONTROL")
      | some newName => do
          lock (.cacheRename oldName newName uid)
          sendOkReply sender seq (lit "CONTROL")

def userTableUpdate (sender : Identity) (seq : UInt32) (mp : ObjMap) :
    Frame Unit :=
  match mapGetU64 mp (lit "id") with
  | none =>
      sendErrReply sender seq kProtocol (lit "user_table_update 需要 id")
  | some uid => do
      let outcome ← store (.adminGetUsernameById uid)
      match outcome with
      | .error err => sendErrReply sender seq kProtocol err
      | .ok oldName =>
          match updateField mp (lit "username") with
          | .error _ => sendErrReply sender seq kProtocol (lit "username 非法")
          | .ok newUsername =>
              match updateField mp (lit "password") with
              | .error _ =>
                  sendErrReply sender seq kProtocol (lit "password 非法")
              | .ok newPassword =>
                  applyUserUpdate sender seq uid oldName newUsername
                    newPassword (updateIsAdmin mp)

def userTableDelete (sender : Identity) (seq : UInt32) (mp : ObjMap) :
    Frame Unit :=
  match mapGetU64 mp (lit "id") with
  | none =>
      sendErrReply sender seq kProtocol (lit "user_table_delete 需要 id")
  | some uid => do
      let outcome ← store (.adminGetUsernameById uid)
      match outcome with
      | .error err => sendErrReply sender seq kProtocol err
      | .ok uname => do
          let victims ← lock (.snapshotSessions uid)
          notifyEach (lit "管理员从库中删除该账号") (lit "user_table_delete")
            victims
          lock (.cacheForget uname uid)
          let deleted ← store (.adminDeleteUser uid)
          replyToStore sender seq deleted

/-- `map_get_str(mp, "action").value_or("")`. -/
def actionOf (mp : ObjMap) : Bytes :=
  (mapGetStr mp (lit "action")).getD []

def handleControl (sender : Identity) (seq : UInt32) (mp : ObjMap) :
    Frame Unit :=
  let action := actionOf mp
  if action = lit "list_users" then listUsers sender seq
  else if action = lit "kick_user" then kickUser sender seq mp
  else if action = lit "allowlist_list" then allowlistList sender seq
  else if action = lit "allowlist_add" then allowlistAdd sender seq mp
  else if action = lit "allowlist_update" then allowlistUpdate sender seq mp
  else if action = lit "allowlist_delete" then allowlistDelete sender seq mp
  else if action = lit "user_table_list" then userTableList sender seq
  else if action = lit "user_table_add" then userTableAdd sender seq mp
  else if action = lit "user_table_update" then userTableUpdate sender seq mp
  else if action = lit "user_table_delete" then userTableDelete sender seq mp
  else sendErrReply sender seq kProtocol (lit "unknown action")

/-! ## The handler -/

/-- The msgpack unpacking at the head of both halves of the handler. -/
def withMap (unpack : Bytes → Option Obj) (sender : Identity) (body : Bytes)
    (next : ObjMap → Frame Unit) : Frame Unit :=
  match unpack body with
  | none => stop sender.connId (lit "invalid msgpack body")
  | some (.map mp) => next mp
  | some _ => stop sender.connId (lit "body must be msgpack map")

def handleClientFrame (unpack : Bytes → Option Obj) (sender : Identity)
    (h : Header) (body : Bytes) : Frame Unit :=
  if !sender.loggedIn then
    if h.msgType ≠ kClientLogin then
      stop sender.connId
        (lit "需要先登录：首帧 Header.msg_type 必须为 login(1)")
    else withMap unpack sender body (handleLogin sender h.seq)
  else
    withMap unpack sender body (fun mp =>
      if h.msgType = kClientHeartbeat then
        sendOkReply sender h.seq (lit "HEARTBEAT")
      else if h.msgType = kClientData then handleData sender h.seq mp
      else if h.msgType = kClientControl then
        if !sender.isAdmin then
          sendErrReply sender h.seq kProtocol (lit "需要管理员账号权限")
        else handleControl sender h.seq mp
      else
        sendErrReply sender h.seq kProtocol
          (lit "未知 msg_type（已登录帧须为 heartbeat=2 / control=3 / data=4）"))

end AsioForwarder
