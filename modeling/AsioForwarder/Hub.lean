import AsioForwarder.Interaction
import AsioForwarder.Registry
import AsioForwarder.TcpSession
import Mathlib.Logic.Function.Basic

/-!
# The shared state and its atomic operations

`Hub` is everything the sessions of one server share: the database, the
registry and the sessions themselves.  `Op` lists the atomic operations a
frame handler is made of: calls of the store (which holds its own mutex),
critical sections of `mu_`, calls of a session's member functions, and
`client_ip()`.  `Op.exec` is the effect of one of them.

`calls` records every call of `send_frame`, `notify_and_close`, `stop` and
`mark_login` made by the server, in order.
-/

namespace AsioForwarder

inductive Call where
  | sendFrame (wire : Wire)
  | notifyAndClose (userReason logWhy : Bytes)
  | stop (why : Bytes)
  | markLogin (uid : Nat) (isAdmin : Bool) (username : Bytes)
  deriving DecidableEq

def Call.apply : Call → TcpSession → TcpSession
  | .sendFrame wire, s => s.sendFrame wire
  | .notifyAndClose userReason logWhy, s => s.notifyAndClose userReason logWhy
  | .stop why, s => s.stop why
  | .markLogin uid isAdmin username, s => s.markLogin uid isAdmin username

/-- What a frame handler reads of the session it works for.  Only the
session's own LOGIN frame changes these fields. -/
structure Identity where
  connId : ConnId
  loggedIn : Bool
  userId : Nat
  isAdmin : Bool
  username : Bytes
  deriving DecidableEq

def TcpSession.identity (c : ConnId) (s : TcpSession) : Identity where
  connId := c
  loggedIn := s.loggedIn
  userId := s.userId
  isAdmin := s.isAdmin
  username := s.username

structure Hub where
  db : Db
  reg : Registry := {}
  sessions : ConnId → TcpSession := fun _ => {}
  calls : List (ConnId × Call) := []

namespace Hub

def isOpen (hub : Hub) (c : ConnId) : Bool := (hub.sessions c).isOpen

def identity (hub : Hub) (c : ConnId) : Identity :=
  (hub.sessions c).identity c

def call (c : ConnId) (made : Call) (hub : Hub) : Hub :=
  { hub with
    sessions := Function.update hub.sessions c (made.apply (hub.sessions c))
    calls := hub.calls ++ [(c, made)] }

def callAll : List (ConnId × Call) → Hub → Hub
  | [], hub => hub
  | (c, made) :: rest, hub => callAll rest (hub.call c made)

end Hub

/-! ## Operations -/

/-- What the outside contributes to an operation: which statements of a
store call fail, whether `remote_endpoint` still succeeds, which sockets
are still open when they are asked for the second time, and the texts of
`endpoint_str()`. -/
structure Env where
  fault : Nat → Option Bytes := fun _ => none
  peerUp : Bool := true
  stillOpen : ConnId → Bool := fun _ => true
  endpointStr : ConnId → Bytes := fun _ => []

/-- The member functions of `MysqlStore`. -/
inductive StoreOp where
  | ipWhitelisted (clientIp : Bytes)
  | authenticateOrRegister (username password : Bytes) (wantAdmin : Bool)
  | userIdByUsername (username : Bytes)
  | adminListAllowlist
  | adminInsertAllowlist (ip : Bytes)
  | adminUpdateAllowlist (id : Nat) (ip : Bytes)
  | adminDeleteAllowlist (id : Nat)
  | adminListUsers
  | adminInsertUser (username password : Bytes) (isAdmin : Bool)
  | adminGetUsernameById (uid : Nat)
  | adminUpdateUser (uid : Nat) (newUsername newPassword : Option Bytes)
      (newIsAdmin : Option Bool)
  | adminDeleteUser (uid : Nat)

@[reducible] def StoreOp.Res : StoreOp → Type
  | .ipWhitelisted _ => Bool
  | .authenticateOrRegister _ _ _ => Except Bytes UserInfo
  | .userIdByUsername _ => Option Nat
  | .adminListAllowlist => Except Bytes (List (Nat × Bytes))
  | .adminInsertAllowlist _ => Option Bytes
  | .adminUpdateAllowlist _ _ => Option Bytes
  | .adminDeleteAllowlist _ => Option Bytes
  | .adminListUsers => Except Bytes (List (Nat × Bytes × Bool))
  | .adminInsertUser _ _ _ => Option Bytes
  | .adminGetUsernameById _ => Except Bytes Bytes
  | .adminUpdateUser _ _ _ _ => Option Bytes
  | .adminDeleteUser _ => Option Bytes

/-- The critical sections of the frame handler. -/
inductive LockOp where
  | login (self : ConnId) (un : Bytes) (uinfo : UserInfo)
      (wantMode : RecvMode)
  | cacheLookup (username : Bytes)
  | cacheStore (username : Bytes) (uid : Nat)
  | cacheRename (oldName newName : Bytes) (uid : Nat)
  | cacheForget (name : Bytes) (uid : Nat)
  | snapshotSessions (uid : Nat)
  | deliver (srcUsername : Bytes) (srcConn : ConnId) (dstUsername : Bytes)
      (dstUid : Nat) (payload : Bytes) (seq : UInt32)
  | listUsers

@[reducible] def LockOp.Res : LockOp → Type
  | .login _ _ _ _ => LoginOk × List ConnId
  | .cacheLookup _ => Option Nat
  | .cacheStore _ _ => Unit
  | .cacheRename _ _ _ => Unit
  | .cacheForget _ _ => Unit
  | .snapshotSessions _ => List ConnId
  | .deliver _ _ _ _ _ _ => Unit
  | .listUsers => List Tok

inductive Op where
  | store (operation : StoreOp)
  | lock (operation : LockOp)
  | call (c : ConnId) (made : Call)
  | clientIp (c : ConnId)

@[reducible] def Op.Res : Op → Type
  | .store operation => operation.Res
  | .lock operation => operation.Res
  | .call _ _ => Unit
  | .clientIp _ => Bytes

/-- A store call.  Only this server writes the tables, so nothing happens
between the statements of one call. -/
def StoreOp.exec (env : Env) (db : Db) :
    (operation : StoreOp) → Db × operation.Res
  | .ipWhitelisted clientIp =>
      (db, MysqlStore.ipWhitelisted env.fault clientIp db.allowlist)
  | .authenticateOrRegister username password wantAdmin =>
      let outcome := MysqlStore.authenticateOrRegister env.fault
        (fun _ table => table) username password wantAdmin db.users
      ({ db with users := outcome.1 }, outcome.2)
  | .userIdByUsername username =>
      (db, MysqlStore.userIdByUsername env.fault username db.users)
  | .adminListAllowlist =>
      (db, MysqlStore.adminListAllowlist env.fault db.allowlist)
  | .adminInsertAllowlist ip =>
      let outcome := MysqlStore.adminInsertAllowlist env.fault ip db.allowlist
      ({ db with allowlist := outcome.1 }, outcome.2)
  | .adminUpdateAllowlist id ip =>
      let outcome :=
        MysqlStore.adminUpdateAllowlist env.fault id ip db.allowlist
      ({ db with allowlist := outcome.1 }, outcome.2)
  | .adminDeleteAllowlist id =>
      let outcome := MysqlStore.adminDeleteAllowlist env.fault id db.allowlist
      ({ db with allowlist := outcome.1 }, outcome.2)
  | .adminListUsers => (db, MysqlStore.adminListUsers env.fault db.users)
  | .adminInsertUser username password isAdmin =>
      let outcome := MysqlStore.adminInsertUser env.fault username password
        isAdmin db.users
      ({ db with users := outcome.1 }, outcome.2)
  | .adminGetUsernameById uid =>
      (db, MysqlStore.adminGetUsernameById env.fault uid db.users)
  | .adminUpdateUser uid newUsername newPassword newIsAdmin =>
      let outcome := MysqlStore.adminUpdateUser env.fault uid newUsername
        newPassword newIsAdmin db.users
      ({ db with users := outcome.1 }, outcome.2)
  | .adminDeleteUser uid =>
      let outcome := MysqlStore.adminDeleteUser env.fault uid db.users
      ({ db with users := outcome.1 }, outcome.2)

/-- A critical section: the registry after it, the calls made inside it, and
what it returns. -/
def LockOp.exec (cfg : Config) (env : Env) (isOpen : ConnId → Bool)
    (reg : Registry) : (operation : LockOp) →
      Registry × List (ConnId × Call) × operation.Res
  | .login self un uinfo wantMode =>
      let outcome := reg.login cfg self un uinfo.id wantMode
      (outcome.1, [(self, .markLogin uinfo.id uinfo.isAdmin un)], outcome.2)
  | .cacheLookup username => (reg, [], reg.cacheLookup username)
  | .cacheStore username uid => (reg.cacheStore username uid, [], ())
  | .cacheRename oldName newName uid =>
      (reg.cacheRename oldName newName uid, [], ())
  | .cacheForget name uid => (reg.cacheForget name uid, [], ())
  | .snapshotSessions uid => (reg, [], reg.deque uid)
  | .deliver srcUsername srcConn dstUsername dstUid payload seq =>
      let outcome := reg.recipients cfg isOpen dstUid
      (outcome.1,
        outcome.2.map (fun c => (c, .sendFrame
          (deliverWire seq payload srcConn c srcUsername dstUsername))), ())
  | .listUsers =>
      (reg, [], reg.listUsersBody isOpen
        (fun c => isOpen c && env.stillOpen c) env.endpointStr)

def Op.exec (cfg : Config) (env : Env) (hub : Hub) :
    (operation : Op) → Hub × operation.Res
  | .store operation =>
      let outcome := operation.exec env hub.db
      ({ hub with db := outcome.1 }, outcome.2)
  | .lock operation =>
      let outcome := operation.exec cfg env hub.isOpen hub.reg
      ({ hub with reg := outcome.1 }.callAll outcome.2.1, outcome.2.2)
  | .call c made => (hub.call c made, ())
  | .clientIp c =>
      (hub, if hub.isOpen c && env.peerUp then (hub.sessions c).peerIp
        else [])

def Op.calls (cfg : Config) (env : Env) (hub : Hub) :
    Op → List (ConnId × Call)
  | .store _ => []
  | .lock operation => (operation.exec cfg env hub.isOpen hub.reg).2.1
  | .call c made => [(c, made)]
  | .clientIp _ => []

/-! ## Steps outside the frame handler -/

namespace Hub

def accept (peerIp : Bytes) (hub : Hub) : Hub :=
  { hub with
    reg := hub.reg.accept
    sessions := Function.update hub.sessions (hub.reg.nextConnId + 1)
      { peerIp := peerIp } }

def removeSession (c : ConnId) (hub : Hub) : Hub :=
  { hub with
    reg := hub.reg.removeSession c (hub.sessions c).loggedIn
      (hub.sessions c).userId }

def snapshotStats (hub : Hub) : Hub :=
  { hub with reg := hub.reg.snapshotStats hub.isOpen }

def setSession (c : ConnId) (s : TcpSession) (hub : Hub) : Hub :=
  { hub with sessions := Function.update hub.sessions c s }

def closeSocket (c : ConnId) (hub : Hub) : Hub :=
  hub.setSession c (hub.sessions c).closeSocket

/-! ## Calls change one session each -/

@[simp] theorem callAll_db (calls : List (ConnId × Call)) (hub : Hub) :
    (hub.callAll calls).db = hub.db := by
  induction calls generalizing hub with
  | nil => rfl
  | cons head rest ih => exact ih _

@[simp] theorem callAll_reg (calls : List (ConnId × Call)) (hub : Hub) :
    (hub.callAll calls).reg = hub.reg := by
  induction calls generalizing hub with
  | nil => rfl
  | cons head rest ih => exact ih _

theorem callAll_calls (calls : List (ConnId × Call)) (hub : Hub) :
    (hub.callAll calls).calls = hub.calls ++ calls := by
  induction calls generalizing hub with
  | nil => simp [callAll]
  | cons head rest ih =>
      rw [callAll, ih, call, List.append_assoc]
      rfl

theorem call_sessions_ne {c other : ConnId} (call : Call) (hub : Hub)
    (hne : other ≠ c) :
    (hub.call c call).sessions other = hub.sessions other :=
  Function.update_of_ne hne _ _

theorem call_sessions_self (c : ConnId) (call : Call) (hub : Hub) :
    (hub.call c call).sessions c = call.apply (hub.sessions c) :=
  Function.update_self _ _ _

def callsOn (c : ConnId) (calls : List (ConnId × Call)) : List Call :=
  calls.filterMap (fun entry => if entry.1 = c then some entry.2 else none)

theorem mem_callsOn {c : ConnId} {calls : List (ConnId × Call)}
    {call : Call} : call ∈ callsOn c calls ↔ (c, call) ∈ calls := by
  simp only [callsOn, List.mem_filterMap]
  constructor
  · rintro ⟨entry, hentry, hcall⟩
    split at hcall
    · rename_i hconn
      cases hcall
      rw [← hconn]
      exact hentry
    · cases hcall
  · intro hentry
    exact ⟨(c, call), hentry, if_pos rfl⟩

theorem callAll_sessions (calls : List (ConnId × Call)) (hub : Hub)
    (c : ConnId) :
    (hub.callAll calls).sessions c =
      (callsOn c calls).foldl (fun s call => call.apply s)
        (hub.sessions c) := by
  induction calls generalizing hub with
  | nil => rfl
  | cons head rest ih =>
      obtain ⟨d, call⟩ := head
      rw [callAll, ih]
      by_cases hsame : d = c
      · subst hsame
        simp [callsOn, call_sessions_self]
      · simp [callsOn, hsame, call_sessions_ne call hub (Ne.symm hsame)]

end Hub

/-! ## The effect of an operation by parts -/

theorem Op.exec_calls (cfg : Config) (env : Env) (hub : Hub) (op : Op) :
    (op.exec cfg env hub).1.calls = hub.calls ++ op.calls cfg env hub := by
  cases op with
  | store operation => simp [Op.exec, Op.calls]
  | lock operation => simp [Op.exec, Op.calls, Hub.callAll_calls]
  | call c made => rfl
  | clientIp c => simp [Op.exec, Op.calls]

theorem Op.exec_sessions (cfg : Config) (env : Env) (hub : Hub) (op : Op)
    (c : ConnId) :
    (op.exec cfg env hub).1.sessions c =
      (Hub.callsOn c (op.calls cfg env hub)).foldl
        (fun s call => call.apply s) (hub.sessions c) := by
  cases op with
  | store operation => rfl
  | lock operation =>
      exact Hub.callAll_sessions _ { hub with reg := _ } c
  | call d made =>
      exact Hub.callAll_sessions [(d, made)] hub c
  | clientIp d => rfl

theorem Op.exec_db (cfg : Config) (env : Env) (hub : Hub) (op : Op)
    (hstore : ∀ operation, op ≠ .store operation) :
    (op.exec cfg env hub).1.db = hub.db := by
  cases op with
  | store operation => exact absurd rfl (hstore operation)
  | lock operation => simp [Op.exec]
  | call c made => rfl
  | clientIp c => rfl

@[simp] theorem Op.exec_lock_reg (cfg : Config) (env : Env) (hub : Hub)
    (operation : LockOp) :
    ((Op.lock operation).exec cfg env hub).1.reg =
      (operation.exec cfg env hub.isOpen hub.reg).1 := by
  simp [Op.exec]

@[simp] theorem Op.exec_store_db (cfg : Config) (env : Env) (hub : Hub)
    (operation : StoreOp) :
    ((Op.store operation).exec cfg env hub).1.db =
      (operation.exec env hub.db).1 := rfl

/-! ## Login fields -/

theorem Call.apply_identity {call : Call} (c : ConnId) (s : TcpSession)
    (hcall : ∀ uid isAdmin username, call ≠ .markLogin uid isAdmin username) :
    (call.apply s).identity c = s.identity c := by
  cases call with
  | sendFrame wire => rfl
  | notifyAndClose userReason logWhy =>
      simp only [Call.apply, TcpSession.notifyAndClose]
      split <;> rfl
  | stop why => rfl
  | markLogin uid isAdmin username =>
      exact absurd rfl (hcall uid isAdmin username)

theorem foldl_apply_identity {calls : List Call} (c : ConnId)
    (s : TcpSession)
    (hcalls : ∀ uid isAdmin username,
      Call.markLogin uid isAdmin username ∉ calls) :
    (calls.foldl (fun s call => call.apply s) s).identity c =
      s.identity c := by
  induction calls generalizing s with
  | nil => rfl
  | cons call rest ih =>
      rw [List.foldl_cons, ih, Call.apply_identity]
      · intro uid isAdmin username hcall
        exact hcalls uid isAdmin username (hcall ▸ List.mem_cons_self)
      · intro uid isAdmin username hmem
        exact hcalls uid isAdmin username (List.mem_cons_of_mem _ hmem)

theorem TcpSession.handle_identity (cfg : Config) (handler : Handler)
    (c : ConnId) (s : TcpSession) :
    (s.handle cfg handler).identity c = s.identity c := by
  have hwrite : ∀ s : TcpSession, s.doWrite.identity c = s.identity c := by
    intro s
    obtain ⟨_, _, hshape⟩ := s.doWrite_shape
    rw [hshape]
    rfl
  have hnext : ∀ s : TcpSession, s.writeNext.identity c = s.identity c := by
    intro s
    obtain ⟨_, _, hshape⟩ := s.writeNext_shape
    rw [hshape]
    rfl
  cases handler with
  | sendFrame bytes =>
      unfold TcpSession.handle TcpSession.handleSend
      dsimp only
      split
      · rfl
      · split
        · split <;> rfl
        · split
          · rfl
          · exact hnext _
  | kick notifyWire logWhy =>
      unfold TcpSession.handle TcpSession.handleKick
      dsimp only
      split
      · rfl
      · exact hnext _
  | stop why =>
      unfold TcpSession.handle TcpSession.handleStop
      dsimp only
      split <;> rfl
  | written bytes ec =>
      cases ec with
      | some message => rfl
      | none =>
          unfold TcpSession.handle TcpSession.handleWritten
          dsimp only
          split
          · rfl
          · exact hwrite _

theorem TcpSession.ioStep_identity {cfg : Config} {s next : TcpSession}
    {event : IoEvent} (c : ConnId) (hstep : s.ioStep cfg event = some next) :
    next.identity c = s.identity c := by
  obtain ⟨handler, later, rfl, hposted, rfl⟩ |
    ⟨index, count, write, rfl, _, _, rfl⟩ |
    ⟨index, write, rfl, _, _, rfl⟩ |
    ⟨index, write, message, rfl, _, _, rfl⟩ := ioStep_cases hstep
  · exact handle_identity cfg handler c _
  · rfl
  · rfl
  · rfl

end AsioForwarder
