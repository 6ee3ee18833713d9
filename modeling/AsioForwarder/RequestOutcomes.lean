import AsioForwarder.AccountDeletion
import AsioForwarder.ReadableFrames
import AsioForwarder.RequestHistory

/-!
# What becomes of a message and of a removed session

A DATA frame stops the session when its body is no map, and is refused or
acknowledged otherwise.  An acknowledged one has been routed in exactly one
critical section, before the acknowledgement, unless its destination was not
cached and the database then had no account of the name, or failed.
`kick_user` and `user_table_delete` tell every session listed for the account
at one moment, each once, and then answer.
-/

namespace AsioForwarder

open Interaction
open AsioForwarder.Frame

variable {cfg : Config} {unpack : Bytes → Option Obj}

/-- A body which is no map stops the session, and nothing else is done. -/
theorem follows_withMap {sender : Identity} {body : Bytes}
    {next : ObjMap → Frame Unit} {steps : List Performed}
    (hfollows : Follows cfg (withMap unpack sender body next) steps ()) :
    (∃ why env hub, steps = [⟨.call sender.connId (.stop why), env, hub⟩] ∧
      ∀ mp, unpack body ≠ some (.map mp)) ∨
    ∃ mp, unpack body = some (.map mp) ∧ Follows cfg (next mp) steps () := by
  unfold withMap at hfollows
  split at hfollows
  · rename_i hbody
    obtain ⟨env, hub, rfl, -⟩ := follows_perform hfollows
    exact .inl ⟨_, env, hub, rfl, fun mp hmap => by simp [hbody] at hmap⟩
  · rename_i mp hbody
    exact .inr ⟨mp, hbody, hfollows⟩
  · rename_i value hnone hbody
    obtain ⟨env, hub, rfl, -⟩ := follows_perform hfollows
    refine .inl ⟨_, env, hub, rfl, fun mp hmap => ?_⟩
    rw [hbody, Option.some.injEq] at hmap
    exact hnone mp hmap

/-! ## DATA -/

/-- The lookups of `ensure_uid_for_username`, with what they come to. -/
inductive Resolves (dst : Bytes) : List Performed → Option Nat → Prop where
  | cached (uid : Nat) (env : Env) (hub : Hub)
      (hcached : hub.reg.cacheLookup dst = some uid) :
      Resolves dst [⟨.lock (.cacheLookup dst), env, hub⟩] (some uid)
  | stored (uid : Nat) (env env' env'' : Env) (hub hub' hub'' : Hub)
      (hcached : hub.reg.cacheLookup dst = none)
      (hstored : MysqlStore.userIdByUsername env'.fault dst hub'.db.users =
        some uid) :
      Resolves dst [⟨.lock (.cacheLookup dst), env, hub⟩,
        ⟨.store (.userIdByUsername dst), env', hub'⟩,
        ⟨.lock (.cacheStore dst uid), env'', hub''⟩] (some uid)
  | missing (env env' : Env) (hub hub' : Hub)
      (hcached : hub.reg.cacheLookup dst = none)
      (hran : env'.fault 0 = none)
      (hmissing : hub'.db.users.selectByUsername (MysqlStore.nameParam dst) =
        none) :
      Resolves dst [⟨.lock (.cacheLookup dst), env, hub⟩,
        ⟨.store (.userIdByUsername dst), env', hub'⟩] none
  | failed (message : Bytes) (env env' : Env) (hub hub' : Hub)
      (hcached : hub.reg.cacheLookup dst = none)
      (hfailed : env'.fault 0 = some message) :
      Resolves dst [⟨.lock (.cacheLookup dst), env, hub⟩,
        ⟨.store (.userIdByUsername dst), env', hub'⟩] none

theorem userIdByUsername_eq_none {fault : Nat → Option Bytes} {dst : Bytes}
    {t : UsersTable}
    (hstored : MysqlStore.userIdByUsername fault dst t = none) :
    (∃ message, fault 0 = some message) ∨
      fault 0 = none ∧
        t.selectByUsername (MysqlStore.nameParam dst) = none := by
  unfold MysqlStore.userIdByUsername at hstored
  split at hstored
  · rename_i message hfault
    exact .inl ⟨message, hfault⟩
  · rename_i hfault
    exact .inr ⟨hfault, Option.map_eq_none_iff.mp hstored⟩

theorem resolves_of_follows {dst : Bytes} {steps : List Performed}
    {found : Option Nat}
    (hfollows : Follows cfg (ensureUidForUsername dst) steps found) :
    Resolves dst steps found := by
  obtain ⟨env, hub, later, rfl, hlater⟩ := follows_perform_bind hfollows
  cases hcached : (Op.exec cfg env hub (.lock (.cacheLookup dst))).2 with
  | some uid =>
      rw [hcached] at hlater
      obtain ⟨rfl, rfl⟩ := follows_ret_iff.mp hlater
      exact .cached uid env hub hcached
  | none =>
      rw [hcached] at hlater
      obtain ⟨env', hub', later', rfl, hasked⟩ :=
        follows_perform_bind hlater
      cases hstored : (Op.exec cfg env' hub'
          (.store (.userIdByUsername dst))).2 with
      | none =>
          rw [hstored] at hasked
          obtain ⟨rfl, rfl⟩ := follows_ret_iff.mp hasked
          -- an error of the query reads as an unknown name
          rcases userIdByUsername_eq_none hstored with ⟨message, hfailed⟩ |
            ⟨hran, hmissing⟩
          · exact .failed message env env' hub hub' hcached hfailed
          · exact .missing env env' hub hub' hcached hran hmissing
      | some uid =>
          rw [hstored] at hasked
          obtain ⟨env'', hub'', later'', rfl, hkept⟩ :=
            follows_perform_bind hasked
          obtain ⟨rfl, rfl⟩ := follows_ret_iff.mp hkept
          exact .stored uid env env' env'' hub hub' hub'' hcached hstored

theorem Resolves.calls {dst : Bytes} {steps : List Performed}
    {found : Option Nat} (hresolves : Resolves dst steps found) :
    steps.flatMap (Performed.calls cfg) = [] := by
  cases hresolves <;> rfl

/-- The frame is one of DATA, from a session which has logged in. -/
structure Entered.IsData (e : Entered) : Prop where
  loggedIn : e.sender.loggedIn = true
  msgType : e.frame.header.msgType = kClientData

/-- What the handling of a DATA frame comes to.  The session is stopped, and
nothing is answered, exactly when the body is no map. -/
inductive DataOutcome (cfg : Config) (unpack : Bytes → Option Obj)
    (c : ConnId) (e : Entered) : List Performed → Prop where
  | stopped (why : Bytes) (env : Env) (hub : Hub)
      (hbody : ∀ mp, unpack e.frame.body ≠ some (.map mp)) :
      DataOutcome cfg unpack c e [⟨.call c (.stop why), env, hub⟩]
  | refused (mp : ObjMap) (message : Bytes) (env : Env) (hub : Hub)
      (hbody : unpack e.frame.body = some (.map mp))
      (hrefused : extractPayloadBin (mapGetObj mp (lit "payload")) = none ∨
        (mapGetStr mp (lit "dst_username")).getD [] = []) :
      DataOutcome cfg unpack c e [⟨.call c (.sendFrame
        (errReplyWire e.frame.header.seq kProtocol message)), env, hub⟩]
  | unrouted (mp : ObjMap) (dst payload : Bytes) (lookups : List Performed)
      (env : Env) (hub : Hub)
      (hbody : unpack e.frame.body = some (.map mp))
      (hpayload : extractPayloadBin (mapGetObj mp (lit "payload")) =
        some payload)
      (hdst : mapGetStr mp (lit "dst_username") = some dst) (hnamed : dst ≠ [])
      (hresolves : Resolves dst lookups none) :
      DataOutcome cfg unpack c e (lookups ++ [⟨.call c (.sendFrame
        (okReplyWire e.frame.header.seq (lit "DATA"))), env, hub⟩])
  | routed (mp : ObjMap) (dst payload : Bytes) (uid : Nat)
      (lookups : List Performed) (env env' : Env) (hub hub' : Hub)
      (hbody : unpack e.frame.body = some (.map mp))
      (hpayload : extractPayloadBin (mapGetObj mp (lit "payload")) =
        some payload)
      (hdst : mapGetStr mp (lit "dst_username") = some dst) (hnamed : dst ≠ [])
      (hresolves : Resolves dst lookups (some uid))
      (honce : (hub.reg.recipients cfg hub.isOpen uid).2.Nodup) :
      DataOutcome cfg unpack c e (lookups ++
        [⟨.lock (.deliver e.sender.username c dst uid payload
            e.frame.header.seq), env, hub⟩,
          ⟨.call c (.sendFrame (okReplyWire e.frame.header.seq
            (lit "DATA"))), env', hub'⟩])

/-- The calls made for a DATA frame: `stop` or one error and nothing else, or
the acknowledgement after what the recipients are passed. -/
inductive DataCalls (unpack : Bytes → Option Obj) (c : ConnId)
    (e : Entered) : List (ConnId × Call) → Prop where
  | stopped (why : Bytes)
      (hbody : ∀ mp, unpack e.frame.body ≠ some (.map mp)) :
      DataCalls unpack c e [(c, .stop why)]
  | refused (mp : ObjMap) (message : Bytes)
      (hbody : unpack e.frame.body = some (.map mp)) :
      DataCalls unpack c e [(c, .sendFrame
        (errReplyWire e.frame.header.seq kProtocol message))]
  | acknowledged (mp : ObjMap) (dst payload : Bytes)
      (recipients : List ConnId)
      (hbody : unpack e.frame.body = some (.map mp))
      (hpayload : extractPayloadBin (mapGetObj mp (lit "payload")) =
        some payload)
      (hdst : mapGetStr mp (lit "dst_username") = some dst)
      (honce : recipients.Nodup) :
      DataCalls unpack c e (recipients.map (fun d => (d, .sendFrame (deliverWire
          e.frame.header.seq payload c d e.sender.username dst))) ++
        [(c, .sendFrame (okReplyWire e.frame.header.seq (lit "DATA")))])

section Data

variable {c : ConnId} {e : Entered} {mp : ObjMap} {steps : List Performed}

theorem dataOutcome_of_handleData (hconn : e.sender.connId = c)
    (hbody : unpack e.frame.body = some (.map mp))
    (horderly : ∀ p ∈ steps, Server.Orderly p)
    (hfollows : Follows cfg (handleData e.sender e.frame.header.seq mp) steps
      ()) : DataOutcome cfg unpack c e steps := by
  subst hconn
  unfold handleData at hfollows
  split at hfollows
  · rename_i hpayload
    obtain ⟨env, hub, rfl, -⟩ := follows_perform hfollows
    exact .refused mp _ env hub hbody (.inl hpayload)
  · rename_i payload hpayload
    split at hfollows
    · rename_i hdst
      obtain ⟨env, hub, rfl, -⟩ := follows_perform hfollows
      exact .refused mp _ env hub hbody (.inr (by rw [hdst]; rfl))
    · rename_i hdst
      obtain ⟨env, hub, rfl, -⟩ := follows_perform hfollows
      exact .refused mp _ env hub hbody (.inr (by rw [hdst]; rfl))
    · rename_i dst hnamed hdst
      obtain ⟨routing, answer, _, rfl, hrouting, hanswer⟩ :=
        follows_bind hfollows
      obtain ⟨env', hub', rfl, -⟩ := follows_perform hanswer
      obtain ⟨lookups, later, found, rfl, hlookups, hlater⟩ :=
        follows_bind hrouting
      have hresolves := resolves_of_follows hlookups
      cases found with
      | none =>
          obtain ⟨rfl, -⟩ := follows_ret_iff.mp hlater
          rw [List.append_nil]
          exact .unrouted mp dst payload lookups env' hub' hbody hpayload
            hdst hnamed hresolves
      | some uid =>
          obtain ⟨env, hub, rfl, -⟩ := follows_perform hlater
          have hfound : Server.Orderly ⟨.lock (.deliver e.sender.username
              e.sender.connId dst uid payload e.frame.header.seq), env,
              hub⟩ := horderly _ (by simp)
          rw [List.append_assoc]
          refine .routed mp dst payload uid lookups env env' hub hub' hbody
            hpayload hdst hnamed hresolves ?_
          exact Registry.recipients_nodup cfg hub.isOpen (hfound uid)

theorem Entered.program_of_data (hdata : e.IsData) :
    e.program unpack = withMap unpack e.sender e.frame.body
      (handleData e.sender e.frame.header.seq) := by
  obtain ⟨hlogged, htype⟩ := hdata
  simp [program, handleClientFrame, hlogged, htype,
    show kClientData ≠ kClientHeartbeat by decide]

theorem dataOutcome_of_follows (hconn : e.sender.connId = c)
    (horderly : ∀ p ∈ steps, Server.Orderly p)
    (hfollows : Follows cfg (withMap unpack e.sender e.frame.body
      (handleData e.sender e.frame.header.seq)) steps ()) :
    DataOutcome cfg unpack c e steps := by
  rcases follows_withMap hfollows with ⟨why, env, hub, rfl, hbody⟩ |
    ⟨mp, hbody, hhandled⟩
  · subst hconn
    exact .stopped why env hub hbody
  · exact dataOutcome_of_handleData hconn hbody horderly hhandled

theorem DataOutcome.calls (houtcome : DataOutcome cfg unpack c e steps) :
    DataCalls unpack c e (steps.flatMap (Performed.calls cfg)) := by
  cases houtcome with
  | stopped why env hub hbody => exact .stopped why hbody
  | refused mp message env hub hbody hrefused =>
      exact .refused mp message hbody
  | unrouted mp dst payload lookups env hub hbody hpayload hdst hnamed
      hresolves =>
      rw [List.flatMap_append, hresolves.calls]
      exact .acknowledged mp dst payload [] hbody hpayload hdst List.nodup_nil
  | routed mp dst payload uid lookups env env' hub hub' hbody hpayload hdst
      hnamed hresolves honce =>
      rw [List.flatMap_append, hresolves.calls, List.nil_append]
      exact .acknowledged mp dst payload _ hbody hpayload hdst honce

end Data

/-! ## Sessions removed by an administrator -/

/-- Each of the sessions is told to close, in order. -/
def Told (userReason logWhy : Bytes) (victims : List ConnId)
    (steps : List Performed) : Prop :=
  steps.map Performed.op =
    victims.map (fun d => .call d (.notifyAndClose userReason logWhy))

theorem told_of_follows {userReason logWhy : Bytes} {victims : List ConnId}
    {steps : List Performed} {value : Unit}
    (hfollows : Follows cfg (notifyEach userReason logWhy victims) steps
      value) : Told userReason logWhy victims steps := by
  induction victims generalizing steps with
  | nil =>
      obtain ⟨rfl, -⟩ := follows_ret_iff.mp hfollows
      rfl
  | cons d rest ih =>
      obtain ⟨env, hub, later, rfl, hlater⟩ := follows_perform_bind hfollows
      exact congrArg (List.cons _) (ih hlater)

/-- A CONTROL frame of an administrator. -/
structure Entered.IsControl (unpack : Bytes → Option Obj) (e : Entered)
    (action : Bytes) (mp : ObjMap) : Prop where
  loggedIn : e.sender.loggedIn = true
  isAdmin : e.sender.isAdmin = true
  msgType : e.frame.header.msgType = kClientControl
  body : unpack e.frame.body = some (.map mp)
  action : actionOf mp = action

/-- What a `kick_user` comes to. -/
inductive KickOutcome (c : ConnId) (e : Entered) (mp : ObjMap) :
    List Performed → Prop where
  | refused (message : Bytes) (env : Env) (hub : Hub)
      (hrefused : mapGetU64 mp (lit "target_user_id") = none) :
      KickOutcome c e mp [⟨.call c (.sendFrame
        (errReplyWire e.frame.header.seq kProtocol message)), env, hub⟩]
  | kicked (target : Nat) (userReason : Bytes) (told : List Performed)
      (env env' : Env) (hub hub' : Hub)
      (htarget : mapGetU64 mp (lit "target_user_id") = some target)
      (honce : (hub.reg.deque target).Nodup)
      (htold : Told userReason (lit "kick_user") (hub.reg.deque target)
        told) :
      KickOutcome c e mp (⟨.lock (.snapshotSessions target), env, hub⟩ ::
        told ++ [⟨.call c (.sendFrame (replyWire e.frame.header.seq
          [.map 3, .str (lit "ok"), .bool true, .str (lit "op"),
            .str (lit "CONTROL"), .str (lit "kicked_count"),
            .uint (hub.reg.deque target).length])), env', hub'⟩])

/-- The reply to an action which ends with a store call. -/
def storeReply (seq : UInt32) : Option Bytes → Wire
  | some err => errReplyWire seq kProtocol err
  | none => okReplyWire seq (lit "CONTROL")

/-- What a `user_table_delete` comes to.  The row goes last, whatever has
become of the sessions told before. -/
inductive DeleteOutcome (c : ConnId) (e : Entered) (mp : ObjMap) :
    List Performed → Prop where
  | refused (message : Bytes) (env : Env) (hub : Hub)
      (hrefused : mapGetU64 mp (lit "id") = none) :
      DeleteOutcome c e mp [⟨.call c (.sendFrame
        (errReplyWire e.frame.header.seq kProtocol message)), env, hub⟩]
  | missing (uid : Nat) (message : Bytes) (env env' : Env) (hub hub' : Hub)
      (hid : mapGetU64 mp (lit "id") = some uid)
      (hname : MysqlStore.adminGetUsernameById env.fault uid hub.db.users =
        .error message) :
      DeleteOutcome c e mp
        [⟨.store (.adminGetUsernameById uid), env, hub⟩,
          ⟨.call c (.sendFrame
            (errReplyWire e.frame.header.seq kProtocol message)), env', hub'⟩]
  | removed (uid : Nat) (name : Bytes) (told : List Performed)
      (env₁ env₂ env₃ env₄ env₅ : Env) (hub₁ hub₂ hub₃ hub₄ hub₅ : Hub)
      (hid : mapGetU64 mp (lit "id") = some uid)
      (hname : MysqlStore.adminGetUsernameById env₁.fault uid hub₁.db.users =
        .ok name)
      (honce : (hub₂.reg.deque uid).Nodup)
      (htold : Told (lit "管理员从库中删除该账号") (lit "user_table_delete")
        (hub₂.reg.deque uid) told) :
      DeleteOutcome c e mp
        (⟨.store (.adminGetUsernameById uid), env₁, hub₁⟩ ::
          ⟨.lock (.snapshotSessions uid), env₂, hub₂⟩ :: told ++
        [⟨.lock (.cacheForget name uid), env₃, hub₃⟩,
          ⟨.store (.adminDeleteUser uid), env₄, hub₄⟩,
          ⟨.call c (.sendFrame (storeReply e.frame.header.seq
            (MysqlStore.adminDeleteUser env₄.fault uid hub₄.db.users).2)),
            env₅, hub₅⟩])

section Control

variable {c : ConnId} {e : Entered} {mp : ObjMap} {steps : List Performed}

theorem follows_replyToStore {sender : Identity} {seq : UInt32}
    {outcome : Option Bytes} {value : Unit}
    (hfollows : Follows cfg (replyToStore sender seq outcome) steps value) :
    ∃ env hub, steps =
      [⟨.call sender.connId (.sendFrame (storeReply seq outcome)), env,
        hub⟩] := by
  cases outcome <;>
  · obtain ⟨env, hub, rfl, -⟩ := follows_perform hfollows
    exact ⟨env, hub, rfl⟩

theorem kickOutcome_of_follows (hconn : e.sender.connId = c)
    (horderly : ∀ p ∈ steps, Server.Orderly p)
    (hfollows : Follows cfg (kickUser e.sender e.frame.header.seq mp) steps
      ()) : KickOutcome c e mp steps := by
  subst hconn
  unfold kickUser at hfollows
  split at hfollows
  · rename_i htarget
    obtain ⟨env, hub, rfl, -⟩ := follows_perform hfollows
    exact .refused _ env hub htarget
  · rename_i target htarget
    obtain ⟨env, hub, later, rfl, hlater⟩ := follows_perform_bind hfollows
    obtain ⟨told, answer, _, rfl, hnotified, hanswer⟩ := follows_bind hlater
    obtain ⟨env', hub', rfl, -⟩ := follows_perform hanswer
    exact .kicked target _ told env env' hub hub' htarget
      (horderly _ List.mem_cons_self target) (told_of_follows hnotified)

theorem deleteOutcome_of_follows (hconn : e.sender.connId = c)
    (horderly : ∀ p ∈ steps, Server.Orderly p)
    (hfollows : Follows cfg (userTableDelete e.sender e.frame.header.seq mp)
      steps ()) : DeleteOutcome c e mp steps := by
  subst hconn
  unfold userTableDelete at hfollows
  split at hfollows
  · rename_i hid
    obtain ⟨env, hub, rfl, -⟩ := follows_perform hfollows
    exact .refused _ env hub hid
  · rename_i uid hid
    obtain ⟨env₁, hub₁, later, rfl, hlater⟩ := follows_perform_bind hfollows
    cases hname : (Op.exec cfg env₁ hub₁
        (.store (.adminGetUsernameById uid))).2 with
    | error message =>
        rw [hname] at hlater
        obtain ⟨env', hub', rfl, -⟩ := follows_perform hlater
        exact .missing uid message env₁ env' hub₁ hub' hid hname
    | ok name =>
        rw [hname] at hlater
        obtain ⟨env₂, hub₂, later, rfl, hlisted⟩ :=
          follows_perform_bind hlater
        obtain ⟨told, later, _, rfl, hnotified, hforget⟩ :=
          follows_bind hlisted
        obtain ⟨env₃, hub₃, later, rfl, hdelete⟩ :=
          follows_perform_bind hforget
        obtain ⟨env₄, hub₄, later, rfl, hanswer⟩ :=
          follows_perform_bind hdelete
        obtain ⟨env₅, hub₅, rfl⟩ := follows_replyToStore hanswer
        exact .removed uid name told env₁ env₂ env₃ env₄ env₅ hub₁ hub₂ hub₃
          hub₄ hub₅ hid hname
          (horderly _ (List.mem_cons_of_mem _ List.mem_cons_self) uid)
          (told_of_follows hnotified)

theorem Entered.program_of_control {action : Bytes}
    (hcontrol : e.IsControl unpack action mp) :
    e.program unpack = handleControl e.sender e.frame.header.seq mp := by
  obtain ⟨hlogged, hadmin, htype, hbody, -⟩ := hcontrol
  simp [program, handleClientFrame, withMap, hlogged, hadmin, htype, hbody,
    show kClientControl ≠ kClientHeartbeat by decide,
    show kClientControl ≠ kClientData by decide]

theorem Entered.program_of_kick
    (hcontrol : e.IsControl unpack (lit "kick_user") mp) :
    e.program unpack = kickUser e.sender e.frame.header.seq mp := by
  rw [program_of_control hcontrol]
  simp only [handleControl, hcontrol.action]
  rw [if_neg (by decide), if_pos trivial]

theorem Entered.program_of_delete
    (hcontrol : e.IsControl unpack (lit "user_table_delete") mp) :
    e.program unpack = userTableDelete e.sender e.frame.header.seq mp := by
  rw [program_of_control hcontrol]
  simp only [handleControl, hcontrol.action]
  iterate 9 rw [if_neg (by decide)]
  rw [if_pos trivial]

end Control

/-! ## The tables as an administrator sees them -/

/-- What a listing of a table comes to: the answer holds an entry for each row
of the table at that moment, in the order of their ids. -/
inductive ListingOutcome {α : Type} (operation : StoreOp)
    (table : Db → List α) (id : α → Nat) (entry : α → Obj) (c : ConnId)
    (e : Entered) : List Performed → Prop where
  | failed (message : Bytes) (env env' : Env) (hub hub' : Hub)
      (hfailed : env.fault 0 = some message) :
      ListingOutcome operation table id entry c e
        [⟨.store operation, env, hub⟩, ⟨.call c (.sendFrame
          (errReplyWire e.frame.header.seq kProtocol message)), env', hub'⟩]
  | listed (rows : List α) (body : List Tok) (env env' : Env)
      (hub hub' : Hub) (hrows : rows.Perm (table hub.db))
      (hordered : rows.Pairwise (fun row later => id row ≤ id later))
      (hbody : unpackToks body = some (.map [(.str (lit "ok"), .boolean true),
        (.str (lit "op"), .str (lit "CONTROL")),
        (.str (lit "rows"), .array (rows.map entry))])) :
      ListingOutcome operation table id entry c e
        [⟨.store operation, env, hub⟩, ⟨.call c (.sendFrame
          (replyWire e.frame.header.seq body)), env', hub'⟩]

def allowlistEntry (row : IpRow) : Obj :=
  .map [(.str (lit "id"), .positiveInteger row.id),
    (.str (lit "ip"), .str (MysqlStore.cString row.ip))]

def userTableEntry (row : UserRow) : Obj :=
  .map [(.str (lit "id"), .positiveInteger row.id),
    (.str (lit "username"), .str (MysqlStore.cString row.username)),
    (.str (lit "is_admin"), .boolean row.isAdmin)]

def AllowlistOutcome : ConnId → Entered → List Performed → Prop :=
  ListingOutcome .adminListAllowlist (fun db => db.allowlist.rows) IpRow.id
    allowlistEntry

def UserTableOutcome : ConnId → Entered → List Performed → Prop :=
  ListingOutcome .adminListUsers (fun db => db.users.rows) UserRow.id
    userTableEntry

theorem sorted_by_id {α : Type} (id : α → Nat) (rows : List α) :
    (rows.mergeSort (fun a b => id a ≤ id b)).Pairwise
      (fun row later => id row ≤ id later) := by
  have htrans (a b c : α) (hab : decide (id a ≤ id b) = true)
      (hbc : decide (id b ≤ id c) = true) : decide (id a ≤ id c) = true := by
    simp only [decide_eq_true_eq] at hab hbc ⊢
    exact Nat.le_trans hab hbc
  have htotal (a b : α) :
      (decide (id a ≤ id b) || decide (id b ≤ id a)) = true := by
    simp only [Bool.or_eq_true, decide_eq_true_eq]
    exact Nat.le_total _ _
  exact (List.pairwise_mergeSort htrans htotal rows).imp of_decide_eq_true

section Listing

variable {c : ConnId} {e : Entered} {mp : ObjMap} {steps : List Performed}

theorem allowlistOutcome_of_follows (hconn : e.sender.connId = c)
    (hfollows : Follows cfg (allowlistList e.sender e.frame.header.seq) steps
      ()) : AllowlistOutcome c e steps := by
  subst hconn
  obtain ⟨env, hub, later, rfl, hlater⟩ := follows_perform_bind hfollows
  cases hfault : env.fault 0 with
  | some message =>
      have houtcome : (Op.exec cfg env hub (.store .adminListAllowlist)).2 =
          .error message := by
        simp [Op.exec, StoreOp.exec, MysqlStore.adminListAllowlist, hfault]
      rw [houtcome] at hlater
      obtain ⟨env', hub', rfl, -⟩ := follows_perform hlater
      exact .failed message env env' hub hub' hfault
  | none =>
      have houtcome : (Op.exec cfg env hub (.store .adminListAllowlist)).2 =
          .ok ((hub.db.allowlist.rows.mergeSort
            (fun a b => a.id ≤ b.id)).map
              (fun row => (row.id, MysqlStore.cString row.ip))) := by
        simp [Op.exec, StoreOp.exec, MysqlStore.adminListAllowlist, hfault]
      rw [houtcome] at hlater
      obtain ⟨env', hub', rfl, -⟩ := follows_perform hlater
      refine .listed _ _ env env' hub hub'
        (List.mergeSort_perm _ (fun a b => a.id ≤ b.id))
        (sorted_by_id IpRow.id _) ?_
      have hpacks := packs_report (lit "rows") (packs_allowlist
        ((hub.db.allowlist.rows.mergeSort (fun a b => a.id ≤ b.id)).map
          (fun row => (row.id, MysqlStore.cString row.ip))))
      rw [List.map_map] at hpacks
      exact unpackToks_of_packs hpacks

theorem userTableOutcome_of_follows (hconn : e.sender.connId = c)
    (hfollows : Follows cfg (userTableList e.sender e.frame.header.seq) steps
      ()) : UserTableOutcome c e steps := by
  subst hconn
  obtain ⟨env, hub, later, rfl, hlater⟩ := follows_perform_bind hfollows
  cases hfault : env.fault 0 with
  | some message =>
      have houtcome : (Op.exec cfg env hub (.store .adminListUsers)).2 =
          .error message := by
        simp [Op.exec, StoreOp.exec, MysqlStore.adminListUsers, hfault]
      rw [houtcome] at hlater
      obtain ⟨env', hub', rfl, -⟩ := follows_perform hlater
      exact .failed message env env' hub hub' hfault
  | none =>
      have houtcome : (Op.exec cfg env hub (.store .adminListUsers)).2 =
          .ok ((hub.db.users.rows.mergeSort
            (fun a b => a.id ≤ b.id)).map (fun row =>
              (row.id, MysqlStore.cString row.username, row.isAdmin))) := by
        simp [Op.exec, StoreOp.exec, MysqlStore.adminListUsers, hfault]
      rw [houtcome] at hlater
      obtain ⟨env', hub', rfl, -⟩ := follows_perform hlater
      refine .listed _ _ env env' hub hub'
        (List.mergeSort_perm _ (fun a b => a.id ≤ b.id))
        (sorted_by_id UserRow.id _) ?_
      have hpacks := packs_report (lit "rows") (packs_userTable
        ((hub.db.users.rows.mergeSort (fun a b => a.id ≤ b.id)).map
          (fun row => (row.id, MysqlStore.cString row.username,
            row.isAdmin))))
      rw [List.map_map] at hpacks
      exact unpackToks_of_packs hpacks

theorem Entered.program_of_allowlistList
    (hcontrol : e.IsControl unpack (lit "allowlist_list") mp) :
    e.program unpack = allowlistList e.sender e.frame.header.seq := by
  rw [program_of_control hcontrol]
  simp only [handleControl, hcontrol.action]
  iterate 2 rw [if_neg (by decide)]
  rw [if_pos trivial]

theorem Entered.program_of_userTableList
    (hcontrol : e.IsControl unpack (lit "user_table_list") mp) :
    e.program unpack = userTableList e.sender e.frame.header.seq := by
  rw [program_of_control hcontrol]
  simp only [handleControl, hcontrol.action]
  iterate 6 rw [if_neg (by decide)]
  rw [if_pos trivial]

end Listing

/-! ## Runs -/

namespace Server

/-- Every DATA frame of every logged-in session of every run stops the
session, is refused without a trace, or is routed in one critical section and
then acknowledged.  An acknowledgement without routing means that the name was
not cached and that the database then had no such account, or failed. -/
theorem data_of_run (cfg : Config) (unpack : Bytes → Option Obj) (db : Db)
    {events : List Event} {s : Server}
    (hrun : Transition.run (step cfg unpack) events (initial db) = some s)
    (c : ConnId) :
    Accounts (fun e steps => e.IsData →
        DataOutcome cfg unpack c e steps ∧
        DataCalls unpack c e (steps.flatMap (Performed.calls cfg))) c
      (Transition.observe (step cfg unpack) (entered c) events (initial db))
      (Transition.observe (step cfg unpack) (performed c) events (initial db))
      s := by
  refine accounts_of_run hrun (fun e steps hconn horderly hexecuted hdata
    => ?_)
  rw [Entered.Executed, Entered.program_of_data hdata] at hexecuted
  have houtcome := dataOutcome_of_follows hconn horderly hexecuted
  exact ⟨houtcome, houtcome.calls⟩

/-- `root` sends a message to itself, one to nobody, and a body which is no
map. -/
def knownAndUnknown : List Event :=
  selfDataRun ++ receive 1 kClientData 3 (dataBody (lit "nobody")) ++
    advances 1 4 ++ receive 1 kClientData 4 [.uint 7] ++ advances 1 1

theorem data_of_run_knownAndUnknown :
    ∃ (s : Server) (requests : List Entered) (steps : List Performed),
      Transition.run (step forwarderJson unpackFlat) knownAndUnknown
        (initial emptyDb) = some s ∧ s.pendingOp 1 = none ∧
      requests.length = 4 ∧
      steps.flatMap (Performed.calls forwarderJson) = s.hub.calls ∧
      s.hub.calls.getLast? =
        some (1, .stop (lit "body must be msgpack map")) ∧
      Accounts (fun e steps => e.IsData →
        DataOutcome forwarderJson unpackFlat 1 e steps ∧
        DataCalls unpackFlat 1 e
          (steps.flatMap (Performed.calls forwarderJson))) 1
        requests steps s := by
  obtain ⟨s, hrun, hdone, hfour, hcalls, hlast⟩ : ∃ s, Transition.run
        (step forwarderJson unpackFlat) knownAndUnknown (initial emptyDb) =
        some s ∧ s.pendingOp 1 = none ∧
      (Transition.observe (step forwarderJson unpackFlat) (entered 1)
        knownAndUnknown (initial emptyDb)).length = 4 ∧
      (Transition.observe (step forwarderJson unpackFlat) (performed 1)
        knownAndUnknown (initial emptyDb)).flatMap
          (Performed.calls forwarderJson) = s.hub.calls ∧
      s.hub.calls.getLast? =
        some (1, .stop (lit "body must be msgpack map")) :=
    Transition.exists_run_of_check (by decide +kernel)
  exact ⟨s, _, _, hrun, hdone, hfour, hcalls, hlast,
    data_of_run forwarderJson unpackFlat emptyDb hrun 1⟩

/-- `kick_user` and `user_table_delete` tell every session listed for the
account at one moment to close, each once.  The reply to `kick_user` gives
their number, the row of a deleted account is removed after they are told, and
the answer is that of the store. -/
theorem removals_of_run (cfg : Config) (unpack : Bytes → Option Obj) (db : Db)
    {events : List Event} {s : Server}
    (hrun : Transition.run (step cfg unpack) events (initial db) = some s)
    (c : ConnId) :
    Accounts (fun e steps =>
        (∀ mp, e.IsControl unpack (lit "kick_user") mp →
          KickOutcome c e mp steps) ∧
        ∀ mp, e.IsControl unpack (lit "user_table_delete") mp →
          DeleteOutcome c e mp steps) c
      (Transition.observe (step cfg unpack) (entered c) events (initial db))
      (Transition.observe (step cfg unpack) (performed c) events (initial db))
      s := by
  refine accounts_of_run hrun (fun e steps hconn horderly hexecuted =>
    ⟨fun mp hcontrol => ?_, fun mp hcontrol => ?_⟩)
  · rw [Entered.Executed, Entered.program_of_kick hcontrol] at hexecuted
    exact kickOutcome_of_follows hconn horderly hexecuted
  · rw [Entered.Executed, Entered.program_of_delete hcontrol] at hexecuted
    exact deleteOutcome_of_follows hconn horderly hexecuted

/-- `root` kicks its own account and then deletes it. -/
def kickedAndDeleted : List Event :=
  rootLogin ++ receive 1 kClientControl 2 [.map 2, .str (lit "action"),
      .str (lit "kick_user"), .str (lit "target_user_id"), .uint 1] ++
    advances 1 4 ++ receive 1 kClientControl 3 (deleteBody 1) ++ advances 1 6

theorem removals_of_run_kickedAndDeleted :
    ∃ (s : Server) (requests : List Entered) (steps : List Performed),
      Transition.run (step forwarderJson unpackFlat) kickedAndDeleted
        (initial emptyDb) = some s ∧ s.pendingOp 1 = none ∧
      requests.length = 3 ∧
      Accounts (fun e steps =>
        (∀ mp, e.IsControl unpackFlat (lit "kick_user") mp →
          KickOutcome 1 e mp steps) ∧
        ∀ mp, e.IsControl unpackFlat (lit "user_table_delete") mp →
          DeleteOutcome 1 e mp steps) 1 requests steps s := by
  obtain ⟨s, hrun, hdone, hthree⟩ : ∃ s, Transition.run
        (step forwarderJson unpackFlat) kickedAndDeleted (initial emptyDb) =
        some s ∧ s.pendingOp 1 = none ∧
      (Transition.observe (step forwarderJson unpackFlat) (entered 1)
        kickedAndDeleted (initial emptyDb)).length = 3 :=
    Transition.exists_run_of_check (by decide +kernel)
  exact ⟨s, _, _, hrun, hdone, hthree,
    removals_of_run forwarderJson unpackFlat emptyDb hrun 1⟩

/-- `allowlist_list` and `user_table_list` answer with the whole table as it
is at one moment, row by row in the order of the ids. -/
theorem tables_of_run (cfg : Config) (unpack : Bytes → Option Obj) (db : Db)
    {events : List Event} {s : Server}
    (hrun : Transition.run (step cfg unpack) events (initial db) = some s)
    (c : ConnId) :
    Accounts (fun e steps =>
        (∀ mp, e.IsControl unpack (lit "allowlist_list") mp →
          AllowlistOutcome c e steps) ∧
        ∀ mp, e.IsControl unpack (lit "user_table_list") mp →
          UserTableOutcome c e steps) c
      (Transition.observe (step cfg unpack) (entered c) events (initial db))
      (Transition.observe (step cfg unpack) (performed c) events (initial db))
      s := by
  refine accounts_of_run hrun (fun e steps hconn _ hexecuted =>
    ⟨fun mp hcontrol => ?_, fun mp hcontrol => ?_⟩)
  · rw [Entered.Executed, Entered.program_of_allowlistList hcontrol]
      at hexecuted
    exact allowlistOutcome_of_follows hconn hexecuted
  · rw [Entered.Executed, Entered.program_of_userTableList hcontrol]
      at hexecuted
    exact userTableOutcome_of_follows hconn hexecuted

theorem tables_of_run_sessionsAndAllowlist :
    ∃ (s : Server) (requests : List Entered) (steps : List Performed),
      Transition.run (step forwarderJson unpackFlat) sessionsAndAllowlist
        (initial emptyDb) = some s ∧ s.pendingOp 1 = none ∧
      requests.length = 3 ∧
      Accounts (fun e steps =>
        (∀ mp, e.IsControl unpackFlat (lit "allowlist_list") mp →
          AllowlistOutcome 1 e steps) ∧
        ∀ mp, e.IsControl unpackFlat (lit "user_table_list") mp →
          UserTableOutcome 1 e steps) 1 requests steps s := by
  obtain ⟨s, hrun, hdone, hthree⟩ : ∃ s, Transition.run
        (step forwarderJson unpackFlat) sessionsAndAllowlist
        (initial emptyDb) = some s ∧ s.pendingOp 1 = none ∧
      (Transition.observe (step forwarderJson unpackFlat) (entered 1)
        sessionsAndAllowlist (initial emptyDb)).length = 3 :=
    Transition.exists_run_of_check (by decide +kernel)
  exact ⟨s, _, _, hrun, hdone, hthree,
    tables_of_run forwarderJson unpackFlat emptyDb hrun 1⟩

end Server

end AsioForwarder
