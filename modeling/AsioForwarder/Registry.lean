import AsioForwarder.Config
import AsioForwarder.MysqlStore
import Mathlib.Data.List.AList

/-!
# The session registry

The containers of `RelayServer` which the mutex `mu_` protects, and the
critical sections over them.  Each critical section is one function from the
registry to the registry.  A `shared_ptr<TcpSession>` is represented by the
conn id the session was created with; ids are handed out by a counter, here
without the wrap-around at 2^64 connections.

`is_open()` belongs to the socket and not to the registry, so the sections
which test it take it as an argument.
-/

namespace AsioForwarder

abbrev ConnId := Nat

inductive RecvMode where
  | broadcast
  | roundRobin
  deriving DecidableEq

def parseRecvModeStr (s : Bytes) : Option RecvMode :=
  if s = lit "broadcast" then some .broadcast
  else if s = lit "round_robin" ∨ s = lit "roundrobin" then some .roundRobin
  else none

def recvModeCstr : RecvMode → Bytes
  | .broadcast => lit "broadcast"
  | .roundRobin => lit "round_robin"

structure LoginOk where
  effectiveMode : RecvMode
  recvModeNotice : Option Bytes
  deriving DecidableEq

structure Registry where
  nextConnId : Nat := 0
  all : List ConnId := []
  byId : AList (fun _ : ConnId => ConnId) := ∅
  userDeque : AList (fun _ : Nat => List ConnId) := ∅
  uidToUsername : AList (fun _ : Nat => Bytes) := ∅
  nameToUid : AList (fun _ : Bytes => Nat) := ∅
  userRecvMode : AList (fun _ : Nat => RecvMode) := ∅
  rrNextIndex : AList (fun _ : Nat => Nat) := ∅

namespace Registry

def deque (r : Registry) (uid : Nat) : List ConnId :=
  (r.userDeque.lookup uid).getD []

theorem deque_of_lookup {r : Registry} {uid : Nat} {dq : List ConnId}
    (hlookup : r.userDeque.lookup uid = some dq) : r.deque uid = dq := by
  simp [deque, hlookup]

/-! ## Critical sections -/

/-- The registration in `accept_clients`. -/
def accept (r : Registry) : Registry :=
  { r with
    nextConnId := r.nextConnId + 1
    byId := r.byId.insert (r.nextConnId + 1) (r.nextConnId + 1)
    all := r.all ++ [r.nextConnId + 1] }

/-- The deque part of `remove_session` for an account with a deque. -/
def dropFromDeque (c : ConnId) (uid : Nat) (dq : List ConnId)
    (r : Registry) : Registry :=
  if (dq.erase c).isEmpty then
    { r with
      userDeque := r.userDeque.erase uid
      userRecvMode := r.userRecvMode.erase uid
      rrNextIndex := r.rrNextIndex.erase uid }
  else { r with userDeque := r.userDeque.insert uid (dq.erase c) }

/-- `remove_session`; `loggedIn` and `uid` are the session's own fields. -/
def removeSession (c : ConnId) (loggedIn : Bool) (uid : Nat)
    (r : Registry) : Registry :=
  let r := { r with byId := r.byId.erase c, all := r.all.erase c }
  if loggedIn then
    match r.userDeque.lookup uid with
    | none => r
    | some dq => r.dropFromDeque c uid dq
  else r

/-- `snapshot_stats` compacts `all_`; the counters it returns are read by
the admin port and the log only. -/
def snapshotStats (isOpen : ConnId → Bool) (r : Registry) : Registry :=
  { r with all := r.all.filter isOpen }

/-- The loop of `try_authenticate` over `dq`: pop the front while there are
more than `limit` elements.  The second list holds the popped sessions. -/
def evictOldest (limit : Nat) : List ConnId → List ConnId × List ConnId
  | [] => ([], [])
  | front :: rest =>
      if rest.length + 1 > limit then
        ((evictOldest limit rest).1, front :: (evictOldest limit rest).2)
      else (front :: rest, [])

/-- The notice of a login whose receive mode is not the established one. -/
def recvModeNoticeText : Bytes :=
  lit "接收方式按首次 login 为准；若需更改，请关闭该用户全部连接后重新登录"

/-- The receive mode of a login: the first session of an account sets it. -/
def settleMode (uid : Nat) (wantMode : RecvMode) (r : Registry) :
    Registry × LoginOk :=
  if r.deque uid = [] then
    ({ r with userRecvMode := r.userRecvMode.insert uid wantMode },
      ⟨wantMode, none⟩)
  else
    match r.userRecvMode.lookup uid with
    | some established =>
        (r, ⟨established,
          if established = wantMode then none else some recvModeNoticeText⟩)
    | none =>
        -- `operator[]` inserts the zero value of the enumeration
        ({ r with userRecvMode := r.userRecvMode.insert uid .broadcast },
          ⟨.broadcast,
            if RecvMode.broadcast = wantMode then none
            else some recvModeNoticeText⟩)

/-- The critical section of `try_authenticate`, up to `mark_login`: the
name caches, the receive mode and the deque of the account.  It returns the
sessions which have to go. -/
def login (cfg : Config) (self : ConnId) (un : Bytes) (uid : Nat)
    (wantMode : RecvMode) (r : Registry) :
    Registry × LoginOk × List ConnId :=
  let r := { r with
    uidToUsername := r.uidToUsername.insert uid un
    nameToUid := r.nameToUid.insert un uid }
  let settled := r.settleMode uid wantMode
  let evicted := evictOldest cfg.maxConnections (r.deque uid ++ [self])
  ({ settled.1 with userDeque := r.userDeque.insert uid evicted.1 },
    settled.2, evicted.2)

/-- The first section of `ensure_uid_for_username`. -/
def cacheLookup (username : Bytes) (r : Registry) : Option Nat :=
  r.nameToUid.lookup username

/-- The second section of `ensure_uid_for_username`. -/
def cacheStore (username : Bytes) (uid : Nat) (r : Registry) : Registry :=
  { r with nameToUid := r.nameToUid.insert username uid }

/-- The section of `user_table_update` after a rename. -/
def cacheRename (oldName newName : Bytes) (uid : Nat) (r : Registry) :
    Registry :=
  { r with
    nameToUid := (r.nameToUid.erase oldName).insert newName uid
    uidToUsername := r.uidToUsername.insert uid newName }

/-- The section of `user_table_delete`. -/
def cacheForget (name : Bytes) (uid : Nat) (r : Registry) : Registry :=
  { r with
    nameToUid := r.nameToUid.erase name
    uidToUsername := r.uidToUsername.erase uid }

/-- The recipients of `deliver_to_user_by_recv_mode`: in broadcast mode the
open sessions up to `broadcast_max_recipients`, in round-robin mode the one
the cursor points at.  The cursor is a `std::size_t`. -/
def recipients (cfg : Config) (isOpen : ConnId → Bool) (uid : Nat)
    (r : Registry) : Registry × List ConnId :=
  match r.userDeque.lookup uid with
  | none => (r, [])
  | some dq =>
      let openSessions := dq.filter isOpen
      if openSessions = [] then (r, [])
      else
        match (r.userRecvMode.lookup uid).getD .broadcast with
        | .broadcast =>
            (r, openSessions.take cfg.broadcastMaxRecipients.toNat)
        | .roundRobin =>
            let cur := (r.rrNextIndex.lookup uid).getD 0
            ({ r with rrNextIndex :=
                r.rrNextIndex.insert uid ((cur + 1) % UInt64.size) },
              (openSessions[cur % openSessions.length]?).toList)

/-- The body of a `list_users` reply.  The handler asks `is_open()` once to
count and once more to list, and nothing keeps the two answers equal. -/
def listUsersBody (openWhenCounted openWhenListed : ConnId → Bool)
    (endpointStr : ConnId → Bytes) (r : Registry) : List Tok :=
  [.map 3, .str (lit "ok"), .bool true, .str (lit "op"),
    .str (lit "CONTROL"), .str (lit "users"),
    .array r.userDeque.entries.length] ++
  r.userDeque.entries.flatMap (fun entry =>
    [.map 3, .str (lit "user_id"), .uint entry.1,
      .str (lit "username"),
      .str ((r.uidToUsername.lookup entry.1).getD []),
      .str (lit "connections"),
      .array (entry.2.filter openWhenCounted).length] ++
    (entry.2.filter openWhenListed).flatMap (fun c =>
      [.map 2, .str (lit "conn_id"), .uint c,
        .str (lit "endpoint"), .str (endpointStr c)]))

/-! ## Eviction -/

theorem evictOldest_eq (limit : Nat) (dq : List ConnId) :
    evictOldest limit dq =
      (dq.drop (dq.length - limit), dq.take (dq.length - limit)) := by
  induction dq with
  | nil => simp [evictOldest]
  | cons front rest ih =>
      rw [evictOldest]
      split
      · rename_i hover
        have hcount : (front :: rest).length - limit =
            (rest.length - limit) + 1 := by
          rw [List.length_cons]
          omega
        rw [ih, hcount, List.drop_succ_cons, List.take_succ_cons]
      · rename_i hfits
        have hcount : (front :: rest).length - limit = 0 := by
          rw [List.length_cons]
          omega
        rw [hcount, List.drop_zero, List.take_zero]

def excess (cfg : Config) (dq : List ConnId) : Nat :=
  dq.length + 1 - cfg.maxConnections

theorem excess_le (cfg : Config) (dq : List ConnId) :
    excess cfg dq ≤ dq.length := by
  have hpos := cfg.maxConnections_pos
  unfold excess
  omega

theorem evictOldest_login (cfg : Config) (dq : List ConnId) (self : ConnId) :
    evictOldest cfg.maxConnections (dq ++ [self]) =
      (dq.drop (excess cfg dq) ++ [self], dq.take (excess cfg dq)) := by
  have hle := excess_le cfg dq
  rw [evictOldest_eq, List.length_append, List.length_singleton]
  change (List.drop (excess cfg dq) _, List.take (excess cfg dq) _) = _
  rw [List.drop_append_of_le_length hle, List.take_append_of_le_length hle]

/-! ## What a critical section does to a deque -/

theorem settleMode_shape (r : Registry) (uid : Nat) (wantMode : RecvMode) :
    ∃ modes, (r.settleMode uid wantMode).1 =
      { r with userRecvMode := modes } := by
  unfold settleMode
  split
  · exact ⟨_, rfl⟩
  · split
    · exact ⟨r.userRecvMode, rfl⟩
    · exact ⟨_, rfl⟩

@[simp] theorem settleMode_rrNextIndex (r : Registry) (uid : Nat)
    (wantMode : RecvMode) :
    (r.settleMode uid wantMode).1.rrNextIndex = r.rrNextIndex := by
  obtain ⟨_, hshape⟩ := r.settleMode_shape uid wantMode
  rw [hshape]

@[simp] theorem settleMode_nameToUid (r : Registry) (uid : Nat)
    (wantMode : RecvMode) :
    (r.settleMode uid wantMode).1.nameToUid = r.nameToUid := by
  obtain ⟨_, hshape⟩ := r.settleMode_shape uid wantMode
  rw [hshape]

theorem login_connections (cfg : Config) (r : Registry) (self : ConnId)
    (un : Bytes) (uid : Nat) (wantMode : RecvMode) :
    (r.login cfg self un uid wantMode).1.nextConnId = r.nextConnId ∧
      (r.login cfg self un uid wantMode).1.byId = r.byId := by
  obtain ⟨_, hshape⟩ := settleMode_shape
    { r with
      uidToUsername := r.uidToUsername.insert uid un
      nameToUid := r.nameToUid.insert un uid } uid wantMode
  simp only [login, hshape]
  exact ⟨trivial, trivial⟩

theorem login_nameToUid (cfg : Config) (r : Registry) (self : ConnId)
    (un : Bytes) (uid : Nat) (wantMode : RecvMode) :
    (r.login cfg self un uid wantMode).1.nameToUid =
      r.nameToUid.insert un uid := by
  simp [login]

theorem login_deque_self (cfg : Config) (r : Registry) (self : ConnId)
    (un : Bytes) (uid : Nat) (wantMode : RecvMode) :
    (r.login cfg self un uid wantMode).1.deque uid =
      (r.deque uid).drop (excess cfg (r.deque uid)) ++ [self] := by
  have hevict := evictOldest_login cfg (r.deque uid) self
  simp only [login, deque, AList.lookup_insert, Option.getD_some]
  exact congrArg Prod.fst hevict

theorem login_deque_ne (cfg : Config) (r : Registry) (self : ConnId)
    (un : Bytes) {uid other : Nat} (wantMode : RecvMode)
    (hne : other ≠ uid) :
    (r.login cfg self un uid wantMode).1.deque other = r.deque other := by
  simp [login, deque, AList.lookup_insert_ne hne]

theorem login_victims (cfg : Config) (r : Registry) (self : ConnId)
    (un : Bytes) (uid : Nat) (wantMode : RecvMode) :
    (r.login cfg self un uid wantMode).2.2 =
      (r.deque uid).take (excess cfg (r.deque uid)) := by
  have hevict := evictOldest_login cfg (r.deque uid) self
  exact congrArg Prod.snd hevict

theorem recipients_shape (cfg : Config) (isOpen : ConnId → Bool) (uid : Nat)
    (r : Registry) :
    ∃ cursors, (r.recipients cfg isOpen uid).1 =
      { r with rrNextIndex := cursors } := by
  unfold recipients
  split
  · exact ⟨r.rrNextIndex, rfl⟩
  · dsimp only
    split
    · exact ⟨r.rrNextIndex, rfl⟩
    · split
      · exact ⟨r.rrNextIndex, rfl⟩
      · exact ⟨_, rfl⟩

@[simp] theorem recipients_userDeque (cfg : Config)
    (isOpen : ConnId → Bool) (uid : Nat) (r : Registry) :
    (r.recipients cfg isOpen uid).1.userDeque = r.userDeque := by
  obtain ⟨_, hshape⟩ := r.recipients_shape cfg isOpen uid
  rw [hshape]

theorem settleMode_lookup_ne (r : Registry) {uid other : Nat}
    (wantMode : RecvMode) (hne : other ≠ uid) :
    (r.settleMode uid wantMode).1.userRecvMode.lookup other =
      r.userRecvMode.lookup other := by
  unfold settleMode
  split
  · exact AList.lookup_insert_ne hne
  · split
    · rfl
    · exact AList.lookup_insert_ne hne

theorem login_recvMode_ne (cfg : Config) (r : Registry) (self : ConnId)
    (un : Bytes) {uid other : Nat} (wantMode : RecvMode)
    (hne : other ≠ uid) :
    (r.login cfg self un uid wantMode).1.userRecvMode.lookup other =
      r.userRecvMode.lookup other := by
  unfold login
  exact settleMode_lookup_ne _ wantMode hne

@[simp] theorem recipients_userRecvMode (cfg : Config)
    (isOpen : ConnId → Bool) (uid : Nat) (r : Registry) :
    (r.recipients cfg isOpen uid).1.userRecvMode = r.userRecvMode := by
  obtain ⟨_, hshape⟩ := r.recipients_shape cfg isOpen uid
  rw [hshape]

@[simp] theorem recipients_nameToUid (cfg : Config)
    (isOpen : ConnId → Bool) (uid : Nat) (r : Registry) :
    (r.recipients cfg isOpen uid).1.nameToUid = r.nameToUid := by
  obtain ⟨_, hshape⟩ := r.recipients_shape cfg isOpen uid
  rw [hshape]

theorem recipients_subset {cfg : Config} {isOpen : ConnId → Bool}
    {uid : Nat} {r : Registry} {c : ConnId}
    (hmem : c ∈ (r.recipients cfg isOpen uid).2) : c ∈ r.deque uid := by
  unfold recipients at hmem
  split at hmem
  · simp at hmem
  · rename_i dq hlookup
    rw [deque_of_lookup hlookup]
    dsimp only at hmem
    split at hmem
    · simp at hmem
    · split at hmem
      · exact List.mem_of_mem_filter (List.mem_of_mem_take hmem)
      · rw [Option.mem_toList] at hmem
        exact List.mem_of_mem_filter (List.mem_of_getElem? hmem)

theorem dropFromDeque_deque_self (r : Registry) (c : ConnId) (uid : Nat)
    (dq : List ConnId) :
    (r.dropFromDeque c uid dq).deque uid = dq.erase c := by
  unfold dropFromDeque
  split
  · rename_i hempty
    simp [deque, AList.lookup_erase, List.isEmpty_iff.mp hempty]
  · simp [deque]

theorem dropFromDeque_deque_ne (r : Registry) (c : ConnId)
    {uid other : Nat} (dq : List ConnId) (hne : other ≠ uid) :
    (r.dropFromDeque c uid dq).deque other = r.deque other := by
  unfold dropFromDeque
  split
  · simp [deque, AList.lookup_erase_ne hne]
  · simp [deque, AList.lookup_insert_ne hne]

theorem removeSession_deque_ne (r : Registry) (c : ConnId) (loggedIn : Bool)
    {uid other : Nat} (hne : other ≠ uid) :
    (r.removeSession c loggedIn uid).deque other = r.deque other := by
  unfold removeSession
  dsimp only
  split
  · split
    · rfl
    · rw [dropFromDeque_deque_ne _ _ _ hne]
      rfl
  · rfl

theorem removeSession_deque_self (r : Registry) (c : ConnId) (uid : Nat) :
    (r.removeSession c true uid).deque uid = (r.deque uid).erase c := by
  unfold removeSession
  dsimp only
  rw [if_pos rfl]
  split
  · rename_i hnone
    simp [deque, hnone]
  · rename_i dq hlookup
    rw [dropFromDeque_deque_self, deque_of_lookup hlookup]

@[simp] theorem removeSession_deque_anonymous (r : Registry) (c : ConnId)
    (uid other : Nat) :
    (r.removeSession c false uid).deque other = r.deque other := rfl

@[simp] theorem removeSession_byId (r : Registry) (c : ConnId)
    (loggedIn : Bool) (uid : Nat) :
    (r.removeSession c loggedIn uid).byId = r.byId.erase c := by
  unfold removeSession dropFromDeque
  dsimp only
  split
  · split
    · rfl
    · split <;> rfl
  · rfl

@[simp] theorem removeSession_nameToUid (r : Registry) (c : ConnId)
    (loggedIn : Bool) (uid : Nat) :
    (r.removeSession c loggedIn uid).nameToUid = r.nameToUid := by
  unfold removeSession dropFromDeque
  dsimp only
  split
  · split
    · rfl
    · split <;> rfl
  · rfl

@[simp] theorem removeSession_nextConnId (r : Registry) (c : ConnId)
    (loggedIn : Bool) (uid : Nat) :
    (r.removeSession c loggedIn uid).nextConnId = r.nextConnId := by
  unfold removeSession dropFromDeque
  dsimp only
  split
  · split
    · rfl
    · split <;> rfl
  · rfl

/-! ## Tidy registries -/

/-- What the containers of a registry have to agree on: every deque is
non-empty and within the limit, the receive modes have the keys of the
deques, and the cursors have no other keys. -/
structure Tidy (cfg : Config) (r : Registry) : Prop where
  bounded : ∀ uid dq, r.userDeque.lookup uid = some dq →
    dq ≠ [] ∧ dq.length ≤ cfg.maxConnections
  modes : ∀ uid, uid ∈ r.userRecvMode ↔ uid ∈ r.userDeque
  cursors : ∀ uid, uid ∈ r.rrNextIndex → uid ∈ r.userDeque

theorem Tidy.empty (cfg : Config) : Tidy cfg {} where
  bounded := by simp
  modes := by simp
  cursors := by simp

theorem Tidy.congr {cfg : Config} {r r' : Registry} (htidy : r.Tidy cfg)
    (hdeque : r'.userDeque = r.userDeque)
    (hmode : r'.userRecvMode = r.userRecvMode)
    (hcursor : r'.rrNextIndex = r.rrNextIndex) : r'.Tidy cfg where
  bounded := by
    rw [hdeque]
    exact htidy.bounded
  modes := by
    rw [hdeque, hmode]
    exact htidy.modes
  cursors := by
    rw [hdeque, hcursor]
    exact htidy.cursors

theorem mem_settleMode (r : Registry) (uid : Nat) (wantMode : RecvMode)
    (other : Nat) :
    (other ∈ (r.settleMode uid wantMode).1.userRecvMode ↔
      other = uid ∨ other ∈ r.userRecvMode) := by
  unfold settleMode
  split
  · exact AList.mem_insert _
  · split
    · rename_i established hlookup
      have hmem : uid ∈ r.userRecvMode := by
        rw [← AList.lookup_isSome, hlookup]
        rfl
      constructor
      · exact Or.inr
      · rintro (rfl | hother)
        · exact hmem
        · exact hother
    · exact AList.mem_insert _

theorem login_lookup_self (cfg : Config) (r : Registry) (self : ConnId)
    (un : Bytes) (uid : Nat) (wantMode : RecvMode) :
    (r.login cfg self un uid wantMode).1.userDeque.lookup uid =
      some ((r.deque uid).drop (excess cfg (r.deque uid)) ++ [self]) := by
  have hevict := evictOldest_login cfg (r.deque uid) self
  simp only [login, AList.lookup_insert]
  exact congrArg (fun pair => some pair.1) hevict

theorem Tidy.login {cfg : Config} {r : Registry} (htidy : r.Tidy cfg)
    (self : ConnId) (un : Bytes) (uid : Nat) (wantMode : RecvMode) :
    (r.login cfg self un uid wantMode).1.Tidy cfg where
  bounded := by
    intro other dq hlookup
    by_cases hsame : other = uid
    · subst hsame
      rw [login_lookup_self, Option.some.injEq] at hlookup
      subst hlookup
      have hpos := cfg.maxConnections_pos
      refine ⟨by simp, ?_⟩
      rw [List.length_append, List.length_drop, List.length_singleton]
      unfold excess
      omega
    · have hold : r.userDeque.lookup other = some dq := by
        simpa [Registry.login, AList.lookup_insert_ne hsame] using hlookup
      exact htidy.bounded other dq hold
  modes := by
    intro other
    simp only [Registry.login, mem_settleMode, AList.mem_insert, htidy.modes]
  cursors := by
    intro other hmem
    simp only [Registry.login, settleMode_rrNextIndex] at hmem
    exact (AList.mem_insert _).mpr (Or.inr (htidy.cursors other hmem))

theorem Tidy.dropFromDeque {cfg : Config} {r : Registry}
    (htidy : r.Tidy cfg) {c : ConnId} {uid : Nat} {dq : List ConnId}
    (hlookup : r.userDeque.lookup uid = some dq) :
    (r.dropFromDeque c uid dq).Tidy cfg := by
  unfold Registry.dropFromDeque
  split
  · refine ⟨?_, ?_, ?_⟩
    · intro other dq' hother
      by_cases hsame : other = uid
      · subst hsame
        simp at hother
      · rw [AList.lookup_erase_ne hsame] at hother
        exact htidy.bounded other dq' hother
    · intro other
      simp only [AList.mem_erase, htidy.modes]
    · intro other hmem
      rw [AList.mem_erase] at hmem ⊢
      exact ⟨hmem.1, htidy.cursors other hmem.2⟩
  · rename_i hempty
    have hmem : uid ∈ r.userDeque := by
      rw [← AList.lookup_isSome, hlookup]
      rfl
    have hkeys : ∀ other, other ∈ r.userDeque.insert uid (dq.erase c) ↔
        other ∈ r.userDeque := by
      intro other
      rw [AList.mem_insert]
      constructor
      · rintro (rfl | hother)
        · exact hmem
        · exact hother
      · exact Or.inr
    refine ⟨?_, ?_, ?_⟩
    · intro other dq' hother
      by_cases hsame : other = uid
      · subst hsame
        rw [AList.lookup_insert, Option.some.injEq] at hother
        subst hother
        refine ⟨by simpa using hempty, ?_⟩
        exact (List.length_erase_le).trans (htidy.bounded other dq hlookup).2
      · rw [AList.lookup_insert_ne hsame] at hother
        exact htidy.bounded other dq' hother
    · intro other
      exact (htidy.modes other).trans (hkeys other).symm
    · intro other hother
      exact (hkeys other).mpr (htidy.cursors other hother)

theorem Tidy.removeSession {cfg : Config} {r : Registry}
    (htidy : r.Tidy cfg) (c : ConnId) (loggedIn : Bool) (uid : Nat) :
    (r.removeSession c loggedIn uid).Tidy cfg := by
  have hbase : ({ r with byId := r.byId.erase c, all := r.all.erase c } :
      Registry).Tidy cfg := htidy.congr rfl rfl rfl
  unfold Registry.removeSession
  dsimp only
  split
  · split
    · exact hbase
    · rename_i dq hlookup
      exact hbase.dropFromDeque hlookup
  · exact hbase

theorem Tidy.recipients {cfg : Config} {r : Registry} (htidy : r.Tidy cfg)
    (isOpen : ConnId → Bool) (uid : Nat) :
    (r.recipients cfg isOpen uid).1.Tidy cfg := by
  unfold Registry.recipients
  split
  · exact htidy
  · rename_i dq hlookup
    dsimp only
    split
    · exact htidy
    · split
      · exact htidy
      · refine ⟨htidy.bounded, htidy.modes, ?_⟩
        intro other hmem
        rcases (AList.mem_insert _).mp hmem with rfl | hother
        · rw [← AList.lookup_isSome, hlookup]
          rfl
        · exact htidy.cursors other hother

end Registry

end AsioForwarder
