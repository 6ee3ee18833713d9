import AsioForwarder.ServerInvariant

/-!
# Permissions and names of logged-in sessions

A session keeps a copy of its account's `is_admin` and `username` from the
moment of its login.  The copy decides about CONTROL frames and is the source
name of its DELIVER frames, whatever happens to the row afterwards.  The two
theorems of this module say when the copies agree with the `users` table:
as long as no CONTROL frame takes `is_admin` or the name away from an account
which has a login in force.
-/

namespace AsioForwarder

namespace Server

variable {cfg : Config} {unpack : Bytes → Option Obj}

/-! ## Logins in force -/

/-- The copies held by the session `c`: as a live logged-in session, or as a
login which the database has accepted and which is about to register. -/
def loginInForce (s : Server) (c : ConnId) : List (UserInfo × Bytes) :=
  (if (s.readers c).live && (s.hub.sessions c).loggedIn then
    [(⟨(s.hub.sessions c).userId, (s.hub.sessions c).isAdmin⟩,
      (s.hub.sessions c).username)]
  else []) ++
  match s.readers c with
  | .handling q =>
      match q.stage with
      | .authed un info => [(info, un)]
      | _ => []
  | _ => []

def loginsInForce (s : Server) : List (UserInfo × Bytes) :=
  (List.range (s.hub.reg.nextConnId + 1)).flatMap s.loginInForce

theorem mem_loginInForce {s : Server} {c : ConnId} {info : UserInfo}
    {un : Bytes} :
    (info, un) ∈ s.loginInForce c ↔
      ((s.readers c).live = true ∧
        s.hub.identity c = ⟨c, true, info.id, info.isAdmin, un⟩) ∨
      ∃ q, s.readers c = .handling q ∧ q.stage = .authed un info := by
  unfold loginInForce
  rw [List.mem_append]
  refine or_congr ?_ ?_
  · simp only [Hub.identity, TcpSession.identity, Identity.mk.injEq]
    split
    · rename_i hboth
      rw [Bool.and_eq_true] at hboth
      obtain ⟨uid, isAdmin⟩ := info
      simp only [List.mem_singleton, Prod.mk.injEq, UserInfo.mk.injEq,
        hboth.1, hboth.2, true_and]
      exact ⟨fun h => ⟨h.1.1.symm, h.1.2.symm, h.2.symm⟩,
        fun h => ⟨⟨h.1.symm, h.2.1.symm⟩, h.2.2.symm⟩⟩
    · rename_i hnot
      simp only [List.not_mem_nil, false_iff, not_and, true_and]
      intro hlive hlogged
      simp [hlive, hlogged] at hnot
  · cases hreader : s.readers c with
    | handling q =>
        cases hstage : q.stage with
        | authed un' info' =>
            simp only [List.mem_singleton, Prod.mk.injEq,
              ReadLoop.handling.injEq, exists_eq_left', hstage,
              Stage.authed.injEq]
            exact ⟨fun h => ⟨h.2.symm, h.1.symm⟩,
              fun h => ⟨h.2.symm, h.1.symm⟩⟩
        | _ => simp [hstage]
    | _ => simp

theorem mem_loginsInForce {s : Server} (hsane : s.Sane) {info : UserInfo}
    {un : Bytes} :
    (info, un) ∈ s.loginsInForce ↔ ∃ c, (info, un) ∈ s.loginInForce c := by
  simp only [loginsInForce, List.mem_flatMap, List.mem_range]
  constructor
  · rintro ⟨c, _, hmem⟩
    exact ⟨c, hmem⟩
  · rintro ⟨c, hmem⟩
    refine ⟨c, ?_, hmem⟩
    by_contra hbeyond
    have hnot := (hsane.fresh c (by omega)).1
    rcases mem_loginInForce.mp hmem with ⟨hlive, _⟩ | ⟨q, hreader, _⟩
    · rw [hnot] at hlive
      cases hlive
    · rw [hnot] at hreader
      cases hreader

theorem inForce_of_step {s s' : Server} {event : Event} (hsane : s.Sane)
    (hstep : s.step cfg unpack event = some s') {info : UserInfo}
    {un : Bytes} (hforce : (info, un) ∈ s'.loginsInForce) :
    (info, un) ∈ s.loginsInForce ∨
    ∃ c env q password wantAdmin, event = .advance c env ∧
      s.readers c = .handling q ∧
      q.nextOp =
        some (.store (.authenticateOrRegister un password wantAdmin)) ∧
      ((StoreOp.authenticateOrRegister un password wantAdmin).exec env
        s.hub.db).2 = .ok info ∧
      s'.hub.db = ((StoreOp.authenticateOrRegister un password
        wantAdmin).exec env s.hub.db).1 := by
  rw [mem_loginsInForce (hsane.step hstep)] at hforce
  rw [mem_loginsInForce hsane]
  obtain ⟨c, hmem⟩ := hforce
  rcases mem_loginInForce.mp hmem with ⟨hlive, hid⟩ | ⟨q', hreader', hauthed⟩
  · left
    refine ⟨c, mem_loginInForce.mpr ?_⟩
    rcases identity_of_step hsane hstep c with hkept | ⟨_, hnew⟩ |
      ⟨un', info', wantMode, ⟨_, q, _, hreader, hauthed, _⟩, hself⟩
    · rcases live_of_step hstep hlive with hlive | hnew
      · exact .inl ⟨hlive, hkept.symm.trans hid⟩
      · have hout := (hsane.fresh c (hnew ▸ Nat.lt_succ_self _)).2
        have hin := congrArg Identity.loggedIn (hkept.symm.trans hid)
        rw [show (s.hub.identity c).loggedIn = false from hout] at hin
        cases hin
    · rw [hid] at hnew
      cases hnew
    · rw [hid, Identity.mk.injEq] at hself
      obtain ⟨_, _, huid, hadmin, rfl⟩ := hself
      have hinfo : info' = info := by
        cases info
        cases info'
        simp_all
      exact .inr ⟨q, hreader, hinfo ▸ hauthed⟩
  · rcases request_of_step hstep hreader' with ⟨hreader, _⟩ |
      ⟨h, body, _, _, rfl, _⟩ |
      ⟨env, q, op, hevent, hreader, hop, hallows, _, _, hstage, hhub⟩
    · exact .inl ⟨c, mem_loginInForce.mpr (.inr ⟨q', hreader, hauthed⟩)⟩
    · exact absurd hauthed (initialStage_opening unpack _ h body).ne_authed
    · rw [hstage] at hauthed
      obtain ⟨password, wantAdmin, rfl, hok⟩ :=
        authed_of_next hallows hauthed
      refine .inr ⟨c, env, q, password, wantAdmin, hevent, hreader, hop,
        hok, ?_⟩
      rw [hhub]
      rfl

/-- A fact about the table which every login in force relies on: the store
calls of the run keep it, and a login which comes into force has it. -/
theorem backed_of_step (fact : UsersTable → UserInfo → Bytes → Prop)
    {s s' : Server} {event : Event} (hsane : s.Sane)
    (hstep : s.step cfg unpack event = some s')
    (hbacked : ∀ info un, (info, un) ∈ s.loginsInForce →
      fact s.hub.db.users info un)
    (hkeep : ∀ c env operation t', event = .advance c env →
      operation ∈ s.pendingStore c →
      UsersEffect s.hub.db.users operation t' →
      ∀ info un, (info, un) ∈ s.loginsInForce →
        fact s.hub.db.users info un → fact t' info un)
    (hnew : ∀ c env password wantAdmin info un, event = .advance c env →
      .authenticateOrRegister un password wantAdmin ∈ s.pendingStore c →
      ((StoreOp.authenticateOrRegister un password wantAdmin).exec env
        s.hub.db).2 = .ok info →
      fact ((StoreOp.authenticateOrRegister un password wantAdmin).exec env
        s.hub.db).1.users info un) :
    ∀ info un, (info, un) ∈ s'.loginsInForce →
      fact s'.hub.db.users info un := by
  intro info un hforce
  rcases inForce_of_step hsane hstep hforce with hold |
    ⟨c, env, q, password, wantAdmin, hevent, hreader, hop, hok, hdb⟩
  · rcases db_of_step hstep with hsame |
      ⟨c, env, q, operation, hevent, hreader, hop, _, hdb⟩
    · rw [hsame]
      exact hbacked info un hold
    · refine hkeep c env operation _ hevent
        (pendingStore_of_handling hreader hop) ?_ info un hold
        (hbacked info un hold)
      rw [hdb]
      exact operation.usersEffect env s.hub.db
  · rw [hdb]
    exact hnew c env password wantAdmin info un hevent
      (pendingStore_of_handling hreader hop) hok

/-! ## Permissions -/

end Server

/-- Store calls which take `is_admin` from the account `uid`. -/
def StoreOp.revokes (uid : Nat) : StoreOp → Bool
  | .adminUpdateUser id _ _ (some false) => id = uid
  | .adminDeleteUser id => id = uid
  | _ => false

namespace Server

/-- The step takes `is_admin` from no account with an administrator's login
in force. -/
def AdminKept (s : Server) (event : Event) : Prop :=
  ∀ acting ∈ event.advance?, ∀ operation ∈ s.pendingStore acting.1,
    ∀ entry ∈ s.loginsInForce, entry.1.isAdmin = true →
      operation.revokes entry.1.id = false

/-- If the step executes something for a CONTROL frame besides an answer,
the sender's row exists and has `is_admin` set. -/
def ControlAuthorised (s : Server) (event : Event) : Prop :=
  ∀ acting ∈ event.advance?, ∀ q ∈ s.request? acting.1,
    q.header.msgType = kClientControl → ∀ op ∈ q.nextOp,
      op.isAnswer acting.1 = false →
        s.hub.db.users.HasAdmin (s.hub.sessions acting.1).userId

instance (s : Server) (event : Event) : Decidable (s.AdminKept event) :=
  inferInstanceAs (Decidable (∀ acting ∈ event.advance?, _))

instance (s : Server) (event : Event) :
    Decidable (s.ControlAuthorised event) :=
  inferInstanceAs (Decidable (∀ acting ∈ event.advance?, _))

def AdminBacked (s : Server) : Prop :=
  ∀ info un, (info, un) ∈ s.loginsInForce → info.isAdmin = true →
    s.hub.db.users.HasAdmin info.id

theorem adminBacked_of_step {s s' : Server} {event : Event}
    (hsane : s.Sane) (hbacked : s.AdminBacked)
    (hkept : s.AdminKept event)
    (hstep : s.step cfg unpack event = some s') : s'.AdminBacked := by
  refine backed_of_step (fun t info _ => info.isAdmin = true →
    t.HasAdmin info.id) hsane hstep hbacked ?_ ?_
  · rintro c env operation t' rfl hpending heffect info un hforce hfact hadmin
    have hrevokes := hkept (c, env) rfl operation hpending (info, un) hforce
      hadmin
    refine heffect.hasAdmin (hfact hadmin) ?_ ?_
    · rintro newUsername password rfl
      simp [StoreOp.revokes] at hrevokes
    · rintro rfl
      simp [StoreOp.revokes] at hrevokes
  · rintro c env password wantAdmin info un _ _ hok hadmin
    obtain ⟨row, hrow, hid, _, hflag⟩ :=
      StoreOp.authenticate_row env s.hub.db hok
    exact ⟨row, hrow, hid, hflag.trans hadmin⟩

theorem inForce_of_control {s : Server} {c : ConnId} {q : Request}
    (hsane : s.Sane) (hreader : s.readers c = .handling q)
    (htype : q.stage.msgType = some kClientControl) :
    (⟨(s.hub.sessions c).userId, true⟩, (s.hub.sessions c).username) ∈
      s.loginsInForce := by
  obtain ⟨_, hlogged, hadmin⟩ := (hsane.fits c q hreader).2.admin htype
  rw [mem_loginsInForce hsane]
  refine ⟨c, mem_loginInForce.mpr (.inl ⟨by rw [hreader]; rfl, ?_⟩)⟩
  have hin : (s.hub.sessions c).loggedIn = true := hlogged
  have hflag : (s.hub.sessions c).isAdmin = true := hadmin
  simp only [Hub.identity, TcpSession.identity, hin, hflag]

theorem controlAuthorised_of_backed {s : Server} (hsane : s.Sane)
    (hbacked : s.AdminBacked) (event : Event) :
    s.ControlAuthorised event := by
  rintro ⟨c, env⟩ _ q hq hcontrol op hop hanswer
  rw [mem_request?] at hq
  have hallows := Request.allows_of_nextOp hop
  obtain ⟨hconn, _⟩ := hsane.fits c q hq
  rw [← hconn] at hanswer
  obtain ⟨mtype, htype⟩ := hallows.msgType_isSome hanswer
  have hmtype := hsane.typed c q hq mtype htype
  rw [← hmtype, hcontrol] at htype
  exact hbacked _ _ (inForce_of_control hsane hq htype) rfl

/-- Whoever acts on a CONTROL frame is an administrator in the database at
that moment, in every run in which no step takes `is_admin` from an account
with an administrator's login in force. -/
theorem controlAuthorised_of_adminKept (cfg : Config)
    (unpack : Bytes → Option Obj) (db : Db) (events : List Event)
    (hkept : Transition.Along (step cfg unpack) AdminKept events
      (initial db)) :
    Transition.Along (step cfg unpack) ControlAuthorised events
      (initial db) := by
  refine Transition.along_of_invariant
    (fun s => s.Sane ∧ s.AdminBacked) ?_ ?_ ?_ hkept
  · rintro s event s' ⟨hsane, hbacked⟩ hgood hstep
    exact ⟨hsane.step hstep,
      adminBacked_of_step hsane hbacked hgood hstep⟩
  · rintro s event ⟨hsane, hbacked⟩ _
    exact controlAuthorised_of_backed hsane hbacked event
  · refine ⟨sane_initial db, ?_⟩
    intro info un hforce
    simp [loginsInForce, initial, loginInForce, ReadLoop.live] at hforce

/-- An administrator logs in and asks for the list of users. -/
def listUsersRun : List Event :=
  rootLogin ++
    receive 1 kClientControl 2
      [.map 1, .str (lit "action"), .str (lit "list_users")] ++ advances 1 3

theorem controlAuthorised_of_adminKept_listUsersRun :
    (Transition.run (step forwarderJson unpackFlat) listUsersRun
      (initial emptyDb)).isSome = true ∧
    Transition.Along (step forwarderJson unpackFlat) ControlAuthorised
      listUsersRun (initial emptyDb) :=
  ⟨by decide +kernel,
    controlAuthorised_of_adminKept forwarderJson unpackFlat emptyDb
      listUsersRun (Transition.along_of_check (by decide +kernel))⟩

/-- The administrator clears his own `is_admin` and then asks for the list of
users, which is executed. -/
def demotedRun : List Event :=
  rootLogin ++
    receive 1 kClientControl 2
      [.map 3, .str (lit "action"), .str (lit "user_table_update"),
        .str (lit "id"), .uint 1, .str (lit "is_admin"), .bool false] ++
    advances 1 4 ++
    receive 1 kClientControl 3
      [.map 1, .str (lit "action"), .str (lit "list_users")] ++ advances 1 3

theorem not_controlAuthorised_demotedRun :
    (Transition.run (step forwarderJson unpackFlat) demotedRun
      (initial emptyDb)).isSome = true ∧
    ¬Transition.Along (step forwarderJson unpackFlat) ControlAuthorised
      demotedRun (initial emptyDb) :=
  ⟨by decide +kernel, Transition.not_along_of_check (by decide +kernel)⟩

/-! ## Names -/

end Server

/-- Store calls after which the account `uid` is not called `name`. -/
def StoreOp.unnames (uid : Nat) (name : Bytes) : StoreOp → Bool
  | .adminUpdateUser id (some newName) _ _ =>
      id = uid && MysqlStore.nameParam newName ≠ name
  | .adminDeleteUser id => id = uid
  | _ => false

/-- Logins whose name does not fit the buffer of the `SELECT`. -/
def StoreOp.longLogin : StoreOp → Bool
  | .authenticateOrRegister un _ _ => 511 < un.length
  | _ => false

def Call.sent : Call → Option Wire
  | .sendFrame wire => some wire
  | _ => none

/-- `src_conn_id` and `src_username` of a DELIVER body. -/
def Wire.source (wire : Wire) : Option (Nat × Bytes) :=
  match wire.body with
  | [_, _, _, _, .uint conn, _, _, _, .str name, _, _] => some (conn, name)
  | _ => none

namespace Server

/-- The step renames or deletes no account with a login in force, and logs
nobody in under a name of more than 511 bytes. -/
def NamesKept (s : Server) (event : Event) : Prop :=
  ∀ acting ∈ event.advance?, ∀ operation ∈ s.pendingStore acting.1,
    operation.longLogin = false ∧
    ∀ entry ∈ s.loginsInForce,
      operation.unnames entry.1.id entry.2 = false

/-- Every DELIVER the step passes to a session names its sender: by conn id,
and by a name which the table maps to the sender's account. -/
def SourceAuthentic (cfg : Config) (s : Server) (event : Event) : Prop :=
  ∀ acting ∈ event.advance?, ∀ op ∈ s.pendingOp acting.1,
    ∀ entry ∈ op.calls cfg acting.2 s.hub, ∀ wire ∈ entry.2.sent,
      wire.msgType = kMsgDeliver → ∃ source ∈ wire.source,
        source.1 = acting.1 ∧
        s.hub.db.users.Names (s.hub.sessions acting.1).userId source.2

instance (s : Server) (event : Event) : Decidable (s.NamesKept event) :=
  inferInstanceAs (Decidable (∀ acting ∈ event.advance?, _))

instance (s : Server) (event : Event) :
    Decidable (s.SourceAuthentic cfg event) :=
  inferInstanceAs (Decidable (∀ acting ∈ event.advance?, _))

def NameBacked (s : Server) : Prop :=
  ∀ info un, (info, un) ∈ s.loginsInForce → s.hub.db.users.Names info.id un

theorem nameParam_of_le {name : Bytes} (hle : name.length ≤ 511) :
    MysqlStore.nameParam name = name :=
  List.take_of_length_le hle

theorem nameBacked_of_step {s s' : Server} {event : Event}
    (hsane : s.Sane) (hbacked : s.NameBacked) (hkept : s.NamesKept event)
    (hstep : s.step cfg unpack event = some s') : s'.NameBacked := by
  refine backed_of_step (fun t info un => t.Names info.id un)
    hsane hstep hbacked ?_ ?_
  · rintro c env operation t' rfl hpending heffect info un hforce hfact
    have hunnames := (hkept (c, env) rfl operation hpending).2 (info, un)
      hforce
    refine heffect.names hfact ?_ ?_
    · rintro newName password isAdmin rfl
      simpa [StoreOp.unnames] using hunnames
    · rintro rfl
      simp [StoreOp.unnames] at hunnames
  · rintro c env password wantAdmin info un rfl hpending hok
    have hshort := (hkept (c, env) rfl _ hpending).1
    simp only [StoreOp.longLogin, decide_eq_false_iff_not, not_lt] at hshort
    obtain ⟨row, hrow, hid, hname, _⟩ :=
      StoreOp.authenticate_row env s.hub.db hok
    exact ⟨row, hrow, hid, hname.trans (nameParam_of_le hshort)⟩

theorem deliver_of_calls {sender : Identity} {seq : UInt32} {stage : Stage}
    {op : Op} (hallows : Allows sender seq stage op) {env : Env} {hub : Hub}
    {entry : ConnId × Call} (hentry : entry ∈ op.calls cfg env hub)
    {wire : Wire} (hwire : wire ∈ entry.2.sent)
    (hdeliver : wire.msgType = kMsgDeliver) :
    ∃ dst uid payload, stage = .routed dst uid ∧
      op = .lock (.deliver sender.username sender.connId dst uid payload
        seq) ∧
      entry.1 ∈ hub.reg.deque uid ∧
      wire = deliverWire seq payload sender.connId entry.1 sender.username
        dst := by
  cases hallows with
  | route dst uid payload =>
      simp only [Op.calls, LockOp.exec, List.mem_map] at hentry
      obtain ⟨c, hc, rfl⟩ := hentry
      cases hwire
      exact ⟨dst, uid, payload, rfl, rfl, Registry.recipients_subset hc, rfl⟩
  | welcome uid self lok =>
      simp only [Op.calls, List.mem_singleton] at hentry
      subst hentry
      cases hwire
      cases hdeliver
  | confirm uid =>
      simp only [Op.calls, List.mem_singleton] at hentry
      subst hentry
      cases hwire
      cases hdeliver
  | reply _ hstage _ htype hseq =>
      simp only [Op.calls, List.mem_singleton] at hentry
      subst hentry
      cases hwire
      rw [htype] at hdeliver
      cases hdeliver
  | manage operation hordinary => simp [Op.calls] at hentry
  | _ =>
      simp only [Op.calls, LockOp.exec, List.mem_singleton,
        List.not_mem_nil] at hentry
      try
        subst hentry
        cases hwire

theorem sourceAuthentic_of_backed {s : Server} (hsane : s.Sane)
    (hbacked : s.NameBacked) (event : Event) :
    s.SourceAuthentic cfg event := by
  rintro ⟨c, env⟩ _ op hop entry hentry wire hwire hdeliver
  obtain ⟨q, hreader, hnext⟩ := handling_of_pendingOp hop
  obtain ⟨dst, uid, payload, hstage, rfl, _, rfl⟩ := deliver_of_calls
    (Request.allows_of_nextOp hnext) hentry hwire hdeliver
  obtain ⟨hconn, hfits⟩ := hsane.fits c q hreader
  rw [hstage] at hfits
  obtain ⟨hself, hlogged⟩ := hfits
  refine ⟨(q.sender.connId, q.sender.username), rfl, hconn, ?_⟩
  refine hbacked ⟨_, (s.hub.sessions c).isAdmin⟩ _ ?_
  rw [mem_loginsInForce hsane]
  refine ⟨c, mem_loginInForce.mpr (.inl ⟨by rw [hreader]; rfl, ?_⟩)⟩
  have hin : (s.hub.sessions c).loggedIn = true := hlogged
  rw [← hself]
  simp only [Hub.identity, TcpSession.identity, hin]

/-- Every DELIVER names its true sender, in every run which renames or
deletes no account with a login in force and logs nobody in under a name of
more than 511 bytes. -/
theorem sourceAuthentic_of_namesKept (cfg : Config)
    (unpack : Bytes → Option Obj) (db : Db) (events : List Event)
    (hkept : Transition.Along (step cfg unpack) NamesKept events
      (initial db)) :
    Transition.Along (step cfg unpack) (SourceAuthentic cfg) events
      (initial db) := by
  refine Transition.along_of_invariant
    (fun s => s.Sane ∧ s.NameBacked) ?_ ?_ ?_ hkept
  · rintro s event s' ⟨hsane, hbacked⟩ hgood hstep
    exact ⟨hsane.step hstep, nameBacked_of_step hsane hbacked hgood hstep⟩
  · rintro s event ⟨hsane, hbacked⟩ _
    exact sourceAuthentic_of_backed hsane hbacked event
  · refine ⟨sane_initial db, ?_⟩
    intro info un hforce
    simp [loginsInForce, initial, loginInForce, ReadLoop.live] at hforce

/-- A DATA frame with a short payload. -/
def dataBody (dst : Bytes) : List Tok :=
  [.map 2, .str (lit "payload"), .bin [1, 2, 3],
    .str (lit "dst_username"), .str dst]

/-- Session 1 logs in as `root` and sends a message to itself. -/
def selfDataRun : List Event :=
  rootLogin ++ receive 1 kClientData 2 (dataBody (lit "root")) ++ advances 1 4

theorem sourceAuthentic_of_namesKept_selfDataRun :
    (∃ s, Transition.run (step forwarderJson unpackFlat) selfDataRun
        (initial emptyDb) = some s ∧
      (1, .sendFrame (deliverWire 2 [1, 2, 3] 1 1 (lit "root")
        (lit "root"))) ∈ s.hub.calls) ∧
    Transition.Along (step forwarderJson unpackFlat)
      (SourceAuthentic forwarderJson) selfDataRun (initial emptyDb) :=
  ⟨Transition.exists_run_of_check (by decide +kernel),
    sourceAuthentic_of_namesKept forwarderJson unpackFlat emptyDb
      selfDataRun (Transition.along_of_check (by decide +kernel))⟩

/-- The account is renamed to `boss` while session 1 is logged in as `root`;
the message session 1 then sends still bears the name `root`. -/
def renamedRun : List Event :=
  rootLogin ++
    receive 1 kClientControl 2
      [.map 3, .str (lit "action"), .str (lit "user_table_update"),
        .str (lit "id"), .uint 1, .str (lit "username"),
        .str (lit "boss")] ++
    advances 1 5 ++ receive 1 kClientData 3 (dataBody (lit "boss")) ++
    advances 1 4

theorem not_sourceAuthentic_renamedRun :
    (Transition.run (step forwarderJson unpackFlat) renamedRun
      (initial emptyDb)).isSome = true ∧
    ¬Transition.Along (step forwarderJson unpackFlat)
      (SourceAuthentic forwarderJson) renamedRun (initial emptyDb) :=
  ⟨by decide +kernel, Transition.not_along_of_check (by decide +kernel)⟩

end Server

end AsioForwarder
