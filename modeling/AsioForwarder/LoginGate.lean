import AsioForwarder.FrameRun

/-!
# Logins beside another database client

The tables belong to a database which other programs write to as well.  Here
a call of `try_authenticate` is executed with another client of the database
acting between any two of its statements, and with any steps of the server
between its operations.  What the call does to `users` is told apart from
what the others do by comparing the table it leaves with the one they alone
would have left.
-/

namespace AsioForwarder

open Interaction

/-! ## The table beside others -/

namespace MysqlStore

/-- The table once others have acted before each of the first `n`
statements, and nobody else. -/
def othersBefore (between : Nat → UsersTable → UsersTable) :
    Nat → UsersTable → UsersTable
  | 0, t => t
  | n + 1, t => between n (othersBefore between n t)

/-- What `authenticate_or_register` comes to.  An error leaves the table to
the others; a success rests on a row which was read and leaves the table to
them too, or on the one row it has inserted into what they left. -/
inductive Authenticated (between : Nat → UsersTable → UsersTable)
    (uname password : Bytes) (wantAdmin : Bool) (t : UsersTable) :
    UsersTable × Except Bytes UserInfo → Prop where
  | refused (n : Nat) (message : Bytes) :
      Authenticated between uname password wantAdmin t
        (othersBefore between n t, .error message)
  | read (n uid : Nat)
      (hselect : (othersBefore between n t).selectByUsername uname =
        some ⟨uid, uname, password, wantAdmin⟩) :
      Authenticated between uname password wantAdmin t
        (othersBefore between n t, .ok ⟨uid, wantAdmin⟩)
  | inserted (n uid : Nat) (t' : UsersTable)
      (hinsert : (othersBefore between n t).insert uname
        (passwordParam password) wantAdmin = some (t', uid)) :
      Authenticated between uname password wantAdmin t
        (t', .ok ⟨uid, wantAdmin⟩)

theorem authenticated_rounds (fault : Nat → Option Bytes)
    (between : Nat → UsersTable → UsersTable) (uname password : Bytes)
    (wantAdmin : Bool) (t : UsersTable) (attempts k : Nat) :
    Authenticated between uname password wantAdmin t
      (authenticateRounds fault between uname password wantAdmin attempts k
        (othersBefore between k t)) := by
  induction attempts generalizing k with
  | zero => exact .refused k _
  | succ attempts ih =>
      have hselected : between k (othersBefore between k t) =
        othersBefore between (k + 1) t := rfl
      have hmet : between (k + 1) (othersBefore between (k + 1) t) =
        othersBefore between (k + 2) t := rfl
      rw [authenticateRounds, hselected, hmet]
      split
      · exact .refused (k + 1) _
      split
      · rename_i row hselect
        have hname := (UsersTable.selectByUsername_eq_some hselect).2
        split_ifs with hlong hpassword hadmin
        · exact .refused (k + 1) _
        · exact .refused (k + 1) _
        · exact .refused (k + 1) _
        · rw [ne_eq, not_not] at hpassword hadmin
          obtain ⟨uid, name, stored, isAdmin⟩ := row
          subst hname hpassword hadmin
          exact .read (k + 1) uid hselect
      split
      · exact .refused (k + 2) _
      split
      · exact ih (k + 2)
      · rename_i t' uid hinsert
        exact .inserted (k + 2) uid t' hinsert

end MysqlStore

/-! ## Operations -/

/-- What an operation meets: the environment and the shared state it finds,
and what another database client does to `users` before each of its
statements. -/
structure Encounter where
  env : Env
  hub : Hub
  between : Nat → UsersTable → UsersTable := fun _ t => t

/-- An operation beside another database client. -/
def Op.execBeside (cfg : Config) (met : Encounter) :
    (op : Op) → Hub × op.Res
  | .store (.authenticateOrRegister username password wantAdmin) =>
      let outcome := MysqlStore.authenticateOrRegister met.env.fault
        met.between username password wantAdmin met.hub.db.users
      ({ met.hub with db.users := outcome.1 }, outcome.2)
  | op => op.exec cfg met.env met.hub

/-- The operation has statements on `users`. -/
def Op.usesUsers : Op → Bool
  | .store (.authenticateOrRegister _ _ _) | .store (.userIdByUsername _)
  | .store .adminListUsers | .store (.adminInsertUser _ _ _)
  | .store (.adminGetUsernameById _) | .store (.adminUpdateUser _ _ _ _)
  | .store (.adminDeleteUser _) => true
  | _ => false

/-- An operation performed by a handler. -/
structure Attempt where
  op : Op
  met : Encounter

namespace Attempt

def after (cfg : Config) (attempt : Attempt) : Hub :=
  (attempt.op.execBeside cfg attempt.met).1

def calls (cfg : Config) (attempt : Attempt) : List (ConnId × Call) :=
  attempt.op.calls cfg attempt.met.env attempt.met.hub

/-- The table which others alone would have left after the first `n`
statements of the operation. -/
def usersBeside (attempt : Attempt) (n : Nat) : UsersTable :=
  MysqlStore.othersBefore attempt.met.between n attempt.met.hub.db.users

/-- The operation has left `users` to the others. -/
def LeavesUsers (cfg : Config) (attempt : Attempt) : Prop :=
  ∃ n, (attempt.after cfg).db.users = attempt.usersBeside n

/-- The operation has read the row and left `users` to the others, or has
added this row, and nothing else, to the table which the others left. -/
def RestsOn (cfg : Config) (row : UserRow) (attempt : Attempt) : Prop :=
  ∃ n, ((attempt.usersBeside n).selectByUsername row.username = some row ∧
      (attempt.after cfg).db.users = attempt.usersBeside n) ∨
    (row.username ∉ (attempt.usersBeside n).rows.map UserRow.username ∧
      (attempt.after cfg).db.users.rows =
        (attempt.usersBeside n).rows ++ [row])

end Attempt

/-- The execution of a handler whose `n`-th operation meets `met n`. -/
def attempts {α : Type} (cfg : Config) :
    Frame α → (Nat → Encounter) → List Attempt × α
  | .ret value, _ => ([], value)
  | .op op rest, met =>
      let later := attempts cfg (rest (op.execBeside cfg (met 0)).2)
        (fun n => met (n + 1))
      (⟨op, met 0⟩ :: later.1, later.2)

theorem attempts_perform_bind {α : Type} {cfg : Config}
    {P : List Attempt → α → Prop} (op : Op) (next : op.Res → Frame α)
    (met : Nat → Encounter)
    (hlater : P
      (⟨op, met 0⟩ :: (attempts cfg (next (op.execBeside cfg (met 0)).2)
        (fun n => met (n + 1))).1)
      (attempts cfg (next (op.execBeside cfg (met 0)).2)
        (fun n => met (n + 1))).2) :
    P (attempts cfg (Prog.perform op >>= next) met).1
      (attempts cfg (Prog.perform op >>= next) met).2 := hlater

theorem attempts_notifyEach {α : Type} (cfg : Config)
    (userReason logWhy : Bytes) (value : α) (victims : List ConnId)
    (met : Nat → Encounter) :
    ∃ notices, attempts cfg (do
        Frame.notifyEach userReason logWhy victims
        pure value) met = (notices, value) ∧
      ∀ attempt ∈ notices,
        ∃ v, attempt.op = .call v (.notifyAndClose userReason logWhy) := by
  induction victims generalizing met with
  | nil => exact ⟨[], rfl, fun attempt hmem => by cases hmem⟩
  | cons victim rest ih =>
      obtain ⟨notices, hlater, hnotices⟩ := ih (fun n => met (n + 1))
      refine ⟨⟨.call victim (.notifyAndClose userReason logWhy), met 0⟩ ::
        notices, congrArg (fun later => (_ :: later.1, later.2)) hlater, ?_⟩
      intro attempt hmem
      rcases List.mem_cons.mp hmem with rfl | hmem
      · exact ⟨victim, rfl⟩
      · exact hnotices attempt hmem

/-! ## `try_authenticate` -/

/-- The execution has left `users` to the others, and the registry and every
session alone: no cache, deque, mode or flag has changed and nobody was
kicked. -/
structure NoTrace (cfg : Config) (steps : List Attempt) : Prop where
  users : ∀ attempt ∈ steps, attempt.LeavesUsers cfg
  quiet : ∀ attempt ∈ steps,
    (attempt.after cfg).reg = attempt.met.hub.reg ∧
    (attempt.after cfg).sessions = attempt.met.hub.sessions ∧
    attempt.calls cfg = []

/-- What a login of the session `c` with address `ip` rests on: the address
was found in the allowlist, the body is valid, and its name, password and
role are those of a row which one operation of the execution has read or
added, whose id the session now has.  No other operation changes `users`. -/
structure Backed (cfg : Config) (c : ConnId) (ip : Bytes) (mp : ObjMap)
    (steps : List Attempt) (self : Identity) : Prop where
  listed : ∃ attempt ∈ steps, attempt.op = .store (.ipWhitelisted ip) ∧
    attempt.met.hub.db.allowlist.contains ip = true
  mode : ∃ text mode, mapGetStr mp (lit "recv_mode") = some text ∧
    parseRecvModeStr text = some mode
  row : ∃ row : UserRow,
    mapGetStr mp (lit "username") = some row.username ∧
    mapGetStr mp (lit "password") = some row.password ∧
    mapGetStr mp (lit "peer_role") =
      some (if row.isAdmin then lit "admin" else lit "user") ∧
    (∃ earlier attempt later, steps = earlier ++ attempt :: later ∧
      attempt.RestsOn cfg row ∧
      ∀ other ∈ earlier ++ later,
        (other.after cfg).db.users = other.met.hub.db.users) ∧
    self = ⟨c, true, row.id, row.isAdmin, row.username⟩
  session : ∃ attempt ∈ steps, (attempt.after cfg).identity c = self

/-- The executions of `try_authenticate`, by how far they get. -/
inductive LoginPath (cfg : Config) (sender : Identity) (mp : ObjMap)
    (met : Nat → Encounter) : List Attempt →
      Except (Nat × Bytes) (Identity × LoginOk) → Prop where
  | invalid (failure : Nat × Bytes)
      (hcheck : checkLoginBody mp = .error failure) :
      LoginPath cfg sender mp met [] (.error failure)
  | noAddress (failure : Nat × Bytes) :
      LoginPath cfg sender mp met [⟨.clientIp sender.connId, met 0⟩]
        (.error failure)
  | unlisted (ip : Bytes) (failure : Nat × Bytes)
      (hip : ip = ((met 0).hub.sessions sender.connId).peerIp) :
      LoginPath cfg sender mp met
        [⟨.clientIp sender.connId, met 0⟩,
          ⟨.store (.ipWhitelisted ip), met 1⟩]
        (.error failure)
  | refused (ip e : Bytes) (login : LoginBody)
      (hip : ip = ((met 0).hub.sessions sender.connId).peerIp)
      (hlisted : (met 1).hub.db.allowlist.contains
        (MysqlStore.ipParam ip) = true)
      (hauth : ((Op.store (.authenticateOrRegister login.username
        login.password login.wantAdmin)).execBeside cfg (met 2)).2 =
          .error e) :
      LoginPath cfg sender mp met
        [⟨.clientIp sender.connId, met 0⟩,
          ⟨.store (.ipWhitelisted ip), met 1⟩,
          ⟨.store (.authenticateOrRegister login.username login.password
            login.wantAdmin), met 2⟩]
        (.error (kAuthFailed, e))
  | accepted (ip : Bytes) (login : LoginBody) (info : UserInfo)
      (lok : LoginOk) (notices : List Attempt)
      (hcheck : checkLoginBody mp = .ok login)
      (hip : ip = ((met 0).hub.sessions sender.connId).peerIp)
      (hlisted : (met 1).hub.db.allowlist.contains
        (MysqlStore.ipParam ip) = true)
      (hauth : ((Op.store (.authenticateOrRegister login.username
        login.password login.wantAdmin)).execBeside cfg (met 2)).2 = .ok info)
      (hnotices : ∀ attempt ∈ notices, ∃ v userReason logWhy,
        attempt.op = .call v (.notifyAndClose userReason logWhy)) :
      LoginPath cfg sender mp met
        (⟨.clientIp sender.connId, met 0⟩ ::
          ⟨.store (.ipWhitelisted ip), met 1⟩ ::
          ⟨.store (.authenticateOrRegister login.username login.password
            login.wantAdmin), met 2⟩ ::
          ⟨.lock (.login sender.connId login.username info login.wantMode),
            met 3⟩ :: notices)
        (.ok (⟨sender.connId, true, info.id, info.isAdmin, login.username⟩,
          lok))

theorem ipWhitelisted_eq_true {fault : Nat → Option Bytes} {ip : Bytes}
    {t : IpTable} (hlisted : MysqlStore.ipWhitelisted fault ip t = true) :
    t.contains (MysqlStore.ipParam ip) = true := by
  unfold MysqlStore.ipWhitelisted at hlisted
  split at hlisted
  · cases hlisted
  · exact hlisted

theorem loginPath (cfg : Config) (sender : Identity) (mp : ObjMap)
    (met : Nat → Encounter) :
    LoginPath cfg sender mp met
      (attempts cfg (tryAuthenticate sender mp) met).1
      (attempts cfg (tryAuthenticate sender mp) met).2 := by
  unfold tryAuthenticate
  cases hcheck : checkLoginBody mp with
  | error failure => exact .invalid failure hcheck
  | ok login =>
  refine attempts_perform_bind (.clientIp sender.connId) _ met ?_
  generalize hcip : ((Op.clientIp sender.connId).execBeside cfg (met 0)).2 =
    cip
  split
  · exact .noAddress _
  rename_i hempty
  have hip : cip = ((met 0).hub.sessions sender.connId).peerIp := by
    simp only [Op.execBeside, Op.exec] at hcip
    split at hcip
    · exact hcip.symm
    · exact absurd hcip.symm hempty
  refine attempts_perform_bind
    (P := fun steps value => LoginPath cfg sender mp met (_ :: steps) value)
    (.store (.ipWhitelisted cip)) _ _ ?_
  generalize hlisted : ((Op.store (.ipWhitelisted cip)).execBeside cfg
    (met 1)).2 = listed
  split
  · exact .unlisted cip _ hip
  rename_i htrue
  have hlisted : (met 1).hub.db.allowlist.contains
      (MysqlStore.ipParam cip) = true := by
    refine ipWhitelisted_eq_true (hlisted.trans ?_)
    simpa using htrue
  refine attempts_perform_bind
    (P := fun steps value =>
      LoginPath cfg sender mp met (_ :: _ :: steps) value)
    (.store (.authenticateOrRegister login.username login.password
      login.wantAdmin)) _ _ ?_
  generalize hauth : ((Op.store (.authenticateOrRegister login.username
    login.password login.wantAdmin)).execBeside cfg (met 2)).2 = outcome
  cases outcome with
  | error e => exact .refused cip e login hip hlisted hauth
  | ok info =>
      refine attempts_perform_bind
        (P := fun steps value =>
          LoginPath cfg sender mp met (_ :: _ :: _ :: steps) value)
        (.lock (.login sender.connId login.username info login.wantMode))
        _ _ ?_
      generalize ((Op.lock (.login sender.connId login.username info
        login.wantMode)).execBeside cfg (met 3)).2 = registered
      obtain ⟨notices, hlater, hnotices⟩ := attempts_notifyEach cfg
        (lit "因单用户连接数达到上限，服务端按策略释放了最旧的一条连接")
        (lit "max_connections_per_user")
        (Except.ok (⟨sender.connId, true, info.id, info.isAdmin,
          login.username⟩, registered.1) :
          Except (Nat × Bytes) (Identity × LoginOk))
        (registered.2.filter (fun c => c ≠ sender.connId))
        (fun n => met (n + 4))
      have hkicks : ∀ attempt ∈ notices, ∃ v userReason logWhy,
          attempt.op = .call v (.notifyAndClose userReason logWhy) := by
        intro attempt hmem
        obtain ⟨v, hop⟩ := hnotices attempt hmem
        exact ⟨v, _, _, hop⟩
      have hpath := @LoginPath.accepted cfg sender mp met cip login info
        registered.1 notices hcheck hip hlisted hauth hkicks
      exact Eq.subst
        (motive := fun later =>
          LoginPath cfg sender mp met (_ :: _ :: _ :: _ :: later.1) later.2)
        hlater.symm hpath

section Outcome

variable {cfg : Config} {sender : Identity} {mp : ObjMap}

theorem authenticated_execBeside (cfg : Config) (met : Encounter)
    (username password : Bytes) (wantAdmin : Bool) :
    MysqlStore.Authenticated met.between (MysqlStore.nameParam username)
      password wantAdmin met.hub.db.users
      (((Op.store (.authenticateOrRegister username password
          wantAdmin)).execBeside cfg met).1.db.users,
        ((Op.store (.authenticateOrRegister username password
          wantAdmin)).execBeside cfg met).2) :=
  MysqlStore.authenticated_rounds met.env.fault met.between
    (MysqlStore.nameParam username) password wantAdmin met.hub.db.users 4 0

/-- A login attempt which fails leaves `users` to the others. -/
theorem leavesUsers_of_error {met : Encounter} {login : LoginBody} {e : Bytes}
    (hauth : ((Op.store (.authenticateOrRegister login.username
      login.password login.wantAdmin)).execBeside cfg met).2 = .error e) :
    Attempt.LeavesUsers cfg ⟨.store (.authenticateOrRegister login.username
      login.password login.wantAdmin), met⟩ := by
  have hauthenticated := authenticated_execBeside cfg met
    login.username login.password login.wantAdmin
  rw [hauth] at hauthenticated
  generalize husers : ((Op.store (.authenticateOrRegister login.username
    login.password login.wantAdmin)).execBeside cfg met).1.db.users = users
    at hauthenticated
  cases hauthenticated with
  | refused n _ => exact ⟨n, husers⟩

/-- One which succeeds rests on a row. -/
theorem restsOn_of_ok {met : Encounter} {login : LoginBody} {info : UserInfo}
    (hname : login.username.length ≤ 511)
    (hpassword : login.password.length ≤ 4095)
    (hauth : ((Op.store (.authenticateOrRegister login.username
      login.password login.wantAdmin)).execBeside cfg met).2 = .ok info) :
    info.isAdmin = login.wantAdmin ∧
      Attempt.RestsOn cfg
        ⟨info.id, login.username, login.password, login.wantAdmin⟩
        ⟨.store (.authenticateOrRegister login.username login.password
          login.wantAdmin), met⟩ := by
  have hauthenticated := authenticated_execBeside cfg met
    login.username login.password login.wantAdmin
  rw [hauth, show MysqlStore.nameParam login.username = login.username from
    List.take_of_length_le hname] at hauthenticated
  generalize husers : ((Op.store (.authenticateOrRegister login.username
    login.password login.wantAdmin)).execBeside cfg met).1.db.users = users
    at hauthenticated
  cases hauthenticated with
  | read n uid hselect => exact ⟨rfl, n, .inl ⟨hselect, husers⟩⟩
  | inserted n uid _ hinsert =>
      rw [show MysqlStore.passwordParam login.password = login.password from
        List.take_of_length_le hpassword] at hinsert
      obtain ⟨hrows, -, -, hnew⟩ := UsersTable.insert_eq_some hinsert
      rw [← husers] at hrows
      exact ⟨rfl, n, .inr ⟨hnew, hrows⟩⟩

theorem leavesUsers_of_same {attempt : Attempt}
    (hsame : (attempt.after cfg).db.users = attempt.met.hub.db.users) :
    attempt.LeavesUsers cfg :=
  ⟨0, hsame⟩

theorem noTrace_of_error {steps : List Attempt} {met : Nat → Encounter}
    {failure : Nat × Bytes}
    (hpath : LoginPath cfg sender mp met steps (.error failure)) :
    NoTrace cfg steps := by
  cases hpath with
  | invalid _ hcheck =>
      exact ⟨fun attempt hmem => (List.not_mem_nil hmem).elim,
        fun attempt hmem => (List.not_mem_nil hmem).elim⟩
  | noAddress _ =>
      refine ⟨fun attempt hmem => ?_, ?_⟩
      · rw [List.mem_singleton.mp hmem]
        exact leavesUsers_of_same rfl
      · simp [Attempt.after, Attempt.calls, Op.execBeside, Op.exec, Op.calls]
  | unlisted ip _ hip =>
      refine ⟨fun attempt hmem => ?_, ?_⟩
      · rcases List.mem_pair.mp hmem with rfl | rfl <;>
          exact leavesUsers_of_same rfl
      · simp [Attempt.after, Attempt.calls, Op.execBeside, Op.exec, Op.calls]
  | refused ip e login hip hlisted hauth =>
      refine ⟨fun attempt hmem => ?_, ?_⟩
      · rcases List.mem_cons.mp hmem with rfl | hmem
        · exact leavesUsers_of_same rfl
        · rcases List.mem_pair.mp hmem with rfl | rfl
          · exact leavesUsers_of_same rfl
          · exact leavesUsers_of_error hauth
      · simp [Attempt.after, Attempt.calls, Op.execBeside, Op.exec, Op.calls]

theorem users_of_notice {attempt : Attempt}
    (hnotice : ∃ v userReason logWhy,
      attempt.op = .call v (.notifyAndClose userReason logWhy)) :
    (attempt.after cfg).db.users = attempt.met.hub.db.users := by
  obtain ⟨v, userReason, logWhy, hop⟩ := hnotice
  obtain ⟨op, met⟩ := attempt
  subst hop
  rfl

theorem backed_of_ok {steps : List Attempt} {met : Nat → Encounter}
    {self : Identity} {lok : LoginOk}
    (hname : ∀ un, mapGetStr mp (lit "username") = some un →
      un.length ≤ 511)
    (hpassword : ∀ pw, mapGetStr mp (lit "password") = some pw →
      pw.length ≤ 4095)
    (hlength : ((met 0).hub.sessions sender.connId).peerIp.length ≤ 255)
    (hpath : LoginPath cfg sender mp met steps (.ok (self, lok))) :
    Backed cfg sender.connId ((met 0).hub.sessions sender.connId).peerIp mp
      steps self := by
  cases hpath with
  | accepted ip login info _ notices hcheck hip hlisted hauth hnotices =>
      obtain ⟨hun, hpw, hrole, text, htext, hmode⟩ := checkLoginBody_ok hcheck
      obtain ⟨hadmin, hrests⟩ :=
        restsOn_of_ok (hname _ hun) (hpassword _ hpw) hauth
      have hip' : MysqlStore.ipParam ip = ip :=
        List.take_of_length_le (hip ▸ hlength)
      rw [hip'] at hlisted
      rw [← hip]
      refine ⟨⟨_, .tail _ (.head _), rfl, hlisted⟩, ⟨text, _, htext, hmode⟩,
        ⟨⟨info.id, login.username, login.password, login.wantAdmin⟩, hun, hpw,
          hrole, ⟨[⟨.clientIp sender.connId, met 0⟩,
            ⟨.store (.ipWhitelisted ip), met 1⟩], _, _, rfl, hrests, ?_⟩,
          by rw [hadmin]⟩,
        ⟨_, .tail _ (.tail _ (.tail _ (.head _))),
          Op.exec_login_identity cfg _ _ _ _ _ _⟩⟩
      intro other hother
      simp only [List.cons_append, List.nil_append, List.mem_cons] at hother
      rcases hother with rfl | rfl | rfl | hnotice
      · rfl
      · rfl
      · rfl
      · exact users_of_notice (hnotices other hnotice)

theorem usersUnused_of_unlisted {steps : List Attempt}
    {met : Nat → Encounter}
    {result : Except (Nat × Bytes) (Identity × LoginOk)}
    (hlength : ((met 0).hub.sessions sender.connId).peerIp.length ≤ 255)
    (hpath : LoginPath cfg sender mp met steps result)
    (hout : ∀ attempt ∈ steps, attempt.op = .store (.ipWhitelisted
        ((met 0).hub.sessions sender.connId).peerIp) →
      attempt.met.hub.db.allowlist.contains
        ((met 0).hub.sessions sender.connId).peerIp = false) :
    ∀ attempt ∈ steps, attempt.op.usesUsers = false := by
  have hparam : MysqlStore.ipParam
      ((met 0).hub.sessions sender.connId).peerIp =
        ((met 0).hub.sessions sender.connId).peerIp :=
    List.take_of_length_le hlength
  cases hpath with
  | invalid _ hcheck =>
      exact fun attempt hmem => (List.not_mem_nil hmem).elim
  | noAddress _ =>
      intro attempt hmem
      rw [List.mem_singleton.mp hmem]
      rfl
  | unlisted ip _ hip =>
      intro attempt hmem
      rcases List.mem_pair.mp hmem with rfl | rfl <;> rfl
  | refused ip e login hip hlisted hauth =>
      have hnot := hout _ (.tail _ (.head _)) (by rw [hip])
      rw [hip, hparam, hnot] at hlisted
      cases hlisted
  | accepted ip login info lok notices hcheck hip hlisted hauth hnotices =>
      have hnot := hout _ (.tail _ (.head _)) (by rw [hip])
      rw [hip, hparam, hnot] at hlisted
      cases hlisted

end Outcome

/-- `try_authenticate` is gated and atomic, whatever its operations meet and
whatever another database client does to `users` between its statements.  A
rejected login leaves no trace; an accepted one is backed by the allowlist,
the body and a row; and a login from an address which is not found in the
allowlist has no statement on `users`.  The printed form of an address has at
most 255 bytes. -/
theorem tryAuthenticate_gated (cfg : Config) (sender : Identity)
    (mp : ObjMap) (met : Nat → Encounter)
    (hname : ∀ un, mapGetStr mp (lit "username") = some un →
      un.length ≤ 511)
    (hpassword : ∀ pw, mapGetStr mp (lit "password") = some pw →
      pw.length ≤ 4095)
    (hlength : ((met 0).hub.sessions sender.connId).peerIp.length ≤ 255) :
    (∀ failure,
      (attempts cfg (tryAuthenticate sender mp) met).2 = .error failure →
      NoTrace cfg (attempts cfg (tryAuthenticate sender mp) met).1) ∧
    (∀ self lok,
      (attempts cfg (tryAuthenticate sender mp) met).2 = .ok (self, lok) →
      Backed cfg sender.connId ((met 0).hub.sessions sender.connId).peerIp mp
        (attempts cfg (tryAuthenticate sender mp) met).1 self) ∧
    ((∀ attempt ∈ (attempts cfg (tryAuthenticate sender mp) met).1,
        attempt.op = .store (.ipWhitelisted
          ((met 0).hub.sessions sender.connId).peerIp) →
        attempt.met.hub.db.allowlist.contains
          ((met 0).hub.sessions sender.connId).peerIp = false) →
      ∀ attempt ∈ (attempts cfg (tryAuthenticate sender mp) met).1,
        attempt.op.usesUsers = false) := by
  have hpath := loginPath cfg sender mp met
  refine ⟨?_, ?_, usersUnused_of_unlisted hlength hpath⟩
  · intro failure herror
    rw [herror] at hpath
    exact noTrace_of_error hpath
  · intro self lok hok
    rw [hok] at hpath
    exact backed_of_ok hname hpassword hlength hpath

/-- Another client registers the same name between the `SELECT` and the
`INSERT` of the first round, and deletes it before the second. -/
def contendedLogin (_ : Nat) : Encounter where
  env := {}
  hub := ({ db := Server.emptyDb } : Hub).accept (lit "10.0.0.1")
  between := fun k t =>
    if k = 1 then
      match t.insert (lit "root") [] false with
      | some (t', _) => t'
      | none => t
    else if k = 2 then (t.delete 1).1
    else t

def rootFields : ObjMap :=
  [(.str (lit "username"), .str (lit "root")),
    (.str (lit "password"), .str (lit "pw")),
    (.str (lit "peer_role"), .str (lit "admin")),
    (.str (lit "recv_mode"), .str (lit "broadcast"))]

theorem tryAuthenticate_gated_contendedLogin :
    ∃ self lok,
      (attempts forwarderJson
        (tryAuthenticate ⟨1, false, 0, false, []⟩ rootFields)
        contendedLogin).2 = .ok (self, lok) ∧
      ((attempts forwarderJson
        (tryAuthenticate ⟨1, false, 0, false, []⟩ rootFields)
        contendedLogin).1.map
          (fun attempt => (attempt.after forwarderJson).db.users.rows)) =
        [[], [], [⟨2, lit "root", lit "pw", true⟩], []] ∧
      Backed forwarderJson 1 (lit "10.0.0.1") rootFields
        (attempts forwarderJson
          (tryAuthenticate ⟨1, false, 0, false, []⟩ rootFields)
          contendedLogin).1 self := by
  have hname : mapGetStr rootFields (lit "username") =
      some (lit "root") := by decide
  have hpassword : mapGetStr rootFields (lit "password") =
      some (lit "pw") := by decide
  have hgated := tryAuthenticate_gated forwarderJson
    ⟨1, false, 0, false, []⟩ rootFields contendedLogin
    (fun un hun => by
      rw [hname, Option.some.injEq] at hun
      rw [← hun]
      decide)
    (fun pw hpw => by
      rw [hpassword, Option.some.injEq] at hpw
      rw [← hpw]
      decide)
    (by decide)
  exact ⟨⟨1, true, 2, true, lit "root"⟩, ⟨.broadcast, none⟩, rfl,
    by decide +kernel, hgated.2.1 _ _ rfl⟩

end AsioForwarder
