import AsioForwarder.ServerInvariant
import Mathlib.Algebra.GroupWithZero.Nat

/-!
# What a frame without administrator rights can do

A frame handled for a session which is not logged in, or whose `is_admin_` is
false, is followed from the moment its handler starts until it returns, with
any steps of other parties in between.  Its own operations leave the
allowlist and every existing row alone, add at most one row and only by a
login, call `notify_and_close` only on the oldest sessions of the account
being logged into, and touch other sessions otherwise only by frames passed
to their `send_frame`.
-/

namespace AsioForwarder

/-- An operation performed on the shared state `hub`. -/
structure Performed where
  op : Op
  env : Env
  hub : Hub

namespace Performed

def after (cfg : Config) (p : Performed) : Hub :=
  (p.op.exec cfg p.env p.hub).1

def calls (cfg : Config) (p : Performed) : List (ConnId × Call) :=
  p.op.calls cfg p.env p.hub

def addedRows (cfg : Config) (p : Performed) : Nat :=
  (p.after cfg).db.users.rows.length - p.hub.db.users.rows.length

/-- The sessions a registration evicts: the oldest ones of the account. -/
def evicted (cfg : Config) (c : ConnId) (p : Performed) : List ConnId :=
  match p.op with
  | .lock (.login self _ info _) =>
      if self = c then
        (p.hub.reg.deque info.id).take
          ((p.hub.reg.deque info.id).length + 1 - cfg.maxConnections)
      else []
  | _ => []

/-- The account the operation registers a session for. -/
def registersFor (p : Performed) : Option Nat :=
  match p.op with
  | .lock (.login _ _ info _) => some info.id
  | _ => none

end Performed

/-- What the operations of one request of session `c` may do, where it may
add `credit` rows and still has to notify the sessions in `todo`. -/
structure Confined (cfg : Config) (c : ConnId) (credit : Nat)
    (todo : List ConnId) (steps : List Performed) : Prop where
  allowlist : ∀ p ∈ steps, (p.after cfg).db.allowlist = p.hub.db.allowlist
  rows : ∀ p ∈ steps, ∃ added,
    (p.after cfg).db.users.rows = p.hub.db.users.rows ++ added
  oneRow : (steps.map (Performed.addedRows cfg)).sum ≤ credit
  kicks : ∀ p ∈ steps, ∀ v userReason logWhy,
    (v, Call.notifyAndClose userReason logWhy) ∈ p.calls cfg →
    v ∈ todo ∨ ∃ login ∈ steps, v ∈ login.evicted cfg c
  registry : ∀ p ∈ steps, ∀ uid, p.registersFor ≠ some uid →
    (p.after cfg).reg.deque uid = p.hub.reg.deque uid ∧
    (p.after cfg).reg.userRecvMode.lookup uid =
      p.hub.reg.userRecvMode.lookup uid
  sessions : ∀ p ∈ steps, ∀ d, d ≠ c →
    (p.after cfg).sessions d =
      (Hub.callsOn d (p.calls cfg)).foldl (fun s call => call.apply s)
        (p.hub.sessions d) ∧
    ∀ call ∈ Hub.callsOn d (p.calls cfg), (∃ wire, call = .sendFrame wire) ∨
      ∃ userReason logWhy, call = .notifyAndClose userReason logWhy

/-! ## One operation -/

/-- Rows a request may still add. -/
def Stage.credit : Stage → Nat
  | .login | .addressed _ | .admitted => 1
  | _ => 0

/-- Evicted sessions still to be notified. -/
def Stage.todo : Stage → List ConnId
  | .welcoming _ todo => todo
  | _ => []

theorem authenticate_rows (env : Env) (db : Db) (un password : Bytes)
    (wantAdmin : Bool) :
    ∃ added, ((StoreOp.authenticateOrRegister un password wantAdmin).exec env
        db).1.users.rows = db.users.rows ++ added ∧ added.length ≤ 1 := by
  have heffect := (StoreOp.authenticateOrRegister un password
    wantAdmin).usersEffect env db
  generalize ((StoreOp.authenticateOrRegister un password wantAdmin).exec env
    db).1.users = t' at heffect ⊢
  generalize db.users = t at heffect ⊢
  cases heffect with
  | same _ => exact ⟨[], (List.append_nil _).symm, Nat.zero_le _⟩
  | registered _ _ _ _ uid hinsert =>
      obtain ⟨hrows, _⟩ := UsersTable.insert_eq_some hinsert
      exact ⟨_, hrows, Nat.le_refl _⟩

section OneOperation

variable {cfg : Config} {sender : Identity} {seq : UInt32} {stage : Stage}
  {op : Op}

theorem exec_allowlist (hallows : Allows sender seq stage op)
    (htype : stage.msgType ≠ some kClientControl) (env : Env) (hub : Hub) :
    (op.exec cfg env hub).1.db.allowlist = hub.db.allowlist := by
  cases hallows with
  | manage operation hordinary => exact absurd rfl htype
  | nameOf uid => exact absurd rfl htype
  | update uid name newName password isAdmin => exact absurd rfl htype
  | delete uid name => exact absurd rfl htype
  | route dst uid payload => simp [Op.exec]
  | _ => rfl

theorem exec_rows (cfg : Config) (hallows : Allows sender seq stage op)
    (htype : stage.msgType ≠ some kClientControl) (env : Env) (hub : Hub) :
    ∃ added, (op.exec cfg env hub).1.db.users.rows =
        hub.db.users.rows ++ added ∧
      added.length + (stage.next op (op.exec cfg env hub).2).credit ≤
        stage.credit := by
  have hnone : ∀ stage' : Stage, stage'.credit ≤ stage.credit →
      (op.exec cfg env hub).1.db = hub.db →
      stage.next op (op.exec cfg env hub).2 = stage' →
      ∃ added, (op.exec cfg env hub).1.db.users.rows =
          hub.db.users.rows ++ added ∧
        added.length + (stage.next op (op.exec cfg env hub).2).credit ≤
          stage.credit := by
    intro stage' hcredit hdb hnext
    refine ⟨[], by rw [hdb, List.append_nil], ?_⟩
    rw [hnext, List.length_nil, Nat.zero_add]
    exact hcredit
  cases hallows with
  | address => exact hnone (.addressed _) (Nat.le_refl _) rfl rfl
  | allowIp ip =>
      refine hnone _ ?_ rfl rfl
      generalize ((Op.store (.ipWhitelisted ip)).exec cfg env hub).2 = listed
      cases listed <;> simp [Stage.next, Stage.credit]
  | authenticate un password wantAdmin =>
      have hcredit : (Stage.admitted.next (.store
          (.authenticateOrRegister un password wantAdmin))
          ((Op.store (.authenticateOrRegister un password wantAdmin)).exec
            cfg env hub).2).credit = 0 := by
        generalize ((Op.store (.authenticateOrRegister un password
          wantAdmin)).exec cfg env hub).2 = outcome
        cases outcome <;> rfl
      rw [hcredit]
      exact authenticate_rows env hub.db un password wantAdmin
  | register un info wantMode =>
      exact hnone _ (Nat.zero_le _) (Op.exec_db _ _ _ _ (by simp)) rfl
  | evict uid victim todo userReason logWhy =>
      exact hnone _ (Nat.zero_le _) rfl rfl
  | welcome uid self lok => exact hnone _ (Nat.zero_le _) rfl rfl
  | lookup dst =>
      refine hnone _ ?_ rfl rfl
      generalize ((Op.lock (.cacheLookup dst)).exec cfg env hub).2 = cached
      cases cached <;> simp [Stage.next, Stage.credit]
  | ask dst =>
      refine hnone _ ?_ rfl rfl
      generalize ((Op.store (.userIdByUsername dst)).exec cfg env hub).2 =
        stored
      cases stored <;> simp [Stage.next, Stage.credit]
  | remember dst uid => exact hnone _ (Nat.zero_le _) rfl rfl
  | route dst uid payload =>
      exact hnone _ (Nat.zero_le _) (Op.exec_db _ _ _ _ (by simp)) rfl
  | reply _ hstage wire hmtype hseq =>
      exact hnone .done (Nat.zero_le _) rfl (Stage.next_sendFrame _ _ _ _)
  | refuse why => exact hnone .done (Nat.zero_le _) rfl rfl
  | _ => exact absurd rfl htype

theorem exec_registry (hallows : Allows sender seq stage op)
    (htype : stage.msgType ≠ some kClientControl) (env : Env) (hub : Hub)
    {uid : Nat} (hnot : (Performed.mk op env hub).registersFor ≠ some uid) :
    (op.exec cfg env hub).1.reg.deque uid = hub.reg.deque uid ∧
      (op.exec cfg env hub).1.reg.userRecvMode.lookup uid =
        hub.reg.userRecvMode.lookup uid := by
  cases hallows with
  | register un info wantMode =>
      have hne : uid ≠ info.id := by
        rintro rfl
        exact hnot rfl
      rw [Op.exec_lock_reg]
      exact ⟨Registry.login_deque_ne _ _ _ _ _ hne,
        Registry.login_recvMode_ne _ _ _ _ _ hne⟩
  | route dst other payload =>
      rw [Op.exec_lock_reg]
      simp [LockOp.exec, Registry.deque]
  | list => exact absurd rfl htype
  | snapshot other => exact absurd rfl htype
  | rename other oldName newName => exact absurd rfl htype
  | condemn other name => exact absurd rfl htype
  | forget other name => exact absurd rfl htype
  | _ => exact ⟨rfl, rfl⟩

theorem exec_calls_kind (hallows : Allows sender seq stage op) (env : Env)
    (hub : Hub) {d : ConnId} (hne : d ≠ sender.connId) {call : Call}
    (hcall : (d, call) ∈ op.calls cfg env hub) :
    (∃ wire, call = .sendFrame wire) ∨
      ∃ userReason logWhy, call = .notifyAndClose userReason logWhy := by
  cases hallows with
  | register un info wantMode =>
      simp only [Op.calls, LockOp.exec, List.mem_singleton,
        Prod.mk.injEq] at hcall
      exact absurd hcall.1 hne
  | route dst uid payload =>
      simp only [Op.calls, LockOp.exec, List.mem_map, Prod.mk.injEq] at hcall
      obtain ⟨_, _, _, hwire⟩ := hcall
      exact .inl ⟨_, hwire.symm⟩
  | refuse why =>
      simp only [Op.calls, List.mem_singleton, Prod.mk.injEq] at hcall
      exact absurd hcall.1 hne
  | welcome uid self lok =>
      simp only [Op.calls, List.mem_singleton, Prod.mk.injEq] at hcall
      exact .inl ⟨_, hcall.2⟩
  | confirm uid =>
      simp only [Op.calls, List.mem_singleton, Prod.mk.injEq] at hcall
      exact .inl ⟨_, hcall.2⟩
  | reply _ hstage wire htype hseq =>
      simp only [Op.calls, List.mem_singleton, Prod.mk.injEq] at hcall
      exact .inl ⟨_, hcall.2⟩
  | evict uid victim todo userReason logWhy =>
      simp only [Op.calls, List.mem_singleton, Prod.mk.injEq] at hcall
      exact .inr ⟨_, _, hcall.2⟩
  | kick victim todo userReason logWhy =>
      simp only [Op.calls, List.mem_singleton, Prod.mk.injEq] at hcall
      exact .inr ⟨_, _, hcall.2⟩
  | purge uid name victim todo userReason logWhy =>
      simp only [Op.calls, List.mem_singleton, Prod.mk.injEq] at hcall
      exact .inr ⟨_, _, hcall.2⟩
  | _ => simp [Op.calls, LockOp.exec] at hcall

theorem exec_kicks (hallows : Allows sender seq stage op)
    (htype : stage.msgType ≠ some kClientControl) (env : Env) (hub : Hub)
    {v : ConnId} {userReason logWhy : Bytes}
    (hcall : (v, Call.notifyAndClose userReason logWhy) ∈
      op.calls cfg env hub) : v ∈ stage.todo := by
  cases hallows with
  | evict uid victim todo _ _ =>
      simp only [Op.calls, List.mem_singleton, Prod.mk.injEq] at hcall
      rw [hcall.1]
      exact List.mem_cons_self
  | kick victim todo _ _ => exact absurd rfl htype
  | purge uid name victim todo _ _ => exact absurd rfl htype
  | _ => simp [Op.calls, LockOp.exec] at hcall

theorem next_todo (hallows : Allows sender seq stage op)
    (env : Env) (hub : Hub) {v : ConnId}
    (hv : v ∈ (stage.next op (op.exec cfg env hub).2).todo) :
    v ∈ stage.todo ∨
      v ∈ (Performed.mk op env hub).evicted cfg sender.connId := by
  generalize hresult : (op.exec cfg env hub).2 = result at hv
  cases hallows with
  | allowIp ip => cases result <;> cases hv
  | authenticate un password wantAdmin => cases result <;> cases hv
  | register un info wantMode =>
      right
      have hmem := List.mem_of_mem_filter hv
      rw [← hresult] at hmem
      have hvictims := Registry.login_victims cfg hub.reg sender.connId un
        info.id wantMode
      simp only [Performed.evicted, if_true]
      exact hvictims ▸ hmem
  | evict uid victim todo userReason logWhy =>
      exact .inl (List.mem_cons_of_mem _ hv)
  | lookup dst => cases result <;> cases hv
  | ask dst => cases result <;> cases hv
  | manage operation hordinary =>
      rw [control_next_store] at hv
      cases hv
  | nameOf uid => cases result <;> cases hv
  | update uid name newName password isAdmin => cases result <;> cases hv
  | delete uid name => cases result <;> cases hv
  | reply _ hstage wire htype hseq =>
      rw [Stage.next_sendFrame] at hv
      cases hv
  | _ => cases hv

end OneOperation

/-! ## The operations of one request -/

theorem Confined.nil (cfg : Config) (c : ConnId) (credit : Nat)
    (todo : List ConnId) : Confined cfg c credit todo [] where
  allowlist := by simp
  rows := by simp
  oneRow := by simp
  kicks := by simp
  registry := by simp
  sessions := by simp

theorem Confined.mono {cfg : Config} {c : ConnId} {credit credit' : Nat}
    {todo : List ConnId} {steps : List Performed}
    (hconfined : Confined cfg c credit todo steps)
    (hle : credit ≤ credit') : Confined cfg c credit' todo steps :=
  { hconfined with oneRow := hconfined.oneRow.trans hle }

theorem Confined.cons {cfg : Config} {sender : Identity} {seq : UInt32}
    {stage : Stage} {op : Op} {env : Env} {hub : Hub}
    {steps : List Performed} (hallows : Allows sender seq stage op)
    (htype : stage.msgType ≠ some kClientControl)
    (hrest : Confined cfg sender.connId
      (stage.next op (op.exec cfg env hub).2).credit
      (stage.next op (op.exec cfg env hub).2).todo steps) :
    Confined cfg sender.connId stage.credit stage.todo
      (⟨op, env, hub⟩ :: steps) where
  allowlist := by
    rw [List.forall_mem_cons]
    exact ⟨exec_allowlist hallows htype env hub, hrest.allowlist⟩
  rows := by
    rw [List.forall_mem_cons]
    obtain ⟨added, hadded, _⟩ := exec_rows cfg hallows htype env hub
    exact ⟨⟨added, hadded⟩, hrest.rows⟩
  oneRow := by
    obtain ⟨added, hadded, hcredit⟩ :=
      exec_rows cfg hallows htype env hub
    have hcount : (Performed.mk op env hub).addedRows cfg =
        added.length := by
      simp [Performed.addedRows, Performed.after, hadded]
    rw [List.map_cons, List.sum_cons, hcount]
    exact (Nat.add_le_add_left hrest.oneRow _).trans hcredit
  kicks := by
    intro p hp v userReason logWhy hcall
    rcases List.mem_cons.mp hp with rfl | hp
    · exact .inl (exec_kicks hallows htype env hub hcall)
    · rcases hrest.kicks p hp v userReason logWhy hcall with hv |
        ⟨login, hlogin, hv⟩
      · rcases next_todo hallows env hub hv with hold | hnew
        · exact .inl hold
        · exact .inr ⟨_, List.mem_cons_self, hnew⟩
      · exact .inr ⟨login, List.mem_cons_of_mem _ hlogin, hv⟩
  registry := by
    rw [List.forall_mem_cons]
    exact ⟨fun uid hnot => exec_registry hallows htype env hub hnot,
      hrest.registry⟩
  sessions := by
    rw [List.forall_mem_cons]
    refine ⟨?_, hrest.sessions⟩
    intro d hne
    refine ⟨Op.exec_sessions cfg env hub op d, ?_⟩
    intro call hcall
    exact exec_calls_kind hallows env hub hne (Hub.mem_callsOn.mp hcall)

theorem Opening.credit {sender : Identity} {h : Header} {stage : Stage}
    (hopening : Opening sender h stage) :
    stage.credit ≤ (h.msgType = kClientLogin && !sender.loggedIn).toNat := by
  cases hopening with
  | login htype hout => simp [Stage.credit, htype, hout]
  | _ => exact Nat.zero_le _

theorem Opening.todo {sender : Identity} {h : Header} {stage : Stage}
    (hopening : Opening sender h stage) : stage.todo = [] := by
  cases hopening <;> rfl

namespace Server

variable {cfg : Config} {unpack : Bytes → Option Obj}

/-- The operations of the frame which session `c` is about to handle or is
handling, along a run, until its handler returns. -/
def frameOps (cfg : Config) (unpack : Bytes → Option Obj) (c : ConnId) :
    List Event → Server → List Performed
  | [], _ => []
  | event :: rest, s =>
      match s.step cfg unpack event with
      | none => []
      | some s' =>
          match event, s.request? c with
          | .advance d env, some q =>
              if d = c then
                match q.nextOp with
                | none => []
                | some op => ⟨op, env, s.hub⟩ :: frameOps cfg unpack c rest s'
              else frameOps cfg unpack c rest s'
          | _, _ => frameOps cfg unpack c rest s'

theorem frameOps_other {c : ConnId} {event : Event} {rest : List Event}
    {s s' : Server} (hstep : s.step cfg unpack event = some s')
    (hevent : ∀ env, event ≠ .advance c env) :
    frameOps cfg unpack c (event :: rest) s =
      frameOps cfg unpack c rest s' := by
  rw [frameOps, hstep]
  dsimp only
  split
  · rename_i d env q hq
    rw [if_neg]
    rintro rfl
    exact hevent env rfl
  · rfl

theorem confined_of_handling (events : List Event) {c : ConnId}
    {s : Server} {q : Request} (hsane : s.Sane)
    (hreader : s.readers c = .handling q)
    (hunprivileged : q.sender.loggedIn = false ∨ q.sender.isAdmin = false) :
    Confined cfg c q.stage.credit q.stage.todo
      (frameOps cfg unpack c events s) := by
  induction events generalizing s q with
  | nil => exact Confined.nil cfg c _ _
  | cons event rest ih =>
      cases hstep : s.step cfg unpack event with
      | none =>
          simp only [frameOps, hstep]
          exact Confined.nil cfg c _ _
      | some s' =>
          by_cases hevent : ∃ env, event = .advance c env
          · obtain ⟨env, rfl⟩ := hevent
            have hq : s.request? c = some q := mem_request?.mpr hreader
            simp only [frameOps, hstep, hq, if_true]
            cases hop : q.nextOp with
            | none => exact Confined.nil cfg c _ _
            | some op =>
                dsimp only
                obtain ⟨q', hsender, hstage, rfl⟩ :=
                  perform_of_nextOp hstep hreader hop
                obtain ⟨hconn, hfits⟩ := hsane.fits c q hreader
                have htype : q.stage.msgType ≠ some kClientControl := by
                  intro htype
                  obtain ⟨hself, hlogged, hadmin⟩ := hfits.admin htype
                  rw [hself] at hlogged hadmin
                  rcases hunprivileged with hout | hout
                  · rw [hlogged] at hout
                    cases hout
                  · rw [hadmin] at hout
                    cases hout
                have hrest := ih (hsane.step hstep)
                  (setReader_self _ c (.handling q'))
                  (hsender ▸ hunprivileged)
                rw [hstage, ← hconn] at hrest
                rw [← hconn]
                exact Confined.cons (Request.allows_of_nextOp hop) htype hrest
          · have hnot : ∀ env, event ≠ .advance c env := by
              intro env heq
              exact hevent ⟨env, heq⟩
            rw [frameOps_other hstep hnot]
            exact ih (hsane.step hstep)
              (handling_of_step hstep hsane hreader hnot) hunprivileged

/-- The frame is a LOGIN of a session which is not logged in. -/
def isLogin (s : Server) (c : ConnId) (h : Header) : Bool :=
  h.msgType = kClientLogin && !(s.hub.sessions c).loggedIn

/-- In every reachable server, a frame of any type and any body handled for
a session which is not logged in or not an administrator is confined, with
any steps of others in between. -/
theorem confined_of_unprivileged (cfg : Config)
    (unpack : Bytes → Option Obj) (db : Db) (before events : List Event)
    (s : Server) (c : ConnId) (h : Header) (body : Bytes)
    (hrun : Transition.run (step cfg unpack) before (initial db) = some s)
    (hread : s.readers c = .gotBody h body)
    (hunprivileged : (s.hub.sessions c).loggedIn = false ∨
      (s.hub.sessions c).isAdmin = false) :
    Confined cfg c (s.isLogin c h).toNat []
      (frameOps cfg unpack c (.read c .resume :: events) s) := by
  have hsane := sane_of_run hrun
  have hstep : s.step cfg unpack (.read c .resume) =
      some (s.setReader c (.handling
        (Request.start unpack (s.hub.identity c) h body))) := by
    simp [step, hread, ReadLoop.next]
  rw [frameOps_other hstep (by simp)]
  have hopening := initialStage_opening unpack (s.hub.identity c) h body
  have hconfined : Confined cfg c
      (initialStage unpack (s.hub.identity c) h body).credit
      (initialStage unpack (s.hub.identity c) h body).todo
      (frameOps cfg unpack c events _) :=
    confined_of_handling events (hsane.step hstep) (setReader_self _ c _)
      hunprivileged
  rw [hopening.todo] at hconfined
  exact hconfined.mono hopening.credit

def firstLoginRead : List Event :=
  [.accept (lit "10.0.0.1")] ++ (receive 1 kClientLogin 1
    (loginBody (lit "root") (lit "pw") (lit "admin"))).take 4

def hasRead (c : ConnId) (h : Header) (body : Bytes) (s : Server) : Bool :=
  match s.readers c with
  | .gotBody h' body' => h' = h && body' = body
  | _ => false

theorem readers_of_hasRead {c : ConnId} {h : Header} {body : Bytes}
    {s : Server} (hread : s.hasRead c h body = true) :
    s.readers c = .gotBody h body := by
  unfold hasRead at hread
  split at hread
  · rename_i h' body' hreader
    simp only [Bool.and_eq_true, decide_eq_true_eq] at hread
    rw [hreader, hread.1, hread.2]
  · cases hread

def firstLoginHeader : Header where
  msgType := kClientLogin
  seq := 1
  bodyLen := UInt32.ofNat
    (packAll (loginBody (lit "root") (lit "pw") (lit "admin"))).length

theorem confined_of_unprivileged_first_login :
    ∃ s, Transition.run (step forwarderJson unpackFlat) firstLoginRead
        (initial emptyDb) = some s ∧
      (frameOps forwarderJson unpackFlat 1
        (.read 1 .resume :: advances 1 6) s).length = 5 ∧
      Confined forwarderJson 1 (s.isLogin 1 firstLoginHeader).toNat []
        (frameOps forwarderJson unpackFlat 1
          (.read 1 .resume :: advances 1 6) s) := by
  obtain ⟨s, hrun, hread, hout, hlength⟩ : ∃ s,
      Transition.run (step forwarderJson unpackFlat) firstLoginRead
        (initial emptyDb) = some s ∧
      s.hasRead 1 firstLoginHeader
        (packAll (loginBody (lit "root") (lit "pw") (lit "admin"))) = true ∧
      (s.hub.sessions 1).loggedIn = false ∧
      (frameOps forwarderJson unpackFlat 1
        (.read 1 .resume :: advances 1 6) s).length = 5 :=
    Transition.exists_run_of_check (by decide +kernel)
  exact ⟨s, hrun, hlength, confined_of_unprivileged forwarderJson unpackFlat
    emptyDb firstLoginRead (advances 1 6) s 1 firstLoginHeader _ hrun
    (readers_of_hasRead hread) (.inl hout)⟩

end Server

end AsioForwarder
