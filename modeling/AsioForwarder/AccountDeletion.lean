import AsioForwarder.ServerInvariant

/-!
# Deleting an account

`user_table_delete` kicks a snapshot of the account's sessions, forgets the
cached name and then deletes the row; a login checks the database and
registers in two steps of its own.  If a login of the account gets past the
database check before the row is gone and registers after the snapshot, its
session survives the deletion.  The theorem of this module says that nothing
else can go wrong.
-/

namespace AsioForwarder

/-- The account a login is about to register a session for. -/
def Stage.authedId : Stage → Option Nat
  | .authed _ info => some info.id
  | _ => none

/-- The account a deletion is working on, between the snapshot of its
sessions and the `DELETE`. -/
def Stage.deletingId : Stage → Option Nat
  | .purging uid _ _ => some uid
  | .forgotten uid _ => some uid
  | _ => none

def Call.isNotice : Call → Bool
  | .notifyAndClose _ _ => true
  | _ => false

namespace Server

variable {cfg : Config} {unpack : Bytes → Option Obj}

/-- The account whose deletion takes its snapshot of sessions next. -/
def condemns (s : Server) (c : ConnId) : Option Nat :=
  match s.stageOf c, s.pendingOp c with
  | some (.named uid _), some (.lock (.snapshotSessions _)) => some uid
  | _, _ => none

/-- No login of an account is between the database check and its
registration when a deletion of the account takes its snapshot, and none
gets to the check between that snapshot and the `DELETE`. -/
def DeletionUndisturbed (s : Server) (event : Event) : Prop :=
  ∀ acting ∈ event.advance?,
    (∀ uid ∈ s.condemns acting.1, ∀ stage ∈ s.stages,
      stage.authedId ≠ some uid) ∧
    ∀ operation ∈ s.pendingStore acting.1, ∀ stage ∈ s.stages,
      ∀ uid ∈ stage.deletingId, ¬operation.Opens s.hub.db.users uid

instance (s : Server) (event : Event) :
    Decidable (s.DeletionUndisturbed event) :=
  inferInstanceAs (Decidable (∀ acting ∈ event.advance?, _))

def Notified (s : Server) (c : ConnId) : Prop :=
  ∃ made ∈ Hub.callsOn c s.hub.calls, made.isNotice = true

instance (s : Server) (c : ConnId) : Decidable (s.Notified c) :=
  inferInstanceAs (Decidable (∃ made ∈ Hub.callsOn c s.hub.calls, _))

def NoAuthed (s : Server) (uid : Nat) : Prop :=
  ∀ c q un info, s.readers c = .handling q → q.stage = .authed un info →
    info.id ≠ uid

/-- What is known at the stages of a deletion. -/
def DeletionFact (s : Server) : Stage → Prop
  | .named uid _ => uid < s.hub.db.users.nextId
  | .purging uid _ todo =>
      uid < s.hub.db.users.nextId ∧ s.NoAuthed uid ∧
        ∀ c ∈ s.hub.reg.deque uid, s.Notified c ∨ c ∈ todo
  | .forgotten uid _ =>
      uid < s.hub.db.users.nextId ∧ s.NoAuthed uid ∧
        ∀ c ∈ s.hub.reg.deque uid, s.Notified c
  | .deleted uid =>
      s.hub.db.users.Gone uid ∧ s.NoAuthed uid ∧
        ∀ c ∈ s.hub.reg.deque uid, s.Notified c
  | _ => True

/-! ## What a step keeps -/

theorem notified_of_step {s s' : Server} {event : Event}
    (hstep : s.step cfg unpack event = some s') {c : ConnId}
    (hnotified : s.Notified c) : s'.Notified c := by
  obtain ⟨made, hmade, hnotice⟩ := hnotified
  rw [Hub.mem_callsOn] at hmade
  exact ⟨made, Hub.mem_callsOn.mpr ((calls_extend hstep).subset hmade),
    hnotice⟩

theorem nextId_of_step {s s' : Server} {event : Event}
    (hstep : s.step cfg unpack event = some s') :
    s.hub.db.users.nextId ≤ s'.hub.db.users.nextId := by
  rcases db_of_step hstep with hsame | ⟨_, env, _, operation, _, _, _, _, hdb⟩
  · rw [hsame]
  · rw [hdb]
    exact (operation.usersEffect env s.hub.db).nextId_le

theorem gone_of_step {s s' : Server} {event : Event}
    (hstep : s.step cfg unpack event = some s') {uid : Nat}
    (hgone : s.hub.db.users.Gone uid) : s'.hub.db.users.Gone uid := by
  rcases db_of_step hstep with hsame | ⟨_, env, _, operation, _, _, _, _, hdb⟩
  · rwa [hsame]
  · rw [hdb]
    exact (operation.usersEffect env s.hub.db).gone hgone

theorem noAuthed_of_step {s s' : Server} {event : Event}
    (hstep : s.step cfg unpack event = some s') {uid : Nat}
    (hlt : uid < s.hub.db.users.nextId)
    (hcheck : ∀ c env operation, event = .advance c env →
      operation ∈ s.pendingStore c → ¬operation.Opens s.hub.db.users uid)
    (hnone : s.NoAuthed uid) : s'.NoAuthed uid := by
  intro c q' un info hreader' hauthed
  rcases request_of_step hstep hreader' with ⟨hreader, _⟩ |
    ⟨h, body, _, _, rfl, _⟩ |
    ⟨env, q, op, hevent, hreader, hop, hallows, _, _, hstage, _⟩
  · exact hnone c q' un info hreader hauthed
  · exact absurd hauthed (initialStage_opening unpack _ h body).ne_authed
  · rw [hstage] at hauthed
    obtain ⟨password, wantAdmin, rfl, hok⟩ := authed_of_next hallows hauthed
    rintro rfl
    rcases StoreOp.authenticate_id env s.hub.db hok with hopens | hnew
    · exact hcheck c env _ hevent (pendingStore_of_handling hreader hop)
        hopens
    · omega

theorem deque_sublist_of_step {s s' : Server} {event : Event}
    (hsane : s.Sane) (hstep : s.step cfg unpack event = some s')
    {uid : Nat} (hnone : s.NoAuthed uid) :
    (s'.hub.reg.deque uid).Sublist (s.hub.reg.deque uid) := by
  rcases deque_of_step hsane hstep uid with hsame |
    ⟨c, un, info, wantMode, ⟨_, q, _, hreader, hauthed, _⟩, huid, _⟩ |
    ⟨c, _, _, _, _, hdeque⟩
  · rw [hsame]
  · exact absurd huid.symm (hnone c q un info hreader hauthed)
  · rw [hdeque]
    exact List.erase_sublist

theorem deletionFact_of_step {s s' : Server} {event : Event}
    (hsane : s.Sane) (hgood : s.DeletionUndisturbed event)
    (hstep : s.step cfg unpack event = some s') {stage : Stage}
    (hstage : stage ∈ s.stages) (hfact : s.DeletionFact stage) :
    s'.DeletionFact stage := by
  have hlogin : ∀ uid, stage.deletingId = some uid →
      ∀ c env operation, event = .advance c env →
      operation ∈ s.pendingStore c →
      ¬operation.Opens s.hub.db.users uid := by
    rintro uid hdeleting c env operation rfl hpending
    exact (hgood (c, env) rfl).2 operation hpending stage hstage uid
      hdeleting
  cases stage with
  | named uid name => exact Nat.lt_of_lt_of_le hfact (nextId_of_step hstep)
  | purging uid name todo =>
      obtain ⟨hlt, hnone, hall⟩ := hfact
      refine ⟨Nat.lt_of_lt_of_le hlt (nextId_of_step hstep),
        noAuthed_of_step hstep hlt (hlogin uid rfl) hnone, ?_⟩
      intro c hmem
      rcases hall c ((deque_sublist_of_step hsane hstep hnone).subset hmem)
        with hnotified | htodo
      · exact .inl (notified_of_step hstep hnotified)
      · exact .inr htodo
  | forgotten uid name =>
      obtain ⟨hlt, hnone, hall⟩ := hfact
      refine ⟨Nat.lt_of_lt_of_le hlt (nextId_of_step hstep),
        noAuthed_of_step hstep hlt (hlogin uid rfl) hnone, ?_⟩
      intro c hmem
      exact notified_of_step hstep (hall c
        ((deque_sublist_of_step hsane hstep hnone).subset hmem))
  | deleted uid =>
      obtain ⟨hgone, hnone, hall⟩ := hfact
      refine ⟨gone_of_step hstep hgone,
        noAuthed_of_step hstep hgone.1 ?_ hnone, ?_⟩
      · rintro c env operation _ _ hopens
        obtain ⟨row, hrow, hid⟩ := StoreOp.row_of_opens hopens
        exact hgone.2 row hrow hid
      · intro c hmem
        exact notified_of_step hstep (hall c
          ((deque_sublist_of_step hsane hstep hnone).subset hmem))
  | _ => trivial

/-! ## The handler of the deletion itself -/

theorem condemns_of_handling {s : Server} {c : ConnId} {q : Request}
    {uid : Nat} {name : Bytes} (hreader : s.readers c = .handling q)
    (hstage : q.stage = .named uid name)
    (hop : q.nextOp = some (.lock (.snapshotSessions uid))) :
    s.condemns c = some uid := by
  have hstageOf : s.stageOf c = some (.named uid name) :=
    stageOf_eq_some.mpr ⟨q, hreader, hstage⟩
  simp [condemns, hstageOf, pendingOp, hreader, hop]

theorem deletionFact_next {s s' : Server} {c : ConnId} {env : Env}
    {q : Request} {op : Op} (hsane : s.Sane)
    (hgood : s.DeletionUndisturbed (.advance c env))
    (hstep : s.step cfg unpack (.advance c env) = some s')
    (hreader : s.readers c = .handling q) (hop : q.nextOp = some op)
    (hhub : s'.hub = (op.exec cfg env s.hub).1)
    (hfact : s'.DeletionFact q.stage) :
    s'.DeletionFact (q.stage.next op (op.exec cfg env s.hub).2) := by
  have hallows := Request.allows_of_nextOp hop
  generalize hstage : q.stage = stage at hallows hfact
  generalize hresult : (op.exec cfg env s.hub).2 = result
  cases hallows with
  | allowIp ip => cases result <;> trivial
  | authenticate un password wantAdmin => cases result <;> trivial
  | lookup dst => cases result <;> trivial
  | ask dst => cases result <;> trivial
  | manage operation hordinary =>
      rw [control_next_store]
      trivial
  | nameOf uid =>
      cases result with
      | error e => trivial
      | ok name =>
          obtain ⟨row, hrow, rfl, _⟩ := StoreOp.nameOf_row env s.hub.db hresult
          have hlt : row.id < s'.hub.db.users.nextId := by
            rw [hhub]
            exact s.hub.db.users.idsBelow row hrow
          exact hlt
  | update uid name newName password isAdmin => cases result <;> trivial
  | condemn uid name =>
      have hnone : s.NoAuthed uid := by
        intro d q' un info hreader' hauthed hid
        refine (hgood (c, env) rfl).1 uid
          (condemns_of_handling hreader hstage hop) (.authed un info)
          ((mem_stages hsane).mpr ⟨d, q', hreader', hauthed⟩) ?_
        rw [← hid]
        rfl
      refine ⟨hfact, ?_, ?_⟩
      · refine noAuthed_of_step hstep ?_ ?_ hnone
        · rw [DeletionFact, hhub] at hfact
          exact hfact
        · rintro d env' operation hevent hpending
          cases hevent
          simp [pendingStore, pendingOp, hreader, hop] at hpending
      · intro d hmem
        rw [hhub] at hmem
        subst hresult
        exact .inr hmem
  | purge uid name victim todo userReason logWhy =>
      obtain ⟨hlt, hnone, hall⟩ := hfact
      refine ⟨hlt, hnone, ?_⟩
      intro d hmem
      rcases hall d hmem with hnotified | htodo
      · exact .inl hnotified
      · rcases List.mem_cons.mp htodo with rfl | hrest
        · refine .inl ⟨.notifyAndClose userReason logWhy, ?_, rfl⟩
          rw [Hub.mem_callsOn, hhub, Op.exec_calls]
          simp [Op.calls]
        · exact .inr hrest
  | forget uid name =>
      obtain ⟨hlt, hnone, hall⟩ := hfact
      refine ⟨hlt, hnone, ?_⟩
      intro d hmem
      exact (hall d hmem).resolve_right List.not_mem_nil
  | delete uid name =>
      cases result with
      | some err => trivial
      | none =>
          obtain ⟨hlt, hnone, hall⟩ := hfact
          refine ⟨?_, hnone, hall⟩
          rw [hhub] at hlt ⊢
          exact StoreOp.delete_gone env s.hub.db hlt hresult
  | reply _ hstage wire htype hseq =>
      rw [Stage.next_sendFrame]
      trivial
  | _ => first | exact hfact | trivial

structure DeletionOk (s : Server) : Prop where
  sane : s.Sane
  fact : ∀ c q, s.readers c = .handling q → s.DeletionFact q.stage

theorem deletionOk_initial (db : Db) : (initial db).DeletionOk where
  sane := sane_initial db
  fact := by
    intro c q hreader
    cases hreader

theorem deletionFact_of_opening {sender : Identity} {h : Header}
    {stage : Stage} (hopening : Opening sender h stage) (s : Server) :
    s.DeletionFact stage := by
  cases hopening <;> trivial

theorem DeletionOk.step {s s' : Server} {event : Event} (hok : s.DeletionOk)
    (hgood : s.DeletionUndisturbed event)
    (hstep : s.step cfg unpack event = some s') : s'.DeletionOk where
  sane := hok.sane.step hstep
  fact := by
    intro c q' hreader'
    have hkept : ∀ q, s.readers c = .handling q →
        s'.DeletionFact q.stage := by
      intro q hreader
      exact deletionFact_of_step hok.sane hgood hstep
        ((mem_stages hok.sane).mpr ⟨c, q, hreader, rfl⟩)
        (hok.fact c q hreader)
    rcases request_of_step hstep hreader' with ⟨hreader, _⟩ |
      ⟨h, body, _, _, rfl, _⟩ |
      ⟨env, q, op, rfl, hreader, hop, _, _, _, hstage, hhub⟩
    · exact hkept q' hreader
    · exact deletionFact_of_opening (initialStage_opening unpack _ h body) s'
    · rw [hstage]
      exact deletionFact_next hok.sane hgood hstep hreader hop hhub
        (hkept q hreader)

/-! ## After the deletion -/

/-- A deletion which is about to send its ok reply has notified every session
of the account, and no later step of any party adds another. -/
def DeletionFinal (cfg : Config) (unpack : Bytes → Option Obj) (s : Server) :
    Prop :=
  ∀ c uid, s.stageOf c = some (.deleted uid) →
    (∀ d ∈ s.hub.reg.deque uid, s.Notified d) ∧
    ∀ later s₁ event s₂, Transition.run (step cfg unpack) later s = some s₁ →
      s₁.step cfg unpack event = some s₂ →
      (s₂.hub.reg.deque uid).Sublist (s₁.hub.reg.deque uid)

theorem gone_forever {s s' : Server} {later : List Event} {uid : Nat}
    (hsane : s.Sane) (hgone : s.hub.db.users.Gone uid)
    (hnone : s.NoAuthed uid)
    (hrun : Transition.run (step cfg unpack) later s = some s') :
    s'.Sane ∧ s'.hub.db.users.Gone uid ∧ s'.NoAuthed uid := by
  refine Transition.run_preserves_always (fun s => s.Sane ∧
    s.hub.db.users.Gone uid ∧ s.NoAuthed uid) ?_ ⟨hsane, hgone, hnone⟩ hrun
  rintro s event s' ⟨hsane, hgone, hnone⟩ hstep
  refine ⟨hsane.step hstep, gone_of_step hstep hgone,
    noAuthed_of_step hstep hgone.1 ?_ hnone⟩
  intro c env operation _ _ hopens
  obtain ⟨row, hrow, hid⟩ := StoreOp.row_of_opens hopens
  exact hgone.2 row hrow hid

/-- Deleting an account leaves no live session of it, in every run in which
no login of the account is under way between the snapshot of its sessions
and the `DELETE`. -/
theorem deletionFinal_of_undisturbed (cfg : Config)
    (unpack : Bytes → Option Obj) (db : Db) (events : List Event)
    (s : Server)
    (hgood : Transition.Along (step cfg unpack) DeletionUndisturbed events
      (initial db))
    (hrun : Transition.run (step cfg unpack) events (initial db) = some s) :
    s.DeletionFinal cfg unpack := by
  have hok : s.DeletionOk := Transition.run_preserves _
    (fun _ _ _ hok hgood hstep => DeletionOk.step hok hgood hstep)
    (deletionOk_initial db) hgood hrun
  intro c uid hdeleted
  obtain ⟨q, hreader, hstage⟩ := stageOf_eq_some.mp hdeleted
  have hfact := hok.fact c q hreader
  rw [hstage] at hfact
  obtain ⟨hgone, hnone, hall⟩ := hfact
  refine ⟨hall, ?_⟩
  intro later s₁ event s₂ hlater hstep
  obtain ⟨hsane₁, _, hnone₁⟩ := gone_forever hok.sane hgone hnone hlater
  exact deque_sublist_of_step hsane₁ hstep hnone₁

def deleteBody (uid : Nat) : List Tok :=
  [.map 2, .str (lit "action"), .str (lit "user_table_delete"),
    .str (lit "id"), .uint uid]

/-- The administrator deletes his own account, up to the ok reply. -/
def selfDeleteRun : List Event :=
  rootLogin ++ receive 1 kClientControl 2 (deleteBody 1) ++ advances 1 5

theorem deletionFinal_of_undisturbed_selfDeleteRun :
    ∃ s, Transition.run (step forwarderJson unpackFlat) selfDeleteRun
        (initial emptyDb) = some s ∧
      s.stageOf 1 = some (.deleted 1) ∧ 1 ∈ s.hub.reg.deque 1 ∧
      s.DeletionFinal forwarderJson unpackFlat := by
  obtain ⟨s, hrun, hdeleted, hmem⟩ : ∃ s,
      Transition.run (step forwarderJson unpackFlat) selfDeleteRun
        (initial emptyDb) = some s ∧
      s.stageOf 1 = some (.deleted 1) ∧ 1 ∈ s.hub.reg.deque 1 :=
    Transition.exists_run_of_check (by decide +kernel)
  exact ⟨s, hrun, hdeleted, hmem,
    deletionFinal_of_undisturbed forwarderJson unpackFlat emptyDb
      selfDeleteRun s (Transition.along_of_check (by decide +kernel)) hrun⟩

/-- Two more logins of the account pass the database check before the
snapshot.  Session 2 registers right after the snapshot; session 3 has not
registered when the deletion is about to answer. -/
def survivorRun : List Event :=
  rootLogin ++
    [.accept (lit "10.0.0.1")] ++
    receive 2 kClientLogin 1 (loginBody (lit "root") (lit "pw") (lit "admin"))
    ++ advances 2 3 ++ [.accept (lit "10.0.0.1")] ++
    receive 3 kClientLogin 1 (loginBody (lit "root") (lit "pw") (lit "admin"))
    ++ advances 3 3 ++ receive 1 kClientControl 2 (deleteBody 1) ++
    advances 1 2 ++ advances 2 1 ++ advances 1 3

theorem deletion_survived_by_logins :
    ∃ s, Transition.run (step forwarderJson unpackFlat) survivorRun
        (initial emptyDb) = some s ∧
      s.stageOf 1 = some (.deleted 1) ∧
      (2 ∈ s.hub.reg.deque 1 ∧ ¬s.Notified 2) ∧
      (∃ s', s.step forwarderJson unpackFlat (.advance 3 {}) = some s' ∧
        3 ∉ s.hub.reg.deque 1 ∧ 3 ∈ s'.hub.reg.deque 1) ∧
      ¬s.DeletionFinal forwarderJson unpackFlat := by
  obtain ⟨s, hrun, hdeleted, hmissed, hbefore, s', hstep, hafter⟩ : ∃ s,
      Transition.run (step forwarderJson unpackFlat) survivorRun
        (initial emptyDb) = some s ∧
      s.stageOf 1 = some (.deleted 1) ∧
      (2 ∈ s.hub.reg.deque 1 ∧ ¬s.Notified 2) ∧
      3 ∉ s.hub.reg.deque 1 ∧
      ∃ s' ∈ s.step forwarderJson unpackFlat (.advance 3 {}),
        3 ∈ s'.hub.reg.deque 1 :=
    Transition.exists_run_of_check (by decide +kernel)
  refine ⟨s, hrun, hdeleted, hmissed, ⟨s', hstep, hbefore, hafter⟩, ?_⟩
  intro hfinal
  exact hmissed.2 ((hfinal 1 1 hdeleted).1 2 hmissed.1)

end Server

end AsioForwarder
