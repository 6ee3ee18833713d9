import AsioForwarder.Authority
import AsioForwarder.RegistryInvariant

/-!
# The routing cache and the `users` table

`name_to_uid_` is filled by logins, by lookups and by renames, each some time
after the database was asked, and it is corrected by `user_table_update` and
`user_table_delete` before or after their own statement.  The invariant says
which entries may be out of date: those which a rename in progress is about
to erase.  It needs that the requests working on one account keep out of each
other's way, and that an update which changes the name does not fail half
way.
-/

namespace AsioForwarder

/-! ## What a request has in hand -/

/-- The account a login or a DATA frame has found and not yet used. -/
def Stage.resolvedId : Stage → Option Nat
  | .authed _ info => some info.id
  | .found _ uid => some uid
  | .routed _ uid => some uid
  | _ => none

/-- The account a rename or a deletion works on. -/
def Stage.maintainedId : Stage → Option Nat
  | .named uid _ => some uid
  | .renamed uid _ _ => some uid
  | .purging uid _ _ => some uid
  | .forgotten uid _ => some uid
  | _ => none

theorem Opening.maintainedId {sender : Identity} {h : Header}
    {stage : Stage} (hopening : Opening sender h stage) :
    stage.maintainedId = none := by
  cases hopening <;> rfl

/-- The account whose cached name is erased and whose row is still there. -/
def Stage.forgottenId : Stage → Option Nat
  | .forgotten uid _ => some uid
  | _ => none

/-- The cache entry a rename has made wrong and not yet erased. -/
def Stage.staleEntry : Stage → Option (Bytes × Nat)
  | .renamed uid oldName _ => some (oldName, uid)
  | _ => none

/-! ## What an operation is about to do -/

/-- A name which does not fit the buffer of its statement. -/
def Op.longName : Op → Bool
  | .store (.authenticateOrRegister un _ _) => 511 < un.length
  | .store (.userIdByUsername dst) => 511 < dst.length
  | .store (.adminUpdateUser _ (some name) _ _) => 511 < name.length
  | _ => false

/-- The arguments of an update which gives a name. -/
structure Renaming where
  uid : Nat
  name : Bytes
  password : Option Bytes
  isAdmin : Option Bool

def Op.rename? : Op → Option Renaming
  | .store (.adminUpdateUser uid (some name) password isAdmin) =>
      some ⟨uid, name, password, isAdmin⟩
  | _ => none

/-- The account whose name is read. -/
def Op.namesId : Op → Option Nat
  | .store (.adminGetUsernameById uid) => some uid
  | _ => none

def Op.retiresId : Op → Option Nat
  | .store (.adminUpdateUser uid (some _) _ _) => some uid
  | .store (.adminDeleteUser uid) => some uid
  | _ => none

def Op.cachesId : Op → Option Nat
  | .lock (.login _ _ info _) => some info.id
  | .lock (.cacheStore _ uid) => some uid
  | _ => none

def Op.looksUp : Op → Option Bytes
  | .lock (.cacheLookup dst) => some dst
  | _ => none

/-- The name a message is addressed to. -/
def Op.addressee : Op → Option Bytes
  | .lock (.deliver _ _ dst _ _ _) => some dst
  | _ => none

namespace Server

variable {cfg : Config} {unpack : Bytes → Option Obj}

/-- The rules for requests which work on one account at the same time: a
rename or deletion starts only if no other one of the account is in progress;
it performs its statement only if no login and no DATA frame has found the
account and not yet used it; nobody makes a cache entry for an account whose
entry has been erased for its deletion, and nobody looks up the entry a
rename has made wrong. -/
def KeepsApart (s : Server) (c : ConnId) (op : Op) : Prop :=
  (s.stageOf c = some .maintenance → ∀ uid ∈ op.namesId,
    ∀ stage ∈ s.stages, stage.maintainedId ≠ some uid) ∧
  (∀ uid ∈ op.retiresId, ∀ stage ∈ s.stages, stage.resolvedId ≠ some uid) ∧
  (∀ uid ∈ op.cachesId, ∀ stage ∈ s.stages,
    stage.forgottenId ≠ some uid) ∧
  ∀ name ∈ op.looksUp, ∀ uid ∈ s.hub.reg.cacheLookup name,
    ∀ stage ∈ s.stages, stage.staleEntry ≠ some (name, uid)

instance (s : Server) (c : ConnId) (op : Op) :
    Decidable (s.KeepsApart c op) :=
  inferInstanceAs (Decidable (_ ∧ _ ∧ _ ∧ _))

/-- Names fit their buffers, an update which changes the name also changes
the other fields it gives, and requests for one account keep apart. -/
def CacheUndisturbed (s : Server) (event : Event) : Prop :=
  ∀ acting ∈ event.advance?, ∀ op ∈ s.pendingOp acting.1,
    op.longName = false ∧
    (∀ given ∈ op.rename?, MysqlStore.UpdateWhole acting.2.fault given.uid
      given.name given.password given.isAdmin s.hub.db.users) ∧
    s.KeepsApart acting.1 op

instance (s : Server) (event : Event) :
    Decidable (s.CacheUndisturbed event) :=
  inferInstanceAs (Decidable (∀ acting ∈ event.advance?, _))

def Idle (s : Server) : Prop := s.stages = []

/-- Every cache entry is a row of the table. -/
def Coherent (s : Server) : Prop :=
  ∀ name uid, s.hub.reg.cacheLookup name = some uid →
    s.hub.db.users.Names uid name

/-- A message is passed only to sessions of the account which has the name
it is addressed to. -/
def AddressedRight (cfg : Config) (s : Server) (event : Event) : Prop :=
  ∀ acting ∈ event.advance?, ∀ op ∈ s.pendingOp acting.1,
    ∀ dst ∈ op.addressee, ∀ entry ∈ op.calls cfg acting.2 s.hub,
      s.hub.db.users.Names (s.hub.sessions entry.1).userId dst

instance (s : Server) : Decidable s.Idle :=
  inferInstanceAs (Decidable (s.stages = []))

instance (s : Server) (event : Event) :
    Decidable (s.AddressedRight cfg event) :=
  inferInstanceAs (Decidable (∀ acting ∈ event.advance?, _))

/-! ## The invariant -/

/-- What is known at a stage about the table and the cache. -/
def CacheFact (s : Server) : Stage → Prop
  | .authed un info => s.hub.db.users.Names info.id un
  | .found dst uid => s.hub.db.users.Names uid dst
  | .routed dst uid => s.hub.db.users.Names uid dst
  | .named uid name => s.hub.db.users.Names uid name
  | .purging uid name _ => s.hub.db.users.Names uid name
  | .renamed uid _ newName => s.hub.db.users.Names uid newName
  | .forgotten uid _ => ∀ name, s.hub.reg.cacheLookup name ≠ some uid
  | _ => True

structure CacheOk (s : Server) : Prop where
  sane : s.Sane
  fact : ∀ c q, s.readers c = .handling q → s.CacheFact q.stage
  alone : ∀ c d q r uid, s.readers c = .handling q →
    s.readers d = .handling r → q.stage.maintainedId = some uid →
    r.stage.maintainedId = some uid → c = d
  cached : ∀ name uid, s.hub.reg.cacheLookup name = some uid →
    s.hub.db.users.Names uid name ∨
    ∃ c q newName, s.readers c = .handling q ∧
      q.stage = .renamed uid name newName

/-! ## What a step does to the table -/

theorem Names.unique {t : UsersTable} {uid : Nat} {first second : Bytes}
    (hfirst : t.Names uid first) (hsecond : t.Names uid second) :
    first = second := by
  obtain ⟨row, hrow, hid, rfl⟩ := hfirst
  obtain ⟨other, hother, hid', rfl⟩ := hsecond
  rw [t.eq_of_id_eq hrow hother (hid.trans hid'.symm)]

theorem names_of_step {s s' : Server} {event : Event}
    (hstep : s.step cfg unpack event = some s') {uid : Nat} {name : Bytes}
    (hnames : s.hub.db.users.Names uid name)
    (hretires : ∀ c env op, event = .advance c env → op ∈ s.pendingOp c →
      op.retiresId ≠ some uid) :
    s'.hub.db.users.Names uid name := by
  rcases db_of_step hstep with hsame |
    ⟨c, env, q, operation, rfl, hreader, hop, _, hdb⟩
  · rwa [hsame]
  · have hnot := hretires c env _ rfl
      ((pendingOp_of_handling hreader).trans hop)
    rw [hdb]
    refine (operation.usersEffect env s.hub.db).names hnames ?_ ?_
    · rintro newName password isAdmin rfl
      exact absurd rfl hnot
    · rintro rfl
      exact absurd rfl hnot

theorem maintainedId_of_retires {sender : Identity} {seq : UInt32}
    {stage : Stage} {op : Op} (hallows : Allows sender seq stage op)
    {uid : Nat} (hretires : op.retiresId = some uid) :
    stage.maintainedId = some uid := by
  cases hallows with
  | update _ name newName password isAdmin => exact hretires
  | delete _ name => exact hretires
  | manage operation hordinary =>
      cases operation with
      | adminUpdateUser _ newUsername password isAdmin =>
          cases newUsername with
          | none => cases hretires
          | some newName => exact absurd hordinary id
      | adminDeleteUser _ => exact absurd hordinary id
      | _ => cases hretires
  | _ => cases hretires

/-! ## What a step does to the cache -/

theorem exec_nameToUid {sender : Identity} {seq : UInt32} {stage : Stage}
    {op : Op} (hallows : Allows sender seq stage op) (env : Env) (hub : Hub)
    {name : Bytes} {uid : Nat}
    (hcached : (op.exec cfg env hub).1.reg.cacheLookup name = some uid) :
    (hub.reg.cacheLookup name = some uid ∧
      (∀ newName id, op ≠ .lock (.cacheRename name newName id)) ∧
      ∀ id, op ≠ .lock (.cacheForget name id)) ∨
    (op.exec cfg env hub).1.db = hub.db ∧
      ((∃ info, stage = .authed name info ∧ info.id = uid ∧
          op.cachesId = some uid) ∨
        (stage = .found name uid ∧ op.cachesId = some uid) ∨
        ∃ oldName, stage = .renamed uid oldName name) := by
  have hsame : (op.exec cfg env hub).1.reg.nameToUid = hub.reg.nameToUid →
      hub.reg.cacheLookup name = some uid := by
    intro hkept
    rwa [Registry.cacheLookup, hkept] at hcached
  cases hallows with
  | register un info wantMode =>
      rw [Op.exec_lock_reg, LockOp.exec, Registry.cacheLookup,
        Registry.login_nameToUid] at hcached
      by_cases hname : name = un
      · subst hname
        rw [AList.lookup_insert, Option.some.injEq] at hcached
        exact .inr ⟨Op.exec_db _ _ _ _ (by simp),
          .inl ⟨info, rfl, hcached, congrArg some hcached⟩⟩
      · rw [AList.lookup_insert_ne hname] at hcached
        exact .inl ⟨hcached, by simp, by simp⟩
  | remember dst id =>
      rw [Op.exec_lock_reg, LockOp.exec, Registry.cacheLookup,
        Registry.cacheStore] at hcached
      by_cases hname : name = dst
      · subst hname
        rw [AList.lookup_insert, Option.some.injEq] at hcached
        subst hcached
        exact .inr ⟨Op.exec_db _ _ _ _ (by simp), .inr (.inl ⟨rfl, rfl⟩)⟩
      · rw [AList.lookup_insert_ne hname] at hcached
        exact .inl ⟨hcached, by simp, by simp⟩
  | rename id oldName newName =>
      rw [Op.exec_lock_reg, LockOp.exec, Registry.cacheLookup,
        Registry.cacheRename] at hcached
      by_cases hname : name = newName
      · subst hname
        rw [AList.lookup_insert, Option.some.injEq] at hcached
        subst hcached
        exact .inr ⟨Op.exec_db _ _ _ _ (by simp),
          .inr (.inr ⟨oldName, rfl⟩)⟩
      · rw [AList.lookup_insert_ne hname] at hcached
        by_cases hold : name = oldName
        · subst hold
          rw [AList.lookup_erase] at hcached
          cases hcached
        · rw [AList.lookup_erase_ne hold] at hcached
          refine .inl ⟨hcached, ?_, by simp⟩
          rintro other id' hop
          cases hop
          exact hold rfl
  | forget id forgotten =>
      rw [Op.exec_lock_reg, LockOp.exec, Registry.cacheLookup,
        Registry.cacheForget] at hcached
      by_cases hname : name = forgotten
      · subst hname
        rw [AList.lookup_erase] at hcached
        cases hcached
      · rw [AList.lookup_erase_ne hname] at hcached
        refine .inl ⟨hcached, by simp, ?_⟩
        rintro id' hop
        cases hop
        exact hname rfl
  | route dst id payload =>
      refine .inl ⟨hsame ?_, by simp, by simp⟩
      rw [Op.exec_lock_reg, LockOp.exec, Registry.recipients_nameToUid]
  | _ => exact .inl ⟨hsame rfl, by simp, by simp⟩

theorem cached_of_step {s s' : Server} {event : Event}
    (hstep : s.step cfg unpack event = some s') {name : Bytes} {uid : Nat}
    (hcached : s'.hub.reg.cacheLookup name = some uid) :
    (s.hub.reg.cacheLookup name = some uid ∧
      ∀ c env op, event = .advance c env → op ∈ s.pendingOp c →
        (∀ newName id, op ≠ .lock (.cacheRename name newName id)) ∧
        ∀ id, op ≠ .lock (.cacheForget name id)) ∨
    ∃ c env q op, event = .advance c env ∧ s.readers c = .handling q ∧
      q.nextOp = some op ∧ s'.hub.db = s.hub.db ∧
      ((∃ info, q.stage = .authed name info ∧ info.id = uid ∧
          op.cachesId = some uid) ∨
        (q.stage = .found name uid ∧ op.cachesId = some uid) ∨
        ∃ oldName, q.stage = .renamed uid oldName name) := by
  cases stepped_of_step hstep with
  | perform c env q q' op hreader hop hallows hsender hheader hstage =>
      rw [setReader_hub] at hcached ⊢
      rcases exec_nameToUid hallows env s.hub hcached with
        ⟨hold, hkept⟩ | ⟨hdb, hnew⟩
      · refine .inl ⟨hold, ?_⟩
        rintro d env' op' hevent hpending
        cases hevent
        rw [pendingOp_of_handling hreader, hop] at hpending
        cases hpending
        exact hkept
      · exact .inr ⟨c, env, q, op, rfl, hreader, hop, hdb, hnew⟩
  | finish c env q hreader hdone =>
      refine .inl ⟨hcached, ?_⟩
      rintro d env' op' hevent hpending
      cases hevent
      rw [pendingOp_of_handling hreader, hdone.2] at hpending
      cases hpending
  | removeSession c hreader =>
      refine .inl ⟨?_, by simp⟩
      rw [setReader_hub] at hcached
      rwa [Registry.cacheLookup, Hub.removeSession,
        Registry.removeSession_nameToUid] at hcached
  | _ => exact .inl ⟨hcached, by simp⟩

/-! ## Requests which keep apart -/

theorem not_retires_resolved {s : Server} {event : Event}
    (hgood : s.CacheUndisturbed event) {stage : Stage}
    (hstage : stage ∈ s.stages) {uid : Nat}
    (hresolved : stage.resolvedId = some uid) :
    ∀ c env op, event = .advance c env → op ∈ s.pendingOp c →
      op.retiresId ≠ some uid := by
  rintro c env op rfl hop hretires
  exact (hgood (c, env) rfl op hop).2.2.2.1 uid hretires stage hstage
    hresolved

theorem not_retires_maintained {s : Server} {event : Event}
    (hok : s.CacheOk) {d : ConnId} {r : Request}
    (hreader : s.readers d = .handling r) {uid : Nat}
    (hmaintained : r.stage.maintainedId = some uid)
    (hevent : ∀ env, event ≠ .advance d env) :
    ∀ c env op, event = .advance c env → op ∈ s.pendingOp c →
      op.retiresId ≠ some uid := by
  rintro c env op rfl hop hretires
  obtain ⟨q, hreader', hnext⟩ := handling_of_pendingOp hop
  have hsame : c = d := hok.alone c d q r uid hreader' hreader
    (maintainedId_of_retires (Request.allows_of_nextOp hnext) hretires)
    hmaintained
  exact hevent env (hsame ▸ rfl)

theorem cacheFact_of_step {s s' : Server} {event : Event} (hok : s.CacheOk)
    (hgood : s.CacheUndisturbed event)
    (hstep : s.step cfg unpack event = some s') {d : ConnId} {r : Request}
    (hreader : s.readers d = .handling r)
    (hevent : ∀ env, event ≠ .advance d env) : s'.CacheFact r.stage := by
  have hfact := hok.fact d r hreader
  have hmem : r.stage ∈ s.stages :=
    (mem_stages hok.sane).mpr ⟨d, r, hreader, rfl⟩
  cases hstage : r.stage with
  | authed un info =>
      rw [hstage] at hfact hmem
      exact names_of_step hstep hfact (not_retires_resolved hgood hmem rfl)
  | found dst uid =>
      rw [hstage] at hfact hmem
      exact names_of_step hstep hfact (not_retires_resolved hgood hmem rfl)
  | routed dst uid =>
      rw [hstage] at hfact hmem
      exact names_of_step hstep hfact (not_retires_resolved hgood hmem rfl)
  | named uid name =>
      rw [hstage] at hfact
      exact names_of_step hstep hfact
        (not_retires_maintained hok hreader (by rw [hstage]; rfl) hevent)
  | purging uid name todo =>
      rw [hstage] at hfact
      exact names_of_step hstep hfact
        (not_retires_maintained hok hreader (by rw [hstage]; rfl) hevent)
  | renamed uid oldName newName =>
      rw [hstage] at hfact
      exact names_of_step hstep hfact
        (not_retires_maintained hok hreader (by rw [hstage]; rfl) hevent)
  | forgotten uid erased =>
      rw [hstage] at hfact hmem
      intro name hcached
      rcases cached_of_step hstep hcached with ⟨hold, _⟩ |
        ⟨c, env, q, op, rfl, hreader', hop, _, hsource⟩
      · exact hfact name hold
      · have hapart := (hgood (c, env) rfl op
          ((pendingOp_of_handling hreader').trans hop)).2.2
        rcases hsource with ⟨info, _, _, hcaches⟩ | ⟨_, hcaches⟩ |
          ⟨oldName, hrenamed⟩
        · exact hapart.2.2.1 uid hcaches _ hmem rfl
        · exact hapart.2.2.1 uid hcaches _ hmem rfl
        · have hsame : c = d := hok.alone c d q r uid hreader' hreader
            (by rw [hrenamed]; rfl) (by rw [hstage]; rfl)
          exact hevent env (hsame ▸ rfl)
  | _ => trivial

/-! ## The request which moves -/

/-- A lookup finds the account which has the name: nobody looks up an entry
which a rename has made wrong. -/
theorem names_of_lookup {s : Server} {c : ConnId} (hok : s.CacheOk)
    {dst : Bytes} (hapart : s.KeepsApart c (.lock (.cacheLookup dst)))
    {uid : Nat} (hcached : s.hub.reg.cacheLookup dst = some uid) :
    s.hub.db.users.Names uid dst := by
  rcases hok.cached dst uid hcached with hnames |
    ⟨d, r, newName, hreader, hrenamed⟩
  · exact hnames
  · exact absurd rfl (hapart.2.2.2 dst rfl uid hcached _
      ((mem_stages hok.sane).mpr ⟨d, r, hreader, hrenamed⟩))

theorem uncached_of_forget {s s' : Server} {c : ConnId} {env : Env}
    {q : Request} {uid : Nat} {name : Bytes} (hok : s.CacheOk)
    (hstep : s.step cfg unpack (.advance c env) = some s')
    (hreader : s.readers c = .handling q)
    (hstage : q.stage = .purging uid name [])
    (hop : q.nextOp = some (.lock (.cacheForget name uid)))
    (hnames : s.hub.db.users.Names uid name) (other : Bytes) :
    s'.hub.reg.cacheLookup other ≠ some uid := by
  intro hcached
  rcases cached_of_step hstep hcached with ⟨hold, hkept⟩ |
    ⟨d, env', r, op, hevent, hreader', _, _, hsource⟩
  · rcases hok.cached other uid hold with hnames' |
      ⟨d, r, newName, hreader', hrenamed⟩
    · -- the account has one name, and that entry has been erased
      have hsame : name = other := Names.unique hnames hnames'
      subst hsame
      exact (hkept c env _ rfl
        ((pendingOp_of_handling hreader).trans hop)).2 uid rfl
    · have hsame : d = c := hok.alone d c r q uid hreader' hreader
        (by rw [hrenamed]; rfl) (by rw [hstage]; rfl)
      subst hsame
      rw [hreader, ReadLoop.handling.injEq] at hreader'
      rw [← hreader', hstage] at hrenamed
      cases hrenamed
  · cases hevent
    rw [hreader, ReadLoop.handling.injEq] at hreader'
    subst hreader'
    rw [hstage] at hsource
    simp at hsource

theorem cacheFact_next {s s' : Server} {c : ConnId} {env : Env}
    {q : Request} {op : Op} (hok : s.CacheOk)
    (hgood : s.CacheUndisturbed (.advance c env))
    (hstep : s.step cfg unpack (.advance c env) = some s')
    (hreader : s.readers c = .handling q) (hop : q.nextOp = some op)
    (hhub : s'.hub = (op.exec cfg env s.hub).1) :
    s'.CacheFact (q.stage.next op (op.exec cfg env s.hub).2) := by
  have hallows := Request.allows_of_nextOp hop
  have hfact := hok.fact c q hreader
  have hrules := hgood (c, env) rfl op
    ((pendingOp_of_handling hreader).trans hop)
  have hdb : (∀ operation, op ≠ .store operation) →
      s'.hub.db = s.hub.db := by
    intro hstore
    rw [hhub, Op.exec_db _ _ _ _ hstore]
  generalize hstage : q.stage = stage at hallows hfact
  generalize hresult : (op.exec cfg env s.hub).2 = result
  cases hallows with
  | allowIp ip => cases result <;> trivial
  | authenticate un password wantAdmin =>
      cases result with
      | error e => trivial
      | ok info =>
          have hshort : un.length ≤ 511 := by
            simpa [Op.longName] using hrules.1
          obtain ⟨row, hrow, hid, hname, _⟩ :=
            StoreOp.authenticate_row env s.hub.db hresult
          have hnames : s'.hub.db.users.Names info.id un := by
            rw [hhub]
            exact ⟨row, hrow, hid, hname.trans (nameParam_of_le hshort)⟩
          exact hnames
  | lookup dst =>
      cases result with
      | none => trivial
      | some uid =>
          have hnames : s'.hub.db.users.Names uid dst := by
            rw [hdb (by simp)]
            exact names_of_lookup hok hrules.2.2 hresult
          exact hnames
  | ask dst =>
      cases result with
      | none => trivial
      | some uid =>
          have hshort : dst.length ≤ 511 := by
            simpa [Op.longName] using hrules.1
          have hnames : s'.hub.db.users.Names uid dst := by
            have hrow := StoreOp.userId_row env s.hub.db hresult
            rw [nameParam_of_le hshort] at hrow
            rw [hhub]
            exact hrow
          exact hnames
  | remember dst uid =>
      have hnames : s'.hub.db.users.Names uid dst := by
        rw [hdb (by simp)]
        exact hfact
      exact hnames
  | manage operation hordinary =>
      rw [control_next_store]
      trivial
  | nameOf uid =>
      cases result with
      | error e => trivial
      | ok name =>
          have hnames : s'.hub.db.users.Names uid name := by
            rw [hhub]
            exact StoreOp.nameOf_row env s.hub.db hresult
          exact hnames
  | update uid name newName password isAdmin =>
      cases result with
      | some err => trivial
      | none =>
          have hshort : newName.length ≤ 511 := by
            simpa [Op.longName] using hrules.1
          have hnames : s'.hub.db.users.Names uid newName := by
            rcases MysqlStore.adminUpdateUser_of_whole
              (hrules.2.1 _ rfl) with ⟨_, herr⟩ | ⟨_, hnames⟩
            · exact absurd hresult herr
            · rw [nameParam_of_le hshort] at hnames
              rw [hhub]
              exact hnames
          exact hnames
  | condemn uid name =>
      have hnames : s'.hub.db.users.Names uid name := by
        rw [hdb (by simp)]
        exact hfact
      exact hnames
  | purge uid name victim todo userReason logWhy =>
      have hnames : s'.hub.db.users.Names uid name := by
        rw [hdb (by simp)]
        exact hfact
      exact hnames
  | forget uid name =>
      exact uncached_of_forget hok hstep hreader hstage hop hfact
  | delete uid name => cases result <;> trivial
  | reply _ hmay wire htype hseq =>
      rw [Stage.next_sendFrame]
      trivial
  | _ => trivial

theorem maintainedId_of_next {sender : Identity} {seq : UInt32}
    {stage : Stage} {op : Op} (hallows : Allows sender seq stage op)
    {result : op.Res} {uid : Nat}
    (hnext : (stage.next op result).maintainedId = some uid) :
    stage.maintainedId = some uid ∨
      stage = .maintenance ∧ op.namesId = some uid := by
  cases hallows with
  | allowIp ip => cases result <;> cases hnext
  | authenticate un password wantAdmin => cases result <;> cases hnext
  | lookup dst => cases result <;> cases hnext
  | ask dst => cases result <;> cases hnext
  | manage operation hordinary =>
      rw [control_next_store] at hnext
      cases hnext
  | nameOf _ =>
      cases result with
      | error e => cases hnext
      | ok name => exact .inr ⟨rfl, hnext⟩
  | update _ name newName password isAdmin =>
      cases result with
      | none => exact .inl hnext
      | some err => cases hnext
  | delete _ name => cases result <;> cases hnext
  | reply _ hmay wire htype hseq =>
      rw [Stage.next_sendFrame] at hnext
      cases hnext
  | _ => first | exact .inl hnext | cases hnext

theorem cacheFact_of_opening {sender : Identity} {h : Header} {stage : Stage}
    (hopening : Opening sender h stage) (s : Server) :
    s.CacheFact stage := by
  cases hopening <;> trivial

theorem maintained_of_step {s s' : Server} {event : Event}
    (hstep : s.step cfg unpack event = some s') {c : ConnId} {q' : Request}
    (hreader' : s'.readers c = .handling q') {uid : Nat}
    (hmaintained : q'.stage.maintainedId = some uid) :
    (∃ q, s.readers c = .handling q ∧ q.stage.maintainedId = some uid) ∨
    ∃ env op, event = .advance c env ∧ op ∈ s.pendingOp c ∧
      s.stageOf c = some .maintenance ∧ op.namesId = some uid := by
  rcases request_of_step hstep hreader' with ⟨hreader, _⟩ |
    ⟨h, body, _, _, rfl, _⟩ |
    ⟨env, q, op, rfl, hreader, hop, hallows, _, _, hstage, _⟩
  · exact .inl ⟨q', hreader, hmaintained⟩
  · rw [Request.start,
      (initialStage_opening unpack (s.hub.identity c) h body).maintainedId]
      at hmaintained
    cases hmaintained
  · rw [hstage, Request.stageAfter] at hmaintained
    rcases maintainedId_of_next hallows hmaintained with hbefore |
      ⟨hmaintenance, hnames⟩
    · exact .inl ⟨q, hreader, hbefore⟩
    · exact .inr ⟨env, op, rfl, (pendingOp_of_handling hreader).trans hop,
        stageOf_eq_some.mpr ⟨q, hreader, hmaintenance⟩, hnames⟩

theorem alone_of_step {s s' : Server} {event : Event} (hok : s.CacheOk)
    (hgood : s.CacheUndisturbed event)
    (hstep : s.step cfg unpack event = some s') {c d : ConnId}
    {q r : Request} {uid : Nat} (hreader : s'.readers c = .handling q)
    (hreader' : s'.readers d = .handling r)
    (hmaintained : q.stage.maintainedId = some uid)
    (hmaintained' : r.stage.maintainedId = some uid) : c = d := by
  -- a request which has just read the name found no other of the account
  have hnew : ∀ (a : ConnId) (env : Env) (op : Op) (b : ConnId) (p : Request),
      event = .advance a env → op ∈ s.pendingOp a →
      s.stageOf a = some .maintenance → op.namesId = some uid →
      s.readers b = .handling p → p.stage.maintainedId ≠ some uid := by
    rintro a env op b p rfl hop hstage hnames hp hmaintains
    exact (hgood (a, env) rfl op hop).2.2.1 hstage uid hnames p.stage
      ((mem_stages hok.sane).mpr ⟨b, p, hp, rfl⟩) hmaintains
  rcases maintained_of_step hstep hreader hmaintained with
    ⟨q₀, hq₀, hbefore⟩ | ⟨env, op, hevent, hop, hstage, hnames⟩
  · rcases maintained_of_step hstep hreader' hmaintained' with
      ⟨r₀, hr₀, hbefore'⟩ | ⟨env, op, hevent, hop, hstage, hnames⟩
    · exact hok.alone c d q₀ r₀ uid hq₀ hr₀ hbefore hbefore'
    · exact absurd hbefore (hnew d env op c q₀ hevent hop hstage hnames hq₀)
  · rcases maintained_of_step hstep hreader' hmaintained' with
      ⟨r₀, hr₀, hbefore'⟩ | ⟨env', op', hevent', _⟩
    · exact absurd hbefore' (hnew c env op d r₀ hevent hop hstage hnames hr₀)
    · rw [hevent] at hevent'
      cases hevent'
      rfl

/-! ## Cache entries -/

theorem renamed_of_retires {s s' : Server} {c : ConnId} {env : Env} {op : Op}
    (hok : s.CacheOk) (hgood : s.CacheUndisturbed (.advance c env))
    (hstep : s.step cfg unpack (.advance c env) = some s')
    (hop : op ∈ s.pendingOp c) {uid : Nat} {name : Bytes}
    (hretires : op.retiresId = some uid)
    (hcached : s.hub.reg.cacheLookup name = some uid)
    (hnames : s.hub.db.users.Names uid name) :
    s'.hub.db.users.Names uid name ∨
    ∃ q newName, s'.readers c = .handling q ∧
      q.stage = .renamed uid name newName := by
  obtain ⟨q, hreader, hnext⟩ := handling_of_pendingOp hop
  have hfact := hok.fact c q hreader
  have hrules := hgood (c, env) rfl op hop
  have hallows := Request.allows_of_nextOp hnext
  have hmaintained := maintainedId_of_retires hallows hretires
  obtain ⟨q', _, hstage, rfl⟩ := perform_of_nextOp hstep hreader hnext
  rw [Request.stageAfter] at hstage
  generalize q.stage = stage at hallows hfact hstage hmaintained
  cases hallows with
  | update _ oldName newName password isAdmin =>
      cases hretires
      have hsame : oldName = name := Names.unique hfact hnames
      subst hsame
      rw [setReader_hub]
      rcases MysqlStore.adminUpdateUser_of_whole
        (hrules.2.1 _ rfl) with ⟨hunchanged, _⟩ | ⟨hnone, _⟩
      · left
        rw [Op.exec_store_db, StoreOp.exec, hunchanged]
        exact hnames
      · right
        refine ⟨q', newName, setReader_self _ _ _, ?_⟩
        rw [hstage]
        have hresult : ((Op.store (.adminUpdateUser uid (some newName)
            password isAdmin)).exec cfg env s.hub).2 = none := hnone
        rw [hresult]
        rfl
  | delete _ erased =>
      cases hretires
      exact absurd hcached (hfact name)
  | manage operation hordinary => cases hmaintained
  | _ => cases hretires

theorem cached_step {s s' : Server} {event : Event} (hok : s.CacheOk)
    (hgood : s.CacheUndisturbed event)
    (hstep : s.step cfg unpack event = some s') {name : Bytes} {uid : Nat}
    (hcached : s'.hub.reg.cacheLookup name = some uid) :
    s'.hub.db.users.Names uid name ∨
    ∃ c q newName, s'.readers c = .handling q ∧
      q.stage = .renamed uid name newName := by
  rcases cached_of_step hstep hcached with ⟨hold, hkept⟩ |
    ⟨c, env, q, op, rfl, hreader, hop, hdb, hsource⟩
  · rcases hok.cached name uid hold with hnames |
      ⟨d, r, newName, hreader, hrenamed⟩
    · by_cases hretires : ∃ c env op, event = .advance c env ∧
          op ∈ s.pendingOp c ∧ op.retiresId = some uid
      · obtain ⟨c, env, op, rfl, hop, hid⟩ := hretires
        rcases renamed_of_retires hok hgood hstep hop hid hold hnames with
          hnames' | ⟨q, newName, hreader, hrenamed⟩
        · exact .inl hnames'
        · exact .inr ⟨c, q, newName, hreader, hrenamed⟩
      · refine .inl (names_of_step hstep hnames ?_)
        intro c env op hevent hop hid
        exact hretires ⟨c, env, op, hevent, hop, hid⟩
    · refine .inr ⟨d, r, newName,
        handling_of_step hstep hok.sane hreader ?_, hrenamed⟩
      rintro env rfl
      -- the next operation of that rename erases the entry
      obtain ⟨op, r', hop, hallows, _⟩ :=
        perform_of_step hstep hreader (by simp [hrenamed])
      have hnot := (hkept d env op rfl
        ((pendingOp_of_handling hreader).trans hop)).1
      rw [hrenamed] at hallows
      cases hallows with
      | rename _ _ _ => exact hnot newName uid rfl
      | reply _ hmay wire htype hseq => cases hmay
  · have hfact := hok.fact c q hreader
    left
    rw [hdb]
    rcases hsource with ⟨info, hstage, rfl, _⟩ | ⟨hstage, _⟩ |
      ⟨oldName, hstage⟩
    · rw [hstage] at hfact
      exact hfact
    · rw [hstage] at hfact
      exact hfact
    · rw [hstage] at hfact
      exact hfact

theorem cacheOk_initial (db : Db) : (initial db).CacheOk where
  sane := sane_initial db
  fact := by
    intro c q hreader
    cases hreader
  alone := by
    intro c d q r uid hreader
    cases hreader
  cached := by
    intro name uid hcached
    cases hcached

theorem CacheOk.step {s s' : Server} {event : Event} (hok : s.CacheOk)
    (hgood : s.CacheUndisturbed event)
    (hstep : s.step cfg unpack event = some s') : s'.CacheOk where
  sane := hok.sane.step hstep
  fact := by
    intro c q' hreader'
    rcases request_of_step hstep hreader' with ⟨hreader, hevent⟩ |
      ⟨h, body, _, _, rfl, _⟩ |
      ⟨env, q, op, rfl, hreader, hop, _, _, _, hstage, hhub⟩
    · exact cacheFact_of_step hok hgood hstep hreader hevent
    · exact cacheFact_of_opening (initialStage_opening unpack _ h body) s'
    · rw [hstage]
      exact cacheFact_next hok hgood hstep hreader hop hhub
  alone := fun _ _ _ _ _ hreader hreader' hmaintained hmaintained' =>
    alone_of_step hok hgood hstep hreader hreader' hmaintained hmaintained'
  cached := fun _ _ hcached => cached_step hok hgood hstep hcached

/-! ## Coherence -/

theorem CacheOk.coherent {s : Server} (hok : s.CacheOk) (hidle : s.Idle) :
    s.Coherent := by
  intro name uid hcached
  rcases hok.cached name uid hcached with hnames |
    ⟨c, q, newName, hreader, _⟩
  · exact hnames
  · have hmem : q.stage ∈ s.stages :=
      (mem_stages hok.sane).mpr ⟨c, q, hreader, rfl⟩
    rw [hidle] at hmem
    cases hmem

theorem CacheOk.addressedRight {s : Server} (hok : s.CacheOk)
    (hlisted : s.Listed cfg) (event : Event) :
    s.AddressedRight cfg event := by
  rintro ⟨c, env⟩ _ op hop dst haddressee entry hentry
  obtain ⟨q, hreader, hnext⟩ := handling_of_pendingOp hop
  have hallows := Request.allows_of_nextOp hnext
  have hfact := hok.fact c q hreader
  generalize q.stage = stage at hallows hfact
  cases hallows with
  | route _ uid payload =>
      cases haddressee
      simp only [Op.calls, LockOp.exec, List.mem_map] at hentry
      obtain ⟨d, hd, rfl⟩ := hentry
      dsimp only
      rw [hlisted.owner uid d (Registry.recipients_subset hd)]
      exact hfact
  | _ => cases haddressee

/-- The routing cache agrees with the table whenever no request is in
progress, and no message reaches a session of an account with another name,
in every run in which requests for one account keep apart, names fit their
buffers and no update fails half way. -/
theorem cacheCoherent_of_undisturbed (cfg : Config)
    (unpack : Bytes → Option Obj) (db : Db) (events : List Event)
    (hgood : Transition.Along (step cfg unpack) CacheUndisturbed events
      (initial db)) :
    (∀ s, Transition.run (step cfg unpack) events (initial db) = some s →
      s.Idle → s.Coherent) ∧
    Transition.Along (step cfg unpack) (AddressedRight cfg) events
      (initial db) := by
  have hkeep : ∀ (s : Server) (event : Event) (s' : Server),
      s.CacheOk ∧ s.Listed cfg → s.CacheUndisturbed event →
      s.step cfg unpack event = some s' → s'.CacheOk ∧ s'.Listed cfg := by
    rintro s event s' ⟨hok, hlisted⟩ hgood hstep
    exact ⟨hok.step hgood hstep, hlisted.step hok.sane hstep⟩
  have hstart : (initial db).CacheOk ∧ (initial db).Listed cfg :=
    ⟨cacheOk_initial db, listed_initial db⟩
  constructor
  · intro s hrun hidle
    exact (Transition.run_preserves _ hkeep hstart hgood hrun).1.coherent hidle
  · refine Transition.along_of_invariant _ hkeep ?_ hstart hgood
    rintro s event ⟨hok, hlisted⟩ _
    exact hok.addressedRight hlisted event

theorem cacheCoherent_of_undisturbed_renamedRun :
    ∃ s, Transition.run (step forwarderJson unpackFlat) renamedRun
        (initial emptyDb) = some s ∧
      s.hub.reg.cacheLookup (lit "boss") = some 1 ∧ s.Coherent ∧
      Transition.Along (step forwarderJson unpackFlat)
        (AddressedRight forwarderJson) renamedRun (initial emptyDb) := by
  obtain ⟨s, hrun, hidle, hcached⟩ : ∃ s,
      Transition.run (step forwarderJson unpackFlat) renamedRun
        (initial emptyDb) = some s ∧
      s.Idle ∧ s.hub.reg.cacheLookup (lit "boss") = some 1 :=
    Transition.exists_run_of_check (by decide +kernel)
  obtain ⟨hcoherent, haddressed⟩ := cacheCoherent_of_undisturbed
    forwarderJson unpackFlat emptyDb renamedRun
    (Transition.along_of_check (by decide +kernel))
  exact ⟨s, hrun, hcached, hcoherent s hrun hidle, haddressed⟩

/-- The administrator renames his account and gives his present password
again: the `UPDATE` of the password changes no row, and the request fails
after the name has been changed. -/
def halfRenamedRun : List Event :=
  rootLogin ++
    receive 1 kClientControl 2
      [.map 4, .str (lit "action"), .str (lit "user_table_update"),
        .str (lit "id"), .uint 1, .str (lit "username"),
        .str (lit "boss"), .str (lit "password"), .str (lit "pw")] ++
    advances 1 4

/-- The entry of the old name stays, and a message to that name still reaches
the account. -/
theorem not_coherent_halfRenamedRun :
    (∃ s, Transition.run (step forwarderJson unpackFlat) halfRenamedRun
        (initial emptyDb) = some s ∧ s.Idle ∧ ¬s.Coherent) ∧
    (Transition.run (step forwarderJson unpackFlat)
      (halfRenamedRun ++ receive 1 kClientData 3 (dataBody (lit "root")) ++
        advances 1 2) (initial emptyDb)).isSome = true ∧
    ¬Transition.Along (step forwarderJson unpackFlat)
      (AddressedRight forwarderJson)
      (halfRenamedRun ++ receive 1 kClientData 3 (dataBody (lit "root")) ++
        advances 1 2) (initial emptyDb) := by
  refine ⟨?_, by decide +kernel,
    Transition.not_along_of_check (by decide +kernel)⟩
  obtain ⟨s, hrun, hidle, hcached, hnot⟩ : ∃ s,
      Transition.run (step forwarderJson unpackFlat) halfRenamedRun
        (initial emptyDb) = some s ∧
      s.Idle ∧ s.hub.reg.cacheLookup (lit "root") = some 1 ∧
      ¬s.hub.db.users.Names 1 (lit "root") :=
    Transition.exists_run_of_check (by decide +kernel)
  exact ⟨s, hrun, hidle, fun hcoherent => hnot (hcoherent _ 1 hcached)⟩

end Server

end AsioForwarder
