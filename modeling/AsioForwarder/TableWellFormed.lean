import AsioForwarder.FrameRun

/-!
# Rows without a name

An account with an empty name can neither log in nor be addressed, and an
empty address matches no client.  LOGIN, `user_table_add` and `allowlist_add`
test for emptiness before they write; `user_table_update` and
`allowlist_update` do not.  The tables stay well formed in exactly the runs in
which no update writes an empty text over the field of an existing row.
-/

namespace AsioForwarder

/-- No `users.username` and no `ip_allowlist.ip` is empty. -/
def Db.WellFormed (db : Db) : Prop :=
  (∀ row ∈ db.users.rows, row.username ≠ []) ∧
    ∀ row ∈ db.allowlist.rows, row.ip ≠ []

instance (db : Db) : Decidable db.WellFormed :=
  inferInstanceAs (Decidable ((∀ row ∈ db.users.rows, _) ∧
    ∀ row ∈ db.allowlist.rows, _))

/-- The call writes an empty text over the field of an existing row. -/
def StoreOp.Blanks (db : Db) : StoreOp → Prop
  | .adminUpdateUser uid (some []) _ _ => ∃ row ∈ db.users.rows, row.id = uid
  | .adminUpdateAllowlist id [] => ∃ row ∈ db.allowlist.rows, row.id = id
  | _ => False

instance (db : Db) : (operation : StoreOp) → Decidable (operation.Blanks db)
  | .adminUpdateUser _ (some []) _ _ =>
      inferInstanceAs (Decidable (∃ row ∈ db.users.rows, _))
  | .adminUpdateAllowlist _ [] =>
      inferInstanceAs (Decidable (∃ row ∈ db.allowlist.rows, _))
  | .adminUpdateUser _ (some (_ :: _)) _ _ => inferInstanceAs (Decidable False)
  | .adminUpdateUser _ none _ _ => inferInstanceAs (Decidable False)
  | .adminUpdateAllowlist _ (_ :: _) => inferInstanceAs (Decidable False)
  | .ipWhitelisted _ => inferInstanceAs (Decidable False)
  | .authenticateOrRegister _ _ _ => inferInstanceAs (Decidable False)
  | .userIdByUsername _ => inferInstanceAs (Decidable False)
  | .adminListAllowlist => inferInstanceAs (Decidable False)
  | .adminInsertAllowlist _ => inferInstanceAs (Decidable False)
  | .adminDeleteAllowlist _ => inferInstanceAs (Decidable False)
  | .adminListUsers => inferInstanceAs (Decidable False)
  | .adminInsertUser _ _ _ => inferInstanceAs (Decidable False)
  | .adminGetUsernameById _ => inferInstanceAs (Decidable False)
  | .adminDeleteUser _ => inferInstanceAs (Decidable False)

/-- Calls which insert a row insert no empty text. -/
def StoreOp.Filled : StoreOp → Prop
  | .authenticateOrRegister un _ _ => un ≠ []
  | .adminInsertUser un _ _ => un ≠ []
  | .adminInsertAllowlist ip => ip ≠ []
  | _ => True

theorem checkLoginBody_username {mp : ObjMap} {login : LoginBody}
    (hbody : checkLoginBody mp = .ok login) : login.username ≠ [] := by
  unfold checkLoginBody at hbody
  split at hbody
  · cases hbody
  · cases hbody
  · rename_i un hne _
    split at hbody
    · cases hbody
    split at hbody
    · cases hbody
    split at hbody
    · cases hbody
    split at hbody
    · cases hbody
    split at hbody
    · cases hbody
    · cases hbody
      exact hne

theorem AsksFrame.filled {unpack : Bytes → Option Obj} {sender : Identity}
    {h : Header} {body : Bytes} {learned : Learned} {operation : StoreOp}
    (hasks : AsksFrame unpack sender h body learned (.store operation)) :
    operation.Filled := by
  cases hasks with
  | ask mp _ _ hbody hasks =>
      cases hasks with
      | allowIp ip => trivial
      | authenticate login hlogin => exact checkLoginBody_username hlogin
      | ask dst hdst => trivial
      | manage _ hchecked =>
          cases operation with
          | adminInsertAllowlist ip => exact hchecked
          | adminInsertUser un pw isAdmin => exact hchecked.1
          | authenticateOrRegister un pw wantAdmin => cases hchecked
          | _ => trivial

/-! ## One store call -/

section OneCall

open MysqlStore

theorem nameParam_ne_nil {name : Bytes} (hne : name ≠ []) :
    nameParam name ≠ [] := by
  simp [nameParam, hne]

theorem ipParam_ne_nil {ip : Bytes} (hne : ip ≠ []) : ipParam ip ≠ [] := by
  simp [ipParam, hne]

theorem UsersEffect.filled {t t' : UsersTable} {operation : StoreOp}
    (heffect : UsersEffect t operation t') (hfilled : operation.Filled)
    (hnames : ∀ row ∈ t.rows, row.username ≠ [])
    (hupdate : ∀ uid password isAdmin,
      operation = .adminUpdateUser uid (some []) password isAdmin →
      ∀ row ∈ t.rows, row.id ≠ uid) :
    ∀ row ∈ t'.rows, row.username ≠ [] := by
  intro row hrow
  cases heffect with
  | same _ => exact hnames row hrow
  | registered un password wantAdmin _ uid hinsert =>
      rw [(UsersTable.insert_eq_some hinsert).1, List.mem_append,
        List.mem_singleton] at hrow
      rcases hrow with hold | rfl
      · exact hnames row hold
      · exact nameParam_ne_nil hfilled
  | added un password isAdmin _ uid hinsert =>
      rw [(UsersTable.insert_eq_some hinsert).1, List.mem_append,
        List.mem_singleton] at hrow
      rcases hrow with hold | rfl
      · exact hnames row hold
      · exact nameParam_ne_nil hfilled
  | updated uid newUsername newPassword newIsAdmin change _ hchange hedited =>
      rw [hedited.2, List.mem_map] at hrow
      obtain ⟨old, hold, rfl⟩ := hrow
      split
      · rename_i hid
        rcases hchange.username old with hsame | ⟨name, rfl, hnew⟩
        · rw [hsame]
          exact hnames old hold
        · rw [hnew]
          refine nameParam_ne_nil ?_
          rintro rfl
          exact hupdate uid newPassword newIsAdmin rfl old hold hid
      · exact hnames old hold
  | deleted uid => exact hnames row (List.mem_filter.mp hrow).1

theorem runGiven_keepsName {α : Type} (uid : Nat) (fault : Option Bytes)
    (field : Option α)
    (statement : α → UsersTable → Option (UsersTable × Nat))
    (newIsAdmin : Option Bool) {t : UsersTable} {name : Bytes}
    (hstatement : ∀ value t' count, field = some value →
      statement value t = some (t', count) →
      ∃ change, UpdateChange none newIsAdmin change ∧ t.Edited uid change t')
    (hnamed : ∃ row ∈ t.rows, row.username = name) :
    ∃ row ∈ (runGiven fault field statement t).1.rows,
      row.username = name := by
  obtain ⟨row, hrow, hname⟩ := hnamed
  obtain ⟨change, hchange, hedited⟩ := runGiven_edited uid none newIsAdmin
    fault field statement t hstatement
  refine ⟨_, hedited.mem hrow, ?_⟩
  split
  · rcases hchange.username row with hsame | ⟨_, hnone, _⟩
    · rw [hsame, hname]
    · cases hnone
  · exact hname

theorem adminUpdateUser_blank {fault : Nat → Option Bytes} {uid : Nat}
    {password : Option Bytes} {isAdmin : Option Bool} {t : UsersTable}
    (hfault : fault 0 = none) (hnames : ∀ row ∈ t.rows, row.username ≠ [])
    (hrow : ∃ row ∈ t.rows, row.id = uid) :
    ∃ row ∈ (adminUpdateUser fault uid (some []) password isAdmin t).1.rows,
      row.username = [] := by
  obtain ⟨row, hmem, hid⟩ := hrow
  have hnew : ([] : Bytes) ∉ t.rows.map UserRow.username := by
    intro hempty
    obtain ⟨other, hother, heq⟩ := List.mem_map.mp hempty
    exact hnames other hother heq
  rcases runOne_setUsername (fault 0) uid [] t with ⟨e, hfirst⟩ |
    ⟨_, _, t₁, old, hfirst, _, _, hold⟩
  · -- with the row there and the empty name unused, the statement succeeds
    simp [hfault, runOne, UsersTable.setUsername,
      UsersTable.selectById_of_mem hmem hid, hnames row hmem, hnew] at hfirst
  · have hnamed : ∃ row ∈ t₁.rows, row.username = [] :=
      ⟨_, hold, rfl⟩
    have hgiven : runGiven (fault 0) (some [])
        (fun name => UsersTable.setUsername uid (nameParam name)) t =
          (t₁, none) := hfirst
    simp only [adminUpdateUser, Option.isNone_some, Bool.false_and,
      Bool.false_eq_true, if_false, hgiven]
    have hsecond := runGiven_keepsName uid (fault 1) password
      (fun password => UsersTable.setPassword uid (passwordParam password))
      isAdmin (fun _ _ _ _ hset => setPassword_updateChange hset) hnamed
    split
    · rename_i t₂ e hrun
      rw [hrun] at hsecond
      exact hsecond
    · rename_i t₂ hrun
      rw [hrun] at hsecond
      refine runGiven_keepsName uid (fault 2) isAdmin
        (UsersTable.setIsAdmin uid) isAdmin ?_ hsecond
      intro value t' count hvalue hset
      subst hvalue
      exact setIsAdmin_updateChange hset

/-! ### The allowlist -/

theorem IpTable.insert_rows {t t' : IpTable} {ip : Bytes}
    (hinsert : t.insert ip = some t') :
    t'.rows = t.rows ++ [⟨t.nextId, ip⟩] := by
  unfold IpTable.insert at hinsert
  split at hinsert
  · cases hinsert
  · cases hinsert
    rfl

theorem IpTable.setIp_mem {t t' : IpTable} {id count : Nat} {ip : Bytes}
    (hset : t.setIp id ip = some (t', count)) {row : IpRow}
    (hrow : row ∈ t'.rows) :
    row ∈ t.rows ∨ row.ip = ip ∧ ∃ old ∈ t.rows, old.id = id := by
  unfold IpTable.setIp at hset
  split at hset
  · cases hset
    exact .inl hrow
  · split at hset
    · cases hset
      exact .inl hrow
    · split at hset
      · cases hset
      · cases hset
        obtain ⟨old, hold, rfl⟩ := List.mem_map.mp hrow
        split
        · rename_i hid
          exact .inr ⟨rfl, old, hold, hid⟩
        · exact .inl hold

theorem IpTable.setIp_blank {t : IpTable} {id : Nat}
    (hips : ∀ row ∈ t.rows, row.ip ≠ [])
    (hrow : ∃ row ∈ t.rows, row.id = id) :
    ∃ t', t.setIp id [] = some (t', 1) ∧ ∃ row ∈ t'.rows, row.ip = [] := by
  obtain ⟨row, hmem, hid⟩ := hrow
  have hnew : t.contains [] = false := by
    simp only [IpTable.contains, List.any_eq_false, decide_eq_true_eq]
    exact hips
  unfold IpTable.setIp
  cases hfind : t.rows.find? (fun row => row.id = id) with
  | none =>
      have hnone := List.find?_eq_none.mp hfind row hmem
      simp [hid] at hnone
  | some old =>
      have hold := List.mem_of_find?_eq_some hfind
      have hid' : old.id = id := by simpa using List.find?_some hfind
      simp only [if_neg (hips old hold), hnew, Bool.false_eq_true, if_false]
      refine ⟨_, rfl, { old with ip := [] }, ?_, rfl⟩
      exact List.mem_map.mpr ⟨old, hold, if_pos hid'⟩

theorem StoreOp.allowlist_mem (env : Env) (db : Db) (operation : StoreOp)
    {row : IpRow} (hrow : row ∈ (operation.exec env db).1.allowlist.rows) :
    row ∈ db.allowlist.rows ∨
    (∃ ip, operation = .adminInsertAllowlist ip ∧ row.ip = ipParam ip) ∨
    (∃ id ip, operation = .adminUpdateAllowlist id ip ∧
      env.fault 0 = none ∧ row.ip = ipParam ip ∧
      ∃ old ∈ db.allowlist.rows, old.id = id) := by
  cases operation with
  | adminInsertAllowlist ip =>
      simp only [StoreOp.exec, MysqlStore.adminInsertAllowlist] at hrow
      split at hrow
      · exact .inl hrow
      · split at hrow
        · exact .inl hrow
        · rename_i t' hinsert
          rw [IpTable.insert_rows hinsert, List.mem_append,
            List.mem_singleton] at hrow
          rcases hrow with hold | rfl
          · exact .inl hold
          · exact .inr (.inl ⟨ip, rfl, rfl⟩)
  | adminUpdateAllowlist id ip =>
      simp only [StoreOp.exec, MysqlStore.adminUpdateAllowlist] at hrow
      split at hrow
      · exact .inl hrow
      · rename_i hfault
        split at hrow
        · exact .inl hrow
        all_goals
          rename_i hset
          rcases IpTable.setIp_mem hset hrow with hold | ⟨hip, hold⟩
          · exact .inl hold
          · exact .inr (.inr ⟨id, ip, rfl, hfault, hip, hold⟩)
  | adminDeleteAllowlist id =>
      left
      simp only [StoreOp.exec, MysqlStore.adminDeleteAllowlist] at hrow
      split at hrow
      · exact hrow
      · split at hrow
        all_goals
          rename_i hdelete
          rw [← congrArg Prod.fst hdelete] at hrow
          exact List.mem_of_mem_filter hrow
  | _ => exact .inl hrow

theorem adminUpdateUser_fault {fault : Nat → Option Bytes} {e : Bytes}
    (hfault : fault 0 = some e) (uid : Nat) (name : Bytes)
    (password : Option Bytes) (isAdmin : Option Bool) (t : UsersTable) :
    (adminUpdateUser fault uid (some name) password isAdmin t).1 = t := by
  simp [adminUpdateUser, runGiven, runOne, hfault]

theorem StoreOp.names_filled (env : Env) {db : Db} {operation : StoreOp}
    (hfilled : operation.Filled) (hdb : db.WellFormed)
    (hkeeps : env.fault 0 = none → ¬operation.Blanks db) :
    ∀ row ∈ (operation.exec env db).1.users.rows, row.username ≠ [] := by
  cases hfault : env.fault 0 with
  | none =>
      refine (operation.usersEffect env db).filled hfilled hdb.1 ?_
      intro uid password isAdmin hop row hrow hid
      subst hop
      exact hkeeps hfault ⟨row, hrow, hid⟩
  | some e =>
      by_cases hblank : ∃ uid password isAdmin,
          operation = .adminUpdateUser uid (some []) password isAdmin
      · obtain ⟨uid, password, isAdmin, rfl⟩ := hblank
        simp only [StoreOp.exec, adminUpdateUser_fault hfault]
        exact hdb.1
      · refine (operation.usersEffect env db).filled hfilled hdb.1 ?_
        intro uid password isAdmin hop
        exact absurd ⟨uid, password, isAdmin, hop⟩ hblank

theorem StoreOp.ips_filled (env : Env) {db : Db} {operation : StoreOp}
    (hfilled : operation.Filled) (hdb : db.WellFormed)
    (hkeeps : env.fault 0 = none → ¬operation.Blanks db) :
    ∀ row ∈ (operation.exec env db).1.allowlist.rows, row.ip ≠ [] := by
  intro row hrow
  rcases operation.allowlist_mem env db hrow with hold | ⟨ip, rfl, hip⟩ |
    ⟨id, ip, rfl, hfault, hip, hold⟩
  · exact hdb.2 row hold
  · rw [hip]
    exact ipParam_ne_nil hfilled
  · rw [hip]
    refine ipParam_ne_nil ?_
    intro hempty
    subst hempty
    exact hkeeps hfault hold

/-- A store call keeps the tables well formed exactly when it does not write
an empty text over a field. -/
theorem StoreOp.wellFormed_iff (env : Env) {db : Db} {operation : StoreOp}
    (hfilled : operation.Filled) (hdb : db.WellFormed) :
    (operation.exec env db).1.WellFormed ↔
      (env.fault 0 = none → ¬operation.Blanks db) := by
  constructor
  · intro hafter hfault hblanks
    unfold StoreOp.Blanks at hblanks
    split at hblanks
    · obtain ⟨row, hrow, hempty⟩ :=
        adminUpdateUser_blank hfault hdb.1 hblanks
      exact hafter.1 row hrow hempty
    · obtain ⟨t', hset, row, hrow, hempty⟩ :=
        IpTable.setIp_blank hdb.2 hblanks
      refine hafter.2 row ?_ hempty
      simpa [StoreOp.exec, MysqlStore.adminUpdateAllowlist, hfault, ipParam,
        hset] using hrow
    · exact hblanks
  · intro hkeeps
    exact ⟨StoreOp.names_filled env hfilled hdb hkeeps,
      StoreOp.ips_filled env hfilled hdb hkeeps⟩

end OneCall

/-! ## Runs -/

namespace Server

variable {cfg : Config} {unpack : Bytes → Option Obj}

/-- The step is no update, by a statement which is executed, of an existing
row's name or address to the empty text. -/
def FieldsKept (s : Server) (event : Event) : Prop :=
  ∀ acting ∈ event.advance?, acting.2.fault 0 = none →
    ∀ operation ∈ s.pendingStore acting.1, ¬operation.Blanks s.hub.db

instance (s : Server) (event : Event) : Decidable (s.FieldsKept event) :=
  inferInstanceAs (Decidable (∀ acting ∈ event.advance?, _ → _))

theorem pendingStore_eq_some {s : Server} {c : ConnId}
    {operation : StoreOp} :
    operation ∈ s.pendingStore c ↔
      ∃ q, s.readers c = .handling q ∧
        q.nextOp = some (.store operation) := by
  constructor
  · intro hpending
    unfold pendingStore at hpending
    split at hpending
    · rename_i other hop
      cases hpending
      exact handling_of_pendingOp hop
    · cases hpending
  · rintro ⟨q, hreader, hop⟩
    exact pendingStore_of_handling hreader hop

/-- One step keeps the tables well formed exactly when it keeps the
fields. -/
theorem wellFormed_of_step {s s' : Server} {event : Event}
    (hasked : s.Asked unpack) (hdb : s.hub.db.WellFormed)
    (hstep : s.step cfg unpack event = some s') :
    s'.hub.db.WellFormed ↔ s.FieldsKept event := by
  by_cases hstore : ∃ c env operation, event = .advance c env ∧
      operation ∈ s.pendingStore c
  · obtain ⟨c, env, operation, rfl, hpending⟩ := hstore
    obtain ⟨q, hreader, hop⟩ := pendingStore_eq_some.mp hpending
    obtain ⟨q', _, _, rfl⟩ := perform_of_nextOp hstep hreader hop
    obtain ⟨body, learned, hasks, _⟩ := hasked.asks hreader hop
    rw [setReader_hub, Op.exec_store_db,
      StoreOp.wellFormed_iff env hasks.filled hdb]
    constructor
    · intro hkeeps acting hacting hfault other hother
      cases hacting
      rw [Option.mem_unique hother hpending]
      exact hkeeps hfault
    · intro hkept hfault
      exact hkept (c, env) rfl hfault operation hpending
  · have hkept : s.FieldsKept event := by
      intro acting hacting _ operation hpending
      cases event with
      | advance c env =>
          cases hacting
          exact absurd ⟨c, env, operation, rfl, hpending⟩ hstore
      | _ => cases hacting
    have hsame : s'.hub.db = s.hub.db := by
      rcases db_of_step hstep with hsame |
        ⟨c, env, q, operation, rfl, hreader, hop, _⟩
      · exact hsame
      · exact absurd ⟨c, env, operation, rfl,
          pendingStore_of_handling hreader hop⟩ hstore
    rw [hsame]
    exact ⟨fun _ => hkept, fun _ => hdb⟩

/-- Started on well-formed tables, a run has well-formed tables in every
state exactly when none of its steps updates the name or the address of an
existing row to the empty text. -/
theorem wellFormed_iff_fieldsKept (cfg : Config)
    (unpack : Bytes → Option Obj) (db : Db) (hdb : db.WellFormed)
    (events : List Event) (s : Server)
    (hrun : Transition.run (step cfg unpack) events (initial db) = some s) :
    (∀ earlier reached, earlier <+: events →
      Transition.run (step cfg unpack) earlier (initial db) = some reached →
      reached.hub.db.WellFormed) ↔
    Transition.Along (step cfg unpack) FieldsKept events (initial db) :=
  Transition.forall_reached_iff_along (fun s => s.Asked unpack)
    (fun s => s.hub.db.WellFormed)
    (fun _ _ _ hasked hstep => hasked.step hstep)
    (fun _ _ _ hasked hbefore hstep =>
      wellFormed_of_step hasked hbefore hstep)
    (carries_initial db _) hdb hrun

/-- The administrator renames account 1 with the given text and moves the
admitted address 1 to another text. -/
def updateFieldsRun (name ip : Bytes) : List Event :=
  rootLogin ++
    receive 1 kClientControl 2
      [.map 3, .str (lit "action"), .str (lit "user_table_update"),
        .str (lit "id"), .uint 1, .str (lit "username"), .str name] ++
    advances 1 5 ++
    receive 1 kClientControl 3
      [.map 3, .str (lit "action"), .str (lit "allowlist_update"),
        .str (lit "id"), .uint 1, .str (lit "ip"), .str ip] ++
    advances 1 3

theorem wellFormed_iff_fieldsKept_updateFieldsRun :
    ∃ s, Transition.run (step forwarderJson unpackFlat)
        (updateFieldsRun (lit "boss") (lit "10.0.0.2")) (initial emptyDb) =
          some s ∧
      s.hub.db.users.rows = [⟨1, lit "boss", lit "pw", true⟩] ∧
      s.hub.db.allowlist.rows = [⟨1, lit "10.0.0.2"⟩] ∧
      s.hub.db.WellFormed := by
  obtain ⟨s, hrun, hrows⟩ : ∃ s,
      Transition.run (step forwarderJson unpackFlat)
        (updateFieldsRun (lit "boss") (lit "10.0.0.2")) (initial emptyDb) =
          some s ∧
      s.hub.db.users.rows = [⟨1, lit "boss", lit "pw", true⟩] ∧
      s.hub.db.allowlist.rows = [⟨1, lit "10.0.0.2"⟩] :=
    Transition.exists_run_of_check (by decide +kernel)
  exact ⟨s, hrun, hrows.1, hrows.2,
    (wellFormed_iff_fieldsKept forwarderJson unpackFlat emptyDb (by decide)
      _ s hrun).mpr (Transition.along_of_check (by decide +kernel)) _ s
      (List.prefix_refl _) hrun⟩

/-- Both updates accept the empty text. -/
theorem not_wellFormed_updateFieldsRun :
    emptyDb.WellFormed ∧
    ∃ s, Transition.run (step forwarderJson unpackFlat)
        (updateFieldsRun [] []) (initial emptyDb) = some s ∧
      s.hub.db.users.rows = [⟨1, [], lit "pw", true⟩] ∧
      s.hub.db.allowlist.rows = [⟨1, []⟩] ∧ ¬s.hub.db.WellFormed :=
  ⟨by decide, Transition.exists_run_of_check (by decide +kernel)⟩

end Server

end AsioForwarder
