import AsioForwarder.HandleFrame
import AsioForwarder.ReplyDecoding
import AsioForwarder.UserUpdate
import Mathlib.Data.List.TakeDrop

/-!
# `user_table_update`

The handler of this action with nothing in between.  It refuses a request
before it calls `admin_update_user`, or it `Reaches` that call; what happens
then depends on which of the statements take effect.  `admin_update_user`
has no transaction, so a request fails as a whole only if its first statement
does.
-/

namespace AsioForwarder

open Interaction

/-- A handler which runs with nothing in between; `envs n` is what the outside
contributes to its `n`-th operation. -/
def Frame.alone {α : Type} (cfg : Config) :
    Frame α → (Nat → Env) → Hub → Hub
  | .ret _, _, hub => hub
  | .op operation rest, envs, hub =>
      Frame.alone cfg (rest (operation.exec cfg (envs 0) hub).2)
        (fun n => envs (n + 1)) (operation.exec cfg (envs 0) hub).1

theorem Frame.alone_store {α : Type} (cfg : Config) (operation : StoreOp)
    (next : operation.Res → Frame α) (envs : Nat → Env) (hub : Hub) :
    Frame.alone cfg (Frame.store operation >>= next) envs hub =
      Frame.alone cfg (next (Op.exec cfg (envs 0) hub (.store operation)).2)
        (fun n => envs (n + 1))
        (Op.exec cfg (envs 0) hub (.store operation)).1 := rfl

/-- The frame passed to `c` between the two states, read as a reply. -/
def RepliesWith (c : ConnId) (hub hub' : Hub) (ok : Bool) : Prop :=
  ∃ wire reply, hub'.calls = hub.calls ++ [(c, .sendFrame wire)] ∧
    RelayClient.eventOfWire wire = some (.serverReply reply) ∧ reply.ok = ok

theorem repliesWith_iff {c : ConnId} {hub hub' : Hub} {wire : Wire}
    {reply : ServerReply}
    (hcalls : hub'.calls = hub.calls ++ [(c, .sendFrame wire)])
    (hreads : RelayClient.eventOfWire wire = some (.serverReply reply))
    (ok : Bool) : RepliesWith c hub hub' ok ↔ reply.ok = ok := by
  constructor
  · rintro ⟨other, reply', hcalls', hreads', hok⟩
    rw [hcalls, List.append_cancel_left_eq, List.cons.injEq, Prod.mk.injEq,
      Call.sendFrame.injEq] at hcalls'
    rw [← hcalls'.1.2, hreads, Option.some.injEq, SdkEvent.serverReply.injEq]
      at hreads'
    rw [hreads']
    exact hok
  · exact fun hok => ⟨wire, reply, hcalls, hreads, hok⟩

/-! ## The values of a request -/

/-- The values under a key, in the order of the body. -/
def valuesUnder : ObjMap → Bytes → List Obj
  | [], _ => []
  | (.str k, v) :: rest, key =>
      if k = key then v :: valuesUnder rest key else valuesUnder rest key
  | _ :: rest, key => valuesUnder rest key

def Obj.asText (bound : Nat) : Obj → Option Bytes
  | .str text => if text.length ≤ bound then some text else none
  | _ => none

def Obj.asBoolean : Obj → Option Bool
  | .boolean value => some value
  | _ => none

/-- The first text of at most `bound` bytes under a key. -/
def firstText (bound : Nat) (mp : ObjMap) (key : Bytes) : Option Bytes :=
  (valuesUnder mp key).findSome? (Obj.asText bound)

def firstBoolean (mp : ObjMap) (key : Bytes) : Option Bool :=
  (valuesUnder mp key).findSome? Obj.asBoolean

theorem mapHasKey_eq_false_iff (mp : ObjMap) (key : Bytes) :
    mapHasKey mp key = false ↔ valuesUnder mp key = [] := by
  induction mp with
  | nil => simp [mapHasKey, valuesUnder]
  | cons entry rest ih =>
      obtain ⟨k, v⟩ := entry
      cases k with
      | str k =>
          by_cases hkey : k = key
          · simp [mapHasKey, valuesUnder, hkey]
          · simpa [mapHasKey, valuesUnder, hkey] using ih
      | _ => simpa [mapHasKey, valuesUnder] using ih

theorem mapGetBool_eq (mp : ObjMap) (key : Bytes) (default : Bool) :
    mapGetBool mp key default = (firstBoolean mp key).getD default := by
  unfold firstBoolean
  induction mp with
  | nil => rfl
  | cons entry rest ih =>
      obtain ⟨k, v⟩ := entry
      cases k with
      | str k =>
          by_cases hkey : k = key
          · cases v <;>
              simp [mapGetBool, valuesUnder, hkey, Obj.asBoolean, ih,
                List.findSome?_cons]
          · cases v <;> simp [mapGetBool, valuesUnder, hkey, ih]
      | _ => simp [mapGetBool, valuesUnder, ih]

def Obj.asAnyText : Obj → Option Bytes
  | .str text => some text
  | _ => none

theorem mapGetStr_eq (mp : ObjMap) (key : Bytes) :
    mapGetStr mp key = (valuesUnder mp key).findSome? Obj.asAnyText := by
  induction mp with
  | nil => rfl
  | cons entry rest ih =>
      obtain ⟨k, v⟩ := entry
      cases k with
      | str k =>
          by_cases hkey : k = key
          · cases v <;>
              simp [mapGetStr, valuesUnder, hkey, Obj.asAnyText, ih,
                List.findSome?_cons]
          · cases v <;> simp [mapGetStr, valuesUnder, hkey, ih]
      | _ => simp [mapGetStr, valuesUnder, ih]

theorem updateField_eq_ok {mp : ObjMap} {key : Bytes} {field : Option Bytes}
    (hfield : updateField mp key = .ok field) :
    field = mapGetStr mp key ∧
      (field = none → valuesUnder mp key = []) := by
  unfold updateField at hfield
  split at hfield
  · split at hfield
    · cases hfield
    · rename_i v hget
      cases hfield
      exact ⟨hget.symm, fun hnone => by cases hnone⟩
  · rename_i hkey
    cases hfield
    have hvalues := (mapHasKey_eq_false_iff mp key).mp (by simpa using hkey)
    refine ⟨?_, fun _ => hvalues⟩
    rw [mapGetStr_eq, hvalues]
    rfl

theorem updateIsAdmin_eq_none_iff (mp : ObjMap) :
    updateIsAdmin mp = none ↔ valuesUnder mp (lit "is_admin") = [] := by
  rw [← mapHasKey_eq_false_iff, updateIsAdmin]
  split
  · rename_i hkey
    simp [hkey]
  · rename_i hkey
    simpa using hkey

theorem updateIsAdmin_of_firstBoolean {mp : ObjMap} {value : Bool}
    (hvalue : firstBoolean mp (lit "is_admin") = some value) :
    updateIsAdmin mp = some value := by
  have hkey : mapHasKey mp (lit "is_admin") = true := by
    by_contra hkey
    have hvalues :=
      (mapHasKey_eq_false_iff mp (lit "is_admin")).mp (by simpa using hkey)
    rw [firstBoolean, hvalues] at hvalue
    cases hvalue
  rw [updateIsAdmin, if_pos hkey, mapGetBool_eq, hvalue, Option.getD_some]

namespace UserTableUpdate

/-! ## The handler -/

def handled (cfg : Config) (envs : Nat → Env) (sender : Identity)
    (seq : UInt32) (mp : ObjMap) (hub : Hub) : Hub :=
  Frame.alone cfg (userTableUpdate sender seq mp) envs hub

/-- The request gets as far as `admin_update_user`: it names an account whose
name can be read, and its text fields are texts. -/
structure Reaches (envs : Nat → Env) (mp : ObjMap) (hub : Hub) (uid : Nat)
    (row : UserRow) (fields : UserFields) : Prop where
  id : mapGetU64 mp (lit "id") = some uid
  mem : row ∈ hub.db.users.rows
  row_id : row.id = uid
  selected : (envs 0).fault 0 = none
  short : row.username.length ≤ 512
  username : updateField mp (lit "username") = .ok fields.username
  password : updateField mp (lit "password") = .ok fields.password
  isAdmin : fields.isAdmin = updateIsAdmin mp

/-- Nothing but a refusal has happened. -/
structure Refused (sender : Identity) (seq : UInt32) (hub hub' : Hub) :
    Prop where
  db : hub'.db = hub.db
  reg : hub'.reg = hub.reg
  replied : ∃ code message, hub'.calls = hub.calls ++
    [(sender.connId, .sendFrame (errReplyWire seq code message))]

/-- What a request which gets as far as `admin_update_user` leaves. -/
structure Performed (sender : Identity) (seq : UInt32)
    (hub : Hub) (uid : Nat) (row : UserRow) (fields : UserFields)
    (outcome : UserRow × Option Bytes) (hub' : Hub) : Prop where
  users : hub.db.users.Holds uid outcome.1 hub'.db.users
  failed : ∀ e, outcome.2 = some e → hub'.reg = hub.reg ∧
    hub'.calls = hub.calls ++
      [(sender.connId, .sendFrame (errReplyWire seq kProtocol e))]
  succeeded : outcome.2 = none →
    hub'.reg = (match fields.username with
      | none => hub.reg
      | some name => hub.reg.cacheRename row.username name uid) ∧
    hub'.calls = hub.calls ++
      [(sender.connId, .sendFrame (okReplyWire seq (lit "CONTROL")))]

section Handled

variable {cfg : Config} {envs : Nat → Env} {sender : Identity} {seq : UInt32}
  {mp : ObjMap} {hub : Hub}

theorem refused_sendErrReply (envs : Nat → Env) (code : Nat)
    (message : Bytes) :
    Refused sender seq hub
      (Frame.alone cfg (sendErrReply sender seq code message) envs hub) :=
  ⟨rfl, rfl, code, message, rfl⟩

theorem adminGetUsernameById_ok {fault : Nat → Option Bytes} {uid : Nat}
    {t : UsersTable} {name : Bytes}
    (hget : MysqlStore.adminGetUsernameById fault uid t = .ok name) :
    fault 0 = none ∧ ∃ row ∈ t.rows, row.id = uid ∧ row.username = name ∧
      row.username.length ≤ 512 := by
  unfold MysqlStore.adminGetUsernameById at hget
  split at hget
  · cases hget
  rename_i hfault
  refine ⟨hfault, ?_⟩
  split at hget
  · cases hget
  rename_i row hselect
  obtain ⟨hmem, hid⟩ := UsersTable.selectById_eq_some hselect
  split at hget
  · cases hget
  rename_i hshort
  cases hget
  exact ⟨row, hmem, hid, rfl, Nat.le_of_not_lt hshort⟩

theorem performed_applyUserUpdate (envs : Nat → Env) {uid : Nat} {row : UserRow}
    (hmem : row ∈ hub.db.users.rows) (hid : row.id = uid)
    (fields : UserFields) :
    Performed sender seq hub uid row fields
      (MysqlStore.updateFields (envs 0).fault
        (hub.db.users.rows.map UserRow.username) fields row)
      (Frame.alone cfg (applyUserUpdate sender seq uid row.username
        fields.username fields.password fields.isAdmin) envs hub) := by
  obtain ⟨t', hupdate, hholds⟩ := MysqlStore.adminUpdateUser_row hmem hid
    (envs 0).fault fields
  have hexec : Op.exec cfg (envs 0) hub (.store (.adminUpdateUser uid
      fields.username fields.password fields.isAdmin)) =
        ({ hub with db := { hub.db with users := t' } },
          (MysqlStore.updateFields (envs 0).fault
            (hub.db.users.rows.map UserRow.username) fields row).2) := by
    simp only [Op.exec, StoreOp.exec, hupdate]
  unfold applyUserUpdate
  rw [Frame.alone_store, hexec]
  generalize MysqlStore.updateFields (envs 0).fault
    (hub.db.users.rows.map UserRow.username) fields row = outcome
    at hholds ⊢
  obtain ⟨row', err⟩ := outcome
  cases err with
  | some e =>
      refine ⟨hholds, fun message hmessage => ?_, fun hnone => by cases hnone⟩
      cases hmessage
      exact ⟨rfl, rfl⟩
  | none =>
      cases husername : fields.username with
      | none =>
          refine ⟨hholds, fun e he => (by cases he), fun _ => ?_⟩
          rw [husername]
          exact ⟨rfl, rfl⟩
      | some name =>
          refine ⟨hholds, fun e he => (by cases he), fun _ => ?_⟩
          rw [husername]
          exact ⟨rfl, rfl⟩

theorem Reaches.get {uid : Nat} {row : UserRow} {fields : UserFields}
    (hreaches : Reaches envs mp hub uid row fields) :
    MysqlStore.adminGetUsernameById (envs 0).fault uid hub.db.users =
      .ok row.username := by
  have hselect := UsersTable.selectById_of_mem hreaches.mem hreaches.row_id
  have hshort := hreaches.short
  simp only [MysqlStore.adminGetUsernameById, hreaches.selected, hselect]
  rw [if_neg (by omega)]

theorem handled_cases (cfg : Config) (envs : Nat → Env) (sender : Identity)
    (seq : UInt32) (mp : ObjMap) (hub : Hub) :
    (Refused sender seq hub (handled cfg envs sender seq mp hub) ∧
      ∀ uid row fields, ¬Reaches envs mp hub uid row fields) ∨
    ∃ uid row fields, Reaches envs mp hub uid row fields ∧
      Performed sender seq hub uid row fields
        (MysqlStore.updateFields (envs 1).fault
          (hub.db.users.rows.map UserRow.username) fields row)
        (handled cfg envs sender seq mp hub) := by
  unfold handled userTableUpdate
  cases hid : mapGetU64 mp (lit "id") with
  | none =>
      left
      refine ⟨refused_sendErrReply envs _ _, fun uid row fields hreaches => ?_⟩
      have hsome := hid.symm.trans hreaches.id
      cases hsome
  | some uid =>
  rw [Frame.alone_store]
  simp only [Op.exec, StoreOp.exec]
  cases hget : MysqlStore.adminGetUsernameById (envs 0).fault uid
      hub.db.users with
  | error e =>
      left
      refine ⟨refused_sendErrReply _ _ _, fun uid' row fields hreaches => ?_⟩
      have huid := hid.symm.trans hreaches.id
      cases huid
      have hok := hget.symm.trans hreaches.get
      cases hok
  | ok oldName =>
      obtain ⟨hfault, row, hmem, hrow, rfl, hshort⟩ :=
        adminGetUsernameById_ok hget
      cases husername : updateField mp (lit "username") with
      | error e =>
          left
          refine ⟨refused_sendErrReply _ _ _,
            fun uid' row fields hreaches => ?_⟩
          have hok := husername.symm.trans hreaches.username
          cases hok
      | ok newUsername =>
      cases hpassword : updateField mp (lit "password") with
      | error e =>
          left
          refine ⟨refused_sendErrReply _ _ _,
            fun uid' row fields hreaches => ?_⟩
          have hok := hpassword.symm.trans hreaches.password
          cases hok
      | ok newPassword =>
          right
          exact ⟨uid, row, ⟨newUsername, newPassword, updateIsAdmin mp⟩,
            ⟨hid, hmem, hrow, hfault, hshort, husername, hpassword, rfl⟩,
            performed_applyUserUpdate (fun n => envs (n + 1)) hmem hrow
              ⟨newUsername, newPassword, updateIsAdmin mp⟩⟩

end Handled

/-! ## All or nothing -/

/-- The fields the request gives are in the row. -/
structure Stored (mp : ObjMap) (row : UserRow) : Prop where
  username : ∀ name, mapGetStr mp (lit "username") = some name →
    row.username = name
  password : ∀ password, mapGetStr mp (lit "password") = some password →
    row.password = password
  isAdmin : ∀ value, firstBoolean mp (lit "is_admin") = some value →
    row.isAdmin = value

/-- A failed request has left the table and the caches alone; after a
successful one the table has the fields, and the caches the new name. -/
structure AllOrNothing (mp : ObjMap) (sender : Identity) (hub hub' : Hub) :
    Prop where
  nothing : RepliesWith sender.connId hub hub' false →
    hub'.db.users = hub.db.users ∧
    hub'.reg.nameToUid = hub.reg.nameToUid ∧
    hub'.reg.uidToUsername = hub.reg.uidToUsername
  all : RepliesWith sender.connId hub hub' true →
    ∃ uid, mapGetU64 mp (lit "id") = some uid ∧
      (∃ row ∈ hub'.db.users.rows, row.id = uid ∧ Stored mp row) ∧
      ∀ name, mapGetStr mp (lit "username") = some name →
        hub'.reg.nameToUid.lookup name = some uid ∧
        hub'.reg.uidToUsername.lookup uid = some name

/-- The texts fit into the buffers of `admin_update_user`. -/
def Fits (fields : UserFields) : Prop :=
  (∀ name ∈ fields.username, name.length ≤ 511) ∧
    ∀ password ∈ fields.password, password.length ≤ 4095

section AllOrNothing

variable {cfg : Config} {envs : Nat → Env} {sender : Identity} {seq : UInt32}
  {mp : ObjMap} {hub hub' : Hub} {uid : Nat} {row : UserRow}
  {fields : UserFields}

theorem Reaches.unique {uid' : Nat} {row' : UserRow} {fields' : UserFields}
    (hreaches : Reaches envs mp hub uid row fields)
    (hreaches' : Reaches envs mp hub uid' row' fields') :
    uid' = uid ∧ row' = row ∧ fields' = fields := by
  have huid : uid' = uid :=
    Option.some.inj (hreaches'.id.symm.trans hreaches.id)
  have hrow : row' = row := hub.db.users.eq_of_id_eq hreaches'.mem
    hreaches.mem (hreaches'.row_id.trans (huid.trans hreaches.row_id.symm))
  refine ⟨huid, hrow, ?_⟩
  have husername := hreaches'.username.symm.trans hreaches.username
  have hpassword := hreaches'.password.symm.trans hreaches.password
  have hadmin := hreaches'.isAdmin.trans hreaches.isAdmin.symm
  obtain ⟨username, password, isAdmin⟩ := fields
  obtain ⟨username', password', isAdmin'⟩ := fields'
  cases husername
  cases hpassword
  cases hadmin
  rfl

theorem Reaches.forall_iff {p : Nat → UserRow → UserFields → Prop}
    (hreaches : Reaches envs mp hub uid row fields) :
    (∀ uid row fields, Reaches envs mp hub uid row fields →
      p uid row fields) ↔ p uid row fields := by
  constructor
  · exact fun hall => hall uid row fields hreaches
  · intro hp uid' row' fields' hreaches'
    obtain ⟨rfl, rfl, rfl⟩ := hreaches.unique hreaches'
    exact hp

theorem Refused.allOrNothing (hrefused : Refused sender seq hub hub') :
    AllOrNothing mp sender hub hub' := by
  obtain ⟨code, message, hcalls⟩ := hrefused.replied
  have hreply := repliesWith_iff hcalls
    (RelayClient.eventOfWire_errReplyWire seq code message)
  constructor
  · intro _
    rw [hrefused.db, hrefused.reg]
    exact ⟨rfl, rfl, rfl⟩
  · intro htrue
    have hok := (hreply true).mp htrue
    cases hok

theorem stored_write_iff (hreaches : Reaches envs mp hub uid row fields) :
    Stored mp (fields.write row) ↔ Fits fields := by
  have husername := (updateField_eq_ok hreaches.username).1
  have hpassword := (updateField_eq_ok hreaches.password).1
  constructor
  · intro hstored
    constructor
    · intro name hname
      have hwritten := hstored.username name (husername.symm.trans hname)
      simp only [UserFields.write, Option.mem_def.mp hname, Option.map_some,
        Option.getD_some] at hwritten
      exact (List.take_eq_self_iff name).mp hwritten
    · intro password hpass
      have hwritten := hstored.password password (hpassword.symm.trans hpass)
      simp only [UserFields.write, Option.mem_def.mp hpass, Option.map_some,
        Option.getD_some] at hwritten
      exact (List.take_eq_self_iff password).mp hwritten
  · intro hfits
    constructor
    · intro name hname
      have hgiven := husername.trans hname
      simp only [UserFields.write, hgiven, Option.map_some, Option.getD_some]
      exact (List.take_eq_self_iff name).mpr (hfits.1 name hgiven)
    · intro password hpass
      have hgiven := hpassword.trans hpass
      simp only [UserFields.write, hgiven, Option.map_some, Option.getD_some]
      exact (List.take_eq_self_iff password).mpr (hfits.2 password hgiven)
    · intro value hvalue
      have hgiven := hreaches.isAdmin.trans
        (updateIsAdmin_of_firstBoolean hvalue)
      simp only [UserFields.write, hgiven, Option.getD_some]

variable {outcome : UserRow × Option Bytes}

theorem Performed.allOrNothing_of_failed
    (hreaches : Reaches envs mp hub uid row fields)
    (hperformed : Performed sender seq hub uid row fields outcome hub')
    {e : Bytes} (hfailed : outcome.2 = some e) :
    AllOrNothing mp sender hub hub' ↔ outcome.1 = row := by
  obtain ⟨hreg, hcalls⟩ := hperformed.failed e hfailed
  have hreply := repliesWith_iff hcalls
    (RelayClient.eventOfWire_errReplyWire seq kProtocol e)
  have htable := hperformed.users.eq_iff hreaches.mem hreaches.row_id
  constructor
  · intro hallOrNothing
    exact htable.mp (hallOrNothing.nothing ((hreply false).mpr rfl)).1
  · intro hsame
    constructor
    · intro _
      rw [hreg]
      exact ⟨htable.mpr hsame, rfl, rfl⟩
    · intro htrue
      have hok := (hreply true).mp htrue
      cases hok

theorem Performed.allOrNothing_of_succeeded
    (hreaches : Reaches envs mp hub uid row fields)
    (hperformed : Performed sender seq hub uid row fields outcome hub')
    (hsucceeded : outcome.2 = none) :
    AllOrNothing mp sender hub hub' ↔ Stored mp outcome.1 := by
  obtain ⟨hreg, hcalls⟩ := hperformed.succeeded hsucceeded
  have hreply := repliesWith_iff hcalls
    (RelayClient.eventOfWire_okReplyWire seq (lit "CONTROL"))
  have hmem := hperformed.users.mem hreaches.mem hreaches.row_id
  constructor
  · intro hallOrNothing
    obtain ⟨uid', hid, ⟨row', hrow', huid', hstored⟩, _⟩ :=
      hallOrNothing.all ((hreply true).mpr rfl)
    have huid : uid' = uid := Option.some.inj (hid.symm.trans hreaches.id)
    have hsame : row' = outcome.1 := hub'.db.users.eq_of_id_eq hrow' hmem
      (huid'.trans (huid.trans hperformed.users.1.symm))
    exact hsame ▸ hstored
  · intro hstored
    constructor
    · intro hfalse
      have hok := (hreply false).mp hfalse
      cases hok
    · intro _
      refine ⟨uid, hreaches.id,
        ⟨outcome.1, hmem, hperformed.users.1, hstored⟩, ?_⟩
      intro name hname
      have hgiven : fields.username = some name :=
        (updateField_eq_ok hreaches.username).1.trans hname
      rw [hreg, hgiven]
      exact ⟨AList.lookup_insert _, AList.lookup_insert _⟩

/-- A request is all or nothing unless its first statement takes effect and
either a later one does not, or a text was cut. -/
theorem allOrNothing_iff (cfg : Config) (envs : Nat → Env) (sender : Identity)
    (seq : UInt32) (mp : ObjMap) (hub : Hub) :
    AllOrNothing mp sender hub (handled cfg envs sender seq mp hub) ↔
      ∀ uid row fields, Reaches envs mp hub uid row fields →
        fields.FirstTakes (envs 1).fault
          (hub.db.users.rows.map UserRow.username) row →
        fields.AllTake (envs 1).fault
          (hub.db.users.rows.map UserRow.username) row ∧ Fits fields := by
  obtain ⟨hrefused, hnone⟩ | ⟨uid, row, fields, hreaches, hperformed⟩ :=
    handled_cases cfg envs sender seq mp hub
  · constructor
    · intro _ uid row fields hreaches
      exact absurd hreaches (hnone uid row fields)
    · exact fun _ => hrefused.allOrNothing
  have hown : row.username ∈ hub.db.users.rows.map UserRow.username :=
    List.mem_map_of_mem hreaches.mem
  have hupdated := MysqlStore.updated_updateFields (envs 1).fault fields hown
  rw [hreaches.forall_iff]
  generalize MysqlStore.updateFields (envs 1).fault
    (hub.db.users.rows.map UserRow.username) fields row = outcome
    at hperformed hupdated
  cases hupdated with
  | accepted hgiven htake =>
      rw [hperformed.allOrNothing_of_succeeded hreaches rfl,
        stored_write_iff hreaches]
      constructor
      · exact fun hfits _ => ⟨htake, hfits⟩
      · exact fun hcond => (hcond (htake.first hgiven)).2
  | refused hnot e =>
      rw [hperformed.allOrNothing_of_failed hreaches rfl]
      constructor
      · exact fun _ hfirst => absurd hfirst hnot
      · exact fun _ => rfl
  | partly hfirst hnot row' hchanged e =>
      rw [hperformed.allOrNothing_of_failed hreaches rfl]
      constructor
      · exact fun hsame => absurd hsame hchanged
      · exact fun hcond => absurd (hcond hfirst).1 hnot

end AllOrNothing

def bobHub : Hub where
  db :=
    { users := .single ⟨1, lit "bob", lit "pw", false⟩
      allowlist := ⟨[], 1⟩ }

def root : Identity where
  connId := 1
  loggedIn := true
  userId := 2
  isAdmin := true
  username := lit "root"

def renameRequest : ObjMap :=
  [(.str (lit "id"), .positiveInteger 1),
    (.str (lit "username"), .str (lit "rob")),
    (.str (lit "password"), .str (lit "pw"))]

/-- The rename is kept although the reply says that it failed. -/
theorem refused_rename_is_kept :
    ¬AllOrNothing renameRequest root bobHub
      (handled forwarderJson (fun _ => {}) root 7 renameRequest bobHub) := by
  intro hallOrNothing
  obtain ⟨husers, _⟩ := hallOrNothing.nothing
    ⟨errReplyWire 7 kProtocol (lit "无此 id"), _, rfl, rfl, rfl⟩
  have hname : ((handled forwarderJson (fun _ => {}) root 7 renameRequest
      bobHub).db.users.rows.map UserRow.username) = [lit "rob"] := by
    decide +kernel
  rw [husers] at hname
  exact absurd hname (by decide +kernel)

end UserTableUpdate

end AsioForwarder
