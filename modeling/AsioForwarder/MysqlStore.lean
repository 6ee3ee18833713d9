import AsioForwarder.Msgpack
import Mathlib.Data.List.Nodup
import Mathlib.Data.List.Sort
import Mathlib.Tactic.Common

/-!
# The two tables and `MysqlStore`

A table value carries what the schema enforces: distinct ids, a unique key on
the name column, and an auto-increment counter above every id.  A statement
is a function on tables; `UPDATE` reports the number of rows it changed,
which is what `mysql_stmt_affected_rows` returns for a connection opened with
client flag 0.

Every member function of the store holds the store's own mutex, so it is one
function from the tables to the tables and a result.  `fault k` is the error
text with which the `k`-th statement of the call fails, if it does; whatever
fails before the statement is executed is such a fault as well.  Parameters
are copied into fixed buffers, 511 bytes for a name, 4095 for a password and
255 for an address, and the rest is dropped.

Names and addresses are compared byte for byte, in the `WHERE` clauses as in
the unique keys: `schema.sql` fixes no collation.
-/

namespace AsioForwarder

structure UserRow where
  id : Nat
  username : Bytes
  password : Bytes
  isAdmin : Bool
  deriving DecidableEq

/-- The `users` table. -/
structure UsersTable where
  rows : List UserRow
  nextId : Nat
  idsNodup : (rows.map UserRow.id).Nodup
  namesNodup : (rows.map UserRow.username).Nodup
  idsBelow : ∀ row ∈ rows, row.id < nextId

namespace UsersTable

def Names (t : UsersTable) (uid : Nat) (name : Bytes) : Prop :=
  ∃ row ∈ t.rows, row.id = uid ∧ row.username = name

instance (t : UsersTable) (uid : Nat) (name : Bytes) :
    Decidable (t.Names uid name) :=
  inferInstanceAs (Decidable (∃ row ∈ t.rows, _))

/-- The row with this id exists and has `is_admin` set. -/
def HasAdmin (t : UsersTable) (uid : Nat) : Prop :=
  ∃ row ∈ t.rows, row.id = uid ∧ row.isAdmin = true

instance (t : UsersTable) (uid : Nat) : Decidable (t.HasAdmin uid) :=
  inferInstanceAs (Decidable (∃ row ∈ t.rows, _))

theorem eq_of_id_eq (t : UsersTable) {first second : UserRow}
    (hfirst : first ∈ t.rows) (hsecond : second ∈ t.rows)
    (hid : first.id = second.id) : first = second :=
  List.inj_on_of_nodup_map t.idsNodup hfirst hsecond hid

theorem rows_nodup (t : UsersTable) : t.rows.Nodup :=
  List.Nodup.of_map UserRow.id t.idsNodup

/-- A table with one account. -/
def single (row : UserRow) : UsersTable where
  rows := [row]
  nextId := row.id + 1
  idsNodup := List.nodup_singleton row.id
  namesNodup := List.nodup_singleton row.username
  idsBelow := by
    intro other hother
    rw [List.mem_singleton.mp hother]
    exact Nat.lt_succ_self row.id

/-! ## Statements -/

def selectByUsername (t : UsersTable) (name : Bytes) : Option UserRow :=
  t.rows.find? (fun row => row.username = name)

def selectById (t : UsersTable) (uid : Nat) : Option UserRow :=
  t.rows.find? (fun row => row.id = uid)

theorem selectByUsername_eq_some {t : UsersTable} {name : Bytes}
    {row : UserRow} (hselect : t.selectByUsername name = some row) :
    row ∈ t.rows ∧ row.username = name := by
  refine ⟨List.mem_of_find?_eq_some hselect, ?_⟩
  simpa using List.find?_some hselect

theorem selectById_eq_some {t : UsersTable} {uid : Nat} {row : UserRow}
    (hselect : t.selectById uid = some row) :
    row ∈ t.rows ∧ row.id = uid := by
  refine ⟨List.mem_of_find?_eq_some hselect, ?_⟩
  simpa using List.find?_some hselect

/-- `INSERT INTO users`; `none` is the duplicate-key error 1062. -/
def insert (t : UsersTable) (name password : Bytes) (isAdmin : Bool) :
    Option (UsersTable × Nat) :=
  if hdup : name ∈ t.rows.map UserRow.username then none
  else
    some
      ({ rows := t.rows ++ [⟨t.nextId, name, password, isAdmin⟩]
         nextId := t.nextId + 1
         idsNodup := by
           rw [List.map_append, List.nodup_append]
           refine ⟨t.idsNodup, by simp, ?_⟩
           rintro uid hold _ hnew rfl
           obtain ⟨row, hrow, hid⟩ := List.mem_map.mp hold
           have hbelow := t.idsBelow row hrow
           simp only [List.map_singleton, List.mem_singleton] at hnew
           omega
         namesNodup := by
           rw [List.map_append, List.nodup_append]
           refine ⟨t.namesNodup, by simp, ?_⟩
           rintro other hold _ hnew rfl
           simp only [List.map_singleton, List.mem_singleton] at hnew
           exact hdup (hnew ▸ hold)
         idsBelow := by
           intro row hrow
           rcases List.mem_append.mp hrow with hold | hnew
           · exact Nat.lt_succ_of_lt (t.idsBelow row hold)
           · simp only [List.mem_singleton] at hnew
             simp [hnew] },
        t.nextId)

theorem insert_eq_some {t t' : UsersTable} {name password : Bytes}
    {isAdmin : Bool} {uid : Nat}
    (hinsert : t.insert name password isAdmin = some (t', uid)) :
    t'.rows = t.rows ++ [⟨uid, name, password, isAdmin⟩] ∧
      uid = t.nextId ∧ t'.nextId = t.nextId + 1 ∧
      name ∉ t.rows.map UserRow.username := by
  unfold insert at hinsert
  split at hinsert
  · cases hinsert
  · rename_i hdup
    cases hinsert
    exact ⟨rfl, rfl, rfl, hdup⟩

/-- Replace the row with id `uid` by `change row`, which keeps ids and does
not create a duplicate name. -/
def updateRow (t : UsersTable) (uid : Nat) (change : UserRow → UserRow)
    (hid : ∀ row, (change row).id = row.id)
    (hname : ∀ row ∈ t.rows, ∀ other ∈ t.rows, row.id = uid →
      other.id ≠ uid → (change row).username ≠ other.username) :
    UsersTable where
  rows := t.rows.map (fun row => if row.id = uid then change row else row)
  nextId := t.nextId
  idsNodup := by
    have hsame : (fun row => UserRow.id
        (if row.id = uid then change row else row)) = UserRow.id := by
      funext row
      split <;> simp [hid]
    rw [List.map_map]
    simpa [Function.comp_def, hsame] using t.idsNodup
  namesNodup := by
    rw [List.map_map]
    refine List.Nodup.map_on ?_ t.rows_nodup
    intro first hfirst second hsecond heq
    simp only [Function.comp_apply] at heq
    by_cases huid : first.id = uid <;> by_cases huid' : second.id = uid
    · exact t.eq_of_id_eq hfirst hsecond (huid.trans huid'.symm)
    · rw [if_pos huid, if_neg huid'] at heq
      exact absurd heq (hname first hfirst second hsecond huid huid')
    · rw [if_neg huid, if_pos huid'] at heq
      exact absurd heq.symm (hname second hsecond first hfirst huid' huid)
    · rw [if_neg huid, if_neg huid'] at heq
      exact List.inj_on_of_nodup_map t.namesNodup hfirst hsecond heq
  idsBelow := by
    intro row hrow
    obtain ⟨old, hold, heq⟩ := List.mem_map.mp hrow
    have hbelow := t.idsBelow old hold
    rw [← heq]
    split <;> simp [hid, hbelow]

/-- `UPDATE users SET username = ? WHERE id = ?` with the number of rows
changed; `none` is the duplicate-key error. -/
def setUsername (uid : Nat) (name : Bytes) (t : UsersTable) :
    Option (UsersTable × Nat) :=
  match t.selectById uid with
  | none => some (t, 0)
  | some row =>
      if row.username = name then some (t, 0)
      else if hdup : name ∈ t.rows.map UserRow.username then none
      else
        some (t.updateRow uid (fun row => { row with username := name })
          (fun _ => rfl)
          (fun _ _ other hother _ _ heq =>
            hdup (List.mem_map.mpr ⟨other, hother, heq.symm⟩)), 1)

/-- An `UPDATE` of a column without a key. -/
def setColumn (uid : Nat) (change : UserRow → UserRow)
    (hid : ∀ row, (change row).id = row.id)
    (hname : ∀ row, (change row).username = row.username)
    (t : UsersTable) : Option (UsersTable × Nat) :=
  match t.selectById uid with
  | none => some (t, 0)
  | some row =>
      if change row = row then some (t, 0)
      else
        some (t.updateRow uid change hid (by
          intro row hrow other hother huid hother' heq
          rw [hname] at heq
          have hsame := List.inj_on_of_nodup_map t.namesNodup hrow hother heq
          exact hother' (hsame ▸ huid)), 1)

def setPassword (uid : Nat) (password : Bytes) (t : UsersTable) :
    Option (UsersTable × Nat) :=
  t.setColumn uid (fun row => { row with password := password })
    (fun _ => rfl) (fun _ => rfl)

def setIsAdmin (uid : Nat) (isAdmin : Bool) (t : UsersTable) :
    Option (UsersTable × Nat) :=
  t.setColumn uid (fun row => { row with isAdmin := isAdmin })
    (fun _ => rfl) (fun _ => rfl)

/-- `DELETE FROM users WHERE id = ?` with the number of rows deleted. -/
def delete (uid : Nat) (t : UsersTable) : UsersTable × Nat :=
  ({ rows := t.rows.filter (fun row => row.id ≠ uid)
     nextId := t.nextId
     idsNodup := t.idsNodup.sublist (List.filter_sublist.map _)
     namesNodup := t.namesNodup.sublist (List.filter_sublist.map _)
     idsBelow := fun row hrow => t.idsBelow row (List.mem_filter.mp hrow).1 },
    (t.rows.filter (fun row => row.id = uid)).length)

end UsersTable

structure IpRow where
  id : Nat
  ip : Bytes
  deriving DecidableEq

/-- The `ip_allowlist` table.  No proof below depends on its keys, so its
statements are functions on plain rows. -/
structure IpTable where
  rows : List IpRow
  nextId : Nat
  deriving DecidableEq

namespace IpTable

def contains (t : IpTable) (ip : Bytes) : Bool :=
  t.rows.any (fun row => row.ip = ip)

def insert (t : IpTable) (ip : Bytes) : Option IpTable :=
  if t.contains ip then none
  else some { rows := t.rows ++ [⟨t.nextId, ip⟩], nextId := t.nextId + 1 }

def setIp (t : IpTable) (id : Nat) (ip : Bytes) : Option (IpTable × Nat) :=
  match t.rows.find? (fun row => row.id = id) with
  | none => some (t, 0)
  | some row =>
      if row.ip = ip then some (t, 0)
      else if t.contains ip then none
      else
        some ({ t with rows := t.rows.map (fun row =>
          if row.id = id then { row with ip := ip } else row) }, 1)

def delete (t : IpTable) (id : Nat) : IpTable × Nat :=
  ({ t with rows := t.rows.filter (fun row => row.id ≠ id) },
    (t.rows.filter (fun row => row.id = id)).length)

end IpTable

/-! ## `MysqlStore` -/

structure Db where
  users : UsersTable
  allowlist : IpTable

structure UserInfo where
  id : Nat
  isAdmin : Bool
  deriving DecidableEq

namespace MysqlStore

/-- A name as it fits into `char[512]`. -/
def nameParam (name : Bytes) : Bytes := name.take 511

/-- A password as it fits into `char[4096]`. -/
def passwordParam (password : Bytes) : Bytes := password.take 4095

/-- An address as it fits into `char[256]`. -/
def ipParam (ip : Bytes) : Bytes := ip.take 255

def ipWhitelisted (fault : Nat → Option Bytes) (clientIp : Bytes)
    (t : IpTable) : Bool :=
  match fault 0 with
  | some _ => false
  | none => t.contains (ipParam clientIp)

/-- The rounds of `authenticate_or_register`: a `SELECT`, and an `INSERT` if
there is no such row; a duplicate-key error of the `INSERT` starts the next
round.  `between k` is what other database clients do to the table before
the `k`-th statement. -/
def authenticateRounds (fault : Nat → Option Bytes)
    (between : Nat → UsersTable → UsersTable)
    (uname password : Bytes) (wantAdmin : Bool) :
    Nat → Nat → UsersTable → UsersTable × Except Bytes UserInfo
  | 0, _, t => (t, .error (lit "注册冲突，请稍后重试"))
  | attempts + 1, k, t =>
      match fault k with
      | some e => (between k t, .error e)
      | none =>
          match (between k t).selectByUsername uname with
          | some row =>
              -- a longer value does not fit `pwdb` and the fetch reports
              -- MYSQL_DATA_TRUNCATED
              if row.password.length > 4096 then
                (between k t, .error (lit "读用户失败"))
              else if row.password ≠ password then
                (between k t, .error (lit "用户不存在或密码错误"))
              else if row.isAdmin ≠ wantAdmin then
                (between k t, .error (lit "登录所选权限与账号不一致"))
              else (between k t, .ok ⟨row.id, row.isAdmin⟩)
          | none =>
              match fault (k + 1) with
              | some e => (between (k + 1) (between k t), .error e)
              | none =>
                  match (between (k + 1) (between k t)).insert uname
                      (passwordParam password) wantAdmin with
                  | none =>
                      authenticateRounds fault between uname password
                        wantAdmin attempts (k + 2)
                        (between (k + 1) (between k t))
                  | some (t', uid) => (t', .ok ⟨uid, wantAdmin⟩)

def authenticateOrRegister (fault : Nat → Option Bytes)
    (between : Nat → UsersTable → UsersTable)
    (username password : Bytes) (wantAdmin : Bool) (t : UsersTable) :
    UsersTable × Except Bytes UserInfo :=
  authenticateRounds fault between (nameParam username) password wantAdmin
    4 0 t

def userIdByUsername (fault : Nat → Option Bytes) (username : Bytes)
    (t : UsersTable) : Option Nat :=
  match fault 0 with
  | some _ => none
  | none => (t.selectByUsername (nameParam username)).map UserRow.id

/-- A column read through a `char*`: it ends at the first NUL. -/
def cString (value : Bytes) : Bytes := value.takeWhile (· ≠ 0)

def adminListAllowlist (fault : Nat → Option Bytes) (t : IpTable) :
    Except Bytes (List (Nat × Bytes)) :=
  match fault 0 with
  | some e => .error e
  | none =>
      .ok ((t.rows.mergeSort (fun a b => a.id ≤ b.id)).map
        (fun row => (row.id, cString row.ip)))

def adminInsertAllowlist (fault : Nat → Option Bytes) (ip : Bytes)
    (t : IpTable) : IpTable × Option Bytes :=
  match fault 0 with
  | some e => (t, some e)
  | none =>
      match t.insert (ipParam ip) with
      | none => (t, some (lit "IP 已存在"))
      | some t' => (t', none)

def adminUpdateAllowlist (fault : Nat → Option Bytes) (id : Nat) (ip : Bytes)
    (t : IpTable) : IpTable × Option Bytes :=
  match fault 0 with
  | some e => (t, some e)
  | none =>
      match t.setIp id (ipParam ip) with
      | none => (t, some (lit "IP 与已有记录冲突"))
      | some (t', 0) => (t', some (lit "无此 id"))
      | some (t', _ + 1) => (t', none)

def adminDeleteAllowlist (fault : Nat → Option Bytes) (id : Nat)
    (t : IpTable) : IpTable × Option Bytes :=
  match fault 0 with
  | some e => (t, some e)
  | none =>
      match t.delete id with
      | (t', 0) => (t', some (lit "无此 id"))
      | (t', _ + 1) => (t', none)

def adminListUsers (fault : Nat → Option Bytes) (t : UsersTable) :
    Except Bytes (List (Nat × Bytes × Bool)) :=
  match fault 0 with
  | some e => .error e
  | none =>
      .ok ((t.rows.mergeSort (fun a b => a.id ≤ b.id)).map
        (fun row => (row.id, cString row.username, row.isAdmin)))

def adminInsertUser (fault : Nat → Option Bytes)
    (username password : Bytes) (isAdmin : Bool) (t : UsersTable) :
    UsersTable × Option Bytes :=
  match fault 0 with
  | some e => (t, some e)
  | none =>
      match t.insert (nameParam username) (passwordParam password) isAdmin with
      | none => (t, some (lit "用户名已存在"))
      | some (t', _) => (t', none)

/-- The lambda `run_one` of `admin_update_user`: one `UPDATE`, where zero
changed rows are reported as a missing id. -/
def runOne (fault : Option Bytes)
    (statement : UsersTable → Option (UsersTable × Nat)) (t : UsersTable) :
    UsersTable × Option Bytes :=
  match fault with
  | some e => (t, some e)
  | none =>
      match statement t with
      | none => (t, some (lit "用户名冲突"))
      | some (t', 0) => (t', some (lit "无此 id"))
      | some (t', _ + 1) => (t', none)

/-- Run the `UPDATE` for a field that was given. -/
def runGiven {α : Type} (fault : Option Bytes) (field : Option α)
    (statement : α → UsersTable → Option (UsersTable × Nat))
    (t : UsersTable) : UsersTable × Option Bytes :=
  match field with
  | none => (t, none)
  | some value => runOne fault (statement value) t

def adminUpdateUser (fault : Nat → Option Bytes) (uid : Nat)
    (newUsername newPassword : Option Bytes) (newIsAdmin : Option Bool)
    (t : UsersTable) : UsersTable × Option Bytes :=
  if newUsername.isNone && newPassword.isNone && newIsAdmin.isNone then
    (t, some (lit "无字段可更新"))
  else
    match runGiven (fault 0) newUsername
        (fun name => UsersTable.setUsername uid (nameParam name)) t with
    | (t, some e) => (t, some e)
    | (t, none) =>
        match runGiven (fault 1) newPassword
            (fun password =>
              UsersTable.setPassword uid (passwordParam password)) t with
        | (t, some e) => (t, some e)
        | (t, none) =>
            runGiven (fault 2) newIsAdmin (UsersTable.setIsAdmin uid) t

def adminDeleteUser (fault : Nat → Option Bytes) (uid : Nat)
    (t : UsersTable) : UsersTable × Option Bytes :=
  match fault 0 with
  | some e => (t, some e)
  | none =>
      match t.delete uid with
      | (t', 0) => (t', some (lit "无此 id"))
      | (t', _ + 1) => (t', none)

/-- The name of a row; one that does not fit `char[512]` makes the fetch
fail. -/
def adminGetUsernameById (fault : Nat → Option Bytes) (uid : Nat)
    (t : UsersTable) : Except Bytes Bytes :=
  match fault 0 with
  | some e => .error e
  | none =>
      match t.selectById uid with
      | none => .error (lit "无此用户")
      | some row =>
          if row.username.length > 512 then .error (lit "无此用户")
          else .ok row.username

end MysqlStore

end AsioForwarder
