import AsioForwarder.StoreEffects

/-!
# `admin_update_user` on one row

The statements of `admin_update_user` change one row, each a column of its
own.  `updateFields` is the same sequence on that row alone, where the table
matters only through the names in use; `adminUpdateUser_row` says that the
store call does to the table what `updateFields` does to the row.
-/

namespace AsioForwarder

/-- The fields an update gives. -/
structure UserFields where
  username : Option Bytes := none
  password : Option Bytes := none
  isAdmin : Option Bool := none
  deriving DecidableEq

namespace UserFields

def isEmpty (fields : UserFields) : Bool :=
  fields.username.isNone && fields.password.isNone && fields.isAdmin.isNone

def write (fields : UserFields) (row : UserRow) : UserRow where
  id := row.id
  username := (fields.username.map MysqlStore.nameParam).getD row.username
  password := (fields.password.map MysqlStore.passwordParam).getD row.password
  isAdmin := fields.isAdmin.getD row.isAdmin

end UserFields

namespace MysqlStore

/-- An `UPDATE` of a column of `row`. -/
def updateColumn (fault : Option Bytes) (change : UserRow → UserRow)
    (row : UserRow) : UserRow × Option Bytes :=
  match fault with
  | some e => (row, some e)
  | none =>
      if change row = row then (row, some (lit "无此 id"))
      else (change row, none)

/-- The `UPDATE` of the name, where `taken` are the names in use. -/
def updateName (fault : Option Bytes) (taken : List Bytes) (name : Bytes)
    (row : UserRow) : UserRow × Option Bytes :=
  match fault with
  | some e => (row, some e)
  | none =>
      if row.username = name then (row, some (lit "无此 id"))
      else if taken.contains name then (row, some (lit "用户名冲突"))
      else ({ row with username := name }, none)

/-- The statement for a field, if it was given. -/
def updateGiven {α : Type} (field : Option α)
    (statement : α → UserRow → UserRow × Option Bytes) (row : UserRow) :
    UserRow × Option Bytes :=
  match field with
  | none => (row, none)
  | some value => statement value row

/-- `admin_update_user` on the row it is about. -/
def updateFields (fault : Nat → Option Bytes) (taken : List Bytes)
    (fields : UserFields) (row : UserRow) : UserRow × Option Bytes :=
  if fields.isEmpty then (row, some (lit "无字段可更新"))
  else
    match updateGiven fields.username
        (fun name => updateName (fault 0) taken (nameParam name)) row with
    | (row, some e) => (row, some e)
    | (row, none) =>
        match updateGiven fields.password
            (fun password => updateColumn (fault 1)
              (fun row => { row with password := passwordParam password }))
            row with
        | (row, some e) => (row, some e)
        | (row, none) =>
            updateGiven fields.isAdmin
              (fun value => updateColumn (fault 2)
                (fun row => { row with isAdmin := value })) row

end MysqlStore

/-! ## The table and the row -/

namespace UsersTable

/-- The row with id `uid` is replaced by `row`. -/
def Holds (uid : Nat) (row : UserRow) (t t' : UsersTable) : Prop :=
  row.id = uid ∧ t.Edited uid (fun _ => row) t'

variable {uid : Nat} {row row' : UserRow} {t t' t'' : UsersTable}

theorem rows_eq_of_holds (hrow : row ∈ t.rows) (hid : row.id = uid) :
    t.rows.map (fun other => if other.id = uid then row else other) =
      t.rows := by
  have hsame : ∀ other ∈ t.rows,
      (if other.id = uid then row else other) = id other := by
    intro other hother
    split
    · rename_i hother'
      exact t.eq_of_id_eq hrow hother (hid.trans hother'.symm)
    · rfl
  rw [List.map_congr_left hsame, List.map_id]

theorem holds_self (hrow : row ∈ t.rows) (hid : row.id = uid) :
    t.Holds uid row t :=
  ⟨hid, rfl, (rows_eq_of_holds hrow hid).symm⟩

theorem Holds.mem (hholds : t.Holds uid row' t') (hrow : row ∈ t.rows)
    (hid : row.id = uid) : row' ∈ t'.rows := by
  have hmem := hholds.2.mem hrow
  rwa [if_pos hid] at hmem

theorem Holds.trans (hfirst : t.Holds uid row t')
    (hsecond : t'.Holds uid row' t'') : t.Holds uid row' t'' := by
  refine ⟨hsecond.1, hsecond.2.1.trans hfirst.2.1, ?_⟩
  rw [hsecond.2.2, hfirst.2.2, List.map_map]
  refine List.map_congr_left ?_
  intro other _
  by_cases hother : other.id = uid
  · simp [hother, hfirst.1]
  · simp [hother]

theorem ext_of_rows (hrows : t.rows = t'.rows) (hnext : t.nextId = t'.nextId) :
    t = t' := by
  cases t
  cases t'
  cases hrows
  cases hnext
  rfl

theorem Holds.eq_iff (hholds : t.Holds uid row' t') (hrow : row ∈ t.rows)
    (hid : row.id = uid) : t' = t ↔ row' = row := by
  constructor
  · intro hsame
    have hmem := hholds.mem hrow hid
    rw [hsame] at hmem
    exact t.eq_of_id_eq hmem hrow (hholds.1.trans hid.symm)
  · rintro rfl
    refine ext_of_rows ?_ hholds.2.1
    rw [hholds.2.2, rows_eq_of_holds hrow hid]

theorem runOne_setUsername_row (hrow : row ∈ t.rows) (hid : row.id = uid)
    (fault : Option Bytes) (name : Bytes) :
    ∃ t', MysqlStore.runOne fault (setUsername uid name) t =
        (t', (MysqlStore.updateName fault (t.rows.map UserRow.username) name
          row).2) ∧
      t.Holds uid (MysqlStore.updateName fault
        (t.rows.map UserRow.username) name row).1 t' := by
  cases fault with
  | some e => exact ⟨t, rfl, holds_self hrow hid⟩
  | none =>
      simp only [MysqlStore.runOne, MysqlStore.updateName, setUsername,
        selectById_of_mem hrow hid, List.contains_iff_mem]
      by_cases hsame : row.username = name
      · simp only [if_pos hsame]
        exact ⟨t, rfl, holds_self hrow hid⟩
      · by_cases htaken : name ∈ t.rows.map UserRow.username
        · simp only [if_neg hsame, dif_pos htaken, if_pos htaken]
          exact ⟨t, rfl, holds_self hrow hid⟩
        · simp only [if_neg hsame, dif_neg htaken, if_neg htaken]
          refine ⟨_, rfl, hid, rfl, ?_⟩
          refine List.map_congr_left ?_
          intro other hother
          by_cases hother' : other.id = uid
          · simp only [if_pos hother']
            rw [t.eq_of_id_eq hother hrow (hother'.trans hid.symm)]
          · simp only [if_neg hother']

theorem runOne_setColumn_row (hrow : row ∈ t.rows) (hid : row.id = uid)
    (fault : Option Bytes) (change : UserRow → UserRow)
    (hchange : ∀ row, (change row).id = row.id)
    (hname : ∀ row, (change row).username = row.username) :
    ∃ t', MysqlStore.runOne fault (setColumn uid change hchange hname) t =
        (t', (MysqlStore.updateColumn fault change row).2) ∧
      t.Holds uid (MysqlStore.updateColumn fault change row).1 t' := by
  cases fault with
  | some e => exact ⟨t, rfl, holds_self hrow hid⟩
  | none =>
      simp only [MysqlStore.runOne, MysqlStore.updateColumn, setColumn,
        selectById_of_mem hrow hid]
      by_cases hsame : change row = row
      · simp only [if_pos hsame]
        exact ⟨t, rfl, holds_self hrow hid⟩
      · simp only [if_neg hsame]
        refine ⟨_, rfl, (hchange row).trans hid, rfl, ?_⟩
        refine List.map_congr_left ?_
        intro other hother
        by_cases hother' : other.id = uid
        · simp only [if_pos hother']
          rw [t.eq_of_id_eq hother hrow (hother'.trans hid.symm)]
        · simp only [if_neg hother']

end UsersTable

namespace MysqlStore

open UsersTable

variable {uid : Nat} {row : UserRow} {t : UsersTable}

theorem runGiven_row {α : Type} (hrow : row ∈ t.rows) (hid : row.id = uid)
    (fault : Option Bytes) (field : Option α)
    (statement : α → UsersTable → Option (UsersTable × Nat))
    (onRow : α → UserRow → UserRow × Option Bytes)
    (hstatement : ∀ value, ∃ t', runOne fault (statement value) t =
        (t', (onRow value row).2) ∧ t.Holds uid (onRow value row).1 t') :
    ∃ t', runGiven fault field statement t =
        (t', (updateGiven field onRow row).2) ∧
      t.Holds uid (updateGiven field onRow row).1 t' := by
  cases field with
  | none => exact ⟨t, rfl, holds_self hrow hid⟩
  | some value => exact hstatement value

/-- `admin_update_user` does to the table what it does to the row. -/
theorem adminUpdateUser_row (hrow : row ∈ t.rows) (hid : row.id = uid)
    (fault : Nat → Option Bytes) (fields : UserFields) :
    ∃ t', adminUpdateUser fault uid fields.username fields.password
        fields.isAdmin t =
        (t', (updateFields fault (t.rows.map UserRow.username) fields row).2) ∧
      t.Holds uid
        (updateFields fault (t.rows.map UserRow.username) fields row).1 t' := by
  unfold adminUpdateUser updateFields
  by_cases hempty : fields.isEmpty = true
  · rw [if_pos hempty]
    rw [UserFields.isEmpty] at hempty
    rw [if_pos hempty]
    exact ⟨t, rfl, holds_self hrow hid⟩
  rw [if_neg hempty]
  rw [UserFields.isEmpty] at hempty
  rw [if_neg hempty]
  obtain ⟨t₁, hfirst, hholds₁⟩ := runGiven_row hrow hid (fault 0)
    fields.username (fun name => setUsername uid (nameParam name))
    (fun name => updateName (fault 0) (t.rows.map UserRow.username)
      (nameParam name))
    (fun name => runOne_setUsername_row hrow hid (fault 0) (nameParam name))
  rw [hfirst]
  generalize updateGiven fields.username (fun name => updateName (fault 0)
    (t.rows.map UserRow.username) (nameParam name)) row = first at *
  obtain ⟨row₁, err₁⟩ := first
  cases err₁ with
  | some e => exact ⟨t₁, rfl, hholds₁⟩
  | none =>
      have hrow₁ := hholds₁.mem hrow hid
      obtain ⟨t₂, hsecond, hholds₂⟩ := runGiven_row hrow₁ hholds₁.1 (fault 1)
        fields.password
        (fun password => setPassword uid (passwordParam password))
        (fun password => updateColumn (fault 1)
          (fun row => { row with password := passwordParam password }))
        (fun password => runOne_setColumn_row hrow₁ hholds₁.1 (fault 1)
          (fun row => { row with password := passwordParam password })
          (fun _ => rfl) (fun _ => rfl))
      dsimp only
      rw [hsecond]
      generalize updateGiven fields.password (fun password =>
        updateColumn (fault 1)
          (fun row => { row with password := passwordParam password })) row₁ =
            second at *
      obtain ⟨row₂, err₂⟩ := second
      cases err₂ with
      | some e => exact ⟨t₂, rfl, hholds₁.trans hholds₂⟩
      | none =>
          have hrow₂ := hholds₂.mem hrow₁ hholds₁.1
          obtain ⟨t₃, hthird, hholds₃⟩ := runGiven_row hrow₂ hholds₂.1
            (fault 2) fields.isAdmin (setIsAdmin uid)
            (fun value => updateColumn (fault 2)
              (fun row => { row with isAdmin := value }))
            (fun value => runOne_setColumn_row hrow₂ hholds₂.1 (fault 2)
              (fun row => { row with isAdmin := value })
              (fun _ => rfl) (fun _ => rfl))
          dsimp only
          rw [hthird]
          exact ⟨t₃, rfl, (hholds₁.trans hholds₂).trans hholds₃⟩

end MysqlStore

/-! ## Which statements take effect -/

namespace UserFields

open MysqlStore

/-- The statement for the name, if there is one, changes a row of a table with
the names `taken`. -/
def NameTakes (fault : Nat → Option Bytes) (taken : List Bytes)
    (fields : UserFields) : Prop :=
  ∀ name ∈ fields.username, fault 0 = none ∧ nameParam name ∉ taken

def PasswordTakes (fault : Nat → Option Bytes) (row : UserRow)
    (fields : UserFields) : Prop :=
  ∀ password ∈ fields.password,
    fault 1 = none ∧ row.password ≠ passwordParam password

def IsAdminTakes (fault : Nat → Option Bytes) (row : UserRow)
    (fields : UserFields) : Prop :=
  ∀ value ∈ fields.isAdmin, fault 2 = none ∧ row.isAdmin ≠ value

def AllTake (fault : Nat → Option Bytes) (taken : List Bytes) (row : UserRow)
    (fields : UserFields) : Prop :=
  fields.NameTakes fault taken ∧ fields.PasswordTakes fault row ∧
    fields.IsAdminTakes fault row

def FirstTakes (fault : Nat → Option Bytes) (taken : List Bytes)
    (row : UserRow) (fields : UserFields) : Prop :=
  if fields.username.isSome then fields.NameTakes fault taken
  else if fields.password.isSome then fields.PasswordTakes fault row
  else if fields.isAdmin.isSome then fields.IsAdminTakes fault row
  else False

instance (fault : Nat → Option Bytes) (taken : List Bytes) (row : UserRow)
    (fields : UserFields) : Decidable (fields.AllTake fault taken row) :=
  inferInstanceAs (Decidable ((∀ name ∈ fields.username, _) ∧
    (∀ password ∈ fields.password, _) ∧ ∀ value ∈ fields.isAdmin, _))

theorem AllTake.first {fault : Nat → Option Bytes} {taken : List Bytes}
    {row : UserRow} {fields : UserFields}
    (hall : fields.AllTake fault taken row) (hgiven : fields.isEmpty = false) :
    fields.FirstTakes fault taken row := by
  obtain ⟨hname, hpassword, hadmin⟩ := hall
  unfold FirstTakes
  split_ifs with husername hpassword' hadmin'
  · exact hname
  · exact hpassword
  · exact hadmin
  · simp_all [isEmpty]

end UserFields

namespace MysqlStore

open UserFields

/-- A statement writes the row, or refuses and leaves it. -/
inductive Staged (takes : Prop) (written row : UserRow) :
    UserRow × Option Bytes → Prop where
  | wrote (htakes : takes) : Staged takes written row (written, none)
  | refused (hnot : ¬takes) (e : Bytes) :
      Staged takes written row (row, some e)

variable {fault : Nat → Option Bytes} {taken : List Bytes}
  {fields : UserFields} {row : UserRow}

theorem staged_name (fault : Nat → Option Bytes) (fields : UserFields)
    (hown : row.username ∈ taken) :
    Staged (fields.NameTakes fault taken)
      { row with
        username := (fields.username.map nameParam).getD row.username } row
      (updateGiven fields.username
        (fun name => updateName (fault 0) taken (nameParam name)) row) := by
  unfold NameTakes
  generalize fields.username = username
  cases username with
  | none => exact .wrote (fun _ hname => by cases hname)
  | some name =>
      simp only [updateGiven, updateName, List.contains_iff_mem,
        Option.mem_some_iff, forall_eq', Option.map_some, Option.getD_some]
      cases hfault : fault 0 with
      | some e => exact .refused (fun htakes => by cases htakes.1) e
      | none =>
          dsimp only
          split_ifs with hsame htaken
          · exact .refused (fun htakes => htakes.2 (hsame ▸ hown)) _
          · exact .refused (fun htakes => htakes.2 htaken) _
          · exact .wrote ⟨rfl, htaken⟩

theorem staged_column {α : Type} (column : Option Bytes) (field : Option α)
    (change : α → UserRow → UserRow) (row : UserRow) :
    Staged (∀ value ∈ field, column = none ∧ change value row ≠ row)
      ((field.map (fun value => change value row)).getD row) row
      (updateGiven field
        (fun value => updateColumn column (change value)) row) := by
  cases field with
  | none => exact .wrote (fun _ hvalue => by cases hvalue)
  | some value =>
      simp only [updateGiven, updateColumn, Option.mem_some_iff,
        forall_eq', Option.map_some, Option.getD_some]
      cases column with
      | some e => exact .refused (fun htakes => by cases htakes.1) e
      | none =>
          dsimp only
          split_ifs with hsame
          · exact .refused (fun htakes => htakes.2 hsame) _
          · exact .wrote ⟨rfl, hsame⟩

theorem password_ne_iff (row : UserRow) (password : Bytes) :
    { row with password := password } ≠ row ↔ row.password ≠ password := by
  obtain ⟨id, username, stored, isAdmin⟩ := row
  simp [eq_comm]

theorem isAdmin_ne_iff (row : UserRow) (value : Bool) :
    { row with isAdmin := value } ≠ row ↔ row.isAdmin ≠ value := by
  obtain ⟨id, username, password, isAdmin⟩ := row
  simp [eq_comm]

theorem staged_password (fault : Nat → Option Bytes) (fields : UserFields)
    {row' : UserRow} (hsame : row'.password = row.password) :
    Staged (fields.PasswordTakes fault row)
      { row' with
        password := (fields.password.map passwordParam).getD row'.password }
      row'
      (updateGiven fields.password
        (fun password => updateColumn (fault 1)
          (fun row => { row with password := passwordParam password }))
        row') := by
  have hstaged := staged_column (fault 1) fields.password
    (fun password row => { row with password := passwordParam password }) row'
  simp only [password_ne_iff, hsame] at hstaged
  unfold PasswordTakes
  generalize fields.password = password at hstaged ⊢
  cases password with
  | none => exact hstaged
  | some password => exact hstaged

theorem staged_isAdmin (fault : Nat → Option Bytes) (fields : UserFields)
    {row' : UserRow} (hsame : row'.isAdmin = row.isAdmin) :
    Staged (fields.IsAdminTakes fault row)
      { row' with isAdmin := fields.isAdmin.getD row'.isAdmin } row'
      (updateGiven fields.isAdmin
        (fun value => updateColumn (fault 2)
          (fun row => { row with isAdmin := value })) row') := by
  have hstaged := staged_column (fault 2) fields.isAdmin
    (fun value row => { row with isAdmin := value }) row'
  simp only [isAdmin_ne_iff, hsame] at hstaged
  unfold IsAdminTakes
  generalize fields.isAdmin = isAdmin at hstaged ⊢
  cases isAdmin with
  | none => exact hstaged
  | some value => exact hstaged

/-- What an update comes to: it writes every field, or an error is reported
before the first field is written, or after it. -/
inductive Updated (fault : Nat → Option Bytes) (taken : List Bytes)
    (fields : UserFields) (row : UserRow) : UserRow × Option Bytes → Prop where
  | accepted (hgiven : fields.isEmpty = false)
      (hall : fields.AllTake fault taken row) :
      Updated fault taken fields row (fields.write row, none)
  | refused (hnot : ¬fields.FirstTakes fault taken row) (e : Bytes) :
      Updated fault taken fields row (row, some e)
  | partly (hfirst : fields.FirstTakes fault taken row)
      (hnot : ¬fields.AllTake fault taken row) (row' : UserRow)
      (hchanged : row' ≠ row) (e : Bytes) :
      Updated fault taken fields row (row', some e)

theorem firstTakes_of_name (hgiven : fields.username.isSome = true) :
    fields.FirstTakes fault taken row ↔ fields.NameTakes fault taken := by
  rw [UserFields.FirstTakes, if_pos hgiven]

theorem firstTakes_of_password (hname : fields.username = none)
    (hgiven : fields.password.isSome = true) :
    fields.FirstTakes fault taken row ↔ fields.PasswordTakes fault row := by
  simp [UserFields.FirstTakes, hname, hgiven]

theorem firstTakes_of_isAdmin (hname : fields.username = none)
    (hpassword : fields.password = none)
    (hgiven : fields.isAdmin.isSome = true) :
    fields.FirstTakes fault taken row ↔ fields.IsAdminTakes fault row := by
  simp [UserFields.FirstTakes, hname, hpassword, hgiven]

theorem FirstTakes.name (hfirst : fields.FirstTakes fault taken row) :
    fields.NameTakes fault taken := by
  intro name hname
  have hgiven : fields.username.isSome = true := by
    rw [Option.mem_def.mp hname]
    rfl
  exact (firstTakes_of_name hgiven).mp hfirst name hname

theorem FirstTakes.password (habsent : fields.username = none)
    (hfirst : fields.FirstTakes fault taken row) :
    fields.PasswordTakes fault row := by
  intro password hpassword
  have hgiven : fields.password.isSome = true := by
    rw [Option.mem_def.mp hpassword]
    rfl
  exact (firstTakes_of_password habsent hgiven).mp hfirst password hpassword

theorem FirstTakes.isAdmin
    (habsent : fields.username = none ∧ fields.password = none)
    (hfirst : fields.FirstTakes fault taken row) :
    fields.IsAdminTakes fault row := by
  intro value hvalue
  have hgiven : fields.isAdmin.isSome = true := by
    rw [Option.mem_def.mp hvalue]
    rfl
  exact (firstTakes_of_isAdmin habsent.1 habsent.2 hgiven).mp hfirst value
    hvalue

/-- The row between two statements: either no field has been given so far, or
the first statement has changed the row. -/
def Begun (fault : Nat → Option Bytes) (taken : List Bytes)
    (fields : UserFields) (row : UserRow) (absent : Prop) (row' : UserRow) :
    Prop :=
  (row' = row ∧ absent) ∨ (fields.FirstTakes fault taken row ∧ row' ≠ row)

theorem begun_name (hown : row.username ∈ taken)
    (hname : fields.NameTakes fault taken) :
    Begun fault taken fields row (fields.username = none)
      { row with
        username := (fields.username.map nameParam).getD row.username } := by
  cases husername : fields.username with
  | none => exact .inl ⟨rfl, rfl⟩
  | some name =>
      have hgiven : fields.username.isSome = true := by
        rw [husername]
        rfl
      refine .inr ⟨(firstTakes_of_name hgiven).mpr hname, ?_⟩
      intro heq
      have hsame : nameParam name = row.username :=
        congrArg UserRow.username heq
      exact (hname name husername).2 (hsame ▸ hown)

theorem begun_password {row' : UserRow}
    (hsame : row'.password = row.password)
    (hbegun : Begun fault taken fields row (fields.username = none) row')
    (hpassword : fields.PasswordTakes fault row) :
    Begun fault taken fields row
      (fields.username = none ∧ fields.password = none)
      { row' with
        password := (fields.password.map passwordParam).getD
          row'.password } := by
  rcases hbegun with ⟨rfl, husername⟩ | ⟨hfirst, hchanged⟩
  · cases hpass : fields.password with
    | none => exact .inl ⟨rfl, husername, rfl⟩
    | some password =>
        have hgiven : fields.password.isSome = true := by
          rw [hpass]
          rfl
        refine .inr
          ⟨(firstTakes_of_password husername hgiven).mpr hpassword, ?_⟩
        intro heq
        exact (hpassword password hpass).2
          (congrArg UserRow.password heq).symm
  · refine .inr ⟨hfirst, fun heq => hchanged ?_⟩
    calc row' = { row' with password := row.password } := by rw [← hsame]
      _ = { row with password := row.password } := congrArg
          (fun other : UserRow => { other with password := row.password }) heq
      _ = row := rfl

/-- A refused statement ends the update. -/
theorem Begun.refused {absent takes : Prop} {row' : UserRow}
    (hbegun : Begun fault taken fields row absent row')
    (hfirst : absent → fields.FirstTakes fault taken row → takes)
    (hall : fields.AllTake fault taken row → takes) (hnot : ¬takes)
    (e : Bytes) : Updated fault taken fields row (row', some e) := by
  rcases hbegun with ⟨rfl, habsent⟩ | ⟨htakes, hchanged⟩
  · exact .refused (fun htakes => hnot (hfirst habsent htakes)) e
  · exact .partly htakes (fun htake => hnot (hall htake)) row' hchanged e

theorem updated_updateFields (fault : Nat → Option Bytes)
    (fields : UserFields) (hown : row.username ∈ taken) :
    Updated fault taken fields row
      (updateFields fault taken fields row) := by
  unfold updateFields
  by_cases hempty : fields.isEmpty = true
  · rw [if_pos hempty]
    refine .refused (fun hfirst => ?_) _
    simp only [UserFields.isEmpty, Bool.and_eq_true, Option.isNone_iff_eq_none]
      at hempty
    simp [UserFields.FirstTakes, hempty.1.1, hempty.1.2, hempty.2] at hfirst
  rw [if_neg hempty]
  have hgiven : fields.isEmpty = false := by simpa using hempty
  have hstaged := staged_name fault fields hown
  generalize updateGiven fields.username
    (fun name => updateName (fault 0) taken (nameParam name)) row = first
    at hstaged ⊢
  cases hstaged with
  | refused hnot e =>
      have hbegun : Begun fault taken fields row True row :=
        .inl ⟨rfl, trivial⟩
      exact hbegun.refused (fun _ => FirstTakes.name) (fun hall => hall.1)
        hnot e
  | wrote hname =>
  have hbegun := begun_name hown hname
  generalize hrow₁ : { row with
    username := (fields.username.map nameParam).getD row.username } = row₁
    at hbegun
  have hpass₁ : row₁.password = row.password := by rw [← hrow₁]
  have hstaged := staged_password fault fields hpass₁
  dsimp only
  generalize updateGiven fields.password (fun password =>
    updateColumn (fault 1)
      (fun row => { row with password := passwordParam password })) row₁ =
        second at hstaged ⊢
  cases hstaged with
  | refused hnot e =>
      exact hbegun.refused FirstTakes.password (fun hall => hall.2.1) hnot e
  | wrote hpassword =>
  have hbegun := begun_password hpass₁ hbegun hpassword
  generalize hrow₂ : { row₁ with
    password := (fields.password.map passwordParam).getD row₁.password } =
      row₂ at hbegun
  have hadmin₂ : row₂.isAdmin = row.isAdmin := by rw [← hrow₂, ← hrow₁]
  have hstaged := staged_isAdmin fault fields hadmin₂
  dsimp only
  generalize updateGiven fields.isAdmin (fun value => updateColumn (fault 2)
    (fun row => { row with isAdmin := value })) row₂ = third at hstaged ⊢
  cases hstaged with
  | refused hnot e =>
      exact hbegun.refused FirstTakes.isAdmin (fun hall => hall.2.2) hnot e
  | wrote hadmin =>
      have hwrite : { row₂ with
          isAdmin := fields.isAdmin.getD row₂.isAdmin } =
            fields.write row := by
        rw [← hrow₂, ← hrow₁]
        rfl
      rw [hwrite]
      exact .accepted hgiven ⟨hname, hpassword, hadmin⟩

end MysqlStore

end AsioForwarder
