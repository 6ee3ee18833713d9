import AsioForwarder.Hub

/-!
# What the store calls do to the `users` table

Each store call either leaves the table alone, appends one row, edits the
row of one id, or deletes it.  The lemmas here say which, for each call and
then for an arbitrary `StoreOp`, and how the two facts about a row that the
server relies on, its name and its `is_admin`, survive.
-/

namespace AsioForwarder

namespace UsersTable

/-! ## Edits of one row -/

/-- `t'` is `t` with the row of id `uid` changed. -/
def Edited (uid : Nat) (change : UserRow → UserRow) (t t' : UsersTable) :
    Prop :=
  t'.nextId = t.nextId ∧
    t'.rows = t.rows.map (fun row => if row.id = uid then change row else row)

theorem edited_refl (uid : Nat) (t : UsersTable) : t.Edited uid id t := by
  refine ⟨rfl, ?_⟩
  have hid : (fun row : UserRow => if row.id = uid then id row else row) =
      id := by
    funext row
    split <;> rfl
  rw [hid, List.map_id]

theorem Edited.trans {uid : Nat} {change change' : UserRow → UserRow}
    {t t' t'' : UsersTable} (hid : ∀ row, (change row).id = row.id)
    (hfirst : t.Edited uid change t') (hsecond : t'.Edited uid change' t'') :
    t.Edited uid (change' ∘ change) t'' := by
  refine ⟨hsecond.1.trans hfirst.1, ?_⟩
  rw [hsecond.2, hfirst.2, List.map_map]
  refine List.map_congr_left ?_
  intro row _
  by_cases huid : row.id = uid
  · simp [huid, hid]
  · simp [huid]

theorem Edited.mem {uid : Nat} {change : UserRow → UserRow}
    {t t' : UsersTable} (hedited : t.Edited uid change t') {row : UserRow}
    (hrow : row ∈ t.rows) :
    (if row.id = uid then change row else row) ∈ t'.rows := by
  rw [hedited.2]
  exact List.mem_map_of_mem hrow

theorem setUsername_edited {uid : Nat} {name : Bytes} {t t' : UsersTable}
    {count : Nat} (hset : t.setUsername uid name = some (t', count)) :
    (t' = t ∧ count = 0) ∨
    (t.Edited uid (fun row => { row with username := name }) t' ∧
      count = 1 ∧ name ∉ t.rows.map UserRow.username ∧
      ∃ row ∈ t.rows, row.id = uid) := by
  unfold setUsername at hset
  split at hset
  · cases hset
    exact .inl ⟨rfl, rfl⟩
  · rename_i row hselect
    split at hset
    · cases hset
      exact .inl ⟨rfl, rfl⟩
    · split at hset
      · cases hset
      · rename_i hdup
        cases hset
        exact .inr ⟨⟨rfl, rfl⟩, rfl, hdup, row,
          selectById_eq_some hselect⟩

theorem setColumn_edited {uid : Nat} {change : UserRow → UserRow}
    {hid : ∀ row, (change row).id = row.id}
    {hname : ∀ row, (change row).username = row.username}
    {t t' : UsersTable} {count : Nat}
    (hset : t.setColumn uid change hid hname = some (t', count)) :
    (t' = t ∧ count = 0) ∨ (t.Edited uid change t' ∧ count = 1) := by
  unfold setColumn at hset
  split at hset
  · cases hset
    exact .inl ⟨rfl, rfl⟩
  · split at hset
    · cases hset
      exact .inl ⟨rfl, rfl⟩
    · cases hset
      exact .inr ⟨⟨rfl, rfl⟩, rfl⟩

theorem selectById_of_mem {t : UsersTable} {uid : Nat} {row : UserRow}
    (hrow : row ∈ t.rows) (hid : row.id = uid) :
    t.selectById uid = some row := by
  cases hselect : t.selectById uid with
  | none =>
      have hall := List.find?_eq_none.mp hselect row hrow
      simp [hid] at hall
  | some other =>
      obtain ⟨hother, hid'⟩ := selectById_eq_some hselect
      rw [t.eq_of_id_eq hother hrow (hid'.trans hid.symm)]

theorem setColumn_of_differs {uid : Nat} {change : UserRow → UserRow}
    (hid : ∀ row, (change row).id = row.id)
    (hname : ∀ row, (change row).username = row.username)
    {t : UsersTable} {row : UserRow} (hrow : row ∈ t.rows)
    (huid : row.id = uid) (hdiffers : change row ≠ row) :
    ∃ t', t.setColumn uid change hid hname = some (t', 1) ∧
      change row ∈ t'.rows := by
  simp only [setColumn, selectById_of_mem hrow huid, if_neg hdiffers]
  refine ⟨_, rfl, ?_⟩
  simp only [updateRow, List.mem_map]
  exact ⟨row, hrow, if_pos huid⟩

def Gone (t : UsersTable) (uid : Nat) : Prop :=
  uid < t.nextId ∧ ∀ row ∈ t.rows, row.id ≠ uid

theorem delete_gone {t : UsersTable} {uid : Nat} (hlt : uid < t.nextId) :
    (t.delete uid).1.Gone uid := by
  refine ⟨hlt, ?_⟩
  intro row hrow
  simpa using (List.mem_filter.mp hrow).2

end UsersTable

namespace MysqlStore

open UsersTable

/-! ## `authenticate_or_register` and `admin_insert_user` -/

theorem authenticateRounds_cases (fault : Nat → Option Bytes)
    (uname password : Bytes) (wantAdmin : Bool) (attempts k : Nat)
    (t : UsersTable) :
    (∃ e, authenticateRounds fault (fun _ table => table) uname password
      wantAdmin attempts k t = (t, .error e)) ∨
    (∃ row ∈ t.rows, row.username = uname ∧ row.password = password ∧
      row.isAdmin = wantAdmin ∧
      authenticateRounds fault (fun _ table => table) uname password
        wantAdmin attempts k t = (t, .ok ⟨row.id, row.isAdmin⟩)) ∨
    (∃ t' uid, t.insert uname (passwordParam password) wantAdmin =
        some (t', uid) ∧
      authenticateRounds fault (fun _ table => table) uname password
        wantAdmin attempts k t = (t', .ok ⟨uid, wantAdmin⟩)) := by
  induction attempts generalizing k with
  | zero => exact .inl ⟨_, rfl⟩
  | succ attempts ih =>
      unfold authenticateRounds
      split
      · exact .inl ⟨_, rfl⟩
      · split
        · rename_i row hselect
          obtain ⟨hrow, hname⟩ := selectByUsername_eq_some hselect
          split
          · exact .inl ⟨_, rfl⟩
          · split
            · exact .inl ⟨_, rfl⟩
            · rename_i hpassword
              split
              · exact .inl ⟨_, rfl⟩
              · rename_i hrole
                exact .inr (.inl ⟨row, hrow, hname, not_not.mp hpassword,
                  not_not.mp hrole, rfl⟩)
        · split
          · exact .inl ⟨_, rfl⟩
          · split
            · exact ih (k + 2)
            · rename_i t' uid hinsert
              exact .inr (.inr ⟨t', uid, hinsert, rfl⟩)

theorem adminInsertUser_cases (fault : Nat → Option Bytes)
    (username password : Bytes) (isAdmin : Bool) (t : UsersTable) :
    (adminInsertUser fault username password isAdmin t).1 = t ∨
    ∃ t' uid, t.insert (nameParam username) (passwordParam password)
        isAdmin = some (t', uid) ∧
      (adminInsertUser fault username password isAdmin t).1 = t' := by
  unfold adminInsertUser
  split
  · exact .inl rfl
  · split
    · exact .inl rfl
    · rename_i t' uid hinsert
      exact .inr ⟨t', uid, hinsert, rfl⟩

/-! ## `admin_update_user` -/

theorem runOne_cases (fault : Option Bytes)
    (statement : UsersTable → Option (UsersTable × Nat)) (t : UsersTable) :
    ((runOne fault statement t).1 = t ∧
      (runOne fault statement t).2 ≠ none) ∨
    ∃ t' count, statement t = some (t', count) ∧
      (runOne fault statement t).1 = t' ∧
      ((runOne fault statement t).2 = none ↔ count ≠ 0) := by
  unfold runOne
  split
  · exact .inl ⟨rfl, by simp⟩
  · split
    · exact .inl ⟨rfl, by simp⟩
    · rename_i t' hstatement
      exact .inr ⟨t', 0, hstatement, rfl, by simp⟩
    · rename_i t' count hstatement
      exact .inr ⟨t', count + 1, hstatement, rfl, by simp⟩

/-- A change of the row of `uid` by the fields of an update. -/
structure UpdateChange (newUsername : Option Bytes)
    (newIsAdmin : Option Bool) (change : UserRow → UserRow) : Prop where
  id : ∀ row, (change row).id = row.id
  username : ∀ row, (change row).username = row.username ∨
    ∃ name, newUsername = some name ∧
      (change row).username = nameParam name
  isAdmin : ∀ row, (change row).isAdmin = row.isAdmin ∨
    ∃ value, newIsAdmin = some value ∧ (change row).isAdmin = value

theorem UpdateChange.refl (newUsername : Option Bytes)
    (newIsAdmin : Option Bool) :
    UpdateChange newUsername newIsAdmin (fun row => row) where
  id := fun _ => rfl
  username := fun _ => .inl rfl
  isAdmin := fun _ => .inl rfl

theorem UpdateChange.comp {newUsername : Option Bytes}
    {newIsAdmin : Option Bool} {change change' : UserRow → UserRow}
    (hchange : UpdateChange newUsername newIsAdmin change)
    (hchange' : UpdateChange newUsername newIsAdmin change') :
    UpdateChange newUsername newIsAdmin (change' ∘ change) where
  id := fun row => (hchange'.id _).trans (hchange.id row)
  username := by
    intro row
    rcases hchange'.username (change row) with hsame | hnew
    · rcases hchange.username row with hsame' | ⟨name, hname, hnew⟩
      · exact .inl (hsame.trans hsame')
      · exact .inr ⟨name, hname, hsame.trans hnew⟩
    · exact .inr hnew
  isAdmin := by
    intro row
    rcases hchange'.isAdmin (change row) with hsame | hnew
    · rcases hchange.isAdmin row with hsame' | ⟨value, hvalue, hnew⟩
      · exact .inl (hsame.trans hsame')
      · exact .inr ⟨value, hvalue, hsame.trans hnew⟩
    · exact .inr hnew

theorem runGiven_edited {α : Type} (uid : Nat) (newUsername : Option Bytes)
    (newIsAdmin : Option Bool) (fault : Option Bytes) (field : Option α)
    (statement : α → UsersTable → Option (UsersTable × Nat))
    (t : UsersTable)
    (hstatement : ∀ value t' count, field = some value →
      statement value t = some (t', count) →
      ∃ change, UpdateChange newUsername newIsAdmin change ∧
        t.Edited uid change t') :
    ∃ change, UpdateChange newUsername newIsAdmin change ∧
      t.Edited uid change (runGiven fault field statement t).1 := by
  have hrefl : ∃ change, UpdateChange newUsername newIsAdmin change ∧
      t.Edited uid change t :=
    ⟨_, UpdateChange.refl _ _, edited_refl uid t⟩
  unfold runGiven
  split
  · exact hrefl
  · rename_i value
    rcases runOne_cases fault (statement value) t with ⟨hsame, _⟩ |
      ⟨t', count, hrun, hresult, _⟩
    · rw [hsame]
      exact hrefl
    · rw [hresult]
      exact hstatement value t' count rfl hrun

theorem setUsername_updateChange {uid : Nat} {name : Bytes}
    {newIsAdmin : Option Bool} {t t' : UsersTable} {count : Nat}
    (hset : t.setUsername uid (nameParam name) = some (t', count)) :
    ∃ change, UpdateChange (some name) newIsAdmin change ∧
      t.Edited uid change t' := by
  rcases setUsername_edited hset with ⟨rfl, _⟩ | ⟨hedited, _⟩
  · exact ⟨_, UpdateChange.refl _ _, edited_refl uid t'⟩
  · refine ⟨_, ?_, hedited⟩
    exact ⟨fun _ => rfl, fun _ => .inr ⟨name, rfl, rfl⟩, fun _ => .inl rfl⟩

theorem setPassword_updateChange {uid : Nat} {password : Bytes}
    {newUsername : Option Bytes} {newIsAdmin : Option Bool}
    {t t' : UsersTable} {count : Nat}
    (hset : t.setPassword uid password = some (t', count)) :
    ∃ change, UpdateChange newUsername newIsAdmin change ∧
      t.Edited uid change t' := by
  rcases setColumn_edited hset with ⟨rfl, _⟩ | ⟨hedited, _⟩
  · exact ⟨_, UpdateChange.refl _ _, edited_refl uid t'⟩
  · refine ⟨_, ?_, hedited⟩
    exact ⟨fun _ => rfl, fun _ => .inl rfl, fun _ => .inl rfl⟩

theorem setIsAdmin_updateChange {uid : Nat} {value : Bool}
    {newUsername : Option Bytes} {t t' : UsersTable} {count : Nat}
    (hset : t.setIsAdmin uid value = some (t', count)) :
    ∃ change, UpdateChange newUsername (some value) change ∧
      t.Edited uid change t' := by
  rcases setColumn_edited hset with ⟨rfl, _⟩ | ⟨hedited, _⟩
  · exact ⟨_, UpdateChange.refl _ _, edited_refl uid t'⟩
  · refine ⟨_, ?_, hedited⟩
    exact ⟨fun _ => rfl, fun _ => .inl rfl, fun _ => .inr ⟨value, rfl, rfl⟩⟩

/-- `admin_update_user` edits the row of its id, and only by the given
fields, whether it succeeds or not. -/
theorem adminUpdateUser_edited (fault : Nat → Option Bytes) (uid : Nat)
    (newUsername newPassword : Option Bytes) (newIsAdmin : Option Bool)
    (t : UsersTable) :
    ∃ change, UpdateChange newUsername newIsAdmin change ∧
      t.Edited uid change (adminUpdateUser fault uid newUsername newPassword
        newIsAdmin t).1 := by
  unfold adminUpdateUser
  split
  · exact ⟨_, UpdateChange.refl _ _, edited_refl uid t⟩
  · obtain ⟨change₁, hchange₁, hedited₁⟩ := runGiven_edited uid
      newUsername newIsAdmin (fault 0) newUsername
      (fun name => setUsername uid (nameParam name)) t
      (by
        rintro name t' count rfl hset
        exact setUsername_updateChange hset)
    split
    · rename_i t₁ e hfirst
      rw [hfirst] at hedited₁
      exact ⟨_, hchange₁, hedited₁⟩
    · rename_i t₁ hfirst
      rw [hfirst] at hedited₁
      obtain ⟨change₂, hchange₂, hedited₂⟩ := runGiven_edited uid
        newUsername newIsAdmin (fault 1) newPassword
        (fun password => setPassword uid (passwordParam password)) t₁
        (fun _ _ _ _ hset => setPassword_updateChange hset)
      split
      · rename_i t₂ e hsecond
        rw [hsecond] at hedited₂
        exact ⟨_, hchange₁.comp hchange₂, hedited₁.trans hchange₁.id hedited₂⟩
      · rename_i t₂ hsecond
        rw [hsecond] at hedited₂
        obtain ⟨change₃, hchange₃, hedited₃⟩ := runGiven_edited uid
          newUsername newIsAdmin (fault 2) newIsAdmin (setIsAdmin uid) t₂
          (by
            rintro value t' count rfl hset
            exact setIsAdmin_updateChange hset)
        exact ⟨_, (hchange₁.comp hchange₂).comp hchange₃,
          (hedited₁.trans hchange₁.id hedited₂).trans
            (hchange₁.comp hchange₂).id hedited₃⟩

/-! ### An update as a whole -/

theorem runGiven_column {α : Type} {uid : Nat} (fault : Option Bytes)
    (field : Option α) (change : α → UserRow → UserRow)
    (hid : ∀ value row, (change value row).id = row.id)
    (hname : ∀ value row, (change value row).username = row.username)
    {t : UsersTable} {row : UserRow} (hrow : row ∈ t.rows)
    (huid : row.id = uid)
    (hdiffers : ∀ value ∈ field,
      fault = none ∧ change value row ≠ row) :
    ∃ t' row', runGiven fault field
        (fun value => setColumn uid (change value) (hid value) (hname value))
        t = (t', none) ∧
      row' ∈ t'.rows ∧
      (row' = row ∨ ∃ value ∈ field, row' = change value row) := by
  cases field with
  | none => exact ⟨t, row, rfl, hrow, .inl rfl⟩
  | some value =>
      obtain ⟨hfault, hchange⟩ := hdiffers value rfl
      obtain ⟨t', hset, hrow'⟩ := setColumn_of_differs (hid value)
        (hname value) hrow huid hchange
      refine ⟨t', change value row, ?_, hrow', .inr ⟨value, rfl, rfl⟩⟩
      simp [runGiven, runOne, hfault, hset]

/-- If the update changes the name, it also changes every other field it
gives, and none of its later statements fails. -/
def UpdateWhole (fault : Nat → Option Bytes) (uid : Nat) (name : Bytes)
    (password : Option Bytes) (isAdmin : Option Bool) (t : UsersTable) :
    Prop :=
  fault 0 = none → nameParam name ∉ t.rows.map UserRow.username →
    ∀ row ∈ t.rows, row.id = uid →
      (∀ value ∈ password,
        fault 1 = none ∧ row.password ≠ passwordParam value) ∧
      ∀ value ∈ isAdmin, fault 2 = none ∧ row.isAdmin ≠ value

instance (fault : Nat → Option Bytes) (uid : Nat) (name : Bytes)
    (password : Option Bytes) (isAdmin : Option Bool) (t : UsersTable) :
    Decidable (UpdateWhole fault uid name password isAdmin t) :=
  inferInstanceAs (Decidable (_ → _ → ∀ row ∈ t.rows, _))

theorem updateRest_names {fault : Nat → Option Bytes} {uid : Nat}
    {name : Bytes} {password : Option Bytes} {isAdmin : Option Bool}
    {t : UsersTable} {row : UserRow} (hrow : row ∈ t.rows)
    (hid : row.id = uid) (hname : row.username = name)
    (hpassword : ∀ value ∈ password,
      fault 1 = none ∧ row.password ≠ passwordParam value)
    (hadmin : ∀ value ∈ isAdmin, fault 2 = none ∧ row.isAdmin ≠ value) :
    ∃ t₁ t₂, runGiven (fault 1) password
        (fun value => setPassword uid (passwordParam value)) t =
          (t₁, none) ∧
      runGiven (fault 2) isAdmin (setIsAdmin uid) t₁ = (t₂, none) ∧
      t₂.Names uid name := by
  obtain ⟨t₁, row₁, hfirst, hrow₁, hshape₁⟩ := runGiven_column (fault 1)
    password (fun value row => { row with password := passwordParam value })
    (fun _ _ => rfl) (fun _ _ => rfl) hrow hid (by
      intro value hvalue
      refine ⟨(hpassword value hvalue).1, fun heq => ?_⟩
      exact (hpassword value hvalue).2 (congrArg UserRow.password heq).symm)
  have hkept : row₁.id = uid ∧ row₁.username = name ∧
      row₁.isAdmin = row.isAdmin := by
    rcases hshape₁ with rfl | ⟨value, _, rfl⟩
    · exact ⟨hid, hname, rfl⟩
    · exact ⟨hid, hname, rfl⟩
  obtain ⟨t₂, row₂, hsecond, hrow₂, hshape₂⟩ := runGiven_column (fault 2)
    isAdmin (fun value row => { row with isAdmin := value })
    (fun _ _ => rfl) (fun _ _ => rfl) hrow₁ hkept.1 (by
      intro value hvalue
      refine ⟨(hadmin value hvalue).1, fun heq => ?_⟩
      refine (hadmin value hvalue).2 ?_
      rw [← hkept.2.2]
      exact (congrArg UserRow.isAdmin heq).symm)
  refine ⟨t₁, t₂, hfirst, hsecond, row₂, hrow₂, ?_⟩
  rcases hshape₂ with rfl | ⟨value, _, rfl⟩
  · exact ⟨hkept.1, hkept.2.1⟩
  · exact ⟨hkept.1, hkept.2.1⟩

theorem runOne_setUsername (fault : Option Bytes) (uid : Nat) (name : Bytes)
    (t : UsersTable) :
    (∃ e, runOne fault (setUsername uid name) t = (t, some e)) ∨
    (fault = none ∧ name ∉ t.rows.map UserRow.username ∧
      ∃ t' row, runOne fault (setUsername uid name) t = (t', none) ∧
        row ∈ t.rows ∧ row.id = uid ∧
        { row with username := name } ∈ t'.rows) := by
  cases fault with
  | some e => exact .inl ⟨e, rfl⟩
  | none =>
      cases hset : t.setUsername uid name with
      | none =>
          left
          simp [runOne, hset]
      | some outcome =>
          obtain ⟨t', count⟩ := outcome
          rcases setUsername_edited hset with ⟨rfl, rfl⟩ |
            ⟨hedited, rfl, hnew, row, hrow, hid⟩
          · left
            simp [runOne, hset]
          · right
            refine ⟨rfl, hnew, t', row, by simp [runOne, hset], hrow, hid, ?_⟩
            have hmem := hedited.mem hrow
            rwa [if_pos hid] at hmem

theorem adminUpdateUser_of_whole {fault : Nat → Option Bytes} {uid : Nat}
    {name : Bytes} {password : Option Bytes} {isAdmin : Option Bool}
    {t : UsersTable}
    (hwhole : UpdateWhole fault uid name password isAdmin t) :
    ((adminUpdateUser fault uid (some name) password isAdmin t).1 = t ∧
      (adminUpdateUser fault uid (some name) password isAdmin t).2 ≠ none) ∨
    ((adminUpdateUser fault uid (some name) password isAdmin t).2 = none ∧
      (adminUpdateUser fault uid (some name) password isAdmin t).1.Names uid
        (nameParam name)) := by
  simp only [adminUpdateUser, Option.isNone_some, Bool.false_and,
    Bool.false_eq_true, if_false]
  rcases runOne_setUsername (fault 0) uid (nameParam name) t with
    ⟨e, hfirst⟩ | ⟨hfault, hnew, t₁, row, hfirst, hrow, hid, hrow₁⟩
  · left
    simp [runGiven, hfirst]
  · right
    obtain ⟨hpassword, hadmin⟩ := hwhole hfault hnew row hrow hid
    obtain ⟨t₂, t₃, hsecond, hthird, hnames⟩ := updateRest_names hrow₁ hid rfl
      hpassword hadmin
    rw [runGiven, hfirst]
    dsimp only
    rw [hsecond]
    dsimp only
    rw [hthird]
    exact ⟨rfl, hnames⟩

theorem adminDeleteUser_cases (fault : Nat → Option Bytes) (uid : Nat)
    (t : UsersTable) :
    ((adminDeleteUser fault uid t).1 = t ∧
      (adminDeleteUser fault uid t).2 ≠ none) ∨
    (adminDeleteUser fault uid t).1 = (t.delete uid).1 := by
  unfold adminDeleteUser
  split
  · exact .inl ⟨rfl, by simp⟩
  · split
    · rename_i t' hdelete
      rw [hdelete]
      exact .inr rfl
    · rename_i t' count hdelete
      rw [hdelete]
      exact .inr rfl

end MysqlStore

/-! ## An arbitrary store call -/

/-- What a store call can do to the `users` table. -/
inductive UsersEffect (t : UsersTable) : StoreOp → UsersTable → Prop where
  | same (operation : StoreOp) : UsersEffect t operation t
  | registered (un password : Bytes) (wantAdmin : Bool) (t' : UsersTable)
      (uid : Nat)
      (hinsert : t.insert (MysqlStore.nameParam un)
        (MysqlStore.passwordParam password) wantAdmin = some (t', uid)) :
      UsersEffect t (.authenticateOrRegister un password wantAdmin) t'
  | added (un password : Bytes) (isAdmin : Bool) (t' : UsersTable)
      (uid : Nat)
      (hinsert : t.insert (MysqlStore.nameParam un)
        (MysqlStore.passwordParam password) isAdmin = some (t', uid)) :
      UsersEffect t (.adminInsertUser un password isAdmin) t'
  | updated (uid : Nat) (newUsername newPassword : Option Bytes)
      (newIsAdmin : Option Bool) (change : UserRow → UserRow)
      (t' : UsersTable)
      (hchange : MysqlStore.UpdateChange newUsername newIsAdmin change)
      (hedited : t.Edited uid change t') :
      UsersEffect t
        (.adminUpdateUser uid newUsername newPassword newIsAdmin) t'
  | deleted (uid : Nat) :
      UsersEffect t (.adminDeleteUser uid) (t.delete uid).1

namespace StoreOp

theorem usersEffect (env : Env) (db : Db) (operation : StoreOp) :
    UsersEffect db.users operation (operation.exec env db).1.users := by
  cases operation with
  | authenticateOrRegister un password wantAdmin =>
      simp only [exec, MysqlStore.authenticateOrRegister]
      rcases MysqlStore.authenticateRounds_cases env.fault
        (MysqlStore.nameParam un) password wantAdmin 4 0 db.users with
        ⟨e, hout⟩ | ⟨row, _, _, _, _, hout⟩ | ⟨t', uid, hinsert, hout⟩
      · rw [hout]
        exact .same _
      · rw [hout]
        exact .same _
      · rw [hout]
        exact .registered un password wantAdmin t' uid hinsert
  | adminInsertUser un password isAdmin =>
      simp only [exec]
      rcases MysqlStore.adminInsertUser_cases env.fault un password isAdmin
        db.users with hsame | ⟨t', uid, hinsert, hout⟩
      · rw [hsame]
        exact .same _
      · rw [hout]
        exact .added un password isAdmin t' uid hinsert
  | adminUpdateUser uid newUsername newPassword newIsAdmin =>
      obtain ⟨change, hchange, hedited⟩ := MysqlStore.adminUpdateUser_edited
        env.fault uid newUsername newPassword newIsAdmin db.users
      exact .updated uid newUsername newPassword newIsAdmin change _ hchange
        hedited
  | adminDeleteUser uid =>
      simp only [exec]
      rcases MysqlStore.adminDeleteUser_cases env.fault uid db.users with
        ⟨hsame, _⟩ | hdelete
      · rw [hsame]
        exact .same _
      · rw [hdelete]
        exact .deleted uid
  | _ => exact .same _

theorem authenticate_row (env : Env) (db : Db) {un password : Bytes}
    {wantAdmin : Bool} {info : UserInfo}
    (hok : ((authenticateOrRegister un password wantAdmin).exec env db).2 =
      .ok info) :
    ∃ row ∈ ((authenticateOrRegister un password wantAdmin).exec env
        db).1.users.rows,
      row.id = info.id ∧ row.username = MysqlStore.nameParam un ∧
      row.isAdmin = info.isAdmin := by
  simp only [exec, MysqlStore.authenticateOrRegister] at hok ⊢
  rcases MysqlStore.authenticateRounds_cases env.fault
    (MysqlStore.nameParam un) password wantAdmin 4 0 db.users with
    ⟨e, hout⟩ | ⟨row, hrow, hname, _, _, hout⟩ | ⟨t', uid, hinsert, hout⟩
  · rw [hout] at hok
    cases hok
  · rw [hout] at hok ⊢
    cases hok
    exact ⟨row, hrow, rfl, hname, rfl⟩
  · rw [hout] at hok ⊢
    cases hok
    obtain ⟨hrows, _⟩ := UsersTable.insert_eq_some hinsert
    refine ⟨⟨uid, MysqlStore.nameParam un,
      MysqlStore.passwordParam password, wantAdmin⟩, ?_, rfl, rfl, rfl⟩
    rw [hrows]
    simp

end StoreOp

namespace UsersEffect

variable {t t' : UsersTable} {operation : StoreOp}

theorem row_survives (heffect : UsersEffect t operation t') {row : UserRow}
    (hrow : row ∈ t.rows) (hdelete : operation ≠ .adminDeleteUser row.id) :
    row ∈ t'.rows ∨
    ∃ newUsername newPassword newIsAdmin change,
      operation =
        .adminUpdateUser row.id newUsername newPassword newIsAdmin ∧
      MysqlStore.UpdateChange newUsername newIsAdmin change ∧
      change row ∈ t'.rows := by
  cases heffect with
  | same _ => exact .inl hrow
  | registered un password wantAdmin _ _ hinsert =>
      rw [(UsersTable.insert_eq_some hinsert).1]
      exact .inl (List.mem_append_left _ hrow)
  | added un password isAdmin _ _ hinsert =>
      rw [(UsersTable.insert_eq_some hinsert).1]
      exact .inl (List.mem_append_left _ hrow)
  | updated uid newUsername newPassword newIsAdmin change _ hchange
      hedited =>
      have hmem := hedited.mem hrow
      by_cases huid : row.id = uid
      · rw [if_pos huid] at hmem
        exact .inr ⟨newUsername, newPassword, newIsAdmin, change,
          by rw [huid], hchange, hmem⟩
      · rw [if_neg huid] at hmem
        exact .inl hmem
  | deleted uid =>
      refine .inl (List.mem_filter.mpr ⟨hrow, ?_⟩)
      have hne : row.id ≠ uid := by
        rintro rfl
        exact hdelete rfl
      simpa using hne

theorem names (heffect : UsersEffect t operation t') {uid : Nat}
    {name : Bytes} (hnames : t.Names uid name)
    (hupdate : ∀ newName password isAdmin,
      operation = .adminUpdateUser uid (some newName) password isAdmin →
        MysqlStore.nameParam newName = name)
    (hdelete : operation ≠ .adminDeleteUser uid) : t'.Names uid name := by
  obtain ⟨row, hrow, rfl, hname⟩ := hnames
  rcases heffect.row_survives hrow hdelete with hsame |
    ⟨newUsername, newPassword, newIsAdmin, change, rfl, hchange, hmem⟩
  · exact ⟨row, hsame, rfl, hname⟩
  · refine ⟨change row, hmem, hchange.id row, ?_⟩
    rcases hchange.username row with hsame | ⟨newName, rfl, hnew⟩
    · exact hsame.trans hname
    · exact hnew.trans (hupdate newName newPassword newIsAdmin rfl)

theorem hasAdmin (heffect : UsersEffect t operation t') {uid : Nat}
    (hadmin : t.HasAdmin uid)
    (hupdate : ∀ newUsername password,
      operation ≠ .adminUpdateUser uid newUsername password (some false))
    (hdelete : operation ≠ .adminDeleteUser uid) : t'.HasAdmin uid := by
  obtain ⟨row, hrow, rfl, hflag⟩ := hadmin
  rcases heffect.row_survives hrow hdelete with hsame |
    ⟨newUsername, newPassword, newIsAdmin, change, rfl, hchange, hmem⟩
  · exact ⟨row, hsame, rfl, hflag⟩
  · refine ⟨change row, hmem, hchange.id row, ?_⟩
    rcases hchange.isAdmin row with hsame | ⟨value, rfl, hnew⟩
    · exact hsame.trans hflag
    · cases value with
      | true => exact hnew
      | false => exact absurd rfl (hupdate newUsername newPassword)

theorem nextId_le (heffect : UsersEffect t operation t') :
    t.nextId ≤ t'.nextId := by
  cases heffect with
  | same _ => exact Nat.le_refl _
  | registered un password wantAdmin _ _ hinsert =>
      rw [(UsersTable.insert_eq_some hinsert).2.2.1]
      exact Nat.le_succ _
  | added un password isAdmin _ _ hinsert =>
      rw [(UsersTable.insert_eq_some hinsert).2.2.1]
      exact Nat.le_succ _
  | updated uid newUsername newPassword newIsAdmin change _ hchange
      hedited =>
      rw [hedited.1]
  | deleted uid => exact Nat.le_refl _

theorem gone (heffect : UsersEffect t operation t') {uid : Nat}
    (hgone : t.Gone uid) : t'.Gone uid := by
  refine ⟨Nat.lt_of_lt_of_le hgone.1 heffect.nextId_le, ?_⟩
  have hlt := hgone.1
  have happend : ∀ row : UserRow, row.id = t.nextId →
      t'.rows = t.rows ++ [row] → ∀ other ∈ t'.rows, other.id ≠ uid := by
    intro row hid hrows other hother
    rw [hrows, List.mem_append, List.mem_singleton] at hother
    rcases hother with hold | rfl
    · exact hgone.2 other hold
    · omega
  cases heffect with
  | same _ => exact hgone.2
  | registered un password wantAdmin _ _ hinsert =>
      obtain ⟨hrows, hid, _⟩ := UsersTable.insert_eq_some hinsert
      exact happend _ hid hrows
  | added un password isAdmin _ _ hinsert =>
      obtain ⟨hrows, hid, _⟩ := UsersTable.insert_eq_some hinsert
      exact happend _ hid hrows
  | updated other newUsername newPassword newIsAdmin change _ hchange
      hedited =>
      intro row hrow
      rw [hedited.2, List.mem_map] at hrow
      obtain ⟨old, hold, rfl⟩ := hrow
      have hne := hgone.2 old hold
      split
      · rwa [hchange.id]
      · exact hne
  | deleted other =>
      intro row hrow
      exact hgone.2 row (List.mem_filter.mp hrow).1

end UsersEffect

/-- The login is under the name, the password and the role of account
`uid`. -/
def StoreOp.Opens (t : UsersTable) (uid : Nat) : StoreOp → Prop
  | .authenticateOrRegister un password wantAdmin =>
      ∃ row ∈ t.rows, row.id = uid ∧
        row.username = MysqlStore.nameParam un ∧ row.password = password ∧
        row.isAdmin = wantAdmin
  | _ => False

instance (t : UsersTable) (uid : Nat) (operation : StoreOp) :
    Decidable (operation.Opens t uid) :=
  match operation with
  | .authenticateOrRegister _ _ _ =>
      inferInstanceAs (Decidable (∃ row ∈ t.rows, _))
  | .ipWhitelisted _ | .userIdByUsername _ | .adminListAllowlist
  | .adminInsertAllowlist _ | .adminUpdateAllowlist _ _
  | .adminDeleteAllowlist _ | .adminListUsers | .adminInsertUser _ _ _
  | .adminGetUsernameById _ | .adminUpdateUser _ _ _ _
  | .adminDeleteUser _ => .isFalse id

theorem StoreOp.authenticate_id (env : Env) (db : Db) {un password : Bytes}
    {wantAdmin : Bool} {info : UserInfo}
    (hok : ((authenticateOrRegister un password wantAdmin).exec env db).2 =
      .ok info) :
    (authenticateOrRegister un password wantAdmin).Opens db.users info.id ∨
      info.id = db.users.nextId := by
  simp only [exec, MysqlStore.authenticateOrRegister] at hok
  rcases MysqlStore.authenticateRounds_cases env.fault
    (MysqlStore.nameParam un) password wantAdmin 4 0 db.users with
    ⟨e, hout⟩ | ⟨row, hrow, hname, hpassword, hrole, hout⟩ |
    ⟨t', uid, hinsert, hout⟩
  · rw [hout] at hok
    cases hok
  · rw [hout] at hok
    cases hok
    exact .inl ⟨row, hrow, rfl, hname, hpassword, hrole⟩
  · rw [hout] at hok
    cases hok
    exact .inr (UsersTable.insert_eq_some hinsert).2.1

theorem StoreOp.row_of_opens {t : UsersTable} {uid : Nat}
    {operation : StoreOp} (hopens : operation.Opens t uid) :
    ∃ row ∈ t.rows, row.id = uid := by
  cases operation with
  | authenticateOrRegister un password wantAdmin =>
      obtain ⟨row, hrow, hid, _⟩ := hopens
      exact ⟨row, hrow, hid⟩
  | _ => exact absurd hopens id

theorem StoreOp.nameOf_row (env : Env) (db : Db) {uid : Nat} {name : Bytes}
    (hok : ((adminGetUsernameById uid).exec env db).2 = .ok name) :
    db.users.Names uid name := by
  simp only [exec, MysqlStore.adminGetUsernameById] at hok
  split at hok
  · cases hok
  · split at hok
    · cases hok
    · rename_i row hselect
      split at hok
      · cases hok
      · cases hok
        obtain ⟨hrow, hid⟩ := UsersTable.selectById_eq_some hselect
        exact ⟨row, hrow, hid, rfl⟩

theorem StoreOp.userId_row (env : Env) (db : Db) {username : Bytes}
    {uid : Nat}
    (hok : ((userIdByUsername username).exec env db).2 = some uid) :
    db.users.Names uid (MysqlStore.nameParam username) := by
  simp only [exec, MysqlStore.userIdByUsername] at hok
  split at hok
  · cases hok
  · rw [Option.map_eq_some_iff] at hok
    obtain ⟨row, hselect, hid⟩ := hok
    obtain ⟨hrow, hname⟩ := UsersTable.selectByUsername_eq_some hselect
    exact ⟨row, hrow, hid, hname⟩

theorem StoreOp.delete_gone (env : Env) (db : Db) {uid : Nat}
    (hlt : uid < ((adminDeleteUser uid).exec env db).1.users.nextId)
    (hok : ((adminDeleteUser uid).exec env db).2 = none) :
    ((adminDeleteUser uid).exec env db).1.users.Gone uid := by
  simp only [exec] at hlt hok ⊢
  rcases MysqlStore.adminDeleteUser_cases env.fault uid db.users with
    ⟨_, herr⟩ | hdeleted
  · exact absurd hok herr
  · rw [hdeleted] at hlt ⊢
    exact UsersTable.delete_gone hlt

end AsioForwarder
