import AsioForwarder.UserUpdate

/-!
# Missing ids

`admin_update_allowlist` and `admin_update_user` take a statement which changed
no row for one which found no row.  MySQL counts the rows whose value changed,
so a row which already has the new value is reported as missing, and a
successful update cannot be repeated.
-/

namespace AsioForwarder

/-- An update reports a missing id exactly if `missing`, and one which
succeeded succeeds again and changes nothing more. -/
structure MissingIdReported {Table : Type} (missing : Prop)
    (update : Table → Table × Option Bytes) (t : Table) : Prop where
  reported : (update t).2 = some (lit "无此 id") ↔ missing
  repeats : (update t).2 = none →
    update (update t).1 = ((update t).1, none)

theorem MissingIdReported.of_failed {Table : Type} {missing : Prop}
    {update : Table → Table × Option Bytes} {t : Table} {e : Bytes}
    (hfailed : (update t).2 = some e) :
    MissingIdReported missing update t ↔ (e = lit "无此 id" ↔ missing) := by
  constructor
  · intro hreported
    rw [← hreported.reported, hfailed, Option.some.injEq]
  · intro he
    constructor
    · rw [hfailed, Option.some.injEq]
      exact he
    · intro hnone
      rw [hfailed] at hnone
      cases hnone

theorem MissingIdReported.not_of_repeated {Table : Type} {missing : Prop}
    {update : Table → Table × Option Bytes} {t : Table}
    (hsucceeded : (update t).2 = none)
    (hrepeated : (update (update t).1).2 ≠ none) :
    ¬MissingIdReported missing update t := by
  intro hreported
  rw [hreported.repeats hsucceeded] at hrepeated
  exact hrepeated rfl

theorem conflict_ne_missing : lit "IP 与已有记录冲突" ≠ lit "无此 id" := by
  decide

theorem taken_ne_missing : lit "用户名冲突" ≠ lit "无此 id" := by
  decide

theorem nothing_ne_missing : lit "无字段可更新" ≠ lit "无此 id" := by
  decide

namespace MysqlStore

/-! ## The allowlist -/

section Allowlist

variable {t : IpTable} {id : Nat} {ip : Bytes} {row : IpRow}

theorem find?_eq_none_iff (t : IpTable) (id : Nat) :
    t.rows.find? (fun row => row.id = id) = none ↔
      ∀ row ∈ t.rows, row.id ≠ id := by
  simp [List.find?_eq_none]

theorem find?_setIp (ip : Bytes)
    (hfind : t.rows.find? (fun row => row.id = id) = some row) :
    (t.rows.map (fun row =>
        if row.id = id then { row with ip := ip } else row)).find?
      (fun row => row.id = id) = some { row with ip := ip } := by
  generalize t.rows = rows at hfind ⊢
  induction rows with
  | nil => cases hfind
  | cons head rest ih =>
      by_cases hhead : head.id = id
      · simp only [List.find?_cons, hhead, decide_true, Option.some.injEq]
          at hfind
        subst hfind
        simp [hhead]
      · simp only [List.find?_cons, hhead, decide_false] at hfind
        rw [List.map_cons, if_neg hhead, List.find?_cons]
        simp only [hhead, decide_false]
        exact ih hfind

theorem adminUpdateAllowlist_repeated
    (hfind : t.rows.find? (fun row => row.id = id) = some row)
    (hdiffers : row.ip ≠ ipParam ip)
    (hfree : t.contains (ipParam ip) = false) :
    (adminUpdateAllowlist (fun _ => none) id ip t).2 = none ∧
      (adminUpdateAllowlist (fun _ => none) id ip
        (adminUpdateAllowlist (fun _ => none) id ip t).1).2 =
          some (lit "无此 id") := by
  have hset : adminUpdateAllowlist (fun _ => none) id ip t =
      ({ t with rows := t.rows.map (fun row =>
        if row.id = id then { row with ip := ipParam ip } else row) },
        none) := by
    simp only [adminUpdateAllowlist, IpTable.setIp, hfind, if_neg hdiffers,
      hfree, Bool.false_eq_true, if_false]
  rw [hset]
  refine ⟨rfl, ?_⟩
  have hfind' := find?_setIp (ipParam ip) hfind
  simp only [adminUpdateAllowlist, IpTable.setIp, hfind', if_true]

theorem adminUpdateAllowlist_missing_iff (t : IpTable) (id : Nat)
    (ip : Bytes) :
    MissingIdReported (∀ row ∈ t.rows, row.id ≠ id)
        (adminUpdateAllowlist (fun _ => none) id ip) t ↔
      ∀ row, t.rows.find? (fun row => row.id = id) = some row →
        row.ip ≠ ipParam ip ∧ ∃ other ∈ t.rows, other.ip = ipParam ip := by
  rw [← find?_eq_none_iff]
  cases hfind : t.rows.find? (fun row => row.id = id) with
  | none =>
      have hfailed : (adminUpdateAllowlist (fun _ => none) id ip t).2 =
          some (lit "无此 id") := by
        simp only [adminUpdateAllowlist, IpTable.setIp, hfind]
      rw [MissingIdReported.of_failed hfailed]
      simp
  | some row =>
      simp only [Option.some.injEq, forall_eq', reduceCtorEq]
      by_cases hsame : row.ip = ipParam ip
      · have hfailed : (adminUpdateAllowlist (fun _ => none) id ip t).2 =
            some (lit "无此 id") := by
          simp only [adminUpdateAllowlist, IpTable.setIp, hfind, if_pos hsame]
        rw [MissingIdReported.of_failed hfailed]
        simp [hsame]
      by_cases htaken : t.contains (ipParam ip) = true
      · have hfailed : (adminUpdateAllowlist (fun _ => none) id ip t).2 =
            some (lit "IP 与已有记录冲突") := by
          simp only [adminUpdateAllowlist, IpTable.setIp, hfind,
            if_neg hsame, if_pos htaken]
        rw [MissingIdReported.of_failed hfailed]
        have hother : ∃ other ∈ t.rows, other.ip = ipParam ip := by
          simpa [IpTable.contains] using htaken
        simp [hsame, hother, conflict_ne_missing]
      · have hfree : t.contains (ipParam ip) = false := by simpa using htaken
        obtain ⟨hsucceeded, hrepeated⟩ :=
          adminUpdateAllowlist_repeated hfind hsame hfree
        constructor
        · intro hreported
          refine absurd hreported
            (MissingIdReported.not_of_repeated hsucceeded ?_)
          rw [hrepeated]
          exact Option.some_ne_none _
        · intro ⟨_, other, hother, hip⟩
          have hcontains : t.contains (ipParam ip) = true := by
            simp only [IpTable.contains, List.any_eq_true]
            exact ⟨other, hother, by simpa using hip⟩
          exact absurd hcontains htaken

end Allowlist

/-! ## The accounts -/

section Users

variable {t : UsersTable} {uid : Nat} {row : UserRow} {fields : UserFields}
  {taken : List Bytes}

/-- The new name is the name of another account. -/
def NameClash (taken : List Bytes) (row : UserRow) (fields : UserFields) :
    Prop :=
  ∃ name, fields.username = some name ∧ nameParam name ≠ row.username ∧
    nameParam name ∈ taken

theorem updateColumn_refusal (change : UserRow → UserRow) (row : UserRow)
    {e : Bytes} (hrefusal : (updateColumn none change row).2 = some e) :
    e = lit "无此 id" := by
  unfold updateColumn at hrefusal
  dsimp only at hrefusal
  split at hrefusal
  · exact (Option.some.inj hrefusal).symm
  · cases hrefusal

theorem updateGiven_refusal {α : Type} (field : Option α)
    (change : α → UserRow → UserRow) (row : UserRow) {e : Bytes}
    (hrefusal : (updateGiven field
      (fun value => updateColumn none (change value)) row).2 = some e) :
    e = lit "无此 id" := by
  cases field with
  | none => cases hrefusal
  | some value => exact updateColumn_refusal (change value) row hrefusal

/-- Without database errors, every refusal of a column says that the id is
missing, except for a name in use. -/
theorem updateFields_refusal (hgiven : fields.isEmpty = false) {e : Bytes}
    (hrefusal : (updateFields (fun _ => none) taken fields row).2 = some e) :
    (e = lit "用户名冲突" ∧ NameClash taken row fields) ∨
      (e = lit "无此 id" ∧ ¬NameClash taken row fields) := by
  unfold updateFields at hrefusal
  rw [hgiven, if_neg Bool.false_ne_true] at hrefusal
  cases husername : fields.username with
  | none =>
      right
      constructor
      · rw [husername] at hrefusal
        dsimp only [updateGiven] at hrefusal
        split at hrefusal
        · rename_i hpassword
          have he := congrArg Prod.snd hpassword
          cases hrefusal
          exact updateGiven_refusal fields.password _ _ he
        · exact updateGiven_refusal fields.isAdmin _ _ hrefusal
      · intro hclash
        obtain ⟨name, hname, _⟩ := hclash
        cases husername.symm.trans hname
  | some name =>
      rw [husername] at hrefusal
      simp only [updateGiven, updateName, List.contains_iff_mem] at hrefusal
      by_cases hsame : row.username = nameParam name
      · right
        simp only [if_pos hsame] at hrefusal
        cases hrefusal
        refine ⟨rfl, ?_⟩
        intro hclash
        obtain ⟨other, hother, hne, _⟩ := hclash
        cases husername.symm.trans hother
        exact hne hsame.symm
      by_cases htaken : nameParam name ∈ taken
      · left
        simp only [if_neg hsame, if_pos htaken] at hrefusal
        cases hrefusal
        exact ⟨rfl, name, husername, fun heq => hsame heq.symm, htaken⟩
      · right
        simp only [if_neg hsame, if_neg htaken] at hrefusal
        constructor
        · split at hrefusal
          · rename_i hpassword
            have he := congrArg Prod.snd hpassword
            cases hrefusal
            exact updateGiven_refusal fields.password _ _ he
          · exact updateGiven_refusal fields.isAdmin _ _ hrefusal
        · intro hclash
          obtain ⟨other, hother, _, hmem⟩ := hclash
          cases husername.symm.trans hother
          exact htaken hmem

theorem not_firstTakes_write (fault : Nat → Option Bytes)
    (hown : (fields.write row).username ∈ taken) :
    ¬fields.FirstTakes fault taken (fields.write row) := by
  intro hfirst
  cases husername : fields.username with
  | some name =>
      have htakes := (firstTakes_of_name (by rw [husername]; rfl)).mp hfirst
      refine (htakes name husername).2 ?_
      simpa [UserFields.write, husername] using hown
  | none =>
  cases hpassword : fields.password with
  | some password =>
      have htakes := (firstTakes_of_password husername
        (by rw [hpassword]; rfl)).mp hfirst
      refine (htakes password hpassword).2 ?_
      simp [UserFields.write, hpassword]
  | none =>
  cases hadmin : fields.isAdmin with
  | some value =>
      have htakes := (firstTakes_of_isAdmin husername hpassword
        (by rw [hadmin]; rfl)).mp hfirst
      refine (htakes value hadmin).2 ?_
      simp [UserFields.write, hadmin]
  | none =>
      simp [UserFields.FirstTakes, husername, hpassword, hadmin] at hfirst

theorem selectById_eq_none (hmissing : ∀ row ∈ t.rows, row.id ≠ uid) :
    t.selectById uid = none := by
  cases hselect : t.selectById uid with
  | none => rfl
  | some row =>
      obtain ⟨hmem, hid⟩ := UsersTable.selectById_eq_some hselect
      exact absurd hid (hmissing row hmem)

theorem adminUpdateUser_missing (hmissing : ∀ row ∈ t.rows, row.id ≠ uid)
    (hgiven : fields.isEmpty = false) :
    adminUpdateUser (fun _ => none) uid fields.username fields.password
      fields.isAdmin t = (t, some (lit "无此 id")) := by
  have hselect := selectById_eq_none hmissing
  unfold adminUpdateUser
  rw [UserFields.isEmpty] at hgiven
  rw [hgiven, if_neg Bool.false_ne_true]
  cases husername : fields.username with
  | some name =>
      simp only [runGiven, runOne, UsersTable.setUsername, hselect]
  | none =>
  cases hpassword : fields.password with
  | some password =>
      simp only [runGiven, runOne, UsersTable.setPassword,
        UsersTable.setColumn, hselect]
  | none =>
  cases hadmin : fields.isAdmin with
  | some value =>
      simp only [runGiven, runOne, UsersTable.setIsAdmin,
        UsersTable.setColumn, hselect]
  | none =>
      rw [husername, hpassword, hadmin] at hgiven
      cases hgiven

theorem adminUpdateUser_empty (hempty : fields.isEmpty = true) :
    (adminUpdateUser (fun _ => none) uid fields.username fields.password
      fields.isAdmin t).2 = some (lit "无字段可更新") := by
  unfold adminUpdateUser
  rw [UserFields.isEmpty] at hempty
  rw [hempty, if_pos rfl]

theorem adminUpdateUser_repeated (fields : UserFields)
    (hrow : row ∈ t.rows) (hid : row.id = uid)
    (hsucceeded : (adminUpdateUser (fun _ => none) uid fields.username
      fields.password fields.isAdmin t).2 = none) :
    (adminUpdateUser (fun _ => none) uid fields.username fields.password
      fields.isAdmin (adminUpdateUser (fun _ => none) uid fields.username
        fields.password fields.isAdmin t).1).2 ≠ none := by
  obtain ⟨t', hupdate, hholds⟩ :=
    adminUpdateUser_row hrow hid (fun _ => none) fields
  have hown : row.username ∈ t.rows.map UserRow.username :=
    List.mem_map_of_mem hrow
  have hupdated := updated_updateFields (fun _ => none) fields hown
  rw [hupdate] at hsucceeded ⊢
  generalize updateFields (fun _ => none) (t.rows.map UserRow.username) fields
    row = outcome at hholds hsucceeded hupdated
  cases hupdated with
  | refused hnot e => cases hsucceeded
  | partly hfirst hnot row' hchanged e => cases hsucceeded
  | accepted hgiven hall =>
      have hrow' := hholds.mem hrow hid
      have hown' : (fields.write row).username ∈
          t'.rows.map UserRow.username := List.mem_map_of_mem hrow'
      obtain ⟨t'', hupdate', _⟩ :=
        adminUpdateUser_row hrow' hholds.1 (fun _ => none) fields
      have hupdated' := updated_updateFields (fun _ => none) fields hown'
      dsimp only
      rw [hupdate']
      generalize updateFields (fun _ => none)
        (t'.rows.map UserRow.username) fields (fields.write row) = outcome'
        at hupdated' ⊢
      cases hupdated' with
      | refused hnot e => exact Option.some_ne_none e
      | partly hfirst hnot row' hchanged e => exact Option.some_ne_none e
      | accepted _ hall' =>
          exact absurd (hall'.first hgiven)
            (not_firstTakes_write (fun _ => none) hown')

theorem not_nameClash (hown : row.username ∈ taken)
    (hsucceeded : (updateFields (fun _ => none) taken fields row).2 = none) :
    ¬NameClash taken row fields := by
  rintro ⟨name, hname, _, htaken⟩
  have hupdated := updated_updateFields (fun _ => none) fields hown
  generalize updateFields (fun _ => none) taken fields row = outcome
    at hsucceeded hupdated
  cases hupdated with
  | refused hnot e => cases hsucceeded
  | partly hfirst hnot row' hchanged e => cases hsucceeded
  | accepted hgiven hall => exact (hall.1 name hname).2 htaken

theorem reported_of_missing (t : UsersTable) {uid : Nat}
    (hmissing : ∀ row ∈ t.rows, row.id ≠ uid) (fields : UserFields) :
    MissingIdReported (∀ row ∈ t.rows, row.id ≠ uid)
        (adminUpdateUser (fun _ => none) uid fields.username fields.password
          fields.isAdmin) t ↔ fields.isEmpty = false := by
  cases hempty : fields.isEmpty with
  | true =>
      rw [MissingIdReported.of_failed (adminUpdateUser_empty hempty)]
      simpa [nothing_ne_missing] using hmissing
  | false =>
      have hfailed :=
        congrArg Prod.snd (adminUpdateUser_missing hmissing hempty)
      rw [MissingIdReported.of_failed hfailed]
      exact ⟨fun _ => rfl, fun _ => ⟨fun _ => hmissing, fun _ => rfl⟩⟩

theorem reported_of_mem (t : UsersTable) {uid : Nat} (hrow : row ∈ t.rows)
    (hid : row.id = uid) (fields : UserFields) :
    MissingIdReported (∀ row ∈ t.rows, row.id ≠ uid)
        (adminUpdateUser (fun _ => none) uid fields.username fields.password
          fields.isAdmin) t ↔
      fields.isEmpty = true ∨
        NameClash (t.rows.map UserRow.username) row fields := by
  have hexists : ¬∀ row ∈ t.rows, row.id ≠ uid :=
    fun hmissing => hmissing row hrow hid
  cases hempty : fields.isEmpty with
  | true =>
      rw [MissingIdReported.of_failed (adminUpdateUser_empty hempty)]
      simp [hexists, nothing_ne_missing]
  | false =>
      have hrepeated := adminUpdateUser_repeated fields hrow hid
      obtain ⟨t', hupdate, _⟩ :=
        adminUpdateUser_row hrow hid (fun _ => none) fields
      have hown : row.username ∈ t.rows.map UserRow.username :=
        List.mem_map_of_mem hrow
      cases herr : (updateFields (fun _ => none)
          (t.rows.map UserRow.username) fields row).2 with
      | some e =>
          have hfailed := (congrArg Prod.snd hupdate).trans herr
          rw [MissingIdReported.of_failed hfailed]
          obtain ⟨rfl, hclash⟩ | ⟨rfl, hclash⟩ :=
            updateFields_refusal hempty herr
          · simp [hexists, hclash, taken_ne_missing]
          · simp [hexists, hclash]
      | none =>
          have hsucceeded := (congrArg Prod.snd hupdate).trans herr
          constructor
          · intro hreported
            exact absurd hreported (MissingIdReported.not_of_repeated
              hsucceeded (hrepeated hsucceeded))
          · rintro (hfalse | hclash)
            · cases hfalse
            · exact absurd hclash (not_nameClash hown herr)

theorem adminUpdateUser_missing_iff (t : UsersTable) (uid : Nat)
    (fields : UserFields) :
    MissingIdReported (∀ row ∈ t.rows, row.id ≠ uid)
        (adminUpdateUser (fun _ => none) uid fields.username fields.password
          fields.isAdmin) t ↔
      ((∀ row ∈ t.rows, row.id ≠ uid) → fields.isEmpty = false) ∧
      ∀ row ∈ t.rows, row.id = uid → fields.isEmpty = true ∨
        NameClash (t.rows.map UserRow.username) row fields := by
  by_cases hmissing : ∀ row ∈ t.rows, row.id ≠ uid
  · rw [reported_of_missing t hmissing fields]
    constructor
    · exact fun hgiven =>
        ⟨fun _ => hgiven, fun row hrow hid => absurd hid (hmissing row hrow)⟩
    · exact fun hboth => hboth.1 hmissing
  · have hexists := hmissing
    push Not at hexists
    obtain ⟨row, hrow, hid⟩ := hexists
    rw [reported_of_mem t hrow hid fields]
    constructor
    · intro hclash
      refine ⟨fun hnone => absurd hnone hmissing, fun other hother hid' => ?_⟩
      rw [t.eq_of_id_eq hother hrow (hid'.trans hid.symm)]
      exact hclash
    · exact fun hboth => hboth.2 row hrow hid

end Users

/-- When the two updates report exactly the missing ids: if there is no such
row (and something to write), or if the new value is another row's.  Every
other update of a row that exists is reported as missing at once, or when it
is repeated. -/
theorem missingIds_iff (t : IpTable) (id : Nat) (ip : Bytes)
    (users : UsersTable) (uid : Nat) (fields : UserFields) :
    (MissingIdReported (∀ row ∈ t.rows, row.id ≠ id)
        (adminUpdateAllowlist (fun _ => none) id ip) t ↔
      ∀ row, t.rows.find? (fun row => row.id = id) = some row →
        row.ip ≠ ipParam ip ∧ ∃ other ∈ t.rows, other.ip = ipParam ip) ∧
    (MissingIdReported (∀ row ∈ users.rows, row.id ≠ uid)
        (adminUpdateUser (fun _ => none) uid fields.username fields.password
          fields.isAdmin) users ↔
      ((∀ row ∈ users.rows, row.id ≠ uid) → fields.isEmpty = false) ∧
      ∀ row ∈ users.rows, row.id = uid → fields.isEmpty = true ∨
        NameClash (users.rows.map UserRow.username) row fields) :=
  ⟨adminUpdateAllowlist_missing_iff t id ip,
    adminUpdateUser_missing_iff users uid fields⟩

/-- Writing the address a row has is reported as a missing id. -/
theorem same_address_reported_missing :
    ¬MissingIdReported
      (∀ row ∈ (IpTable.mk [⟨1, lit "10.0.0.1"⟩] 2).rows, row.id ≠ 1)
      (adminUpdateAllowlist (fun _ => none) 1 (lit "10.0.0.1"))
      (IpTable.mk [⟨1, lit "10.0.0.1"⟩] 2) := by
  intro hreported
  have hnoRow := hreported.reported.mp (by decide +kernel)
  exact hnoRow ⟨1, lit "10.0.0.1"⟩ (List.mem_singleton_self _) rfl

end MysqlStore

end AsioForwarder
