import AsioForwarder.UserUpdate
import Mathlib.Data.List.TakeDrop

/-!
# Credentials

Three writers store a password, and `authenticate_or_register` compares it
with the one of a login.  The writers cut a password to the 4095 bytes of
their buffers, the comparison does not, so the law holds up to that length.
-/

namespace AsioForwarder

namespace UsersTable

theorem eq_of_username_eq (t : UsersTable) {first second : UserRow}
    (hfirst : first ∈ t.rows) (hsecond : second ∈ t.rows)
    (hname : first.username = second.username) : first = second :=
  List.inj_on_of_nodup_map t.namesNodup hfirst hsecond hname

theorem selectByUsername_of_mem {t : UsersTable} {row : UserRow}
    (hrow : row ∈ t.rows) :
    t.selectByUsername row.username = some row := by
  cases hselect : t.selectByUsername row.username with
  | none =>
      have hnone := List.find?_eq_none.mp hselect row hrow
      simp at hnone
  | some other =>
      obtain ⟨hother, hname⟩ := selectByUsername_eq_some hselect
      rw [t.eq_of_username_eq hother hrow hname]

end UsersTable

namespace MysqlStore

/-- `t` is the table in which `un`, `pw` and `role` have just become the
credentials of the account `uid`. -/
inductive Created (un pw : Bytes) (role : Bool) (uid : Nat) (t : UsersTable) :
    Prop where
  | registered (fault : Nat → Option Bytes) (before : UsersTable)
      (hnew : before.selectByUsername (nameParam un) = none)
      (hdone : authenticateOrRegister fault (fun _ table => table) un pw role
        before = (t, .ok ⟨uid, role⟩))
  | inserted (fault : Nat → Option Bytes) (before : UsersTable)
      (hdone : adminInsertUser fault un pw role before = (t, none))
      (huid : uid = before.nextId)
  | changed (fault : Nat → Option Bytes) (before : UsersTable)
      (newUsername : Option Bytes) (newIsAdmin : Option Bool) (row : UserRow)
      (hdone : adminUpdateUser fault uid newUsername (some pw) newIsAdmin
        before = (t, none))
      (hrow : row ∈ t.rows) (hid : row.id = uid) (hrole : row.isAdmin = role)
      (hname : un = newUsername.getD row.username)

/-- The credentials log in to the account `uid`, and no other password does
with this name. -/
structure RoundTrips (un pw : Bytes) (role : Bool) (uid : Nat)
    (t : UsersTable) : Prop where
  accepted : ∀ fault, fault 0 = none →
    (authenticateOrRegister fault (fun _ table => table) un pw role t).2 =
      .ok ⟨uid, role⟩
  rejected : ∀ fault pw' role' info, pw' ≠ pw →
    (authenticateOrRegister fault (fun _ table => table) un pw' role' t).2 ≠
      .ok info

section Credentials

variable {un pw : Bytes} {role : Bool} {uid : Nat} {t : UsersTable}

theorem exists_row_of_adminUpdateUser {fault : Nat → Option Bytes}
    {newUsername newPassword : Option Bytes} {newIsAdmin : Option Bool}
    {before : UsersTable} {err : Option Bytes} {row : UserRow}
    (hdone : adminUpdateUser fault uid newUsername newPassword newIsAdmin
      before = (t, err))
    (hrow : row ∈ t.rows) (hid : row.id = uid) :
    ∃ old ∈ before.rows, old.id = uid := by
  obtain ⟨change, hchange, hedited⟩ := adminUpdateUser_edited fault uid
    newUsername newPassword newIsAdmin before
  rw [hdone] at hedited
  rw [hedited.2] at hrow
  obtain ⟨old, hold, hsame⟩ := List.mem_map.mp hrow
  refine ⟨old, hold, ?_⟩
  rw [← hid, ← hsame]
  split
  · exact (hchange.id old).symm
  · rfl

theorem Created.row (hcreated : Created un pw role uid t) :
    ∃ row ∈ t.rows, row.id = uid ∧ row.password = passwordParam pw ∧
      row.isAdmin = role := by
  cases hcreated with
  | registered fault before hnew hdone =>
      rcases authenticateRounds_cases fault (nameParam un) pw role 4 0 before
        with ⟨e, hout⟩ | ⟨row, hrow, hname, _, _, hout⟩ |
          ⟨t', uid', hinsert, hout⟩
      · cases hdone.symm.trans hout
      · have hselect := UsersTable.selectByUsername_of_mem hrow
        rw [hname, hnew] at hselect
        cases hselect
      · cases hdone.symm.trans hout
        obtain ⟨hrows, _⟩ := UsersTable.insert_eq_some hinsert
        refine ⟨⟨uid, nameParam un, passwordParam pw, role⟩, ?_, rfl, rfl, rfl⟩
        rw [hrows]
        exact List.mem_append_right _ (List.mem_singleton_self _)
  | inserted fault before hdone huid =>
      unfold adminInsertUser at hdone
      split at hdone
      · cases hdone
      · split at hdone
        · cases hdone
        · rename_i t' uid' hinsert
          cases hdone
          obtain ⟨hrows, hid, _⟩ := UsersTable.insert_eq_some hinsert
          refine ⟨⟨uid', nameParam un, passwordParam pw, role⟩, ?_,
            hid.trans huid.symm, rfl, rfl⟩
          rw [hrows]
          exact List.mem_append_right _ (List.mem_singleton_self _)
  | changed fault before newUsername newIsAdmin row hdone hrow hid hrole
      hname =>
      obtain ⟨old, hold, hid'⟩ :=
        exists_row_of_adminUpdateUser hdone hrow hid
      obtain ⟨t', hupdate, hholds⟩ := adminUpdateUser_row hold hid' fault
        ⟨newUsername, some pw, newIsAdmin⟩
      have hown : old.username ∈ before.rows.map UserRow.username :=
        List.mem_map_of_mem hold
      have hupdated := updated_updateFields fault
        ⟨newUsername, some pw, newIsAdmin⟩ hown
      generalize updateFields fault (before.rows.map UserRow.username)
        ⟨newUsername, some pw, newIsAdmin⟩ old = outcome
        at hupdate hholds hupdated
      obtain ⟨row', err⟩ := outcome
      cases hdone.symm.trans hupdate
      cases hupdated with
      | accepted hgiven hall =>
          have hmem := hholds.mem hold hid'
          have hsame := t.eq_of_id_eq hrow hmem (hid.trans hholds.1.symm)
          refine ⟨row, hrow, hid, ?_, hrole⟩
          rw [hsame]
          rfl

theorem authenticate_select {fault : Nat → Option Bytes} {row : UserRow}
    (hfault : fault 0 = none)
    (hrow : row ∈ t.rows) (hname : row.username = nameParam un)
    (hfits : row.password.length ≤ 4096) :
    (authenticateOrRegister fault (fun _ table => table) un pw role t).2 =
      if row.password ≠ pw then .error (lit "用户不存在或密码错误")
      else if row.isAdmin ≠ role then
        .error (lit "登录所选权限与账号不一致")
      else .ok ⟨row.id, row.isAdmin⟩ := by
  have hselect := UsersTable.selectByUsername_of_mem hrow
  rw [hname] at hselect
  unfold authenticateOrRegister authenticateRounds
  simp only [hfault, hselect]
  rw [if_neg (Nat.not_lt.mpr hfits)]
  split
  · rfl
  · split
    · rfl
    · rfl

/-- Credentials make the round trip if the password has at most 4095 bytes
and the account is stored under the cut of the username; the latter can only
fail when the password of a longer name is changed. -/
theorem roundTrips_iff (hcreated : Created un pw role uid t) :
    RoundTrips un pw role uid t ↔
      pw.length ≤ 4095 ∧ t.Names uid (nameParam un) := by
  obtain ⟨row, hrow, hid, hpassword, hrole⟩ := hcreated.row
  constructor
  · intro hround
    have haccepted := hround.accepted (fun _ => none) rfl
    rcases authenticateRounds_cases (fun _ => none) (nameParam un) pw role 4 0 t
      with ⟨e, hout⟩ | ⟨found, hfound, hname, hpw, _, hout⟩ |
        ⟨t', uid', hinsert, hout⟩
    · cases haccepted.symm.trans (congrArg Prod.snd hout)
    · have hinfo := haccepted.symm.trans (congrArg Prod.snd hout)
      have huid : found.id = uid :=
        congrArg UserInfo.id (Except.ok.inj hinfo).symm
      have hsame := t.eq_of_id_eq hfound hrow (huid.trans hid.symm)
      constructor
      · rw [hsame, hpassword] at hpw
        exact (List.take_eq_self_iff pw).mp hpw
      · exact ⟨found, hfound, huid, hname⟩
    · have hinfo := haccepted.symm.trans (congrArg Prod.snd hout)
      have huid : uid' = uid :=
        congrArg UserInfo.id (Except.ok.inj hinfo).symm
      obtain ⟨_, hnext, _⟩ := UsersTable.insert_eq_some hinsert
      have hbelow := t.idsBelow row hrow
      omega
  · rintro ⟨hshort, named, hnamed, hid', hname⟩
    have hsame := t.eq_of_id_eq hnamed hrow (hid'.trans hid.symm)
    rw [hsame] at hname
    have hstored : row.password = pw := by
      rw [hpassword]
      exact (List.take_eq_self_iff pw).mpr hshort
    have hfits : row.password.length ≤ 4096 := by
      rw [hstored]
      omega
    constructor
    · intro fault hfault
      rw [authenticate_select hfault hrow hname hfits,
        if_neg (not_not.mpr hstored), if_neg (not_not.mpr hrole), hid, hrole]
    · intro fault pw' role' info hdiffers hok
      cases hfault : fault 0 with
      | some e =>
          unfold authenticateOrRegister authenticateRounds at hok
          rw [hfault] at hok
          cases hok
      | none =>
          rw [authenticate_select hfault hrow hname hfits,
            if_pos (hstored ▸ hdiffers.symm)] at hok
          cases hok

end Credentials

theorem idsBelow_nil : ∀ row ∈ ([] : List UserRow), row.id < 1 :=
  fun _ hrow => absurd hrow List.not_mem_nil

def emptyTable : UsersTable where
  rows := []
  nextId := 1
  idsNodup := List.nodup_nil
  namesNodup := List.nodup_nil
  idsBelow := idsBelow_nil

def registeredTable : UsersTable :=
  .single ⟨1, lit "bob", lit "pw", false⟩

theorem roundTrips_iff_registered :
    Created (lit "bob") (lit "pw") false 1 registeredTable ∧
      (RoundTrips (lit "bob") (lit "pw") false 1 registeredTable ↔
        (lit "pw").length ≤ 4095 ∧
          registeredTable.Names 1 (nameParam (lit "bob"))) := by
  have hcreated : Created (lit "bob") (lit "pw") false 1 registeredTable :=
    .registered (fun _ => none) emptyTable rfl rfl
  exact ⟨hcreated, roundTrips_iff hcreated⟩

def longPassword : Bytes := List.replicate 4096 97

def longPasswordTable : UsersTable :=
  .single ⟨1, lit "bob", passwordParam longPassword, false⟩

/-- A password of 4096 bytes is cut when it is written, and then it is not
the one which logs in. -/
theorem long_password_rejected :
    Created (lit "bob") longPassword false 1 longPasswordTable ∧
      ¬RoundTrips (lit "bob") longPassword false 1 longPasswordTable := by
  have hcreated :
      Created (lit "bob") longPassword false 1 longPasswordTable :=
    .registered (fun _ => none) emptyTable rfl rfl
  refine ⟨hcreated, fun hround => ?_⟩
  have haccepted := hround.accepted (fun _ => none) rfl
  have hlength : (passwordParam longPassword).length = 4095 := by
    rw [passwordParam, longPassword, List.length_take, List.length_replicate]
    rfl
  have hcut : passwordParam longPassword ≠ longPassword := by
    intro hsame
    rw [hsame, longPassword, List.length_replicate] at hlength
    cases hlength
  rw [authenticate_select rfl (List.mem_singleton_self _) rfl
    (by rw [hlength]; decide), if_pos hcut] at haccepted
  cases haccepted

end MysqlStore

end AsioForwarder
