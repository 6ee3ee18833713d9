import AsioForwarder.UserTableUpdate

/-!
# The field types of `user_table_update`

`map_has_key` finds a key whatever its value, `map_get_str` the first text
under it and `map_get_bool` the first boolean, with `false` if there is none.
A value of another type is therefore refused for the two texts but read as
`false` for `is_admin`, and a text is cut to its buffer, not refused.
-/

namespace AsioForwarder

namespace UserTableUpdate

/-- A field has the first value of its type given under its key, and is as
before if the key is absent. -/
def FieldHonoured {α : Type} (mp : ObjMap) (key : Bytes)
    (given : Option α) (before after : α) : Prop :=
  (∀ value, given = some value → after = value) ∧
    (valuesUnder mp key = [] → after = before)

/-- The fields of a row after an accepted request. -/
structure FieldsHonoured (mp : ObjMap) (row row' : UserRow) : Prop where
  username : FieldHonoured mp (lit "username")
    (firstText 511 mp (lit "username")) row.username row'.username
  password : FieldHonoured mp (lit "password")
    (firstText 4095 mp (lit "password")) row.password row'.password
  isAdmin : FieldHonoured mp (lit "is_admin")
    (firstBoolean mp (lit "is_admin")) row.isAdmin row'.isAdmin

/-- One of the keys is present, but only with values of other types. -/
def Malformed (mp : ObjMap) : Prop :=
  (valuesUnder mp (lit "username") ≠ [] ∧
    firstText 511 mp (lit "username") = none) ∨
  (valuesUnder mp (lit "password") ≠ [] ∧
    firstText 4095 mp (lit "password") = none) ∨
  (valuesUnder mp (lit "is_admin") ≠ [] ∧
    firstBoolean mp (lit "is_admin") = none)

/-- An accepted request wrote what it says; a malformed one was rejected and
left the row. -/
structure TypesHonoured (mp : ObjMap) (sender : Identity) (uid : Nat)
    (row : UserRow) (hub hub' : Hub) : Prop where
  accepted : RepliesWith sender.connId hub hub' true →
    ∃ row' ∈ hub'.db.users.rows, row'.id = uid ∧ FieldsHonoured mp row row'
  rejected : Malformed mp → RepliesWith sender.connId hub hub' false ∧
    row ∈ hub'.db.users.rows

/-- The first text under each key, cut to its buffer, is the first one which
fits into it. -/
def CutsFit (mp : ObjMap) (fields : UserFields) : Prop :=
  (∀ name, fields.username = some name →
    firstText 511 mp (lit "username") = some (MysqlStore.nameParam name)) ∧
  ∀ password, fields.password = some password →
    firstText 4095 mp (lit "password") =
      some (MysqlStore.passwordParam password)

theorem valuesUnder_ne_nil_of_mapGetStr {mp : ObjMap} {key text : Bytes}
    (hget : mapGetStr mp key = some text) : valuesUnder mp key ≠ [] := by
  intro hnil
  rw [mapGetStr_eq, hnil] at hget
  cases hget

theorem valuesUnder_ne_nil_of_firstText {mp : ObjMap} {key text : Bytes}
    {bound : Nat} (hget : firstText bound mp key = some text) :
    valuesUnder mp key ≠ [] := by
  intro hnil
  rw [firstText, hnil] at hget
  cases hget

theorem textHonoured_iff {mp : ObjMap} {key : Bytes} {bound : Nat}
    {field : Option Bytes} (hfield : updateField mp key = .ok field)
    (hproper : ¬(valuesUnder mp key ≠ [] ∧ firstText bound mp key = none))
    (before : Bytes) :
    FieldHonoured mp key (firstText bound mp key) before
        ((field.map (List.take bound)).getD before) ↔
      ∀ text, field = some text →
        firstText bound mp key = some (text.take bound) := by
  obtain ⟨hget, hnone⟩ := updateField_eq_ok hfield
  cases field with
  | none =>
      constructor
      · intro _ text htext
        cases htext
      · intro _
        refine ⟨fun text htext => ?_, fun _ => rfl⟩
        exact absurd (hnone rfl) (valuesUnder_ne_nil_of_firstText htext)
  | some text =>
      have hvalues := valuesUnder_ne_nil_of_mapGetStr hget.symm
      obtain ⟨first, hfirst⟩ :
          ∃ first, firstText bound mp key = some first := by
        cases hfirst : firstText bound mp key with
        | none => exact absurd ⟨hvalues, hfirst⟩ hproper
        | some first => exact ⟨first, rfl⟩
      rw [Option.map_some, Option.getD_some, hfirst]
      constructor
      · intro hhonoured text' htext'
        cases htext'
        rw [hhonoured.1 first rfl]
      · intro hcut
        have hsame := Option.some.inj (hcut text rfl)
        refine ⟨fun value hvalue => ?_, fun habsent => absurd habsent hvalues⟩
        cases hvalue
        exact hsame.symm

theorem isAdminHonoured {mp : ObjMap} {field : Option Bool}
    (hfield : field = updateIsAdmin mp) (before : Bool) :
    FieldHonoured mp (lit "is_admin") (firstBoolean mp (lit "is_admin"))
      before (field.getD before) := by
  subst hfield
  constructor
  · intro value hvalue
    rw [updateIsAdmin_of_firstBoolean hvalue, Option.getD_some]
  · intro habsent
    rw [(updateIsAdmin_eq_none_iff mp).mpr habsent, Option.getD_none]

section TypesHonoured

variable {envs : Nat → Env} {sender : Identity} {seq : UInt32} {mp : ObjMap}
  {hub hub' : Hub} {uid : Nat} {row : UserRow} {fields : UserFields}
  {outcome : UserRow × Option Bytes}

theorem fieldsHonoured_write_iff
    (hreaches : Reaches envs mp hub uid row fields)
    (hproper : ¬Malformed mp) :
    FieldsHonoured mp row (fields.write row) ↔ CutsFit mp fields := by
  have husername := textHonoured_iff hreaches.username
    (fun hbad => hproper (.inl hbad)) row.username
  have hpassword := textHonoured_iff hreaches.password
    (fun hbad => hproper (.inr (.inl hbad))) row.password
  constructor
  · intro hhonoured
    exact ⟨husername.mp hhonoured.username, hpassword.mp hhonoured.password⟩
  · intro hcut
    exact ⟨husername.mpr hcut.1, hpassword.mpr hcut.2,
      isAdminHonoured hreaches.isAdmin row.isAdmin⟩

theorem Refused.typesHonoured (hrefused : Refused sender seq hub hub')
    (hmem : row ∈ hub.db.users.rows) :
    TypesHonoured mp sender uid row hub hub' := by
  obtain ⟨code, message, hcalls⟩ := hrefused.replied
  have hreply := repliesWith_iff hcalls
    (RelayClient.eventOfWire_errReplyWire seq code message)
  constructor
  · intro htrue
    have hok := (hreply true).mp htrue
    cases hok
  · intro _
    rw [hrefused.db]
    exact ⟨(hreply false).mpr rfl, hmem⟩

theorem Performed.row_mem_iff (hreaches : Reaches envs mp hub uid row fields)
    (hperformed : Performed sender seq hub uid row fields outcome hub') :
    row ∈ hub'.db.users.rows ↔ outcome.1 = row := by
  have hmem := hperformed.users.mem hreaches.mem hreaches.row_id
  constructor
  · intro hrow
    exact hub'.db.users.eq_of_id_eq hmem hrow
      (hperformed.users.1.trans hreaches.row_id.symm)
  · intro hsame
    rw [hsame] at hmem
    exact hmem

theorem Performed.typesHonoured_of_failed
    (hreaches : Reaches envs mp hub uid row fields)
    (hperformed : Performed sender seq hub uid row fields outcome hub')
    {e : Bytes} (hfailed : outcome.2 = some e) :
    TypesHonoured mp sender uid row hub hub' ↔
      (Malformed mp → outcome.1 = row) := by
  obtain ⟨_, hcalls⟩ := hperformed.failed e hfailed
  have hreply := repliesWith_iff hcalls
    (RelayClient.eventOfWire_errReplyWire seq kProtocol e)
  rw [← hperformed.row_mem_iff hreaches]
  constructor
  · intro hhonoured hmalformed
    exact (hhonoured.rejected hmalformed).2
  · intro hkept
    constructor
    · intro htrue
      have hok := (hreply true).mp htrue
      cases hok
    · intro hmalformed
      exact ⟨(hreply false).mpr rfl, hkept hmalformed⟩

theorem Performed.typesHonoured_of_succeeded
    (hreaches : Reaches envs mp hub uid row fields)
    (hperformed : Performed sender seq hub uid row fields outcome hub')
    (hsucceeded : outcome.2 = none) :
    TypesHonoured mp sender uid row hub hub' ↔
      ¬Malformed mp ∧ FieldsHonoured mp row outcome.1 := by
  obtain ⟨_, hcalls⟩ := hperformed.succeeded hsucceeded
  have hreply := repliesWith_iff hcalls
    (RelayClient.eventOfWire_okReplyWire seq (lit "CONTROL"))
  have hmem := hperformed.users.mem hreaches.mem hreaches.row_id
  constructor
  · intro hhonoured
    constructor
    · intro hmalformed
      have hok := (hreply false).mp (hhonoured.rejected hmalformed).1
      cases hok
    · obtain ⟨row', hrow', hid', hfields⟩ :=
        hhonoured.accepted ((hreply true).mpr rfl)
      have hsame : row' = outcome.1 := hub'.db.users.eq_of_id_eq hrow' hmem
        (hid'.trans hperformed.users.1.symm)
      rw [← hsame]
      exact hfields
  · intro ⟨hproper, hfields⟩
    exact ⟨fun _ => ⟨outcome.1, hmem, hperformed.users.1, hfields⟩,
      fun hmalformed => absurd hmalformed hproper⟩

/-- The types are honoured unless the first statement takes effect for a
malformed request, or every statement does although a text was cut to
something else than the first text which fits. -/
theorem typesHonoured_iff (cfg : Config) (envs : Nat → Env)
    (sender : Identity) (seq : UInt32) (mp : ObjMap) (hub : Hub) :
    (∀ uid row, mapGetU64 mp (lit "id") = some uid →
      row ∈ hub.db.users.rows → row.id = uid →
      TypesHonoured mp sender uid row hub
        (handled cfg envs sender seq mp hub)) ↔
      ∀ uid row fields, Reaches envs mp hub uid row fields →
        fields.FirstTakes (envs 1).fault
          (hub.db.users.rows.map UserRow.username) row →
        ¬Malformed mp ∧
          (fields.AllTake (envs 1).fault
            (hub.db.users.rows.map UserRow.username) row →
            CutsFit mp fields) := by
  obtain ⟨hrefused, hnone⟩ | ⟨uid, row, fields, hreaches, hperformed⟩ :=
    handled_cases cfg envs sender seq mp hub
  · constructor
    · intro _ uid row fields hreaches
      exact absurd hreaches (hnone uid row fields)
    · intro _ uid row _ hmem _
      exact hrefused.typesHonoured hmem
  have hown : row.username ∈ hub.db.users.rows.map UserRow.username :=
    List.mem_map_of_mem hreaches.mem
  have hupdated := MysqlStore.updated_updateFields (envs 1).fault fields hown
  have hone : (∀ uid row, mapGetU64 mp (lit "id") = some uid →
      row ∈ hub.db.users.rows → row.id = uid →
      TypesHonoured mp sender uid row hub
        (handled cfg envs sender seq mp hub)) ↔
      TypesHonoured mp sender uid row hub
        (handled cfg envs sender seq mp hub) := by
    constructor
    · intro hevery
      exact hevery uid row hreaches.id hreaches.mem hreaches.row_id
    · intro hhonoured uid' row' hid hmem hid'
      have huid := Option.some.inj (hid.symm.trans hreaches.id)
      have hrow := hub.db.users.eq_of_id_eq hmem hreaches.mem
        (hid'.trans (huid.trans hreaches.row_id.symm))
      rw [huid, hrow]
      exact hhonoured
  rw [hone, hreaches.forall_iff]
  generalize MysqlStore.updateFields (envs 1).fault
    (hub.db.users.rows.map UserRow.username) fields row = outcome
    at hperformed hupdated
  cases hupdated with
  | accepted hgiven htake =>
      rw [hperformed.typesHonoured_of_succeeded hreaches rfl]
      constructor
      · intro ⟨hproper, hfields⟩ _
        exact ⟨hproper,
          fun _ => (fieldsHonoured_write_iff hreaches hproper).mp hfields⟩
      · intro hcond
        obtain ⟨hproper, hcut⟩ := hcond (htake.first hgiven)
        exact ⟨hproper,
          (fieldsHonoured_write_iff hreaches hproper).mpr (hcut htake)⟩
  | refused hnot e =>
      rw [hperformed.typesHonoured_of_failed hreaches rfl]
      constructor
      · exact fun _ hfirst => absurd hfirst hnot
      · exact fun _ _ => rfl
  | partly hfirst hnot row' hchanged e =>
      rw [hperformed.typesHonoured_of_failed hreaches rfl]
      constructor
      · intro hkept _
        exact ⟨fun hmalformed => hchanged (hkept hmalformed),
          fun hall => absurd hall hnot⟩
      · intro hcond hmalformed
        exact absurd hmalformed (hcond hfirst).1

end TypesHonoured

def eveHub : Hub where
  db :=
    { users := .single ⟨1, lit "eve", lit "pw", true⟩, allowlist := ⟨[], 1⟩ }

def numberRequest : ObjMap :=
  [(.str (lit "id"), .positiveInteger 1),
    (.str (lit "is_admin"), .positiveInteger 1)]

/-- The account loses its rights, and the reply says `ok`. -/
theorem number_demotes_admin :
    ¬∀ uid row, mapGetU64 numberRequest (lit "id") = some uid →
      row ∈ eveHub.db.users.rows → row.id = uid →
      TypesHonoured numberRequest root uid row eveHub
        (handled forwarderJson (fun _ => {}) root 7 numberRequest eveHub) := by
  intro hevery
  have hhonoured := hevery 1 ⟨1, lit "eve", lit "pw", true⟩ (by decide +kernel)
    (by decide +kernel) rfl
  have hmalformed : Malformed numberRequest := by
    refine .inr (.inr ⟨?_, ?_⟩)
    · exact List.cons_ne_nil _ _
    · rfl
  obtain ⟨_, hkept⟩ := hhonoured.rejected hmalformed
  have hrows : (handled forwarderJson (fun _ => {}) root 7 numberRequest
      eveHub).db.users.rows = [⟨1, lit "eve", lit "pw", false⟩] := by
    decide +kernel
  rw [hrows] at hkept
  exact absurd hkept (by decide +kernel)

end UserTableUpdate

end AsioForwarder
