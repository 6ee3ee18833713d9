import AsioForwarder.Credentials

/-!
# One name, one account

Every query copies a name into `char[512]`, so it is cut to 511 bytes; the
column takes 255 characters, up to 1020 bytes.  Two names with the same first
511 bytes are therefore one account, if those bytes are a name the column
takes.  `admits` are the values the column takes: the rows hold such names,
and an `INSERT` of another one fails.
-/

namespace AsioForwarder

namespace MysqlStore

/-- The name `n` leads from the table `t` to the account `uid` of the table
`t'`: by a login, which may register it, or by `user_id_by_username`. -/
inductive Resolves (admits : Bytes → Prop) (n : Bytes) (t : UsersTable) :
    Nat → UsersTable → Prop where
  | login (fault : Nat → Option Bytes) (p : Bytes) (role : Bool)
      (t' : UsersTable) (info : UserInfo)
      (hcolumn : ¬admits (nameParam n) → ∀ k, fault (2 * k + 1) ≠ none)
      (hdone : authenticateOrRegister fault (fun _ table => table) n p role
        t = (t', .ok info)) : Resolves admits n t info.id t'
  | lookup (fault : Nat → Option Bytes) (uid : Nat)
      (hdone : userIdByUsername fault n t = some uid) :
      Resolves admits n t uid t

def NamesExactly (admits : Bytes → Prop) (t : UsersTable) (n : Bytes) : Prop :=
  ∀ uid t', Resolves admits n t uid t' → t'.Names uid n

/-- The two names do not lead to one account, the second after the first. -/
def Apart (admits : Bytes → Prop) (t : UsersTable) (n n' : Bytes) : Prop :=
  ∀ uid t' t'', Resolves admits n t uid t' → ¬Resolves admits n' t' uid t''

section Names

variable {admits : Bytes → Prop} {n n' : Bytes} {uid : Nat}
  {t t' : UsersTable}

theorem authenticateRounds_ok (fault : Nat → Option Bytes)
    (uname password : Bytes) (role : Bool) (attempts k : Nat)
    (t : UsersTable) {info : UserInfo}
    (hdone : authenticateRounds fault (fun _ table => table) uname password
      role attempts (2 * k) t = (t', .ok info)) :
    (t' = t ∧ t.Names info.id uname) ∨
      ∃ j, fault (2 * j + 1) = none ∧
        t.insert uname (passwordParam password) role =
          some (t', info.id) := by
  induction attempts generalizing k with
  | zero => cases hdone
  | succ attempts ih =>
      unfold authenticateRounds at hdone
      split at hdone
      · cases hdone
      split at hdone
      · rename_i row hselect
        obtain ⟨hrow, hname⟩ := UsersTable.selectByUsername_eq_some hselect
        split at hdone
        · cases hdone
        split at hdone
        · cases hdone
        split at hdone
        · cases hdone
        cases hdone
        exact .inl ⟨rfl, row, hrow, rfl, hname⟩
      · split at hdone
        · cases hdone
        rename_i hfault
        split at hdone
        · exact ih (k + 1) hdone
        · rename_i t'' uid hinsert
          cases hdone
          exact .inr ⟨k, hfault, hinsert⟩

theorem names_of_insert {password : Bytes} {role : Bool}
    (hinsert : t.insert n password role = some (t', uid)) :
    t'.Names uid n ∧
      ∀ other name, t.Names other name → t'.Names other name := by
  obtain ⟨hrows, _⟩ := UsersTable.insert_eq_some hinsert
  constructor
  · refine ⟨⟨uid, n, password, role⟩, ?_, rfl, rfl⟩
    rw [hrows]
    exact List.mem_append_right _ (List.mem_singleton_self _)
  · rintro other name ⟨row, hrow, hid, hname⟩
    refine ⟨row, ?_, hid, hname⟩
    rw [hrows]
    exact List.mem_append_left _ hrow

theorem names_of_lookup {fault : Nat → Option Bytes}
    (hdone : userIdByUsername fault n t = some uid) :
    t.Names uid (nameParam n) := by
  unfold userIdByUsername at hdone
  split at hdone
  · cases hdone
  · obtain ⟨row, hselect, hid⟩ := Option.map_eq_some_iff.mp hdone
    obtain ⟨hrow, hname⟩ := UsersTable.selectByUsername_eq_some hselect
    exact ⟨row, hrow, hid, hname⟩

/-- A name leads to the account of its cut, and every account keeps its
name. -/
theorem Resolves.names (hresolves : Resolves admits n t uid t') :
    t'.Names uid (nameParam n) ∧
      ∀ other name, t.Names other name → t'.Names other name := by
  cases hresolves with
  | login fault p role t' info hcolumn hdone =>
      rcases authenticateRounds_ok fault (nameParam n) p role 4 0 t hdone with
        ⟨rfl, hname⟩ | ⟨_, _, hinsert⟩
      · exact ⟨hname, fun _ _ hother => hother⟩
      · exact names_of_insert hinsert
  | lookup fault uid hdone =>
      exact ⟨names_of_lookup hdone, fun _ _ hother => hother⟩

theorem admits_of_names (hadmitted : ∀ row ∈ t.rows, admits row.username)
    (hnames : t.Names uid n) : admits n := by
  obtain ⟨row, hrow, _, hname⟩ := hnames
  rw [← hname]
  exact hadmitted row hrow

theorem Resolves.admitted (hadmitted : ∀ row ∈ t.rows, admits row.username)
    (hresolves : Resolves admits n t uid t') : admits (nameParam n) := by
  cases hresolves with
  | login fault p role t' info hcolumn hdone =>
      rcases authenticateRounds_ok fault (nameParam n) p role 4 0 t hdone with
        ⟨_, hname⟩ | ⟨j, hfault, _⟩
      · exact admits_of_names hadmitted hname
      · by_contra hnot
        exact hcolumn hnot j hfault
  | lookup fault uid hdone =>
      exact admits_of_names hadmitted (names_of_lookup hdone)

theorem lookup_of_names (hnames : t.Names uid (nameParam n)) :
    Resolves admits n t uid t := by
  obtain ⟨row, hrow, hid, hname⟩ := hnames
  refine .lookup (fun _ => none) uid ?_
  have hselect := UsersTable.selectByUsername_of_mem hrow
  rw [hname] at hselect
  simp only [userIdByUsername, hselect, Option.map_some, hid]

theorem resolves_exists (hadmits : admits (nameParam n)) (t : UsersTable) :
    ∃ uid t', Resolves admits n t uid t' := by
  cases hselect : t.selectByUsername (nameParam n) with
  | some row =>
      obtain ⟨hrow, hname⟩ := UsersTable.selectByUsername_eq_some hselect
      exact ⟨row.id, t, lookup_of_names ⟨row, hrow, rfl, hname⟩⟩
  | none =>
      cases hinsert : t.insert (nameParam n) (passwordParam []) false with
      | none =>
          unfold UsersTable.insert at hinsert
          split at hinsert
          · rename_i hdup
            obtain ⟨row, hrow, hname⟩ := List.mem_map.mp hdup
            have hfound := UsersTable.selectByUsername_of_mem hrow
            rw [hname, hselect] at hfound
            cases hfound
          · cases hinsert
      | some inserted =>
          obtain ⟨t', uid⟩ := inserted
          refine ⟨uid, t', .login (fun _ => none) [] false t' ⟨uid, false⟩
            (fun hnot => absurd hadmits hnot) ?_⟩
          unfold authenticateOrRegister authenticateRounds
          simp only [hselect, hinsert]

theorem namesExactly_iff (hadmitted : ∀ row ∈ t.rows, admits row.username)
    (n : Bytes) :
    NamesExactly admits t n ↔ (admits (nameParam n) → n.length ≤ 511) := by
  constructor
  · intro hexactly hadmits
    obtain ⟨uid, t', hresolves⟩ := resolves_exists hadmits t
    obtain ⟨row, hrow, hid, hname⟩ := hexactly uid t' hresolves
    obtain ⟨other, hother, hid', hcut⟩ := hresolves.names.1
    rw [t'.eq_of_id_eq hother hrow (hid'.trans hid.symm), hname] at hcut
    exact (List.take_eq_self_iff n).mp hcut.symm
  · intro hshort uid t' hresolves
    have hcut : nameParam n = n :=
      (List.take_eq_self_iff n).mpr (hshort (hresolves.admitted hadmitted))
    have hnames := hresolves.names.1
    rw [hcut] at hnames
    exact hnames

theorem apart_iff (hadmitted : ∀ row ∈ t.rows, admits row.username)
    (n n' : Bytes) :
    Apart admits t n n' ↔
      (admits (nameParam n) → nameParam n ≠ nameParam n') := by
  constructor
  · intro hapart hadmits hsame
    obtain ⟨uid, t', hresolves⟩ := resolves_exists hadmits t
    have hnames := hresolves.names.1
    rw [hsame] at hnames
    exact hapart uid t' t' hresolves (lookup_of_names hnames)
  · intro hdiffer uid t' t'' hfirst hsecond
    obtain ⟨row, hrow, hid, hname⟩ :=
      hsecond.names.2 uid (nameParam n) hfirst.names.1
    obtain ⟨other, hother, hid', hname'⟩ := hsecond.names.1
    rw [t''.eq_of_id_eq hother hrow (hid'.trans hid.symm), hname] at hname'
    exact hdiffer (hfirst.admitted hadmitted) hname'

/-- A name is its account's name exactly if the column does not take its
first 511 bytes or there are no more, and two names are two accounts exactly
if the column does not take these bytes of the first or they differ. -/
theorem oneName_iff (hadmitted : ∀ row ∈ t.rows, admits row.username) :
    (∀ n, NamesExactly admits t n ↔
      (admits (nameParam n) → n.length ≤ 511)) ∧
    ∀ n n', Apart admits t n n' ↔
      (admits (nameParam n) → nameParam n ≠ nameParam n') :=
  ⟨namesExactly_iff hadmitted, apart_iff hadmitted⟩

end Names

/-! ## `VARCHAR(255)` in utf8mb4 -/

def isContinuation (b : UInt8) : Bool := 0x80 ≤ b && b < 0xC0

/-- The second byte of a character; it also excludes the overlong forms, the
surrogates and what lies beyond U+10FFFF. -/
def isSecond (b second : UInt8) : Bool :=
  isContinuation second &&
    !(b = 0xE0 && second < 0xA0) && !(b = 0xED && 0xA0 ≤ second) &&
    !(b = 0xF0 && second < 0x90) && !(b = 0xF4 && 0x90 ≤ second)

/-- The number of characters of a UTF-8 text. -/
def utf8Length : Bytes → Option Nat
  | [] => some 0
  | [b] => if b < 0x80 then some 1 else none
  | b :: second :: rest =>
      if b < 0x80 then (utf8Length (second :: rest)).map (· + 1)
      else if 0xC2 ≤ b && b < 0xE0 && isContinuation second then
        (utf8Length rest).map (· + 1)
      else
        match rest with
        | third :: rest =>
            if 0xE0 ≤ b && b < 0xF0 && isSecond b second &&
              isContinuation third then (utf8Length rest).map (· + 1)
            else
              match rest with
              | fourth :: rest =>
                  if 0xF0 ≤ b && b < 0xF5 && isSecond b second &&
                    isContinuation third && isContinuation fourth then
                      (utf8Length rest).map (· + 1)
                  else none
              | [] => none
        | [] => none

/-- The names the column `username` takes. -/
def varchar255 (name : Bytes) : Prop :=
  ∃ length ∈ utf8Length name, length ≤ 255

instance (name : Bytes) : Decidable (varchar255 name) :=
  inferInstanceAs (Decidable (∃ length ∈ utf8Length name, length ≤ 255))

example : utf8Length (lit "aß中") = some 3 := by decide +kernel

theorem oneName_iff_registered :
    (∀ n, NamesExactly varchar255 registeredTable n ↔
      (varchar255 (nameParam n) → n.length ≤ 511)) ∧
    ∀ n n', Apart varchar255 registeredTable n n' ↔
      (varchar255 (nameParam n) → nameParam n ≠ nameParam n') :=
  oneName_iff (by decide +kernel)

/-- 171 characters in 511 bytes. -/
def longPrefix : Bytes :=
  97 :: (List.replicate 170 [0xE4, 0xB8, 0xAD]).flatten

theorem nameParam_longPrefix (last : UInt8) :
    nameParam (longPrefix ++ [last]) = longPrefix :=
  List.take_left' (by decide +kernel)

def longNameTable : UsersTable :=
  .single ⟨1, longPrefix, lit "pw", false⟩

theorem longName_registers (last : UInt8) :
    Resolves varchar255 (longPrefix ++ [last]) emptyTable 1 longNameTable := by
  refine .login (fun _ => none) (lit "pw") false longNameTable ⟨1, false⟩ ?_ ?_
  · intro hnot
    rw [nameParam_longPrefix] at hnot
    exact absurd (by decide +kernel) hnot
  · unfold authenticateOrRegister
    rw [nameParam_longPrefix]
    rfl

/-- Two names which differ in their 512th byte are one account, whose name is
neither. -/
theorem long_names_share_account :
    ¬NamesExactly varchar255 emptyTable (longPrefix ++ [88]) ∧
      ¬Apart varchar255 emptyTable (longPrefix ++ [88])
        (longPrefix ++ [89]) := by
  have hlogin := longName_registers 88
  constructor
  · intro hexactly
    obtain ⟨row, hrow, _, hname⟩ := hexactly 1 longNameTable hlogin
    rw [List.mem_singleton.mp hrow] at hname
    have hlength := congrArg List.length hname
    simp at hlength
  · intro hapart
    refine hapart 1 longNameTable longNameTable hlogin (lookup_of_names ?_)
    rw [nameParam_longPrefix]
    exact ⟨_, List.mem_singleton_self _, rfl, rfl⟩

end MysqlStore

end AsioForwarder
