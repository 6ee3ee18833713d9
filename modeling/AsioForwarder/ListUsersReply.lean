import AsioForwarder.Hub
import Mathlib.Algebra.GroupWithZero.Nat

/-!
# The reply to `list_users`

`Packs` is the grammar of packed objects: a list of packer calls is the
packing of a list of objects.  In every packing the calls are as many as the
objects and their children, which a body with a wrong array size does not
meet.

The handler counts the open connections of an account, packs that number as
the size of an array, and then asks every connection again whether it is open.
-/

namespace AsioForwarder

/-! ## Packed objects -/

def flatten (entries : ObjMap) : List Obj :=
  entries.flatMap (fun entry => [entry.1, entry.2])

/-- The calls pack the objects. -/
inductive Packs : List Tok → List Obj → Prop where
  | nil : Packs [] []
  | str (value : Bytes) {toks : List Tok} {objs : List Obj}
      (hlater : Packs toks objs) :
      Packs (.str value :: toks) (.str value :: objs)
  | bin (value : Bytes) {toks : List Tok} {objs : List Obj}
      (hlater : Packs toks objs) :
      Packs (.bin value :: toks) (.bin value :: objs)
  | uint (value : Nat) {toks : List Tok} {objs : List Obj}
      (hlater : Packs toks objs) :
      Packs (.uint value :: toks) (.positiveInteger value :: objs)
  | bool (value : Bool) {toks : List Tok} {objs : List Obj}
      (hlater : Packs toks objs) :
      Packs (.bool value :: toks) (.boolean value :: objs)
  | array (elements : List Obj) {toks : List Tok} {objs : List Obj}
      (hlater : Packs toks (elements ++ objs)) :
      Packs (.array elements.length :: toks) (.array elements :: objs)
  | map (entries : ObjMap) {toks : List Tok} {objs : List Obj}
      (hlater : Packs toks (flatten entries ++ objs)) :
      Packs (.map entries.length :: toks) (.map entries :: objs)

def Tok.children : Tok → Nat
  | .array size => size
  | .map size => 2 * size
  | _ => 0

def childrenOf (toks : List Tok) : Nat :=
  (toks.map Tok.children).sum

theorem childrenOf_cons (tok : Tok) (toks : List Tok) :
    childrenOf (tok :: toks) = tok.children + childrenOf toks := by
  rw [childrenOf, List.map_cons, List.sum_cons, childrenOf]

theorem childrenOf_append (first second : List Tok) :
    childrenOf (first ++ second) = childrenOf first + childrenOf second := by
  rw [childrenOf, List.map_append, List.sum_append, childrenOf, childrenOf]

theorem flatten_length (entries : ObjMap) :
    (flatten entries).length = 2 * entries.length := by
  induction entries with
  | nil => rfl
  | cons entry rest ih =>
      rw [flatten, List.flatMap_cons, List.length_append]
      rw [flatten] at ih
      rw [ih, List.length_cons, List.length_cons, List.length_cons,
        List.length_nil]
      omega

theorem Packs.length_eq {toks : List Tok} {objs : List Obj}
    (hpacks : Packs toks objs) :
    toks.length = objs.length + childrenOf toks := by
  induction hpacks with
  | nil => rfl
  | str value _ ih | bin value _ ih | uint value _ ih | bool value _ ih =>
      simp only [List.length_cons, childrenOf_cons, Tok.children]
      omega
  | array elements _ ih =>
      rw [List.length_append] at ih
      simp only [List.length_cons, childrenOf_cons, Tok.children]
      omega
  | map entries _ ih =>
      rw [List.length_append, flatten_length] at ih
      simp only [List.length_cons, childrenOf_cons, Tok.children]
      omega

theorem packs_flatMap {α : Type} (pack : α → List Tok) (object : α → Obj)
    (hitem : ∀ item toks objs, Packs toks objs →
      Packs (pack item ++ toks) (object item :: objs))
    (items : List α) {toks : List Tok} {objs : List Obj}
    (hlater : Packs toks objs) :
    Packs (items.flatMap pack ++ toks) (items.map object ++ objs) := by
  induction items with
  | nil => exact hlater
  | cons item rest ih =>
      rw [List.flatMap_cons, List.append_assoc]
      exact hitem item _ _ ih

/-! ## The body -/

namespace Registry

/-- The entry of a connection. -/
def IsConnection (conns : List ConnId) (obj : Obj) : Prop :=
  ∃ c ∈ conns, ∃ endpoint, obj = .map
    [(.str (lit "conn_id"), .positiveInteger c),
      (.str (lit "endpoint"), .str endpoint)]

/-- The entry of an account with its connections. -/
def IsAccount (r : Registry) (account : Σ _ : Nat, List ConnId) (obj : Obj) :
    Prop :=
  ∃ connections, (∀ connection ∈ connections,
      IsConnection account.2 connection) ∧
    obj = .map [(.str (lit "user_id"), .positiveInteger account.1),
      (.str (lit "username"),
        .str ((r.uidToUsername.lookup account.1).getD [])),
      (.str (lit "connections"), .array connections)]

/-- The body is one map, in which `users` has an entry for each account, with
as many connections as it announces. -/
def WellFormedReply (r : Registry) (body : List Tok) : Prop :=
  ∃ users, List.Forall₂ (r.IsAccount) r.userDeque.entries users ∧
    Packs body [.map [(.str (lit "ok"), .boolean true),
      (.str (lit "op"), .str (lit "CONTROL")),
      (.str (lit "users"), .array users)]]

def connectionToks (endpointStr : ConnId → Bytes) (c : ConnId) : List Tok :=
  [.map 2, .str (lit "conn_id"), .uint c, .str (lit "endpoint"),
    .str (endpointStr c)]

def accountToks (counted listed : ConnId → Bool)
    (endpointStr : ConnId → Bytes) (r : Registry)
    (account : Σ _ : Nat, List ConnId) : List Tok :=
  [.map 3, .str (lit "user_id"), .uint account.1, .str (lit "username"),
    .str ((r.uidToUsername.lookup account.1).getD []),
    .str (lit "connections"), .array (account.2.filter counted).length] ++
  (account.2.filter listed).flatMap (connectionToks endpointStr)

theorem listUsersBody_eq_flatMap (counted listed : ConnId → Bool)
    (endpointStr : ConnId → Bytes) (r : Registry) :
    r.listUsersBody counted listed endpointStr =
      [.map 3, .str (lit "ok"), .bool true, .str (lit "op"),
        .str (lit "CONTROL"), .str (lit "users"),
        .array r.userDeque.entries.length] ++
      r.userDeque.entries.flatMap
        (accountToks counted listed endpointStr r) := rfl

section Reply

variable {counted listed : ConnId → Bool} {endpointStr : ConnId → Bytes}
  {r : Registry}

/-! ### A body with the right sizes -/

def connectionObj (endpointStr : ConnId → Bytes) (c : ConnId) : Obj :=
  .map [(.str (lit "conn_id"), .positiveInteger c),
    (.str (lit "endpoint"), .str (endpointStr c))]

def accountObj (listed : ConnId → Bool) (endpointStr : ConnId → Bytes)
    (r : Registry) (account : Σ _ : Nat, List ConnId) : Obj :=
  .map [(.str (lit "user_id"), .positiveInteger account.1),
    (.str (lit "username"),
      .str ((r.uidToUsername.lookup account.1).getD [])),
    (.str (lit "connections"),
      .array ((account.2.filter listed).map (connectionObj endpointStr)))]

theorem packs_connectionToks (endpointStr : ConnId → Bytes) (c : ConnId)
    (toks : List Tok) (objs : List Obj) (hlater : Packs toks objs) :
    Packs (connectionToks endpointStr c ++ toks)
      (connectionObj endpointStr c :: objs) :=
  .map [(.str (lit "conn_id"), .positiveInteger c),
      (.str (lit "endpoint"), .str (endpointStr c))]
    (.str _ (.uint _ (.str _ (.str _ hlater))))

theorem packs_accountToks {account : Σ _ : Nat, List ConnId}
    (hcount : (account.2.filter counted).length =
      (account.2.filter listed).length)
    (toks : List Tok) (objs : List Obj) (hlater : Packs toks objs) :
    Packs (accountToks counted listed endpointStr r account ++ toks)
      (accountObj listed endpointStr r account :: objs) := by
  have hconnections := Packs.array _ (packs_flatMap
    (connectionToks endpointStr) (connectionObj endpointStr)
    (packs_connectionToks endpointStr) (account.2.filter listed) hlater)
  rw [List.length_map, ← hcount] at hconnections
  rw [accountToks, List.append_assoc]
  exact .map [(.str (lit "user_id"), .positiveInteger account.1),
      (.str (lit "username"),
        .str ((r.uidToUsername.lookup account.1).getD [])),
      (.str (lit "connections"), .array ((account.2.filter listed).map
        (connectionObj endpointStr)))]
    (.str _ (.uint _ (.str _ (.str _ (.str _ hconnections)))))

theorem packs_accounts (endpointStr : ConnId → Bytes) (r : Registry)
    {accounts : List (Σ _ : Nat, List ConnId)}
    (hcount : ∀ account ∈ accounts, (account.2.filter counted).length =
      (account.2.filter listed).length)
    {toks : List Tok} {objs : List Obj} (hlater : Packs toks objs) :
    Packs (accounts.flatMap (accountToks counted listed endpointStr r) ++ toks)
      (accounts.map (accountObj listed endpointStr r) ++ objs) := by
  induction accounts with
  | nil => exact hlater
  | cons account rest ih =>
      rw [List.flatMap_cons, List.append_assoc]
      exact packs_accountToks (hcount account List.mem_cons_self) _ _
        (ih (fun other hother =>
          hcount other (List.mem_cons_of_mem _ hother)))

theorem isAccount_accountObj (listed : ConnId → Bool)
    (endpointStr : ConnId → Bytes) (r : Registry)
    (account : Σ _ : Nat, List ConnId) :
    r.IsAccount account (accountObj listed endpointStr r account) := by
  refine ⟨_, ?_, rfl⟩
  intro connection hconnection
  obtain ⟨c, hc, rfl⟩ := List.mem_map.mp hconnection
  exact ⟨c, (List.mem_filter.mp hc).1, endpointStr c, rfl⟩

theorem wellFormedReply_of_counts
    (hcount : ∀ account ∈ r.userDeque.entries,
      (account.2.filter counted).length = (account.2.filter listed).length) :
    r.WellFormedReply (r.listUsersBody counted listed endpointStr) := by
  refine ⟨r.userDeque.entries.map (accountObj listed endpointStr r), ?_, ?_⟩
  · rw [List.forall₂_map_right_iff, List.forall₂_same]
    intro account _
    exact isAccount_accountObj listed endpointStr r account
  · have haccounts := Packs.array _
      (packs_accounts endpointStr r hcount Packs.nil)
    rw [List.append_nil, List.length_map] at haccounts
    rw [listUsersBody_eq_flatMap]
    exact .map [(.str (lit "ok"), .boolean true),
        (.str (lit "op"), .str (lit "CONTROL")),
        (.str (lit "users"), .array (r.userDeque.entries.map
          (accountObj listed endpointStr r)))]
      (.str _ (.bool _ (.str _ (.str _ (.str _ haccounts)))))

/-! ### The balance of a body -/

theorem connections_balance (endpointStr : ConnId → Bytes)
    (conns : List ConnId) :
    (conns.flatMap (connectionToks endpointStr)).length =
      conns.length +
        childrenOf (conns.flatMap (connectionToks endpointStr)) := by
  induction conns with
  | nil => rfl
  | cons c rest ih =>
      rw [List.flatMap_cons, List.length_append, childrenOf_append, ih,
        List.length_cons]
      simp only [connectionToks, childrenOf, Tok.children, List.length_cons,
        List.length_nil, List.map_cons, List.sum_cons, List.map_nil,
        List.sum_nil]
      omega

theorem account_balance (counted listed : ConnId → Bool)
    (endpointStr : ConnId → Bytes) (r : Registry)
    (account : Σ _ : Nat, List ConnId) :
    (accountToks counted listed endpointStr r account).length +
        (account.2.filter counted).length =
      1 + childrenOf (accountToks counted listed endpointStr r account) +
        (account.2.filter listed).length := by
  have hconnections :=
    connections_balance endpointStr (account.2.filter listed)
  rw [accountToks, List.length_append, childrenOf_append, hconnections]
  simp only [childrenOf, Tok.children, List.length_cons, List.length_nil,
    List.map_cons, List.sum_cons, List.map_nil, List.sum_nil]
  omega

/-- If no account lists more connections than it counted, the calls are too
few, unless every account lists as many. -/
theorem accounts_balance (endpointStr : ConnId → Bytes) (r : Registry)
    {accounts : List (Σ _ : Nat, List ConnId)}
    (hless : ∀ account ∈ accounts, (account.2.filter listed).length ≤
      (account.2.filter counted).length) :
    (accounts.flatMap (accountToks counted listed endpointStr r)).length ≤
        accounts.length + childrenOf
          (accounts.flatMap (accountToks counted listed endpointStr r)) ∧
      ((accounts.flatMap (accountToks counted listed endpointStr r)).length =
          accounts.length + childrenOf
            (accounts.flatMap (accountToks counted listed endpointStr r)) →
        ∀ account ∈ accounts, (account.2.filter counted).length =
          (account.2.filter listed).length) := by
  induction accounts with
  | nil => exact ⟨Nat.le_refl _, fun _ _ hmem => by cases hmem⟩
  | cons account rest ih =>
      obtain ⟨hle, heq⟩ := ih (fun other hother =>
        hless other (List.mem_cons_of_mem _ hother))
      have hhead := hless account List.mem_cons_self
      have hbalance := account_balance counted listed endpointStr r account
      rw [List.flatMap_cons, List.length_append, childrenOf_append,
        List.length_cons]
      constructor
      · omega
      · intro hsame other hother
        rcases List.mem_cons.mp hother with rfl | hrest
        · omega
        · exact heq (by omega) other hrest

theorem counts_of_wellFormedReply
    (hless : ∀ account ∈ r.userDeque.entries,
      (account.2.filter listed).length ≤ (account.2.filter counted).length)
    (hwell :
      r.WellFormedReply (r.listUsersBody counted listed endpointStr)) :
    ∀ account ∈ r.userDeque.entries,
      (account.2.filter counted).length =
        (account.2.filter listed).length := by
  obtain ⟨users, _, hpacks⟩ := hwell
  have hlength := hpacks.length_eq
  refine (accounts_balance endpointStr r hless).2 ?_
  rw [listUsersBody_eq_flatMap, List.length_append, childrenOf_append]
    at hlength
  simp only [childrenOf, Tok.children, List.length_cons, List.length_nil,
    List.map_cons, List.sum_cons, List.map_nil, List.sum_nil] at hlength ⊢
  omega

/-! ### The reply of the handler -/

theorem filter_stillOpen (isOpen stillOpen : ConnId → Bool)
    (conns : List ConnId) :
    conns.filter (fun c => isOpen c && stillOpen c) =
      (conns.filter isOpen).filter stillOpen := by
  rw [List.filter_filter]
  refine List.filter_congr (fun c _ => ?_)
  exact Bool.and_comm (isOpen c) (stillOpen c)

/-- The body is well formed exactly if no connection is closed between the
moments in which it is counted and listed. -/
theorem listUsers_wellFormed_iff (cfg : Config) (env : Env)
    (isOpen : ConnId → Bool) (r : Registry) :
    r.WellFormedReply (LockOp.exec cfg env isOpen r .listUsers).2.2 ↔
      ∀ account ∈ r.userDeque.entries, ∀ c ∈ account.2,
        isOpen c = true → env.stillOpen c = true := by
  have hless : ∀ account ∈ r.userDeque.entries,
      (account.2.filter (fun c => isOpen c && env.stillOpen c)).length ≤
        (account.2.filter isOpen).length := by
    intro account _
    rw [filter_stillOpen]
    exact List.length_filter_le _ _
  have hcount : ∀ conns : List ConnId,
      (conns.filter isOpen).length =
          (conns.filter (fun c => isOpen c && env.stillOpen c)).length ↔
        ∀ c ∈ conns, isOpen c = true → env.stillOpen c = true := by
    intro conns
    rw [filter_stillOpen, eq_comm, List.length_filter_eq_length_iff]
    constructor
    · exact fun hall c hc hopen => hall c (List.mem_filter.mpr ⟨hc, hopen⟩)
    · intro hall c hc
      obtain ⟨hmem, hopen⟩ := List.mem_filter.mp hc
      exact hall c hmem hopen
  constructor
  · intro hwell account haccount
    exact (hcount account.2).mp
      (counts_of_wellFormedReply hless hwell account haccount)
  · intro hkept
    apply wellFormedReply_of_counts
    intro account haccount
    exact (hcount account.2).mpr (hkept account haccount)

/-- The only connection of an account is closed after it was counted: the
array announces an entry which does not follow. -/
theorem listUsers_incomplete :
    ¬WellFormedReply { userDeque := AList.singleton 7 [1] }
      (LockOp.exec forwarderJson { stillOpen := fun _ => false }
        (fun _ => true) { userDeque := AList.singleton 7 [1] }
        .listUsers).2.2 := by
  intro hwell
  obtain ⟨users, _, hpacks⟩ := hwell
  have hlength := hpacks.length_eq
  rw [List.length_singleton] at hlength
  exact absurd hlength (by decide +kernel)

end Reply

end Registry

end AsioForwarder
