import AsioForwarder.RecvModeInvariant
import AsioForwarder.Rotation

/-!
# Round-robin delivery

The cursor of an account counts its DATA frames, whoever sent them, and is
reduced by the number of connections which are open at the moment.  While
these stay the same, so does their order in the deque, and the frames go round
them from wherever the cursor stands.
-/

namespace AsioForwarder

namespace Registry

theorem recipients_cursor {cfg : Config} {r : Registry} {uid : Nat}
    {isOpen : ConnId → Bool}
    (hmode : r.userRecvMode.lookup uid = some .roundRobin)
    (hopen : (r.deque uid).filter isOpen ≠ []) :
    (r.recipients cfg isOpen uid).1.rrNextIndex.lookup uid =
      some (((r.rrNextIndex.lookup uid).getD 0 + 1) % UInt64.size) := by
  unfold recipients
  cases hlookup : r.userDeque.lookup uid with
  | none =>
      rw [deque, hlookup] at hopen
      exact absurd rfl hopen
  | some dq =>
      rw [deque_of_lookup hlookup] at hopen
      simp [hopen, hmode]

theorem recipients_cursor_ne (cfg : Config) (isOpen : ConnId → Bool)
    {uid other : Nat} (r : Registry) (hne : other ≠ uid) :
    (r.recipients cfg isOpen uid).1.rrNextIndex.lookup other =
      r.rrNextIndex.lookup other := by
  unfold recipients
  split
  · rfl
  · dsimp only
    split
    · rfl
    · split
      · rfl
      · exact AList.lookup_insert_ne hne

theorem removeSession_cursor (r : Registry) (c : ConnId) (loggedIn : Bool)
    (uid other : Nat) :
    (r.removeSession c loggedIn uid).rrNextIndex.lookup other =
        r.rrNextIndex.lookup other ∨
      (r.removeSession c loggedIn uid).deque other = [] := by
  unfold removeSession dropFromDeque
  dsimp only
  split
  · split
    · exact .inl rfl
    · split
      · by_cases hsame : other = uid
        · subst hsame
          right
          simp [deque]
        · left
          simp [AList.lookup_erase_ne hsame]
      · exact .inl rfl
  · exact .inl rfl

end Registry

namespace Server

variable {cfg : Config} {unpack : Bytes → Option Obj} {s s' : Server}
  {event : Event} {uid : Nat}

/-- The open connections of an account, in the order of its deque. -/
def openConns (s : Server) (uid : Nat) : List ConnId :=
  (s.hub.reg.deque uid).filter s.hub.isOpen

/-- `rr_next_index_[uid]`. -/
def cursor (s : Server) (uid : Nat) : Nat :=
  (s.hub.reg.rrNextIndex.lookup uid).getD 0

/-- The DATA frames for an account, each as the connections on which
`send_frame` is called for it. -/
def routed (cfg : Config) (uid : Nat) (s : Server) :
    Event → List (List ConnId)
  | .advance c env =>
      match s.pendingOp c with
      | some (.lock (.deliver srcUsername srcConn dst dstUid payload seq)) =>
          if dstUid = uid then
            [((Op.lock (.deliver srcUsername srcConn dst dstUid payload
              seq)).calls cfg env s.hub).map Prod.fst]
          else []
      | _ => []
  | _ => []

/-! ## One step -/

theorem loginOrder_sublist (hstep : s.step cfg unpack event = some s') :
    (loginOrder s.hub.calls).Sublist (loginOrder s'.hub.calls) := by
  obtain ⟨added, hcalls⟩ := calls_extend hstep
  rw [← hcalls, loginOrder_append]
  exact List.sublist_append_left _ _

theorem Listed.openConns_sublist (hlisted : s.Listed cfg) (uid : Nat) :
    (s.openConns uid).Sublist (loginOrder s.hub.calls) :=
  List.filter_sublist.trans (hlisted.ordered uid)

/-- A deque lists its connections in the order of their logins, so the order
of the open ones is given by the set of them. -/
theorem openConns_of_step (hlisted : s.Listed cfg) (hlisted' : s'.Listed cfg)
    (hstep : s.step cfg unpack event = some s')
    (hsame : ∀ c, c ∈ s'.openConns uid ↔ c ∈ s.openConns uid) :
    s'.openConns uid = s.openConns uid := by
  have hbefore := (hlisted.openConns_sublist uid).trans
    (loginOrder_sublist hstep)
  have hafter := hlisted'.openConns_sublist uid
  apply (List.Nodup.perm_iff_eq_of_sublist hlisted'.loginsNodup hafter
    hbefore).mp
  exact (List.perm_ext_iff_of_nodup (hafter.nodup hlisted'.loginsNodup)
    (hbefore.nodup hlisted'.loginsNodup)).mpr hsame

theorem exec_cursor_of_not_deliver (env : Env) (hub : Hub) {op : Op}
    (hdeliver : ∀ srcUsername srcConn dst payload seq,
      op ≠ .lock (.deliver srcUsername srcConn dst uid payload seq)) :
    (op.exec cfg env hub).1.reg.rrNextIndex.lookup uid =
      hub.reg.rrNextIndex.lookup uid := by
  cases op with
  | lock operation =>
      rw [Op.exec_lock_reg]
      cases operation with
      | login self un info wantMode =>
          simp [LockOp.exec, Registry.login]
      | deliver srcUsername srcConn dst dstUid payload seq =>
          have hne : uid ≠ dstUid := by
            rintro rfl
            exact hdeliver srcUsername srcConn dst payload seq rfl
          exact Registry.recipients_cursor_ne cfg hub.isOpen hub.reg hne
      | _ => rfl
  | _ => rfl

/-- A step routes one DATA frame for the account, or none and then leaves its
cursor alone, unless the account loses its last session. -/
theorem routed_of_step (uid : Nat)
    (hstep : s.step cfg unpack event = some s') :
    (s.routed cfg uid event = [] ∧ (s'.cursor uid = s.cursor uid ∨
      s'.hub.reg.deque uid = [])) ∨
    (s.routed cfg uid event =
        [(s.hub.reg.recipients cfg s.hub.isOpen uid).2] ∧
      s'.hub.reg = (s.hub.reg.recipients cfg s.hub.isOpen uid).1) := by
  cases stepped_of_step hstep with
  | perform c env q q' op hreader hop hallows hsender hheader hstage =>
      have hpending := (pendingOp_of_handling hreader).trans hop
      by_cases hdeliver : ∃ srcUsername srcConn dst payload seq,
          op = .lock (.deliver srcUsername srcConn dst uid payload seq)
      · obtain ⟨srcUsername, srcConn, dst, payload, seq, rfl⟩ := hdeliver
        right
        constructor
        · simp only [routed, hpending, if_true, Op.calls, LockOp.exec,
            List.map_map, Function.comp_def, List.map_id']
        · rw [setReader_hub, Op.exec_lock_reg]
          rfl
      · have hother : ∀ srcUsername srcConn dst payload seq,
            op ≠ .lock (.deliver srcUsername srcConn dst uid payload seq) :=
          fun srcUsername srcConn dst payload seq hsame =>
            hdeliver ⟨srcUsername, srcConn, dst, payload, seq, hsame⟩
        refine .inl ⟨?_, .inl ?_⟩
        · simp only [routed, hpending]
          split
          · rename_i dstUid payload seq hsame
            rw [Option.some.injEq] at hsame
            rw [if_neg]
            rintro rfl
            exact hother _ _ _ _ _ hsame
          · rfl
        · rw [cursor, setReader_hub,
            exec_cursor_of_not_deliver env s.hub hother]
          rfl
  | finish c env q hreader hdone =>
      refine .inl ⟨?_, .inl rfl⟩
      simp only [routed, (pendingOp_of_handling hreader).trans hdone.2]
  | removeSession c hreader =>
      left
      refine ⟨rfl, ?_⟩
      rcases s.hub.reg.removeSession_cursor c (s.hub.sessions c).loggedIn
          (s.hub.sessions c).userId uid with hsame | hgone
      · exact .inl (congrArg (Option.getD · 0) hsame)
      · exact .inr hgone
  | _ => exact .inl ⟨rfl, .inl rfl⟩

/-! ## Runs -/

/-- What has been routed to `uid` since its open connections were `conns` and
its cursor was `start`. -/
structure GoesRound (cfg : Config) (uid : Nat) (conns : List ConnId)
    (start : Nat) (seen : List (List ConnId)) (s : Server) : Prop where
  sane : s.Sane
  listed : s.Listed cfg
  same : (∀ c, c ∈ s.openConns uid ↔ c ∈ conns) →
    s.openConns uid = conns ∧
      s.hub.reg.userRecvMode.lookup uid = some .roundRobin
  counted : (∀ c, c ∈ s.openConns uid ↔ c ∈ conns) →
    start + seen.length < UInt64.size →
    s.cursor uid = start + seen.length
  turns : start + seen.length ≤ UInt64.size →
    seen = (Rotation.turns conns start seen.length).map (fun c => [c])

section Steady

variable {conns : List ConnId} {start : Nat} {seen : List (List ConnId)}

theorem mem_deque_of_openConns {c : ConnId} (hmem : c ∈ s.openConns uid) :
    c ∈ s.hub.reg.deque uid :=
  List.mem_of_mem_filter hmem

theorem GoesRound.routed_eq (hround : GoesRound cfg uid conns start seen s)
    (hconns : conns ≠ []) (hsteady : ∀ c, c ∈ s.openConns uid ↔ c ∈ conns)
    (hbelow : start + seen.length < UInt64.size) :
    (s.hub.reg.recipients cfg s.hub.isOpen uid).2 =
        Rotation.turns conns (start + seen.length) 1 ∧
      (s.hub.reg.recipients cfg s.hub.isOpen uid).1.rrNextIndex.lookup uid =
        some ((start + seen.length + 1) % UInt64.size) := by
  obtain ⟨horder, hmode⟩ := hround.same hsteady
  have hcursor := hround.counted hsteady hbelow
  rw [cursor] at hcursor
  have hopen : (s.hub.reg.deque uid).filter s.hub.isOpen = conns := horder
  constructor
  · rw [Registry.recipients_of_mode hmode, Registry.recipientsBy]
    rw [hopen, hcursor, Rotation.turns, Rotation.turns_zero, List.append_nil]
  · rw [Registry.recipients_cursor hmode (by rw [hopen]; exact hconns),
      hcursor]

theorem GoesRound.step (hround : GoesRound cfg uid conns start seen s)
    (hconns : conns ≠ []) (hsteady : ∀ c, c ∈ s.openConns uid ↔ c ∈ conns)
    (hstep : s.step cfg unpack event = some s') :
    GoesRound cfg uid conns start (seen ++ s.routed cfg uid event) s' := by
  have hlisted' := hround.listed.step hround.sane hstep
  obtain ⟨horder, hmode⟩ := hround.same hsteady
  obtain ⟨c, hc⟩ := List.exists_mem_of_ne_nil conns hconns
  have hlisted : c ∈ s.hub.reg.deque uid :=
    mem_deque_of_openConns ((hsteady c).mpr hc)
  refine ⟨hround.sane.step hstep, hlisted', ?_, ?_, ?_⟩
  · intro hsteady'
    have hlater : c ∈ s'.hub.reg.deque uid :=
      mem_deque_of_openConns ((hsteady' c).mpr hc)
    refine ⟨?_, mode_kept hround.sane hround.listed.tidy hstep hlisted hlater
      hmode⟩
    rw [← horder]
    exact openConns_of_step hround.listed hlisted' hstep
      (fun d => (hsteady' d).trans (hsteady d).symm)
  · intro hsteady' hbelow
    rcases routed_of_step uid hstep with
      ⟨hnone, hkept | hgone⟩ | ⟨hone, hreg⟩
    · rw [hnone, List.append_nil] at hbelow ⊢
      rw [hkept]
      exact hround.counted hsteady hbelow
    · have hlater := mem_deque_of_openConns ((hsteady' c).mpr hc)
      rw [hgone] at hlater
      cases hlater
    · rw [hone, List.length_append, List.length_singleton] at hbelow ⊢
      have hcursor := (hround.routed_eq hconns hsteady (by omega)).2
      rw [cursor, hreg, hcursor, Option.getD_some,
        Nat.mod_eq_of_lt (by omega), Nat.add_assoc]
  · intro hbelow
    rcases routed_of_step uid hstep with ⟨hnone, _⟩ | ⟨hone, _⟩
    · rw [hnone, List.append_nil] at hbelow ⊢
      exact hround.turns hbelow
    · rw [hone, List.length_append, List.length_singleton] at hbelow ⊢
      have hturn := (hround.routed_eq hconns hsteady (by omega)).1
      obtain ⟨member, _, hmember⟩ :=
        Rotation.turns_succ_eq hconns (start + seen.length) 0
      rw [Rotation.turns_zero] at hmember
      have hseen := hround.turns (by omega)
      rw [Rotation.turns_add, List.map_append, ← hseen, hturn, hmember]
      rfl

end Steady

/-- `picks` go round the connections fairly. -/
structure Fair (conns picks : List ConnId) : Prop where
  member : ∀ c ∈ picks, c ∈ conns
  round : ∀ first, first + conns.length ≤ picks.length → ∀ c ∈ conns,
    ((picks.drop first).take conns.length).count c = 1
  even : ∀ c ∈ conns, ∀ d ∈ conns, picks.count c ≤ picks.count d + 1

theorem fair_turns {conns : List ConnId} (hconns : conns ≠ [])
    (hnodup : conns.Nodup) (start count : Nat) :
    Fair conns (Rotation.turns conns start count) where
  member := fun c hc => Rotation.mem_of_mem_turns hc
  round := by
    intro first hle c hc
    rw [Rotation.length_turns hconns] at hle
    obtain ⟨rest, rfl⟩ := Nat.exists_eq_add_of_le hle
    rw [Nat.add_assoc, Rotation.drop_turns hconns,
      Rotation.take_turns hconns _ (Nat.le_add_right _ _),
      (Rotation.turns_perm hconns _).count_eq]
    exact List.count_eq_one_of_mem hnodup hc
  even := fun c _ d hd => Rotation.count_turns_le hconns hnodup hd start count

/-- The DATA frames for an account in round-robin mode, while the set of its
open connections stays as it is and its cursor does not wrap. -/
theorem roundRobin_fair (cfg : Config) (unpack : Bytes → Option Obj)
    (db : Db) {before events : List Event} {s s' : Server} {uid : Nat}
    (hreached : Transition.run (step cfg unpack) before (initial db) = some s)
    (hmode : s.hub.reg.userRecvMode.lookup uid = some .roundRobin)
    (hopen : s.openConns uid ≠ [])
    (hrun : Transition.run (step cfg unpack) events s = some s')
    (hsteady : Transition.Along (step cfg unpack)
      (fun t _ => ∀ c, c ∈ t.openConns uid ↔ c ∈ s.openConns uid) events s)
    (hwrap : s.cursor uid + (Transition.observe (step cfg unpack)
      (routed cfg uid) events s).length ≤ UInt64.size) :
    (s.openConns uid).Nodup ∧
    ∃ picks, Transition.observe (step cfg unpack) (routed cfg uid) events s =
        picks.map (fun c => [c]) ∧
      Fair (s.openConns uid) picks := by
  obtain ⟨hsane, hlisted⟩ := listed_of_run hreached
  have hnodup := (hlisted.openConns_sublist uid).nodup hlisted.loginsNodup
  have hstart : GoesRound cfg uid (s.openConns uid) (s.cursor uid) [] s :=
    ⟨hsane, hlisted, fun _ => ⟨rfl, hmode⟩, fun _ _ => rfl, fun _ => rfl⟩
  have hfinal := Transition.observe_preserves_along
    (GoesRound cfg uid (s.openConns uid) (s.cursor uid))
    (fun seen t event t' hround hsame hstep =>
      hround.step hopen hsame hstep) hstart hsteady hrun
  rw [List.nil_append] at hfinal
  exact ⟨hnodup, _, hfinal.turns hwrap, fair_turns hopen hnodup _ _⟩

/-- Two sessions of `root` log in with round-robin. -/
def roundRobinLogins : List Event :=
  [.accept (lit "10.0.0.1")] ++ receive 1 kClientLogin 1 roundRobinBody ++
    advances 1 6 ++ [.accept (lit "10.0.0.1")] ++
    receive 2 kClientLogin 1 roundRobinBody ++ advances 2 6

/-- Three messages to `root`, by both of them. -/
def threeMessages : List Event :=
  receive 1 kClientData 2 (dataBody (lit "root")) ++ advances 1 4 ++
    receive 2 kClientData 2 (dataBody (lit "root")) ++ advances 2 4 ++
    receive 1 kClientData 3 (dataBody (lit "root")) ++ advances 1 4

theorem roundRobin_fair_threeMessages :
    ∃ s, Transition.run (step forwarderJson unpackFlat) roundRobinLogins
        (initial emptyDb) = some s ∧ s.openConns 1 = [1, 2] ∧
      Transition.observe (step forwarderJson unpackFlat)
        (routed forwarderJson 1) threeMessages s = [[1], [2], [1]] ∧
      ∃ picks, [[1], [2], [1]] = picks.map (fun c => [c]) ∧
        Fair [1, 2] picks := by
  obtain ⟨s, hreached, hmode, hconns, hcursor, hseen, hrun, hsteady⟩ :
      ∃ s, Transition.run (step forwarderJson unpackFlat) roundRobinLogins
        (initial emptyDb) = some s ∧
      s.hub.reg.userRecvMode.lookup 1 = some .roundRobin ∧
      s.openConns 1 = [1, 2] ∧ s.cursor 1 = 0 ∧
      Transition.observe (step forwarderJson unpackFlat)
        (routed forwarderJson 1) threeMessages s = [[1], [2], [1]] ∧
      (Transition.run (step forwarderJson unpackFlat) threeMessages
        s).isSome = true ∧
      Transition.checkAlong (step forwarderJson unpackFlat)
        (fun t _ => t.openConns 1 = [1, 2]) threeMessages s = true :=
    Transition.exists_run_of_check (by decide +kernel)
  obtain ⟨s', hrun⟩ := Option.isSome_iff_exists.mp hrun
  have hsame := Transition.along_of_invariant (fun _ => True)
    (fun _ _ _ _ _ _ => trivial)
    (fun t _ _ (hlist : t.openConns 1 = [1, 2]) =>
      show ∀ c, c ∈ t.openConns 1 ↔ c ∈ s.openConns 1 by
        rw [hlist, hconns]
        exact fun c => Iff.rfl)
    trivial (Transition.along_of_check hsteady)
  have hfair := (roundRobin_fair forwarderJson unpackFlat emptyDb hreached
    hmode (by rw [hconns]; exact List.cons_ne_nil _ _) hrun hsame
    (by rw [hcursor, hseen]; decide)).2
  rw [hseen, hconns] at hfair
  exact ⟨s, hreached, hconns, hseen, hfair⟩

end Server

end AsioForwarder
