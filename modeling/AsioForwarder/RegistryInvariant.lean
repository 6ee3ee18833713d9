import AsioForwarder.ServerInvariant

/-!
# The session registry stays consistent

In every reachable server the deques of `user_deque_` list each logged-in
session at most once, under its own account and in login order, within the
limit per account, and the other containers agree with them.
-/

namespace AsioForwarder

/-- Read loops between `accept` and the end of `remove_session`. -/
def ReadLoop.registered : ReadLoop → Bool
  | .notAccepted | .closing | .exited => false
  | _ => true

namespace Server

variable {cfg : Config} {unpack : Bytes → Option Obj}

/-- The sessions in the order of their `mark_login` calls. -/
def loginOrder (calls : List (ConnId × Call)) : List ConnId :=
  calls.filterMap (fun entry =>
    match entry.2 with
    | .markLogin _ _ _ => some entry.1
    | _ => none)

/-- The consistency of the registry with the sessions. -/
structure RegistryOk (cfg : Config) (s : Server) : Prop where
  /-- No session is in two places. -/
  nodup : ∀ uid, (s.hub.reg.deque uid).Nodup
  disjoint : ∀ uid other c, c ∈ s.hub.reg.deque uid →
    c ∈ s.hub.reg.deque other → uid = other
  /-- A session is listed under its own account. -/
  owner : ∀ uid c, c ∈ s.hub.reg.deque uid →
    (s.hub.sessions c).loggedIn = true ∧ (s.hub.sessions c).userId = uid
  /-- It is the `by_id_` entry of its conn id. -/
  entry : ∀ uid c, c ∈ s.hub.reg.deque uid →
    s.hub.reg.byId.lookup c = some c
  /-- Deques are in login order, and nobody logs in twice. -/
  ordered : ∀ uid,
    (s.hub.reg.deque uid).Sublist (loginOrder s.hub.calls)
  loginsNodup : (loginOrder s.hub.calls).Nodup
  /-- Deques are non-empty and within the limit, and the receive modes and
  cursors have fitting keys. -/
  tidy : s.hub.reg.Tidy cfg

/-! ## Logins -/

theorem loginOrder_append (first second : List (ConnId × Call)) :
    loginOrder (first ++ second) = loginOrder first ++ loginOrder second := by
  simp [loginOrder]

theorem loginOrder_eq_nil {calls : List (ConnId × Call)}
    (hcalls : ∀ c uid isAdmin username,
      (c, Call.markLogin uid isAdmin username) ∉ calls) :
    loginOrder calls = [] := by
  unfold loginOrder
  rw [List.filterMap_eq_nil_iff]
  intro entry hentry
  obtain ⟨c, made⟩ := entry
  cases made with
  | markLogin uid isAdmin username =>
      exact absurd hentry (hcalls c uid isAdmin username)
  | _ => rfl

/-- The login order grows by a registration only. -/
theorem loginOrder_of_step {s s' : Server} {event : Event} (hsane : s.Sane)
    (hstep : s.step cfg unpack event = some s') :
    ((∀ c un info wantMode, ¬s.Registers event c un info wantMode) ∧
      loginOrder s'.hub.calls = loginOrder s.hub.calls ∧
      ∀ c, (s'.hub.sessions c).loggedIn = (s.hub.sessions c).loggedIn) ∨
    (∃ c un info wantMode, s.Registers event c un info wantMode ∧
      (s.hub.sessions c).loggedIn = false ∧
      loginOrder s'.hub.calls = loginOrder s.hub.calls ++ [c] ∧
      (s'.hub.sessions c).loggedIn = true ∧
      (s'.hub.sessions c).userId = info.id ∧
      ∀ d, d ≠ c → s'.hub.identity d = s.hub.identity d) := by
  by_cases hlogin : ∃ c un info wantMode,
      s.Registers event c un info wantMode
  · obtain ⟨c, un, info, wantMode, hregisters⟩ := hlogin
    obtain ⟨env, hhub⟩ := hub_of_registers hstep hregisters
    have hself := Op.exec_login_identity cfg env s.hub c un info wantMode
    rw [← hhub] at hself
    refine .inr ⟨c, un, info, wantMode, hregisters, ?_, ?_, ?_, ?_, ?_⟩
    · obtain ⟨_, q, _, hreader, hauthed, _⟩ := hregisters
      have hfits := (hsane.fits c q hreader).2
      rw [hauthed] at hfits
      exact hfits.2
    · rw [hhub, Op.exec_calls, loginOrder_append]
      rfl
    · exact congrArg Identity.loggedIn hself
    · exact congrArg Identity.userId hself
    · intro d hne
      rw [hhub]
      exact Op.exec_login_identity_ne cfg env s.hub un info wantMode hne
  · have hnot : ∀ c un info wantMode,
        ¬s.Registers event c un info wantMode := by
      intro c un info wantMode hregisters
      exact hlogin ⟨c, un, info, wantMode, hregisters⟩
    refine .inl ⟨hnot, ?_, ?_⟩
    · obtain ⟨new, hcalls, hmark⟩ :=
        (registers_or_not hsane hstep).resolve_left hlogin
      rw [hcalls, loginOrder_append, loginOrder_eq_nil hmark,
        List.append_nil]
    · intro c
      rcases identity_of_step hsane hstep c with hkept | ⟨hnew, hid⟩ |
        ⟨un, info, wantMode, hregisters, _⟩
      · exact congrArg Identity.loggedIn hkept
      · rw [(hsane.fresh c (hnew ▸ Nat.lt_succ_self _)).2]
        exact congrArg Identity.loggedIn hid
      · exact absurd hregisters (hnot c un info wantMode)

/-! ## Read loops and `by_id_` -/

theorem registered_of_step {s s' : Server} {event : Event}
    (hstep : s.step cfg unpack event = some s') (c : ConnId) :
    (s'.readers c).registered = (s.readers c).registered ∨
    ((∃ peerIp, event = .accept peerIp) ∧ c = s.hub.reg.nextConnId + 1) ∨
    event = .removeSession c := by
  have hset : ∀ (d : ConnId) (t : Server) (loop : ReadLoop),
      t.readers = s.readers → loop.registered = (s.readers d).registered →
      ((t.setReader d loop).readers c).registered =
        (s.readers c).registered := by
    intro d t loop ht hloop
    by_cases hsame : c = d
    · subst hsame
      rw [setReader_self, hloop]
    · rw [setReader_ne _ _ hsame, ht]
  cases stepped_of_step hstep with
  | accept peerIp =>
      by_cases hnew : c = s.hub.reg.nextConnId + 1
      · exact .inr (.inl ⟨⟨peerIp, rfl⟩, hnew⟩)
      · rw [setReader_ne _ _ hnew]
        exact .inl rfl
  | move d event loop loop' hreader hmoved =>
      refine .inl (hset d s loop' rfl ?_)
      rw [hreader]
      cases hmoved <;> rfl
  | give d event made hreader hkind =>
      refine .inl (hset d _ _ rfl ?_)
      rcases hreader with hreader | ⟨h, hreader⟩ <;> rw [hreader] <;> rfl
  | finish d env q hreader hdone =>
      refine .inl (hset d _ _ rfl ?_)
      rw [hreader]
      rfl
  | perform d env q q' op hreader hop hallows hsender hheader hstage =>
      refine .inl (hset d _ _ rfl ?_)
      rw [hreader]
      rfl
  | removeSession d hreader =>
      by_cases hsame : c = d
      · subst hsame
        exact .inr (.inr rfl)
      · rw [setReader_ne _ _ hsame]
        exact .inl rfl
  | closeSocket d hreader =>
      refine .inl (hset d _ _ rfl ?_)
      rw [hreader]
      rfl
  | io d event session hio => exact .inl rfl
  | heartbeatTimeout d hlogged hopen => exact .inl rfl
  | snapshotStats => exact .inl rfl

theorem byId_of_step {s s' : Server} {event : Event}
    (hstep : s.step cfg unpack event = some s') :
    ((∀ peerIp, event ≠ .accept peerIp) ∧
      (∀ c, event ≠ .removeSession c) ∧
      s'.hub.reg.byId = s.hub.reg.byId) ∨
    ((∃ peerIp, event = .accept peerIp) ∧
      s'.hub.reg.byId = s.hub.reg.byId.insert (s.hub.reg.nextConnId + 1)
        (s.hub.reg.nextConnId + 1)) ∨
    (∃ c, event = .removeSession c ∧ s'.readers c = .closing ∧
      s'.hub.reg.byId = s.hub.reg.byId.erase c) := by
  cases stepped_of_step hstep with
  | accept peerIp => exact .inr (.inl ⟨⟨peerIp, rfl⟩, rfl⟩)
  | perform d env q q' op hreader hop hallows hsender hheader hstage =>
      exact .inl ⟨by simp, by simp, (exec_connections env s.hub op).2⟩
  | removeSession d hreader =>
      exact .inr (.inr ⟨d, rfl, setReader_self _ _ _,
        Registry.removeSession_byId _ _ _ _⟩)
  | _ => exact .inl ⟨by simp, by simp, rfl⟩

/-! ## The invariant -/

/-- The inductive form of `RegistryOk`. -/
structure Listed (cfg : Config) (s : Server) : Prop where
  logins : ∀ c, c ∈ loginOrder s.hub.calls ↔
    (s.hub.sessions c).loggedIn = true
  loginsNodup : (loginOrder s.hub.calls).Nodup
  ordered : ∀ uid,
    (s.hub.reg.deque uid).Sublist (loginOrder s.hub.calls)
  owner : ∀ uid c, c ∈ s.hub.reg.deque uid →
    (s.hub.sessions c).userId = uid
  live : ∀ uid c, c ∈ s.hub.reg.deque uid →
    (s.readers c).registered = true
  entry : ∀ c, (s.readers c).registered = true →
    s.hub.reg.byId.lookup c = some c
  tidy : s.hub.reg.Tidy cfg

theorem Listed.loggedIn {s : Server} (hlisted : s.Listed cfg) {uid : Nat}
    {c : ConnId} (hmem : c ∈ s.hub.reg.deque uid) :
    (s.hub.sessions c).loggedIn = true :=
  (hlisted.logins c).mp ((hlisted.ordered uid).subset hmem)

theorem listed_initial (db : Db) : (initial db).Listed cfg where
  logins := by simp [initial, loginOrder]
  loginsNodup := by simp [initial, loginOrder]
  ordered := by simp [initial, Registry.deque]
  owner := by simp [initial, Registry.deque]
  live := by simp [initial, Registry.deque]
  entry := by simp [initial, ReadLoop.registered]
  tidy := Registry.Tidy.empty cfg

theorem tidy_of_step {s s' : Server} {event : Event}
    (htidy : s.hub.reg.Tidy cfg)
    (hstep : s.step cfg unpack event = some s') : s'.hub.reg.Tidy cfg := by
  cases stepped_of_step hstep with
  | perform d env q q' op hreader hop hallows hsender hheader hstage =>
      rw [setReader_hub]
      cases op with
      | lock operation =>
          rw [Op.exec_lock_reg]
          cases operation with
          | login self un uinfo wantMode => exact htidy.login self un _ _
          | deliver srcUsername srcConn dstUsername dstUid payload seq =>
              exact htidy.recipients s.hub.isOpen dstUid
          | _ => exact htidy.congr rfl rfl rfl
      | _ => exact htidy
  | removeSession d hreader => exact htidy.removeSession d _ _
  | _ => exact htidy.congr rfl rfl rfl

theorem mem_deque_of_step {s s' : Server} {event : Event} (hsane : s.Sane)
    (hstep : s.step cfg unpack event = some s') {uid : Nat} {c : ConnId}
    (hmem : c ∈ s'.hub.reg.deque uid) :
    c ∈ s.hub.reg.deque uid ∨
    ∃ un info wantMode, s.Registers event c un info wantMode ∧
      uid = info.id := by
  rcases deque_of_step hsane hstep uid with hsame |
    ⟨d, un, info, wantMode, hregisters, huid, hdeque⟩ |
    ⟨d, _, _, _, _, hdeque⟩
  · rw [hsame] at hmem
    exact .inl hmem
  · rw [hdeque, List.mem_append, List.mem_singleton] at hmem
    rcases hmem with hold | rfl
    · exact .inl (List.mem_of_mem_drop hold)
    · exact .inr ⟨un, info, wantMode, hregisters, huid⟩
  · rw [hdeque] at hmem
    exact .inl (List.mem_of_mem_erase hmem)

theorem Listed.not_mem_after_remove {s s' : Server} {c : ConnId}
    (hsane : s.Sane) (hlisted : s.Listed cfg)
    (hstep : s.step cfg unpack (.removeSession c) = some s') (uid : Nat) :
    c ∉ s'.hub.reg.deque uid := by
  intro hmem
  have hold : c ∈ s.hub.reg.deque uid := by
    rcases mem_deque_of_step hsane hstep hmem with hold |
      ⟨_, _, _, ⟨_, _, hevent, _⟩, _⟩
    · exact hold
    · cases hevent
  have hlogged := hlisted.loggedIn hold
  have huid := hlisted.owner uid c hold
  cases stepped_of_step hstep with
  | removeSession _ hreader =>
      have hdeque : (s.hub.removeSession c).reg.deque uid =
          (s.hub.reg.deque uid).erase c := by
        unfold Hub.removeSession
        rw [hlogged, huid]
        exact Registry.removeSession_deque_self _ _ _
      rw [setReader_hub, hdeque] at hmem
      have hnodup := (hlisted.ordered uid).nodup hlisted.loginsNodup
      exact hnodup.not_mem_erase hmem

theorem Listed.ordered_step {s s' : Server} {event : Event} (hsane : s.Sane)
    (hlisted : s.Listed cfg)
    (hstep : s.step cfg unpack event = some s') (uid : Nat) :
    (s'.hub.reg.deque uid).Sublist (loginOrder s'.hub.calls) := by
  have hgrow : (loginOrder s.hub.calls).Sublist
      (loginOrder s'.hub.calls) := by
    rcases loginOrder_of_step hsane hstep with ⟨_, hsame, _⟩ |
      ⟨c, _, _, _, _, _, horder, _⟩
    · rw [hsame]
    · rw [horder]
      exact List.sublist_append_left _ _
  rcases deque_of_step hsane hstep uid with hsame |
    ⟨c, un, info, wantMode, hregisters, _, hdeque⟩ |
    ⟨c, _, _, _, _, hdeque⟩
  · rw [hsame]
    exact (hlisted.ordered uid).trans hgrow
  · obtain ⟨_, _, hevent, _⟩ := hregisters
    rcases loginOrder_of_step hsane hstep with ⟨hnot, _⟩ |
      ⟨d, _, _, _, ⟨_, _, hevent', _⟩, _, horder, _⟩
    · exact absurd ⟨_, _, hevent, ‹_›⟩ (hnot c un info wantMode)
    · rw [hevent] at hevent'
      cases hevent'
      rw [hdeque, horder]
      exact ((List.drop_sublist _ _).trans (hlisted.ordered uid)).append
        (List.Sublist.refl _)
  · rw [hdeque]
    exact (List.erase_sublist.trans (hlisted.ordered uid)).trans hgrow

theorem Listed.step {s s' : Server} {event : Event} (hsane : s.Sane)
    (hlisted : s.Listed cfg)
    (hstep : s.step cfg unpack event = some s') : s'.Listed cfg where
  logins := by
    intro c
    rcases loginOrder_of_step hsane hstep with ⟨_, hsame, hlogged⟩ |
      ⟨d, un, info, wantMode, _, _, horder, hin, _, hothers⟩
    · rw [hsame, hlogged]
      exact hlisted.logins c
    · rw [horder, List.mem_append, List.mem_singleton, hlisted.logins c]
      by_cases hsame : c = d
      · subst hsame
        simp [hin]
      · have hkept := congrArg Identity.loggedIn (hothers c hsame)
        simp only [Hub.identity, TcpSession.identity] at hkept
        rw [hkept]
        simp [hsame]
  loginsNodup := by
    rcases loginOrder_of_step hsane hstep with ⟨_, hsame, _⟩ |
      ⟨d, un, info, wantMode, _, hout, horder, _⟩
    · rw [hsame]
      exact hlisted.loginsNodup
    · rw [horder, List.nodup_append]
      refine ⟨hlisted.loginsNodup, List.nodup_singleton d, ?_⟩
      rintro c hc _ hd rfl
      rw [List.mem_singleton] at hd
      subst hd
      rw [hlisted.logins, hout] at hc
      cases hc
  ordered := hlisted.ordered_step hsane hstep
  owner := by
    intro uid c hmem
    rcases mem_deque_of_step hsane hstep hmem with hold |
      ⟨un, info, wantMode, hregisters, huid⟩
    · have hkept := identity_stable hsane hstep (hlisted.loggedIn hold)
      exact (congrArg Identity.userId hkept).trans
        (hlisted.owner uid c hold)
    · obtain ⟨env, hhub⟩ := hub_of_registers hstep hregisters
      rw [huid, hhub]
      exact congrArg Identity.userId
        (Op.exec_login_identity cfg env s.hub c un info wantMode)
  live := by
    intro uid c hmem
    have hlive : (s.readers c).registered = true := by
      rcases mem_deque_of_step hsane hstep hmem with hold |
        ⟨_, _, _, ⟨_, _, _, hreader, _⟩, _⟩
      · exact hlisted.live uid c hold
      · rw [hreader]
        rfl
    rcases registered_of_step hstep c with hsame | ⟨_, hnew⟩ | hremove
    · rwa [hsame]
    · have hnot := (hsane.fresh c (hnew ▸ Nat.lt_succ_self _)).1
      rw [hnot] at hlive
      cases hlive
    · subst hremove
      exact absurd hmem (hlisted.not_mem_after_remove hsane hstep uid)
  entry := by
    intro c hreg
    rcases byId_of_step hstep with ⟨haccept, hremove, hsame⟩ |
      ⟨⟨peerIp, rfl⟩, hinsert⟩ | ⟨d, rfl, hclosing, herase⟩
    · rcases registered_of_step hstep c with hkept | ⟨⟨ip, hevent⟩, _⟩ |
        hevent
      · rw [hsame]
        exact hlisted.entry c (hkept ▸ hreg)
      · exact absurd hevent (haccept ip)
      · exact absurd hevent (hremove c)
    · rw [hinsert]
      rcases registered_of_step hstep c with hkept | ⟨_, hnew⟩ | hevent
      · have hne : c ≠ s.hub.reg.nextConnId + 1 := by
          rintro rfl
          have hnot := (hsane.fresh _ (Nat.lt_succ_self _)).1
          rw [hkept, hnot] at hreg
          cases hreg
        rw [AList.lookup_insert_ne hne]
        exact hlisted.entry c (hkept ▸ hreg)
      · rw [hnew, AList.lookup_insert]
      · cases hevent
    · have hne : c ≠ d := by
        rintro rfl
        rw [hclosing] at hreg
        cases hreg
      rw [herase, AList.lookup_erase_ne hne]
      rcases registered_of_step hstep c with hkept | ⟨⟨_, hevent⟩, _⟩ |
        hevent
      · exact hlisted.entry c (hkept ▸ hreg)
      · cases hevent
      · cases hevent
        exact absurd rfl hne
  tidy := tidy_of_step hlisted.tidy hstep

theorem listed_of_run {db : Db} {events : List Event} {s : Server}
    (hrun : Transition.run (step cfg unpack) events (initial db) = some s) :
    s.Sane ∧ s.Listed cfg := by
  refine Transition.run_preserves_always
    (fun s => s.Sane ∧ s.Listed cfg) ?_
    ⟨sane_initial db, listed_initial db⟩ hrun
  rintro s event s' ⟨hsane, hlisted⟩ hstep
  exact ⟨hsane.step hstep, hlisted.step hsane hstep⟩

theorem Listed.registryOk {s : Server} (hlisted : s.Listed cfg) :
    s.RegistryOk cfg where
  nodup := fun uid => (hlisted.ordered uid).nodup hlisted.loginsNodup
  disjoint := by
    intro uid other c hmem hmem'
    exact (hlisted.owner uid c hmem).symm.trans
      (hlisted.owner other c hmem')
  owner := fun uid c hmem => ⟨hlisted.loggedIn hmem,
    hlisted.owner uid c hmem⟩
  entry := fun uid c hmem => hlisted.entry c (hlisted.live uid c hmem)
  ordered := hlisted.ordered
  loginsNodup := hlisted.loginsNodup
  tidy := hlisted.tidy

theorem identity_stable_of_run {s s' : Server} {events : List Event}
    (hsane : s.Sane)
    (hrun : Transition.run (step cfg unpack) events s = some s')
    {c : ConnId} (hlogged : (s.hub.sessions c).loggedIn = true) :
    s'.hub.identity c = s.hub.identity c := by
  have hinv : s'.Sane ∧ s'.hub.identity c = s.hub.identity c := by
    refine Transition.run_preserves_always
      (fun t => t.Sane ∧ t.hub.identity c = s.hub.identity c) ?_
      ⟨hsane, rfl⟩ hrun
    rintro t event t' ⟨htsane, hkept⟩ hstep
    have htlogged : (t.hub.sessions c).loggedIn = true :=
      (congrArg Identity.loggedIn hkept).trans hlogged
    exact ⟨htsane.step hstep,
      (identity_stable htsane hstep htlogged).trans hkept⟩
  exact hinv.2

theorem registers_of_login {s s' : Server} {event : Event} (hsane : s.Sane)
    (hstep : s.step cfg unpack event = some s') {c : ConnId}
    (hout : (s.hub.sessions c).loggedIn = false)
    (hin : (s'.hub.sessions c).loggedIn = true) :
    ∃ un info wantMode, s.Registers event c un info wantMode ∧
      (s'.hub.sessions c).userId = info.id := by
  rcases identity_of_step hsane hstep c with hkept | ⟨_, hnew⟩ |
    ⟨un, info, wantMode, hregisters, hid⟩
  · have hsame : (s'.hub.sessions c).loggedIn =
        (s.hub.sessions c).loggedIn := congrArg Identity.loggedIn hkept
    rw [hsame, hout] at hin
    cases hin
  · have hfalse : (s'.hub.sessions c).loggedIn = false :=
      congrArg Identity.loggedIn hnew
    rw [hfalse] at hin
    cases hin
  · exact ⟨un, info, wantMode, hregisters, congrArg Identity.userId hid⟩

/-- The registry is consistent in every reachable server.  A session listed
in a deque keeps its account for good, and a login appends the new session
after removing the oldest ones beyond the limit. -/
theorem registryOk_of_run (cfg : Config) (unpack : Bytes → Option Obj)
    (db : Db) (events : List Event) (s : Server)
    (hrun : Transition.run (step cfg unpack) events (initial db) = some s) :
    s.RegistryOk cfg ∧
    (∀ later s', Transition.run (step cfg unpack) later s = some s' →
      ∀ uid c, c ∈ s.hub.reg.deque uid →
        (s'.hub.sessions c).loggedIn = true ∧
        (s'.hub.sessions c).userId = (s.hub.sessions c).userId ∧
        (s'.hub.sessions c).username = (s.hub.sessions c).username) ∧
    (∀ event s', s.step cfg unpack event = some s' →
      ∀ c, (s.hub.sessions c).loggedIn = false →
        (s'.hub.sessions c).loggedIn = true →
        s'.hub.reg.deque (s'.hub.sessions c).userId =
          (s.hub.reg.deque (s'.hub.sessions c).userId).drop
            ((s.hub.reg.deque (s'.hub.sessions c).userId).length + 1 -
              cfg.maxConnections) ++ [c] ∧
        ∀ uid, uid ≠ (s'.hub.sessions c).userId →
          s'.hub.reg.deque uid = s.hub.reg.deque uid) := by
  obtain ⟨hsane, hlisted⟩ := listed_of_run hrun
  refine ⟨hlisted.registryOk, ?_, ?_⟩
  · intro later s' hlater uid c hmem
    have hlogged := hlisted.loggedIn hmem
    have hkept := identity_stable_of_run hsane hlater hlogged
    exact ⟨(congrArg Identity.loggedIn hkept).trans hlogged,
      congrArg Identity.userId hkept, congrArg Identity.username hkept⟩
  · intro event s' hstep c hout hin
    obtain ⟨un, info, wantMode, hregisters, huid⟩ :=
      registers_of_login hsane hstep hout hin
    obtain ⟨env, hhub⟩ := hub_of_registers hstep hregisters
    rw [huid, hhub, Op.exec_lock_reg]
    refine ⟨Registry.login_deque_self cfg s.hub.reg c un info.id wantMode,
      ?_⟩
    intro uid hne
    exact Registry.login_deque_ne cfg s.hub.reg c un wantMode hne

def oneSession : Config :=
  { forwarderJson with maxConnectionsPerUser := 1, accepted := by rfl }

/-- The second login of `root` evicts the first one. -/
def evictionRun : List Event :=
  rootLogin ++ [.accept (lit "10.0.0.1")] ++
    receive 2 kClientLogin 1 (loginBody (lit "root") (lit "pw") (lit "admin"))
    ++ advances 2 6

theorem registryOk_of_run_evictionRun :
    ∃ s, Transition.run (step oneSession unpackFlat) evictionRun
        (initial emptyDb) = some s ∧
      (s.hub.sessions 1).userId = 1 ∧ (s.hub.sessions 2).userId = 1 ∧
      s.hub.reg.deque 1 = [2] ∧ s.RegistryOk oneSession := by
  obtain ⟨s, hrun, hfirst, hsecond, hdeque⟩ : ∃ s,
      Transition.run (step oneSession unpackFlat) evictionRun
        (initial emptyDb) = some s ∧ (s.hub.sessions 1).userId = 1 ∧
      (s.hub.sessions 2).userId = 1 ∧ s.hub.reg.deque 1 = [2] :=
    Transition.exists_run_of_check (by decide +kernel)
  exact ⟨s, hrun, hfirst, hsecond, hdeque,
    (registryOk_of_run oneSession unpackFlat emptyDb evictionRun s hrun).1⟩

end Server

end AsioForwarder
