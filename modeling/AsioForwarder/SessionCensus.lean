import AsioForwarder.DisconnectPolicy
import AsioForwarder.Metrics
import Mathlib.Algebra.BigOperators.Group.Finset.Basic

/-!
# Counting the sessions

`snapshot_stats` goes through `all_`, drops the sessions whose socket is
closed, and counts the others.  `all_` holds every open session exactly once
from `accept_clients` until `remove_session`, so the counts are those of a set
of connections.
-/

namespace AsioForwarder

/-- `StatsSnapshot`. -/
structure StatsSnapshot where
  tsMs : Nat := 0
  startedMs : Nat := 0
  sessionsAlive : Nat := 0
  sessionsLoggedIn : Nat := 0
  uniqueUsers : Nat := 0
  pendingBytes : Nat := 0
  framesIn : UInt64 := 0
  bytesIn : UInt64 := 0
  framesOut : UInt64 := 0
  bytesOut : UInt64 := 0
  drops : UInt64 := 0

/-- What the loop of `snapshot_stats` keeps: the snapshot, the accounts seen
so far, and the part of `all_` which has been written back. -/
structure Tally where
  stats : StatsSnapshot
  users : Finset Nat := ∅
  kept : List ConnId := []

namespace Tally

/-- The loop body for the session `sess` with the conn id `c`. -/
def visit (c : ConnId) (sess : TcpSession) (t : Tally) : Tally :=
  if sess.isOpen then
    { stats :=
        { t.stats with
          sessionsAlive := t.stats.sessionsAlive + 1
          sessionsLoggedIn :=
            if sess.loggedIn then t.stats.sessionsLoggedIn + 1
            else t.stats.sessionsLoggedIn
          pendingBytes := t.stats.pendingBytes + sess.pendingBytes }
      users := if sess.loggedIn then insert sess.userId t.users else t.users
      kept := t.kept ++ [c] }
  else t

def visitAll (sessions : ConnId → TcpSession) (t : Tally)
    (all : List ConnId) : Tally :=
  all.foldl (fun t c => t.visit c (sessions c)) t

end Tally

namespace Metered

/-- The snapshot before the loop. -/
def readCounters (startedMs tsMs : Nat) (t : Metered) : StatsSnapshot where
  tsMs := tsMs
  startedMs := startedMs
  framesIn := t.metrics.framesIn
  bytesIn := t.metrics.bytesIn
  framesOut := t.metrics.framesOut
  bytesOut := t.metrics.bytesOut
  drops := t.metrics.drops

/-- `snapshot_stats` at the time `tsMs`. -/
def snapshotStats (startedMs tsMs : Nat) (t : Metered) :
    StatsSnapshot × Metered :=
  let tally := Tally.visitAll t.server.hub.sessions
    { stats := t.readCounters startedMs tsMs } t.server.hub.reg.all
  let reg := { t.server.hub.reg with all := tally.kept }
  ({ tally.stats with uniqueUsers := tally.users.card },
    { t with server :=
      { t.server with hub := { t.server.hub with reg := reg } } })

end Metered

/-! ## What the loop counts -/

namespace Tally

variable {sessions : ConnId → TcpSession}

theorem visitAll_eq (t : Tally) (all : List ConnId) :
    t.visitAll sessions all =
      { stats :=
          { t.stats with
            sessionsAlive := t.stats.sessionsAlive +
              (all.filter (fun c => (sessions c).isOpen)).length
            sessionsLoggedIn := t.stats.sessionsLoggedIn +
              ((all.filter (fun c => (sessions c).isOpen)).filter
                (fun c => (sessions c).loggedIn)).length
            pendingBytes := t.stats.pendingBytes +
              ((all.filter (fun c => (sessions c).isOpen)).map
                (fun c => (sessions c).pendingBytes)).sum }
        users := t.users ∪
          (((all.filter (fun c => (sessions c).isOpen)).filter
            (fun c => (sessions c).loggedIn)).map
              (fun c => (sessions c).userId)).toFinset
        kept := t.kept ++ all.filter (fun c => (sessions c).isOpen) } := by
  induction all generalizing t with
  | nil => simp [visitAll]
  | cons c all ih =>
      have hnext : t.visitAll sessions (c :: all) =
          (t.visit c (sessions c)).visitAll sessions all := rfl
      rw [hnext, ih, visit]
      by_cases hopen : (sessions c).isOpen = true
      · have hfilter : (c :: all).filter (fun c => (sessions c).isOpen) =
            c :: all.filter (fun c => (sessions c).isOpen) :=
          List.filter_cons_of_pos hopen
        rw [if_pos hopen, hfilter]
        by_cases hlogged : (sessions c).loggedIn = true
        · simp [hlogged, Nat.add_assoc, Nat.add_comm 1]
        · simp [hlogged, Nat.add_assoc, Nat.add_comm 1]
      · have hfilter : (c :: all).filter (fun c => (sessions c).isOpen) =
            all.filter (fun c => (sessions c).isOpen) :=
          List.filter_cons_of_neg hopen
        rw [if_neg hopen, hfilter]

end Tally

/-- The step of the server is the effect of the loop on `all_`. -/
theorem Metered.snapshotStats_server (cfg : Config)
    (unpack : Bytes → Option Obj) (startedMs tsMs : Nat) (t : Metered) :
    t.step cfg unpack .snapshotStats =
      some (t.snapshotStats startedMs tsMs).2 := by
  rw [snapshotStats, Tally.visitAll_eq]
  rfl

namespace Server

variable {cfg : Config} {unpack : Bytes → Option Obj}

/-- The connections from `accept_clients` to `remove_session` whose socket is
open. -/
def openConnections (s : Server) : Finset ConnId :=
  (Finset.range (s.hub.reg.nextConnId + 1)).filter
    (fun c => (s.readers c).registered ∧ s.hub.isOpen c)

/-- `all_` holds registered sessions, and every one of them which is open. -/
structure Enrolled (s : Server) : Prop where
  nodup : s.hub.reg.all.Nodup
  registered : ∀ c ∈ s.hub.reg.all, (s.readers c).registered = true
  complete : ∀ c, (s.readers c).registered = true →
    s.hub.isOpen c = true → c ∈ s.hub.reg.all

theorem enrolled_initial (db : Db) : (initial db).Enrolled where
  nodup := List.nodup_nil
  registered := by simp [initial]
  complete := by simp [initial, ReadLoop.registered]

/-! ## `all_` after a step -/

end Server

theorem Op.exec_all (cfg : Config) (env : Env) (hub : Hub) (op : Op) :
    (op.exec cfg env hub).1.reg.all = hub.reg.all := by
  cases op with
  | lock operation =>
      rw [Op.exec_lock_reg]
      cases operation with
      | login self un uinfo wantMode =>
          simp only [LockOp.exec, Registry.login]
          obtain ⟨_, hshape⟩ := Registry.settleMode_shape
            { hub.reg with
              uidToUsername := hub.reg.uidToUsername.insert uinfo.id un
              nameToUid := hub.reg.nameToUid.insert un uinfo.id }
            uinfo.id wantMode
          rw [hshape]
      | deliver srcUsername srcConn dstUsername dstUid payload seq =>
          obtain ⟨_, hshape⟩ :=
            hub.reg.recipients_shape cfg hub.isOpen dstUid
          simp only [LockOp.exec, hshape]
      | _ => rfl
  | _ => rfl

@[simp] theorem Registry.removeSession_all (r : Registry) (c : ConnId)
    (loggedIn : Bool) (uid : Nat) :
    (r.removeSession c loggedIn uid).all = r.all.erase c := by
  unfold removeSession dropFromDeque
  dsimp only
  split
  · split
    · rfl
    · split <;> rfl
  · rfl

namespace Server

variable {cfg : Config} {unpack : Bytes → Option Obj}

theorem all_of_step {s s' : Server} {event : Event}
    (hstep : s.step cfg unpack event = some s') :
    ((∀ peerIp, event ≠ .accept peerIp) ∧
      (∀ c, event ≠ .removeSession c) ∧
      s'.hub.reg.all = s.hub.reg.all) ∨
    ((∃ peerIp, event = .accept peerIp) ∧
      s'.hub.reg.all = s.hub.reg.all ++ [s.hub.reg.nextConnId + 1]) ∨
    (∃ c, event = .removeSession c ∧
      s'.hub.reg.all = s.hub.reg.all.erase c) ∨
    (event = .snapshotStats ∧
      s'.hub.reg.all = s.hub.reg.all.filter s.hub.isOpen) := by
  cases stepped_of_step hstep with
  | accept peerIp => exact .inr (.inl ⟨⟨peerIp, rfl⟩, rfl⟩)
  | perform d env q q' op hreader hop hallows hsender hheader hstage =>
      refine .inl ⟨by rintro _ ⟨⟩, by rintro _ ⟨⟩, ?_⟩
      exact op.exec_all cfg env s.hub
  | removeSession d hreader =>
      refine .inr (.inr (.inl ⟨d, rfl, ?_⟩))
      rw [setReader_hub, Hub.removeSession, Registry.removeSession_all]
  | snapshotStats => exact .inr (.inr (.inr ⟨rfl, rfl⟩))
  | _ => exact .inl ⟨by rintro _ ⟨⟩, by rintro _ ⟨⟩, rfl⟩

/-- A socket which has been closed stays closed. -/
theorem closed_of_step {s s' : Server} {event : Event}
    (hstep : s.step cfg unpack event = some s') {c : ConnId}
    (hnew : ∀ peerIp, event = .accept peerIp →
      c ≠ s.hub.reg.nextConnId + 1)
    (hclosed : s.hub.isOpen c = false) : s'.hub.isOpen c = false := by
  refine session_of_step (P := fun session => session.isOpen = false)
    ?_ ?_ (fun _ _ => rfl) hstep hnew hclosed
  · intro made session hold
    cases made with
    | notifyAndClose userReason logWhy =>
        simp only [Call.apply, TcpSession.notifyAndClose]
        split <;> exact hold
    | _ => exact hold
  · intro session event next hold hio
    have hsame : TcpSession.step cfg session (.io event) = some next := hio
    by_contra hopen
    have hbefore := TcpSession.isOpen_of_step hsame
      (Bool.eq_true_of_not_eq_false hopen)
    rw [hold] at hbefore
    exact Bool.false_ne_true hbefore

theorem removed_of_step {s s' : Server} {c : ConnId}
    (hstep : s.step cfg unpack (.removeSession c) = some s') :
    (s'.readers c).registered = false := by
  cases stepped_of_step hstep with
  | removeSession _ hreader =>
      rw [setReader_self]
      rfl

theorem Enrolled.step {s s' : Server} {event : Event} (hsane : s.Sane)
    (henrolled : s.Enrolled)
    (hstep : s.step cfg unpack event = some s') : s'.Enrolled := by
  have hfresh : s.hub.reg.nextConnId + 1 ∉ s.hub.reg.all := by
    intro hmem
    have hregistered := henrolled.registered _ hmem
    rw [(hsane.fresh _ (Nat.lt_succ_self _)).1] at hregistered
    cases hregistered
  have hkept : ∀ c, (s.readers c).registered = true →
      (s'.readers c).registered = true ∨ event = .removeSession c := by
    intro c hregistered
    rcases registered_of_step hstep c with hsame | ⟨_, rfl⟩ | hremove
    · exact .inl (hsame.trans hregistered)
    · rw [(hsane.fresh _ (Nat.lt_succ_self _)).1] at hregistered
      cases hregistered
    · exact .inr hremove
  have hback : ∀ c, (s'.readers c).registered = true →
      s'.hub.isOpen c = true → (∀ peerIp, event = .accept peerIp →
        c ≠ s.hub.reg.nextConnId + 1) → c ∈ s.hub.reg.all := by
    intro c hregistered hopen hnew
    have hbefore : (s.readers c).registered = true := by
      rcases registered_of_step hstep c with hsame | ⟨⟨peerIp, hevent⟩, hc⟩ |
        rfl
      · exact hsame.symm.trans hregistered
      · exact absurd hc (hnew peerIp hevent)
      · rw [removed_of_step hstep] at hregistered
        cases hregistered
    refine henrolled.complete c hbefore ?_
    by_contra hclosed
    have hlater := closed_of_step hstep hnew
      (Bool.eq_false_of_not_eq_true hclosed)
    rw [hlater] at hopen
    cases hopen
  rcases all_of_step hstep with ⟨haccept, hremove, hall⟩ |
    ⟨⟨peerIp, rfl⟩, hall⟩ | ⟨d, rfl, hall⟩ | ⟨rfl, hall⟩
  · refine ⟨hall ▸ henrolled.nodup, ?_, ?_⟩
    · intro c hmem
      rw [hall] at hmem
      exact (hkept c (henrolled.registered c hmem)).resolve_right (hremove c)
    · intro c hregistered hopen
      rw [hall]
      exact hback c hregistered hopen
        (fun peerIp hevent => absurd hevent (haccept peerIp))
  · refine ⟨?_, ?_, ?_⟩
    · rw [hall]
      rw [← List.concat_eq_append]
      exact henrolled.nodup.concat hfresh
    · intro c hmem
      rw [hall, List.mem_append, List.mem_singleton] at hmem
      rcases hmem with hmem | rfl
      · exact (hkept c (henrolled.registered c hmem)).resolve_right
          (by rintro ⟨⟩)
      · cases hstep
        rw [setReader_self]
        rfl
    · intro c hregistered hopen
      rw [hall, List.mem_append, List.mem_singleton]
      by_cases hnew : c = s.hub.reg.nextConnId + 1
      · exact .inr hnew
      · exact .inl (hback c hregistered hopen (fun _ _ => hnew))
  · refine ⟨?_, ?_, ?_⟩
    · rw [hall]
      exact henrolled.nodup.erase d
    · intro c hmem
      rw [hall, henrolled.nodup.mem_erase_iff] at hmem
      rcases hkept c (henrolled.registered c hmem.2) with hstill | hsame
      · exact hstill
      · cases hsame
        exact absurd rfl hmem.1
    · intro c hregistered hopen
      rw [hall, henrolled.nodup.mem_erase_iff]
      refine ⟨?_, hback c hregistered hopen (by rintro _ ⟨⟩)⟩
      rintro rfl
      rw [removed_of_step hstep] at hregistered
      cases hregistered
  · refine ⟨?_, ?_, ?_⟩
    · rw [hall]
      exact henrolled.nodup.filter _
    · intro c hmem
      rw [hall] at hmem
      exact (hkept c (henrolled.registered c
        (List.mem_of_mem_filter hmem))).resolve_right (by rintro ⟨⟩)
    · intro c hregistered hopen
      have hsessions : s'.hub.isOpen = s.hub.isOpen := by
        cases hstep
        rfl
      rw [hall, List.mem_filter, ← hsessions]
      exact ⟨hback c hregistered hopen (by rintro _ ⟨⟩), hopen⟩

theorem enrolled_of_run {db : Db} {events : List Event} {s : Server}
    (hrun : Transition.run (step cfg unpack) events (initial db) = some s) :
    s.Sane ∧ s.Enrolled := by
  refine Transition.run_preserves_always (fun s => s.Sane ∧ s.Enrolled)
    ?_ ⟨sane_initial db, enrolled_initial db⟩ hrun
  intro s event s' hboth hstep
  exact ⟨hboth.1.step hstep, hboth.2.step hboth.1 hstep⟩

theorem Enrolled.toFinset {s : Server} (hsane : s.Sane)
    (henrolled : s.Enrolled) :
    (s.hub.reg.all.filter s.hub.isOpen).toFinset = s.openConnections := by
  ext c
  rw [List.mem_toFinset, List.mem_filter, openConnections, Finset.mem_filter,
    Finset.mem_range]
  constructor
  · intro hmem
    have hregistered := henrolled.registered c hmem.1
    have hknown : c ≤ s.hub.reg.nextConnId := by
      apply hsane.known_of_reader
      intro hnot
      rw [hnot] at hregistered
      cases hregistered
    exact ⟨Nat.lt_succ_of_le hknown, hregistered, hmem.2⟩
  · rintro ⟨_, hregistered, hopen⟩
    exact ⟨henrolled.complete c hregistered hopen, hopen⟩

end Server

/-! ## The snapshot -/

/-- The counts of a snapshot are those of the open connections, and every
account with an open session in its deque is among the users. -/
structure StatsSnapshot.Counts (snap : StatsSnapshot) (s : Server) : Prop where
  sessionsAlive : snap.sessionsAlive = s.openConnections.card
  sessionsLoggedIn : snap.sessionsLoggedIn =
    (s.openConnections.filter (fun c => (s.hub.sessions c).loggedIn)).card
  uniqueUsers : snap.uniqueUsers =
    ((s.openConnections.filter (fun c => (s.hub.sessions c).loggedIn)).image
      (fun c => (s.hub.sessions c).userId)).card
  pendingBytes : snap.pendingBytes =
    ∑ c ∈ s.openConnections, (s.hub.sessions c).pendingBytes
  listed : ∀ uid, ∀ c ∈ s.hub.reg.deque uid, s.hub.isOpen c = true →
    uid ∈ (s.openConnections.filter
      (fun c => (s.hub.sessions c).loggedIn)).image
        (fun c => (s.hub.sessions c).userId)

/-- A snapshot has the two times and the counters it was taken with. -/
structure StatsSnapshot.Carries (snap : StatsSnapshot) (startedMs tsMs : Nat)
    (m : Metrics) : Prop where
  tsMs : snap.tsMs = tsMs
  startedMs : snap.startedMs = startedMs
  framesIn : snap.framesIn = m.framesIn
  bytesIn : snap.bytesIn = m.bytesIn
  framesOut : snap.framesOut = m.framesOut
  bytesOut : snap.bytesOut = m.bytesOut
  drops : snap.drops = m.drops

namespace Metered

variable {cfg : Config} {unpack : Bytes → Option Obj} {db : Db}
  {events : List Event} {t : Metered}

theorem server_run
    (hrun : Transition.run (step cfg unpack) events (initial db) = some t) :
    Transition.run (Server.step cfg unpack) events (Server.initial db) =
      some t.server :=
  Transition.run_view Metered.server
    (fun _ _ _ hstep => (step_eq_some hstep).1) hrun

theorem counts_snapshotStats (hsane : t.server.Sane)
    (hlisted : t.server.Listed cfg) (henrolled : t.server.Enrolled)
    (startedMs tsMs : Nat) :
    (t.snapshotStats startedMs tsMs).1.Counts t.server := by
  have hopen := henrolled.toFinset hsane
  have hnodup := henrolled.nodup.filter t.server.hub.isOpen
  have hlogged : ((t.server.hub.reg.all.filter t.server.hub.isOpen).filter
      (fun c => (t.server.hub.sessions c).loggedIn)).toFinset =
        t.server.openConnections.filter
          (fun c => (t.server.hub.sessions c).loggedIn) := by
    rw [List.toFinset_filter, hopen]
  rw [snapshotStats, Tally.visitAll_eq]
  constructor
  · rw [← hopen, List.toFinset_card_of_nodup hnodup]
    exact Nat.zero_add _
  · rw [← hlogged, List.toFinset_card_of_nodup (hnodup.filter _)]
    exact Nat.zero_add _
  · rw [← hlogged]
    have himage : ∀ l : List ConnId,
        (l.map (fun c => (t.server.hub.sessions c).userId)).toFinset =
          l.toFinset.image (fun c => (t.server.hub.sessions c).userId) := by
      intro l
      ext uid
      simp
    dsimp only
    rw [← himage, Finset.empty_union]
    rfl
  · rw [← hopen, List.sum_toFinset _ hnodup]
    exact Nat.zero_add _
  · intro uid c hmem hstill
    rw [Finset.mem_image]
    refine ⟨c, ?_, hlisted.owner uid c hmem⟩
    have hknown : c ∈ t.server.openConnections := by
      rw [← hopen, List.mem_toFinset, List.mem_filter]
      exact ⟨henrolled.complete c (hlisted.live uid c hmem) hstill, hstill⟩
    rw [Finset.mem_filter]
    exact ⟨hknown, hlisted.loggedIn hmem⟩

theorem carries_snapshotStats (startedMs tsMs : Nat) (t : Metered) :
    (t.snapshotStats startedMs tsMs).1.Carries startedMs tsMs t.metrics := by
  rw [snapshotStats, Tally.visitAll_eq]
  exact ⟨rfl, rfl, rfl, rfl, rfl, rfl, rfl⟩

/-- In every reachable state `snapshot_stats` counts the connections between
`accept_clients` and `remove_session` whose socket is open, each once, gives
the counters as they are, and leaves exactly these connections in `all_`. -/
theorem counts_of_run (cfg : Config) (unpack : Bytes → Option Obj) (db : Db)
    {events : List Event} {t : Metered}
    (hrun : Transition.run (step cfg unpack) events (initial db) = some t)
    (startedMs tsMs : Nat) :
    (t.snapshotStats startedMs tsMs).1.Counts t.server ∧
      (t.snapshotStats startedMs tsMs).1.Carries startedMs tsMs t.metrics ∧
      (t.snapshotStats startedMs tsMs).2.server.hub.reg.all.Nodup ∧
      (t.snapshotStats startedMs tsMs).2.server.hub.reg.all.toFinset =
        t.server.openConnections := by
  have hserver := server_run hrun
  obtain ⟨hsane, hlisted⟩ := Server.listed_of_run hserver
  have henrolled := (Server.enrolled_of_run hserver).2
  refine ⟨counts_snapshotStats hsane hlisted henrolled startedMs tsMs,
    carries_snapshotStats startedMs tsMs t, ?_⟩
  have hall : (t.snapshotStats startedMs tsMs).2.server.hub.reg.all =
      t.server.hub.reg.all.filter t.server.hub.isOpen := by
    rw [snapshotStats, Tally.visitAll_eq]
    exact List.nil_append _
  rw [hall]
  exact ⟨henrolled.nodup.filter _, henrolled.toFinset hsane⟩

theorem counts_of_run_loginWritten :
    ∃ t : Metered, Transition.run (step forwarderJson unpackFlat) loginWritten
        (initial Server.emptyDb) = some t ∧
      (t.snapshotStats 5 9).1.Counts t.server ∧
      (t.snapshotStats 5 9).1.Carries 5 9 t.metrics ∧
      (t.snapshotStats 5 9).1.sessionsLoggedIn = 1 ∧
      (t.snapshotStats 5 9).1.framesOut = 1 := by
  obtain ⟨t, hrun, hlogged, hout⟩ : ∃ t : Metered,
      Transition.run (step forwarderJson unpackFlat) loginWritten
        (initial Server.emptyDb) = some t ∧
      (t.snapshotStats 5 9).1.sessionsLoggedIn = 1 ∧
      (t.snapshotStats 5 9).1.framesOut = 1 :=
    Transition.exists_run_of_check (by decide +kernel)
  obtain ⟨hcounts, hcarries, _⟩ := counts_of_run _ _ _ hrun 5 9
  exact ⟨t, hrun, hcounts, hcarries, hlogged, hout⟩

end Metered

end AsioForwarder
