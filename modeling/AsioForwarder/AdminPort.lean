import AsioForwarder.AdminJson
import AsioForwarder.SessionCensus

/-!
# The admin port

`handle_admin` answers one HTTP request on a connection of its own.  It shares
with the relay the registry, the counters and the buffer of events, and of
these it changes `all_` only.  A run interleaves steps of the relay,
`push_event` calls and requests.
-/

namespace AsioForwarder

open JsonText (Json Denotes Doc Leaves writeString)

/-! ## `build_stats_json` -/

namespace StatsSnapshot

def buildStatsJson (s : StatsSnapshot) : Bytes :=
  lit "\x7b" ++
    (lit "\"ts_ms\":" ++ toDecimal s.tsMs ++ lit ",") ++
    (lit "\"started_ms\":" ++ toDecimal s.startedMs ++ lit ",") ++
    (lit "\"sessions_alive\":" ++ toDecimal s.sessionsAlive ++ lit ",") ++
    (lit "\"sessions_logged_in\":" ++ toDecimal s.sessionsLoggedIn ++
      lit ",") ++
    (lit "\"unique_users\":" ++ toDecimal s.uniqueUsers ++ lit ",") ++
    (lit "\"pending_bytes\":" ++ toDecimal s.pendingBytes ++ lit ",") ++
    (lit "\"frames_in\":" ++ toDecimal s.framesIn.toNat ++ lit ",") ++
    (lit "\"bytes_in\":" ++ toDecimal s.bytesIn.toNat ++ lit ",") ++
    (lit "\"frames_out\":" ++ toDecimal s.framesOut.toNat ++ lit ",") ++
    (lit "\"bytes_out\":" ++ toDecimal s.bytesOut.toNat ++ lit ",") ++
    (lit "\"drops\":" ++ toDecimal s.drops.toNat) ++
    lit "\x7d"

def members (s : StatsSnapshot) : List (Bytes × Nat) :=
  [(lit "ts_ms", s.tsMs), (lit "started_ms", s.startedMs),
    (lit "sessions_alive", s.sessionsAlive),
    (lit "sessions_logged_in", s.sessionsLoggedIn),
    (lit "unique_users", s.uniqueUsers),
    (lit "pending_bytes", s.pendingBytes),
    (lit "frames_in", s.framesIn.toNat), (lit "bytes_in", s.bytesIn.toNat),
    (lit "frames_out", s.framesOut.toNat),
    (lit "bytes_out", s.bytesOut.toNat), (lit "drops", s.drops.toNat)]

def json (s : StatsSnapshot) : Json :=
  .object (s.members.map (fun m => (m.1, .number m.2 0)))

def doc (s : StatsSnapshot) : Doc :=
  .record (s.members.map (fun m => (m.1, .nat m.2)))

set_option maxRecDepth 2000 in
theorem buildStatsJson_eq (s : StatsSnapshot) :
    s.buildStatsJson = s.doc.write jsonEscape := by
  simp only [buildStatsJson, doc, members, List.map_cons, List.map_nil,
    Doc.write, JsonText.writeFields, JsonText.writeMoreFields, writeString,
    List.append_assoc, List.cons_append]
  rfl

theorem doc_value (s : StatsSnapshot) : s.doc.value sanitize = s.json := by
  simp only [doc, json, members, List.map_cons, List.map_nil, Doc.value,
    JsonText.fieldValues]
  rfl

end StatsSnapshot

/-! ## `handle_admin` -/

/-- The methods `handle_admin` tells apart. -/
inductive Verb where
  | get
  | options
  | other
  deriving DecidableEq

structure AdminRequest where
  version : Nat
  method : Verb
  target : Bytes

/-- The response before `prepare_payload`. -/
structure AdminResponse where
  version : Nat
  keepAlive : Bool := true
  status : Nat := 200
  fields : List (Bytes × Bytes) := []
  body : Bytes := []

namespace AdminResponse

/-- `set` replaces a field of the same name. -/
def set (name value : Bytes) (res : AdminResponse) : AdminResponse :=
  { res with
    fields := res.fields.filter (fun f => f.1 ≠ name) ++ [(name, value)] }

def addAdminCors (res : AdminResponse) : AdminResponse :=
  ((res.set (lit "Access-Control-Allow-Origin") (lit "*")).set
    (lit "Access-Control-Allow-Methods") (lit "GET, OPTIONS")).set
      (lit "Access-Control-Allow-Headers")
        (lit "Content-Type, Authorization")

def contentJson (res : AdminResponse) : AdminResponse :=
  res.set (lit "Content-Type") (lit "application/json; charset=utf-8")

theorem mem_set_self (name value : Bytes) (res : AdminResponse) :
    (name, value) ∈ (res.set name value).fields :=
  List.mem_append_right _ (List.mem_singleton_self _)

theorem mem_set_ne {f : Bytes × Bytes} {name : Bytes} (value : Bytes)
    {res : AdminResponse} (hmem : f ∈ res.fields) (hne : f.1 ≠ name) :
    f ∈ (res.set name value).fields :=
  List.mem_append_left _
    (List.mem_filter.mpr ⟨hmem, decide_eq_true hne⟩)

theorem anyOrigin_mem_addAdminCors (res : AdminResponse) :
    (lit "Access-Control-Allow-Origin", lit "*") ∈
      res.addAdminCors.fields := by
  apply mem_set_ne _ _ (by decide)
  exact mem_set_ne _ (mem_set_self _ _ _) (by decide)

theorem contentJson_mem_addAdminCors {res : AdminResponse}
    (hmem : (lit "Content-Type", lit "application/json; charset=utf-8") ∈
      res.fields) :
    (lit "Content-Type", lit "application/json; charset=utf-8") ∈
      res.addAdminCors.fields := by
  apply mem_set_ne _ _ (by decide)
  apply mem_set_ne _ _ (by decide)
  exact mem_set_ne _ hmem (by decide)

end AdminResponse

def Hub.view (endpointStr : ConnId → Bytes) (hub : Hub) : SessionView where
  loggedIn c := (hub.sessions c).loggedIn
  isAdminAccount c := (hub.sessions c).isAdmin
  isOpen c := hub.isOpen c
  endpointStr := endpointStr
  pendingBytes c := (hub.sessions c).pendingBytes

/-- The part of `RelayServer` the admin port sees. -/
structure AdminPort where
  relay : Metered
  events : List AdminEvent := []
  startedMs : Nat

namespace AdminPort

/-- The body of a `GET`, and its status. -/
def handleGet (tsMs : Nat) (endpointStr : ConnId → Bytes) (target : Bytes)
    (p : AdminPort) : AdminPort × Nat × Bytes :=
  if target = lit "/api/health" ∨ target = lit "/health" then
    (p, 200, lit "\x7b\"ok\":true\x7d")
  else if target = lit "/api/stats" then
    let snapshot := p.relay.snapshotStats p.startedMs tsMs
    ({ p with relay := snapshot.2 }, 200, snapshot.1.buildStatsJson)
  else if target = lit "/api/events" then
    (p, 200, buildEventsJson p.events)
  else if target = lit "/api/users" then
    (p, 200, p.relay.server.hub.reg.buildUsersJson
      (p.relay.server.hub.view endpointStr))
  else (p, 404, lit "\x7b\"error\":\"not_found\"\x7d")

def handleAdmin (tsMs : Nat) (endpointStr : ConnId → Bytes)
    (req : AdminRequest) (p : AdminPort) : AdminPort × AdminResponse :=
  let res : AdminResponse := { version := req.version, keepAlive := false }
  let res := res.set (lit "Server") (lit "asio-relay-admin")
  if req.method = .options then
    (p, { res with status := 204 }.addAdminCors)
  else if req.method ≠ .get then
    (p, { res.contentJson with
      status := 405
      body := lit "\x7b\"error\":\"method_not_allowed\"\x7d" }.addAdminCors)
  else
    let answer := p.handleGet tsMs endpointStr req.target
    (answer.1, { res.contentJson.addAdminCors with
      status := answer.2.1
      body := answer.2.2 })

/-! ## Runs -/

inductive PortEvent where
  | relay (event : Event)
  | push (ev : AdminEvent)
  | request (tsMs : Nat) (endpointStr : ConnId → Bytes) (req : AdminRequest)

def initial (db : Db) (startedMs : Nat) : AdminPort where
  relay := Metered.initial db
  startedMs := startedMs

def step (cfg : Config) (unpack : Bytes → Option Obj) (p : AdminPort) :
    PortEvent → Option AdminPort
  | .relay event =>
      (p.relay.step cfg unpack event).map (fun t => { p with relay := t })
  | .push ev => some { p with events := pushEvent cfg p.events ev }
  | .request tsMs endpointStr req =>
      some (p.handleAdmin tsMs endpointStr req).1

def pushed? : PortEvent → Option AdminEvent
  | .push ev => some ev
  | _ => none

variable {cfg : Config} {unpack : Bytes → Option Obj}

/-- A request leaves the port as it was, or takes a snapshot. -/
theorem handleAdmin_port (tsMs : Nat) (endpointStr : ConnId → Bytes)
    (req : AdminRequest) (p : AdminPort) :
    (p.handleAdmin tsMs endpointStr req).1 = p ∨
    (p.handleAdmin tsMs endpointStr req).1 =
      { p with relay := (p.relay.snapshotStats p.startedMs tsMs).2 } := by
  unfold handleAdmin
  dsimp only
  split
  · exact .inl rfl
  · split
    · exact .inl rfl
    · dsimp only
      unfold handleGet
      split
      · exact .inl rfl
      · split
        · exact .inr rfl
        · split
          · exact .inl rfl
          · split
            · exact .inl rfl
            · exact .inl rfl

end AdminPort

/-! ## Requests are not noticed by the relay -/

section WithoutAll

variable {cfg : Config}

/-- `all_` exchanged. -/
def Hub.withAll (all : List ConnId) (hub : Hub) : Hub :=
  { hub with reg := { hub.reg with all := all } }

theorem Hub.callAll_withAll (all : List ConnId)
    (calls : List (ConnId × Call)) (hub : Hub) :
    (hub.withAll all).callAll calls = (hub.callAll calls).withAll all := by
  induction calls generalizing hub with
  | nil => rfl
  | cons head rest ih => exact ih (hub.call head.1 head.2)

theorem Registry.settleMode_all (uid : Nat) (wantMode : RecvMode)
    (r : Registry) (all : List ConnId) :
    { r with all := all }.settleMode uid wantMode =
      ({ (r.settleMode uid wantMode).1 with all := all },
        (r.settleMode uid wantMode).2) := by
  have hdeque : Registry.deque { r with all := all } uid = r.deque uid := rfl
  rw [settleMode, settleMode, hdeque]
  by_cases hnone : r.deque uid = []
  · rw [if_pos hnone, if_pos hnone]
  · rw [if_neg hnone, if_neg hnone]
    dsimp only
    cases r.userRecvMode.lookup uid with
    | none => rfl
    | some established => rfl

theorem Registry.login_all (self : ConnId) (un : Bytes) (uid : Nat)
    (wantMode : RecvMode) (r : Registry) (all : List ConnId) :
    { r with all := all }.login cfg self un uid wantMode =
      ({ (r.login cfg self un uid wantMode).1 with all := all },
        (r.login cfg self un uid wantMode).2) := by
  unfold login
  dsimp only
  rw [Registry.settleMode_all uid wantMode
    { r with
      uidToUsername := r.uidToUsername.insert uid un
      nameToUid := r.nameToUid.insert un uid } all]
  rfl

theorem Registry.recipients_all (isOpen : ConnId → Bool) (uid : Nat)
    (r : Registry) (all : List ConnId) :
    { r with all := all }.recipients cfg isOpen uid =
      ({ (r.recipients cfg isOpen uid).1 with all := all },
        (r.recipients cfg isOpen uid).2) := by
  unfold recipients
  dsimp only
  split
  · rfl
  · split
    · rfl
    · split
      · rfl
      · rfl

theorem LockOp.exec_all (env : Env) (isOpen : ConnId → Bool)
    (reg : Registry) (operation : LockOp) (all : List ConnId) :
    operation.exec cfg env isOpen { reg with all := all } =
      ({ (operation.exec cfg env isOpen reg).1 with all := all },
        (operation.exec cfg env isOpen reg).2) := by
  cases operation with
  | login self un uinfo wantMode =>
      simp only [LockOp.exec, Registry.login_all]
  | deliver srcUsername srcConn dstUsername dstUid payload seq =>
      simp only [LockOp.exec, Registry.recipients_all]
  | _ => rfl

theorem Op.exec_withAll (env : Env) (hub : Hub) (op : Op)
    (all : List ConnId) :
    op.exec cfg env (hub.withAll all) =
      ((op.exec cfg env hub).1.withAll all, (op.exec cfg env hub).2) := by
  cases op with
  | lock operation =>
      have hexec : operation.exec cfg env (hub.withAll all).isOpen
          (hub.withAll all).reg =
          ({ (operation.exec cfg env hub.isOpen hub.reg).1 with all := all },
            (operation.exec cfg env hub.isOpen hub.reg).2) :=
        LockOp.exec_all env hub.isOpen hub.reg operation all
      rw [Op.exec, hexec]
      exact Prod.ext (Hub.callAll_withAll all
        (operation.exec cfg env hub.isOpen hub.reg).2.1
        { hub with reg := (operation.exec cfg env hub.isOpen hub.reg).1 }) rfl
  | _ => rfl

theorem Registry.removeSession_withAll (c : ConnId) (loggedIn : Bool)
    (uid : Nat) (r : Registry) (all : List ConnId) :
    { r with all := all }.removeSession c loggedIn uid =
      { r.removeSession c loggedIn uid with all := all.erase c } := by
  unfold removeSession
  dsimp only
  cases loggedIn with
  | false => rfl
  | true =>
      rw [if_pos rfl, if_pos rfl]
      cases r.userDeque.lookup uid with
      | none => rfl
      | some dq =>
          dsimp only [dropFromDeque]
          by_cases hempty : (dq.erase c).isEmpty = true
          · rw [if_pos hempty, if_pos hempty]
          · rw [if_neg hempty, if_neg hempty]

namespace Server

def withAll (all : List ConnId) (s : Server) : Server :=
  { s with hub := s.hub.withAll all }

/-- What becomes of `all_`. -/
def nextAll (s : Server) (all : List ConnId) : Event → List ConnId
  | .accept _ => all ++ [s.hub.reg.nextConnId + 1]
  | .removeSession c => all.erase c
  | .snapshotStats => all.filter s.hub.isOpen
  | _ => all

/-- The same sessions are open in `all` as in `all_`. -/
def SameOpen (all : List ConnId) (s : Server) : Prop :=
  ∀ c, s.hub.isOpen c = true → all.contains c = s.hub.reg.all.contains c

theorem sameOpen_filter (s : Server) :
    SameOpen (s.hub.reg.all.filter s.hub.isOpen) s := by
  intro c hopen
  rw [Bool.eq_iff_iff, List.contains_iff_mem, List.contains_iff_mem,
    List.mem_filter, hopen]
  exact and_iff_left rfl

/-- A step is possible or not, and comes to the same, whatever else `all_`
holds than the open sessions. -/
theorem step_withAll (cfg : Config) (unpack : Bytes → Option Obj)
    (s : Server) {all : List ConnId} (hsame : SameOpen all s)
    (event : Event) :
    (s.withAll all).step cfg unpack event =
      (s.step cfg unpack event).map (withAll (s.nextAll all event)) := by
  cases event with
  | accept peerIp => rfl
  | read c event =>
      have hnext : ((s.withAll all).readers c).next cfg unpack
          ((s.withAll all).hub.identity c) ((s.withAll all).hub.sessions c)
            event = (s.readers c).next cfg unpack (s.hub.identity c)
              (s.hub.sessions c) event := rfl
      simp only [step, hnext]
      split <;> rfl
  | advance c env =>
      simp only [step, withAll]
      cases hreader : s.readers c with
      | handling q =>
          obtain ⟨sender, h, stage, program, hends⟩ := q
          cases program with
          | ret value => rfl
          | op operation rest =>
              simp only [Request.perform, Op.exec_withAll]
              rfl
      | _ => rfl
  | removeSession c =>
      simp only [step, withAll]
      cases hreader : s.readers c with
      | leaving =>
          simp only [Hub.removeSession, Hub.withAll,
            Registry.removeSession_withAll]
          rfl
      | _ => rfl
  | closeSocket c =>
      have hreader : (s.withAll all).readers c = s.readers c := rfl
      simp only [step, hreader]
      split <;> rfl
  | io c event =>
      have hsession : (s.withAll all).hub.sessions c = s.hub.sessions c := rfl
      simp only [step, hsession]
      split <;> rfl
  | heartbeatTimeout c =>
      have hsession : (s.withAll all).hub.sessions c = s.hub.sessions c := rfl
      have hsocket : (s.withAll all).hub.isOpen c = s.hub.isOpen c := rfl
      have hsnapshot : s.hub.isOpen c = true →
          (s.withAll all).inHeartbeatSnapshot c =
            s.inHeartbeatSnapshot c :=
        fun hopen => congrArg (· || _) (hsame c hopen)
      simp only [step, hsession, hsocket]
      cases hopen : s.hub.isOpen c with
      | false => simp
      | true =>
          rw [hsnapshot hopen]
          split <;> rfl
  | snapshotStats => rfl

/-- Only the open sessions of `all_` count for the open ones after a step. -/
theorem nextAll_filter {s s' : Server} {event : Event}
    (hstep : s.step cfg unpack event = some s')
    (hfresh : ∀ c, s.hub.reg.nextConnId < c → s.hub.isOpen c = true)
    (all : List ConnId) :
    (s.nextAll (all.filter s.hub.isOpen) event).filter s'.hub.isOpen =
      (s.nextAll all event).filter s'.hub.isOpen := by
  have hstill : ∀ c, s'.hub.isOpen c = true → s.hub.isOpen c = true := by
    intro c hopen
    by_cases hnew : s.hub.reg.nextConnId < c
    · exact hfresh c hnew
    · by_contra hclosed
      have hlater : s'.hub.isOpen c = false :=
        closed_of_step hstep
          (fun _ _ hsame => hnew (hsame ▸ Nat.lt_succ_self _))
          (Bool.eq_false_of_not_eq_true hclosed)
      rw [hlater] at hopen
      cases hopen
  have hfilter : (all.filter s.hub.isOpen).filter s'.hub.isOpen =
      all.filter s'.hub.isOpen := by
    rw [List.filter_filter]
    apply List.filter_congr
    intro c _
    by_cases hopen : s'.hub.isOpen c = true
    · simp [hopen, hstill c hopen]
    · simp [hopen]
  have htwice : ∀ l : List ConnId,
      (l.filter s.hub.isOpen).filter s.hub.isOpen = l.filter s.hub.isOpen := by
    intro l
    simp only [List.filter_filter, Bool.and_self]
  cases event with
  | accept peerIp =>
      rw [nextAll, nextAll, List.filter_append, hfilter, List.filter_append]
  | removeSession c =>
      have hsame : s'.hub.isOpen = s.hub.isOpen := by
        cases stepped_of_step hstep
        rfl
      rw [hsame, nextAll, nextAll, List.erase_filter, htwice]
  | snapshotStats => rw [nextAll, nextAll, htwice]
  | _ => exact hfilter

end Server

namespace Metered

def withAll (all : List ConnId) (t : Metered) : Metered :=
  { t with server := t.server.withAll all }

/-- The closed sessions of `all_` are forgotten. -/
def compacted (t : Metered) : Metered :=
  t.withAll (t.server.hub.reg.all.filter t.server.hub.isOpen)

theorem step_withAll (cfg : Config) (unpack : Bytes → Option Obj)
    (t : Metered) {all : List ConnId} (hsame : Server.SameOpen all t.server)
    (event : Event) :
    (t.withAll all).step cfg unpack event =
      (t.step cfg unpack event).map
        (withAll (t.server.nextAll all event)) := by
  have hserver := t.server.step_withAll cfg unpack hsame event
  have hafter : t.metrics.after cfg (t.server.withAll all) event =
      t.metrics.after cfg t.server event := by
    cases event <;> rfl
  simp only [step, withAll, hserver, hafter, Option.map_map]
  rfl

theorem all_eq_nextAll {t t' : Metered} {event : Event}
    (hstep : t.step cfg unpack event = some t') :
    t'.server.hub.reg.all = t.server.nextAll t.server.hub.reg.all event := by
  have hopen : Server.SameOpen t.server.hub.reg.all t.server :=
    fun _ _ => rfl
  have hself := t.step_withAll cfg unpack hopen event
  have hsame : t.withAll t.server.hub.reg.all = t := rfl
  rw [hsame, hstep, Option.map_some, Option.some.injEq] at hself
  rw [hself]
  rfl

/-- The step after a compaction comes to the same but for a compaction. -/
theorem step_compacted (unpack : Bytes → Option Obj) {t : Metered}
    (event : Event) (hfresh : ∀ c, t.server.hub.reg.nextConnId < c →
      t.server.hub.isOpen c = true) :
    (t.compacted.step cfg unpack event).map compacted =
      (t.step cfg unpack event).map compacted := by
  rw [compacted, step_withAll _ _ _ t.server.sameOpen_filter]
  cases hstep : t.step cfg unpack event with
  | none => rfl
  | some t' =>
      rw [Option.map_some, Option.map_some, Option.map_some]
      have hfilter := Server.nextAll_filter (step_eq_some hstep).1 hfresh
        t.server.hub.reg.all
      rw [← all_eq_nextAll hstep] at hfilter
      exact congrArg (fun all => some (t'.withAll all)) hfilter

theorem snapshotStats_compacted (startedMs tsMs : Nat) (t : Metered) :
    (t.snapshotStats startedMs tsMs).2 = t.compacted := by
  rw [snapshotStats, Tally.visitAll_eq]
  rfl

theorem compacted_compacted (t : Metered) :
    t.compacted.compacted = t.compacted := by
  have htwice : (t.server.hub.reg.all.filter t.server.hub.isOpen).filter
      t.server.hub.isOpen =
      t.server.hub.reg.all.filter t.server.hub.isOpen := by
    simp only [List.filter_filter, Bool.and_self]
  exact congrArg (fun all => t.withAll all) htwice

end Metered

end WithoutAll

namespace AdminPort

variable {cfg : Config} {unpack : Bytes → Option Obj} {p p' : AdminPort}

/-- What every reachable port satisfies. -/
structure Sound (cfg : Config) (p : AdminPort) : Prop where
  outbound : ∃ done, p.relay.Outbound cfg done
  enrolled : p.relay.server.Enrolled

theorem sound_initial (cfg : Config) (db : Db) (startedMs : Nat) :
    (initial db startedMs).Sound cfg where
  outbound := ⟨[], Metered.outbound_initial cfg db⟩
  enrolled := Server.enrolled_initial db

theorem Sound.relayStep (hsound : p.Sound cfg) {event : Event} {t : Metered}
    (hstep : p.relay.step cfg unpack event = some t) :
    Sound cfg { p with relay := t } := by
  obtain ⟨done, houtbound⟩ := hsound.outbound
  have hserver := (Metered.step_eq_some hstep).1
  exact ⟨⟨_, houtbound.step hstep⟩,
    hsound.enrolled.step houtbound.ending.sane hserver⟩

theorem Sound.step (hsound : p.Sound cfg) {event : PortEvent}
    (hstep : p.step cfg unpack event = some p') : p'.Sound cfg := by
  cases event with
  | relay event =>
      obtain ⟨t, ht, rfl⟩ := Option.map_eq_some_iff.mp hstep
      exact hsound.relayStep ht
  | push ev =>
      cases hstep
      exact ⟨hsound.outbound, hsound.enrolled⟩
  | request tsMs endpointStr req =>
      cases hstep
      rcases p.handleAdmin_port tsMs endpointStr req with hsame | hsnapshot
      · rw [hsame]
        exact hsound
      · rw [hsnapshot]
        exact hsound.relayStep
          (p.relay.snapshotStats_server cfg (fun _ => none) p.startedMs tsMs)

theorem Sound.fresh (hsound : p.Sound cfg) {c : ConnId}
    (hbeyond : p.relay.server.hub.reg.nextConnId < c) :
    p.relay.server.hub.isOpen c = true := by
  obtain ⟨_, houtbound⟩ := hsound.outbound
  rw [Hub.isOpen, (houtbound.untouched c hbeyond).1]

def compacted (p : AdminPort) : AdminPort :=
  { p with relay := p.relay.compacted }

/-- The events of a run which are neither requests nor snapshots. -/
def unrequested : PortEvent → Bool
  | .relay .snapshotStats => false
  | .relay _ => true
  | .push _ => true
  | .request _ _ _ => false

theorem handleAdmin_compacted (tsMs : Nat) (endpointStr : ConnId → Bytes)
    (req : AdminRequest) (p : AdminPort) :
    (p.handleAdmin tsMs endpointStr req).1.compacted = p.compacted := by
  rcases p.handleAdmin_port tsMs endpointStr req with hsame | hsnapshot
  · rw [hsame]
  · rw [hsnapshot, compacted, Metered.snapshotStats_compacted,
      Metered.compacted_compacted]
    rfl

theorem step_compacted (hsound : p.Sound cfg) (event : PortEvent) :
    (p.compacted.step cfg unpack event).map compacted =
      (p.step cfg unpack event).map compacted := by
  cases event with
  | relay event =>
      have hrelay : (p.relay.compacted.step cfg unpack event).map
            Metered.compacted =
          (p.relay.step cfg unpack event).map Metered.compacted :=
        Metered.step_compacted unpack event
          (fun c hbeyond => hsound.fresh hbeyond)
      have hboth := congrArg
        (Option.map (fun t => ({ p with relay := t } : AdminPort))) hrelay
      rw [Option.map_map, Option.map_map] at hboth
      simp only [step, Option.map_map]
      exact hboth
  | push ev =>
      have htwice := p.relay.compacted_compacted
      exact congrArg (fun t => some (AdminPort.mk t
        (pushEvent cfg p.events ev) p.startedMs)) htwice
  | request tsMs endpointStr req =>
      have htwice : p.compacted.compacted = p.compacted :=
        congrArg (fun t => AdminPort.mk t p.events p.startedMs)
          p.relay.compacted_compacted
      simp only [step, Option.map_some, handleAdmin_compacted, htwice]

theorem unseen_of_requested (p : AdminPort) {event : PortEvent}
    (hrequested : unrequested event = false) :
    (p.step cfg unpack event).map compacted = some p.compacted := by
  cases event with
  | relay event =>
      cases event with
      | snapshotStats =>
          have hstep : p.relay.step cfg unpack .snapshotStats =
              some p.relay.compacted := rfl
          simp only [step, hstep, Option.map_some]
          exact congrArg (fun t => some (AdminPort.mk t p.events p.startedMs))
            p.relay.compacted_compacted
      | _ => cases hrequested
  | push ev => cases hrequested
  | request tsMs endpointStr req =>
      simp only [step, Option.map_some, handleAdmin_compacted]

/-- Requests and snapshots can be left out of a run: the relay goes through
the same steps and comes to the same state but for closed sessions in `all_`,
which `check_heartbeats` passes over, with the same counters and the same
buffer of events. -/
theorem requests_unnoticed (cfg : Config) (unpack : Bytes → Option Obj)
    (db : Db) (startedMs : Nat) (events : List PortEvent) :
    (Transition.run (step cfg unpack) events (initial db startedMs)).map
        compacted =
      (Transition.run (step cfg unpack) (events.filter unrequested)
        (initial db startedMs)).map compacted := by
  refine Transition.run_erase (Sound cfg) compacted unrequested ?_ ?_ ?_
    events (sound_initial cfg db startedMs) (sound_initial cfg db startedMs) rfl
  · intro p event p' hsound hstep
    exact hsound.step hstep
  · intro p p' event hsound hsound' hsame
    rw [← step_compacted hsound, ← step_compacted hsound', hsame]
  · intro p event _ hrequested
    exact p.unseen_of_requested hrequested

/-! ## The pages -/

theorem events_of_step {event : PortEvent}
    (hstep : p.step cfg unpack event = some p') :
    p'.events = (pushed? event).toList.foldl (pushEvent cfg) p.events := by
  cases event with
  | relay event =>
      obtain ⟨t, _, rfl⟩ := Option.map_eq_some_iff.mp hstep
      rfl
  | push ev =>
      cases hstep
      rfl
  | request tsMs endpointStr req =>
      cases hstep
      rcases p.handleAdmin_port tsMs endpointStr req with hsame | hsnapshot
      · rw [hsame]
        rfl
      · rw [hsnapshot]
        rfl

theorem sound_of_run {events : List PortEvent} (hsound : p.Sound cfg)
    (hrun : Transition.run (step cfg unpack) events p = some p') :
    p'.Sound cfg ∧
      p'.events =
        (events.filterMap pushed?).foldl (pushEvent cfg) p.events := by
  induction events generalizing p with
  | nil =>
      cases hrun
      exact ⟨hsound, rfl⟩
  | cons event rest ih =>
      obtain ⟨next, hstep, hrest⟩ := Transition.run_cons_eq_some.mp hrun
      obtain ⟨hfinal, hevents⟩ := ih (hsound.step hstep) hrest
      refine ⟨hfinal, ?_⟩
      rw [hevents, events_of_step hstep, ← List.foldl_append]
      cases hpushed : pushed? event with
      | none => rw [List.filterMap_cons_none hpushed]; rfl
      | some ev => rw [List.filterMap_cons_some hpushed]; rfl

def healthJson : Json := .object [(lit "ok", .bool true)]

def errorJson (why : Bytes) : Json := .object [(lit "error", .string why)]

/-- What the page of a request says, with its status: for `/api/stats` the
counts of the open connections, for `/api/events` the last of the events
pushed, for `/api/users` the deques. -/
inductive Shows (cfg : Config) (pushed : List AdminEvent) (tsMs : Nat)
    (endpointStr : ConnId → Bytes) (p : AdminPort) (req : AdminRequest) :
    Nat → Json → Prop where
  | otherMethod (hmethod : req.method ≠ .get) :
      Shows cfg pushed tsMs endpointStr p req 405
        (errorJson (lit "method_not_allowed"))
  | health (hmethod : req.method = .get)
      (htarget : req.target = lit "/api/health" ∨ req.target = lit "/health") :
      Shows cfg pushed tsMs endpointStr p req 200 healthJson
  | stats (hmethod : req.method = .get)
      (htarget : req.target = lit "/api/stats") (snap : StatsSnapshot)
      (hcounts : snap.Counts p.relay.server)
      (hcounters : snap.framesIn = p.relay.metrics.framesIn ∧
        snap.bytesIn = p.relay.metrics.bytesIn ∧
        snap.framesOut = p.relay.metrics.framesOut ∧
        snap.bytesOut = p.relay.metrics.bytesOut ∧
        snap.drops = p.relay.metrics.drops)
      (htimes : snap.tsMs = tsMs ∧ snap.startedMs = p.startedMs) :
      Shows cfg pushed tsMs endpointStr p req 200 snap.json
  | events (hmethod : req.method = .get)
      (htarget : req.target = lit "/api/events") :
      Shows cfg pushed tsMs endpointStr p req 200
        (eventsJson (pushed.drop
          (pushed.length - min pushed.length cfg.eventsMax.toNat)))
  | users (hmethod : req.method = .get)
      (htarget : req.target = lit "/api/users")
      (hregistry : p.relay.server.RegistryOk cfg) :
      Shows cfg pushed tsMs endpointStr p req 200
        (p.relay.server.hub.reg.usersJson
          (p.relay.server.hub.view endpointStr))
  | notFound (hmethod : req.method = .get)
      (htarget : req.target ∉ [lit "/api/health", lit "/health",
        lit "/api/stats", lit "/api/events", lit "/api/users"]) :
      Shows cfg pushed tsMs endpointStr p req 404
        (errorJson (lit "not_found"))

theorem denotes_health (v : Json) :
    Denotes (lit "\x7b\"ok\":true\x7d") v ↔ v = healthJson :=
  Doc.denotes_write_iff leaves_jsonEscape
    (.record [(lit "ok", .flag true)]) v

theorem denotes_notFound (v : Json) :
    Denotes (lit "\x7b\"error\":\"not_found\"\x7d") v ↔
      v = errorJson (lit "not_found") :=
  Doc.denotes_write_iff leaves_jsonEscape
    (.record [(lit "error", .text (lit "not_found"))]) v

theorem denotes_methodNotAllowed (v : Json) :
    Denotes (lit "\x7b\"error\":\"method_not_allowed\"\x7d") v ↔
      v = errorJson (lit "method_not_allowed") :=
  Doc.denotes_write_iff leaves_jsonEscape
    (.record [(lit "error", .text (lit "method_not_allowed"))]) v

theorem handleGet_shows (hsound : p.Sound cfg) {pushed : List AdminEvent}
    (hevents : p.events = pushed.foldl (pushEvent cfg) []) (tsMs : Nat)
    (endpointStr : ConnId → Bytes) {req : AdminRequest}
    (hmethod : req.method = .get) :
    ∃ page, (∀ v, Denotes (p.handleGet tsMs endpointStr req.target).2.2 v ↔
        v = page) ∧
      p.Shows cfg pushed tsMs endpointStr req
        (p.handleGet tsMs endpointStr req.target).2.1 page := by
  obtain ⟨_, houtbound⟩ := hsound.outbound
  have hlisted := houtbound.ending.listed
  unfold handleGet
  split
  · rename_i htarget
    exact ⟨_, denotes_health, .health hmethod htarget⟩
  · rename_i hhealth
    split
    · rename_i htarget
      have hcounts := Metered.counts_snapshotStats houtbound.ending.sane
        hlisted hsound.enrolled p.startedMs tsMs
      have hcarries :=
        Metered.carries_snapshotStats p.startedMs tsMs p.relay
      refine ⟨_, ?_, .stats hmethod htarget _ hcounts
        ⟨hcarries.framesIn, hcarries.bytesIn, hcarries.framesOut,
          hcarries.bytesOut, hcarries.drops⟩
        ⟨hcarries.tsMs, hcarries.startedMs⟩⟩
      intro v
      dsimp only
      rw [StatsSnapshot.buildStatsJson_eq,
        Doc.denotes_write_iff leaves_jsonEscape, StatsSnapshot.doc_value]
    · rename_i hstats
      split
      · rename_i htarget
        refine ⟨_, ?_, .events hmethod htarget⟩
        intro v
        rw [hevents, foldl_pushEvent, buildEventsJson_eq,
          Doc.denotes_write_iff leaves_jsonEscape, eventsDoc_value]
      · rename_i hnoEvents
        split
        · rename_i htarget
          refine ⟨_, ?_, .users hmethod htarget hlisted.registryOk⟩
          intro v
          rw [Registry.buildUsersJson_eq,
            Doc.denotes_write_iff leaves_jsonEscape, Registry.usersDoc_value]
        · rename_i husers
          refine ⟨_, denotes_notFound, .notFound hmethod ?_⟩
          simp [not_or.mp hhealth, hstats, hnoEvents, husers]

/-- Every response after any run has the version of its request, closes the
connection and may be read by any origin.  `OPTIONS` is answered without a
body; every other body is one JSON value, which says what the port holds. -/
theorem reply_of_run (cfg : Config) (unpack : Bytes → Option Obj) (db : Db)
    (startedMs : Nat) {events : List PortEvent} {p : AdminPort}
    (hrun : Transition.run (step cfg unpack) events (initial db startedMs) =
      some p)
    (tsMs : Nat) (endpointStr : ConnId → Bytes) (req : AdminRequest)
    (reply : AdminResponse)
    (hreply : (p.handleAdmin tsMs endpointStr req).2 = reply) :
    reply.version = req.version ∧ reply.keepAlive = false ∧
    (lit "Access-Control-Allow-Origin", lit "*") ∈ reply.fields ∧
    (req.method = .options → reply.status = 204 ∧ reply.body = []) ∧
    (req.method ≠ .options →
      (lit "Content-Type", lit "application/json; charset=utf-8") ∈
        reply.fields ∧
      ∃ page, (∀ v, Denotes reply.body v ↔ v = page) ∧
        p.Shows cfg (events.filterMap pushed?) tsMs endpointStr req
          reply.status page) := by
  obtain ⟨hsound, hevents⟩ :=
    sound_of_run (sound_initial cfg db startedMs) hrun
  subst hreply
  unfold handleAdmin
  dsimp only
  split
  · rename_i hoptions
    refine ⟨rfl, rfl, AdminResponse.anyOrigin_mem_addAdminCors _,
      fun _ => ⟨rfl, rfl⟩, ?_⟩
    intro hnot
    exact absurd hoptions hnot
  · rename_i hoptions
    split
    · rename_i hmethod
      refine ⟨rfl, rfl, AdminResponse.anyOrigin_mem_addAdminCors _,
        fun hsame => absurd hsame hoptions, ?_⟩
      intro _
      refine ⟨?_, _, denotes_methodNotAllowed, .otherMethod hmethod⟩
      apply AdminResponse.contentJson_mem_addAdminCors
      exact AdminResponse.mem_set_self _ _ _
    · rename_i hget
      dsimp only
      refine ⟨rfl, rfl, AdminResponse.anyOrigin_mem_addAdminCors _,
        fun hsame => absurd hsame hoptions, ?_⟩
      intro _
      obtain ⟨page, hpage⟩ := handleGet_shows hsound hevents tsMs endpointStr
        (not_not.mp hget)
      refine ⟨?_, page, hpage⟩
      apply AdminResponse.contentJson_mem_addAdminCors
      exact AdminResponse.mem_set_self _ _ _

/-- `root` logs in, an event is pushed, and a request comes in. -/
def watchedLogin : List PortEvent :=
  Metered.loginWritten.map .relay ++
    [.push ⟨7, .info, lit "login ok user=root"⟩,
      .request 8 (fun _ => []) ⟨11, .get, lit "/api/stats"⟩]

theorem reply_of_run_watchedLogin :
    ∃ p page, Transition.run (step forwarderJson unpackFlat) watchedLogin
        (initial Server.emptyDb 3) = some p ∧
      (∀ v, Denotes (p.handleAdmin 9 (fun _ => [])
        ⟨11, .get, lit "/api/users"⟩).2.body v ↔ v = page) ∧
      p.Shows forwarderJson (watchedLogin.filterMap pushed?) 9 (fun _ => [])
        ⟨11, .get, lit "/api/users"⟩ 200 page := by
  obtain ⟨p, hrun, _⟩ : ∃ p,
      Transition.run (step forwarderJson unpackFlat) watchedLogin
        (initial Server.emptyDb 3) = some p ∧ p.events.length = 1 :=
    Transition.exists_run_of_check (by decide +kernel)
  obtain ⟨_, _, _, _, hbody⟩ := reply_of_run forwarderJson unpackFlat
    Server.emptyDb 3 hrun 9 (fun _ => []) ⟨11, .get, lit "/api/users"⟩ _ rfl
  obtain ⟨_, page, hpage, hshows⟩ := hbody (by decide)
  exact ⟨p, page, hrun, hpage, hshows⟩

end AdminPort

end AsioForwarder
