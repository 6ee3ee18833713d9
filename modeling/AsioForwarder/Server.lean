import AsioForwarder.FrameStage

/-!
# The server as a transition system

One step of the server is one atomic operation of one party: a connection is
accepted, the read loop of a session moves on, the frame handler running in a
read loop performs its next operation, a handler runs on a session's strand
or its socket transmits, or one of the timers fires.  Read loops, strands and
timers run on several threads, so the steps of different parties come in any
order; the steps of one read loop come in program order.

Clocks are not modelled: the idle test and the heartbeat check may fire
whenever their other conditions hold, and a read may fail at any time.
-/

namespace AsioForwarder

open Interaction

/-- A frame being handled.  `stage` records how far the handler has come, and
`conforms` that what is left of it keeps to the stages. -/
structure Request where
  sender : Identity
  header : Header
  stage : Stage
  program : Frame Unit
  conforms : Ends sender header.seq stage program

namespace Request

def start (unpack : Bytes → Option Obj) (sender : Identity) (h : Header)
    (body : Bytes) : Request where
  sender := sender
  header := h
  stage := initialStage unpack sender h body
  program := handleClientFrame unpack sender h body
  conforms := handleClientFrame_ends unpack sender h body

/-- The operation the handler is about to perform. -/
def nextOp (q : Request) : Option Op := q.program.head?

/-- Perform the next operation; `none` if the handler has returned. -/
def perform (cfg : Config) (env : Env) (hub : Hub) :
    Request → Option (Hub × Request)
  | ⟨_, _, _, .ret _, _⟩ => none
  | ⟨sender, h, stage, .op operation rest, hends⟩ =>
      let outcome := operation.exec cfg env hub
      some (outcome.1, ⟨sender, h, stage.next operation outcome.2,
        rest outcome.2, hends.2 outcome.2⟩)

/-- The stage after the operation `op` has been executed on `hub`. -/
def stageAfter (cfg : Config) (env : Env) (hub : Hub) (op : Op)
    (q : Request) : Stage :=
  q.stage.next op (op.exec cfg env hub).2

theorem perform_eq_some {cfg : Config} {env : Env} {hub hub' : Hub}
    {q q' : Request} (hperform : q.perform cfg env hub = some (hub', q')) :
    ∃ op, q.nextOp = some op ∧ Allows q.sender q.header.seq q.stage op ∧
      hub' = (op.exec cfg env hub).1 ∧ q'.sender = q.sender ∧
      q'.header = q.header ∧ q'.stage = q.stageAfter cfg env hub op := by
  obtain ⟨sender, h, stage, program, hends⟩ := q
  cases program with
  | ret value => cases hperform
  | op operation rest =>
      cases hperform
      exact ⟨operation, rfl, hends.1, rfl, rfl, rfl, rfl⟩

theorem allows_of_nextOp {q : Request} {op : Op}
    (hop : q.nextOp = some op) :
    Allows q.sender q.header.seq q.stage op := by
  obtain ⟨sender, h, stage, program, hends⟩ := q
  cases program with
  | ret value => cases hop
  | op operation rest =>
      cases hop
      exact hends.1

theorem stage_of_perform_eq_none {cfg : Config} {env : Env} {hub : Hub}
    {q : Request} (hperform : q.perform cfg env hub = none) :
    q.stage = .done ∧ q.nextOp = none := by
  obtain ⟨sender, h, stage, program, hends⟩ := q
  cases program with
  | ret value => exact ⟨hends, rfl⟩
  | op operation rest => cases hperform

end Request

/-! ## Read loops -/

/-- Where a session's `read_loop` is. -/
inductive ReadLoop where
  | notAccepted
  | top
  | awaitHeader
  | gotHeader (h : Header)
  | awaitBody (h : Header)
  | gotBody (h : Header) (body : Bytes)
  | handling (q : Request)
  | leaving
  | closing
  | exited

/-- What moves a read loop on: the tests at its top (`idle` is the outcome of
the idle test), a completed or failed read, and the code between the reads
and the handler. -/
inductive ReadEvent where
  | loopTop (idle : Bool)
  | header (h : Header)
  | body (bytes : Bytes)
  | failed
  | resume
  deriving DecidableEq

/-- The next position of a read loop and the call it makes on its session.
A read completes only on an open socket; the code after it runs whatever has
happened to the session since. -/
def ReadLoop.next (cfg : Config) (unpack : Bytes → Option Obj)
    (self : Identity) (s : TcpSession) :
    ReadLoop → ReadEvent → Option (ReadLoop × Option Call)
  | .top, .loopTop idle =>
      if s.stopped then some (.leaving, none)
      else if idle then
        if cfg.idleMs > 0 then
          some (.leaving, some (.notifyAndClose
            (lit "空闲超时：长时间无任何帧收发") (lit "idle timeout")))
        else none
      else some (.awaitHeader, none)
  | .awaitHeader, .header h =>
      if s.isOpen then some (.gotHeader h, none) else none
  | .gotHeader h, .resume =>
      if h.magic ≠ Header.kMagic ∨ h.version ≠ Header.kVersion ∨
          h.headerLen ≠ Header.kHeaderLen then
        some (.leaving, some (.stop (lit "invalid header")))
      else if h.bodyLen > cfg.maxBodyLen then
        some (.leaving, some (.stop (lit "body too large")))
      else if h.bodyLen = 0 then some (.gotBody h [], none)
      else some (.awaitBody h, none)
  | .awaitBody h, .body bytes =>
      if s.isOpen ∧ bytes.length = h.bodyLen.toNat then
        some (.gotBody h bytes, none)
      else none
  | .gotBody h body, .resume =>
      some (.handling (Request.start unpack self h body), none)
  | .awaitHeader, .failed => some (.leaving, none)
  | .awaitBody _, .failed => some (.leaving, none)
  | _, _ => none

/-- The moves of a read loop which make no call. -/
inductive ReadLoop.Moved (unpack : Bytes → Option Obj) (self : Identity)
    (s : TcpSession) : ReadLoop → ReadEvent → ReadLoop → Prop where
  | stopped (idle : Bool) (hstopped : s.stopped = true) :
      Moved unpack self s .top (.loopTop idle) .leaving
  | await (hstopped : s.stopped = false) :
      Moved unpack self s .top (.loopTop false) .awaitHeader
  | header (h : Header) (hopen : s.isOpen = true) :
      Moved unpack self s .awaitHeader (.header h) (.gotHeader h)
  | empty (h : Header) (hempty : h.bodyLen = 0) :
      Moved unpack self s (.gotHeader h) .resume (.gotBody h [])
  | more (h : Header) (hmore : h.bodyLen ≠ 0) :
      Moved unpack self s (.gotHeader h) .resume (.awaitBody h)
  | body (h : Header) (bytes : Bytes) (hopen : s.isOpen = true)
      (hlength : bytes.length = h.bodyLen.toNat) :
      Moved unpack self s (.awaitBody h) (.body bytes) (.gotBody h bytes)
  | handle (h : Header) (body : Bytes) :
      Moved unpack self s (.gotBody h body) .resume
        (.handling (Request.start unpack self h body))
  | headerFailed : Moved unpack self s .awaitHeader .failed .leaving
  | bodyFailed (h : Header) :
      Moved unpack self s (.awaitBody h) .failed .leaving

theorem ReadLoop.moved_of_next {cfg : Config} {unpack : Bytes → Option Obj}
    {self : Identity} {s : TcpSession} {loop loop' : ReadLoop}
    {event : ReadEvent}
    (hnext : loop.next cfg unpack self s event = some (loop', none)) :
    Moved unpack self s loop event loop' := by
  unfold ReadLoop.next at hnext
  split at hnext
  · split at hnext
    · rename_i hstopped
      cases hnext
      exact .stopped _ hstopped
    · rename_i hstopped
      split at hnext
      · split at hnext <;> cases hnext
      · rename_i hidle
        cases hnext
        rw [Bool.not_eq_true] at hstopped hidle
        rw [hidle]
        exact .await hstopped
  · split at hnext
    · rename_i h hopen
      cases hnext
      exact .header h hopen
    · cases hnext
  · rename_i h
    split at hnext
    · cases hnext
    · split at hnext
      · cases hnext
      · split at hnext
        · rename_i hzero
          cases hnext
          exact .empty h hzero
        · rename_i hzero
          cases hnext
          exact .more h hzero
  · rename_i h bytes
    split at hnext
    · rename_i hread
      cases hnext
      exact .body h bytes hread.1 hread.2
    · cases hnext
  · rename_i h body
    cases hnext
    exact .handle h body
  · cases hnext
    exact .headerFailed
  · rename_i h
    cases hnext
    exact .bodyFailed h
  · cases hnext

/-- A read loop which makes a call is on its way out. -/
theorem ReadLoop.next_call {cfg : Config} {unpack : Bytes → Option Obj}
    {self : Identity} {s : TcpSession} {loop loop' : ReadLoop}
    {event : ReadEvent} {made : Call}
    (hnext : loop.next cfg unpack self s event = some (loop', some made)) :
    (loop = .top ∨ ∃ h, loop = .gotHeader h) ∧ loop' = .leaving ∧
      ((∃ why, made = .stop why) ∨
        ∃ userReason logWhy, made = .notifyAndClose userReason logWhy) := by
  unfold ReadLoop.next at hnext
  split at hnext
  · split at hnext
    · cases hnext
    · split at hnext
      · split at hnext
        · cases hnext
          exact ⟨.inl rfl, rfl, .inr ⟨_, _, rfl⟩⟩
        · cases hnext
      · cases hnext
  · split at hnext <;> cases hnext
  · split at hnext
    · cases hnext
      exact ⟨.inr ⟨_, rfl⟩, rfl, .inl ⟨_, rfl⟩⟩
    · split at hnext
      · cases hnext
        exact ⟨.inr ⟨_, rfl⟩, rfl, .inl ⟨_, rfl⟩⟩
      · split at hnext <;> cases hnext
  · split at hnext <;> cases hnext
  · cases hnext
  · cases hnext
  · cases hnext
  · cases hnext

/-! ## The server -/

structure Server where
  hub : Hub
  readers : ConnId → ReadLoop := fun _ => .notAccepted

inductive Event where
  | accept (peerIp : Bytes)
  | read (c : ConnId) (event : ReadEvent)
  | advance (c : ConnId) (env : Env)
  | removeSession (c : ConnId)
  | closeSocket (c : ConnId)
  | io (c : ConnId) (event : TcpSession.IoEvent)
  | heartbeatTimeout (c : ConnId)
  | snapshotStats

/-- The session whose frame handler performs an operation, and what the
outside contributes. -/
def Event.advance? : Event → Option (ConnId × Env)
  | .advance c env => some (c, env)
  | _ => none

namespace Server

def initial (db : Db) : Server where
  hub := { db := db }

def setReader (c : ConnId) (loop : ReadLoop) (s : Server) : Server :=
  { s with readers := Function.update s.readers c loop }

def heartbeatCall : Call :=
  .notifyAndClose (lit "心跳超时：在设定时间内未收到有效业务帧（含心跳）")
    (lit "heartbeat timeout")

/-- `check_heartbeats` goes through a copy of `all_` without `mu_`: a session
of the copy may have left `all_` since, and its socket is then closed next. -/
def inHeartbeatSnapshot (s : Server) (c : ConnId) : Bool :=
  s.hub.reg.all.contains c ||
    match s.readers c with
    | .closing => true
    | _ => false

def step (cfg : Config) (unpack : Bytes → Option Obj) (s : Server) :
    Event → Option Server
  | .accept peerIp =>
      some ({ s with hub := s.hub.accept peerIp }.setReader
        (s.hub.reg.nextConnId + 1) .top)
  | .read c event =>
      match (s.readers c).next cfg unpack (s.hub.identity c)
          (s.hub.sessions c) event with
      | none => none
      | some (loop, none) => some (s.setReader c loop)
      | some (loop, some made) =>
          some ({ s with hub := s.hub.call c made }.setReader c loop)
  | .advance c env =>
      match s.readers c with
      | .handling q =>
          match q.perform cfg env s.hub with
          | none => some (s.setReader c .top)
          | some (hub, q') =>
              some ({ s with hub := hub }.setReader c (.handling q'))
      | _ => none
  | .removeSession c =>
      match s.readers c with
      | .leaving =>
          some ({ s with hub := s.hub.removeSession c }.setReader c .closing)
      | _ => none
  | .closeSocket c =>
      match s.readers c with
      | .closing =>
          some ({ s with hub := s.hub.closeSocket c }.setReader c .exited)
      | _ => none
  | .io c event =>
      match (s.hub.sessions c).ioStep cfg event with
      | none => none
      | some session => some { s with hub := s.hub.setSession c session }
  | .heartbeatTimeout c =>
      if s.inHeartbeatSnapshot c && (s.hub.sessions c).loggedIn &&
          s.hub.isOpen c then
        some { s with hub := s.hub.call c heartbeatCall }
      else none
  | .snapshotStats => some { s with hub := s.hub.snapshotStats }

/-! ## Everything a step can be -/

/-- The steps of the server, one constructor for each kind. -/
inductive Stepped (cfg : Config) (unpack : Bytes → Option Obj) (s : Server) :
    Event → Server → Prop where
  | accept (peerIp : Bytes) :
      Stepped cfg unpack s (.accept peerIp)
        ({ s with hub := s.hub.accept peerIp }.setReader
          (s.hub.reg.nextConnId + 1) .top)
  | move (c : ConnId) (event : ReadEvent) (loop loop' : ReadLoop)
      (hreader : s.readers c = loop)
      (hmoved : ReadLoop.Moved unpack (s.hub.identity c) (s.hub.sessions c)
        loop event loop') :
      Stepped cfg unpack s (.read c event) (s.setReader c loop')
  | give (c : ConnId) (event : ReadEvent) (made : Call)
      (hreader : s.readers c = .top ∨ ∃ h, s.readers c = .gotHeader h)
      (hkind : (∃ why, made = .stop why) ∨
        ∃ userReason logWhy, made = .notifyAndClose userReason logWhy) :
      Stepped cfg unpack s (.read c event)
        ({ s with hub := s.hub.call c made }.setReader c .leaving)
  | finish (c : ConnId) (env : Env) (q : Request)
      (hreader : s.readers c = .handling q)
      (hdone : q.stage = .done ∧ q.nextOp = none) :
      Stepped cfg unpack s (.advance c env) (s.setReader c .top)
  | perform (c : ConnId) (env : Env) (q q' : Request) (op : Op)
      (hreader : s.readers c = .handling q) (hop : q.nextOp = some op)
      (hallows : Allows q.sender q.header.seq q.stage op)
      (hsender : q'.sender = q.sender) (hheader : q'.header = q.header)
      (hstage : q'.stage = q.stageAfter cfg env s.hub op) :
      Stepped cfg unpack s (.advance c env)
        ({ s with hub := (op.exec cfg env s.hub).1 }.setReader c
          (.handling q'))
  | removeSession (c : ConnId) (hreader : s.readers c = .leaving) :
      Stepped cfg unpack s (.removeSession c)
        ({ s with hub := s.hub.removeSession c }.setReader c .closing)
  | closeSocket (c : ConnId) (hreader : s.readers c = .closing) :
      Stepped cfg unpack s (.closeSocket c)
        ({ s with hub := s.hub.closeSocket c }.setReader c .exited)
  | io (c : ConnId) (event : TcpSession.IoEvent) (session : TcpSession)
      (hio : (s.hub.sessions c).ioStep cfg event = some session) :
      Stepped cfg unpack s (.io c event)
        { s with hub := s.hub.setSession c session }
  | heartbeatTimeout (c : ConnId)
      (hlogged : (s.hub.sessions c).loggedIn = true)
      (hopen : s.hub.isOpen c = true)
      (hlisted : s.inHeartbeatSnapshot c = true) :
      Stepped cfg unpack s (.heartbeatTimeout c)
        { s with hub := s.hub.call c heartbeatCall }
  | snapshotStats :
      Stepped cfg unpack s .snapshotStats
        { s with hub := s.hub.snapshotStats }

variable {cfg : Config} {unpack : Bytes → Option Obj}

theorem stepped_of_step {s s' : Server} {event : Event}
    (hstep : s.step cfg unpack event = some s') :
    Stepped cfg unpack s event s' := by
  cases event with
  | accept peerIp =>
      cases hstep
      exact .accept peerIp
  | read c event =>
      simp only [step] at hstep
      split at hstep
      · cases hstep
      · rename_i loop hnext
        cases hstep
        exact .move c event _ loop rfl (ReadLoop.moved_of_next hnext)
      · rename_i loop made hnext
        obtain ⟨hreader, rfl, hkind⟩ := ReadLoop.next_call hnext
        cases hstep
        exact .give c event made hreader hkind
  | advance c env =>
      simp only [step] at hstep
      split at hstep
      · rename_i q hreader
        split at hstep
        · rename_i hperform
          cases hstep
          exact .finish c env q hreader
            (Request.stage_of_perform_eq_none hperform)
        · rename_i hub q' hperform
          cases hstep
          obtain ⟨op, hop, hallows, rfl, hsender, hheader, hstage⟩ :=
            Request.perform_eq_some hperform
          exact .perform c env q q' op hreader hop hallows hsender hheader
            hstage
      · cases hstep
  | removeSession c =>
      simp only [step] at hstep
      split at hstep
      · rename_i hreader
        cases hstep
        exact .removeSession c hreader
      · cases hstep
  | closeSocket c =>
      simp only [step] at hstep
      split at hstep
      · rename_i hreader
        cases hstep
        exact .closeSocket c hreader
      · cases hstep
  | io c event =>
      simp only [step] at hstep
      split at hstep
      · cases hstep
      · rename_i session hio
        cases hstep
        exact .io c event session hio
  | heartbeatTimeout c =>
      simp only [step] at hstep
      split at hstep
      · rename_i hboth
        rw [Bool.and_eq_true, Bool.and_eq_true] at hboth
        cases hstep
        exact .heartbeatTimeout c hboth.1.2 hboth.2 hboth.1.1
      · cases hstep
  | snapshotStats =>
      cases hstep
      exact .snapshotStats

theorem perform_of_step {s s' : Server} {c : ConnId} {env : Env}
    {q : Request} (hstep : s.step cfg unpack (.advance c env) = some s')
    (hreader : s.readers c = .handling q) (hnot : q.stage ≠ .done) :
    ∃ op q', q.nextOp = some op ∧
      Allows q.sender q.header.seq q.stage op ∧ q'.sender = q.sender ∧
      q'.stage = q.stageAfter cfg env s.hub op ∧
      s' = { s with hub := (op.exec cfg env s.hub).1 }.setReader c
        (.handling q') := by
  cases stepped_of_step hstep with
  | finish _ _ q₁ hreader₁ hdone =>
      rw [hreader, ReadLoop.handling.injEq] at hreader₁
      exact absurd (hreader₁ ▸ hdone.1) hnot
  | perform _ _ q₁ q' op hreader₁ hop hallows hsender _ hstage =>
      rw [hreader, ReadLoop.handling.injEq] at hreader₁
      subst hreader₁
      exact ⟨op, q', hop, hallows, hsender, hstage, rfl⟩

theorem perform_of_nextOp {s s' : Server} {c : ConnId} {env : Env}
    {q : Request} {op : Op}
    (hstep : s.step cfg unpack (.advance c env) = some s')
    (hreader : s.readers c = .handling q) (hop : q.nextOp = some op) :
    ∃ q', q'.sender = q.sender ∧
      q'.stage = q.stageAfter cfg env s.hub op ∧
      s' = { s with hub := (op.exec cfg env s.hub).1 }.setReader c
        (.handling q') := by
  have hnot : q.stage ≠ .done := by
    intro hdone
    have hallows := Request.allows_of_nextOp hop
    rw [hdone] at hallows
    cases hallows with
    | reply _ hmay => cases hmay
  obtain ⟨op₁, q', hop₁, _, hsender, hstage, hs'⟩ :=
    perform_of_step hstep hreader hnot
  rw [hop, Option.some.injEq] at hop₁
  subst hop₁
  exact ⟨q', hsender, hstage, hs'⟩

theorem setReader_self (s : Server) (c : ConnId) (loop : ReadLoop) :
    (s.setReader c loop).readers c = loop :=
  Function.update_self _ _ _

theorem setReader_ne (s : Server) {c other : ConnId} (loop : ReadLoop)
    (hne : other ≠ c) :
    (s.setReader c loop).readers other = s.readers other :=
  Function.update_of_ne hne _ _

@[simp] theorem setReader_hub (s : Server) (c : ConnId) (loop : ReadLoop) :
    (s.setReader c loop).hub = s.hub := rfl

/-! ## Concrete runs -/

/-- A whole frame arrives on a session whose read loop is at its top. -/
def receive (c : ConnId) (msgType seq : UInt32) (body : List Tok) :
    List Event :=
  [.read c (.loopTop false),
    .read c (.header
      { msgType := msgType
        seq := seq
        bodyLen := UInt32.ofNat (packAll body).length }),
    .read c .resume, .read c (.body (packAll body)), .read c .resume]

def advances (c : ConnId) (count : Nat) : List Event :=
  List.replicate count (.advance c {})

/-- A database with no accounts and one admitted address. -/
def emptyDb : Db where
  users :=
    { rows := []
      nextId := 1
      idsNodup := List.nodup_nil
      namesNodup := List.nodup_nil
      idsBelow := by simp }
  allowlist := { rows := [⟨1, lit "10.0.0.1"⟩], nextId := 2 }

def loginBody (username password peerRole : Bytes) : List Tok :=
  [.map 4, .str (lit "username"), .str username,
    .str (lit "password"), .str password,
    .str (lit "peer_role"), .str peerRole,
    .str (lit "recv_mode"), .str (lit "broadcast")]

/-- Session 1 connects and logs in as the administrator `root`, registering
the account 1. -/
def rootLogin : List Event :=
  [.accept (lit "10.0.0.1")] ++
    receive 1 kClientLogin 1 (loginBody (lit "root") (lit "pw") (lit "admin"))
    ++ advances 1 6

end Server

end AsioForwarder
