import AsioForwarder.Server

/-!
# The timers of a session

Three timers act on a logged-in session: each read is cancelled after
`read_ms`, the top of the loop tests `idle_ms` against the last read, and once
a second `check_heartbeats` tests `heartbeat_timeout_ms` against the last
handled frame.  `Clocked` is a read loop with the clock readings they use and
the frames which are still to arrive, each with the times of its last header
byte and of its last body byte.

A step takes place at the time of its arrival or of its timer, and the code
between two waits takes no time.  If a read and its timer are due at the same
time, either may come first.
-/

namespace AsioForwarder

/-! ## Clock readings -/

/-- `std::chrono::milliseconds` in the nanoseconds of `steady_clock`. -/
def milliseconds (n : Int) : Nat :=
  n.toNat * 1000000

def Config.readTimeout (cfg : Config) : Nat :=
  milliseconds cfg.readMs

def Config.idleTimeout (cfg : Config) : Nat :=
  milliseconds cfg.idleMs

def Config.heartbeatTimeout (cfg : Config) : Nat :=
  milliseconds cfg.heartbeatTimeoutMs

theorem Config.readTimeout_pos (cfg : Config) : 0 < cfg.readTimeout := by
  have hlower := cfg.timeouts.1
  unfold readTimeout milliseconds
  omega

structure TimedFrame where
  header : Header
  body : Bytes
  headerAt : Nat
  bodyAt : Nat

/-- A logged-in session which nothing but its timers closes. -/
structure LiveSession where
  connId : ConnId
  session : TcpSession
  loggedIn : session.loggedIn = true
  unstopped : session.stopped = false
  isOpen : session.isOpen = true

/-- `handle_client_frame` calls `touch_heartbeat` as soon as the body of a
frame of a logged-in session is unpacked. -/
def touches (unpack : Bytes → Option Obj) (body : Bytes) : Bool :=
  match unpack body with
  | some (.map _) => true
  | _ => false

structure Clocked where
  loop : ReadLoop
  now : Nat
  since : Nat
  lastActivity : Nat
  lastHb : Nat
  incoming : List TimedFrame
  timedOut : Bool := false

namespace Clocked

/-- The loop has just handled a frame and waits for the next header. -/
def start (handledAt : Nat) (frames : List TimedFrame) : Clocked where
  loop := .awaitHeader
  now := handledAt
  since := handledAt
  lastActivity := handledAt
  lastHb := handledAt
  incoming := frames

/-- What the loop reads next, and when it will have arrived. -/
def awaited (s : Clocked) : Option (Nat × ReadEvent) :=
  match s.loop, s.incoming with
  | .awaitHeader, frame :: _ => some (frame.headerAt, .header frame.header)
  | .awaitBody _, frame :: _ => some (frame.bodyAt, .body frame.body)
  | _, _ => none

/-- The time until which nothing but timers happens. -/
def horizon (s : Clocked) : Nat :=
  match s.awaited with
  | some (time, _) => time
  | none => s.now

inductive Event where
  | arrive
  | readTimer
  | resume
  | handled
  | loopTop
  | tick (time : Nat)
  deriving DecidableEq

section Step

variable (cfg : Config) (unpack : Bytes → Option Obj) (live : LiveSession)

/-- A move of the read loop. -/
def move (s : Clocked) (event : ReadEvent) : Option (ReadLoop × Option Call) :=
  s.loop.next cfg unpack (live.session.identity live.connId) live.session event

/-- `now - last_activity > idle_ms` at the top of the loop. -/
def isIdle (s : Clocked) : Bool :=
  s.now - s.lastActivity > cfg.idleTimeout

def heartbeatMissed (now : Nat) (s : Clocked) : Bool :=
  live.session.loggedIn && live.session.isOpen &&
    now - s.lastHb > cfg.heartbeatTimeout

def step (s : Clocked) : Event → Option Clocked
  | .arrive =>
      match s.awaited with
      | none => none
      | some (time, read) =>
          if time ≤ s.since + cfg.readTimeout then
            (s.move cfg unpack live read).map (fun moved =>
              { s with loop := moved.1, now := time, lastActivity := time })
          else none
  | .readTimer =>
      match s.awaited with
      | none => none
      | some (time, _) =>
          if s.since + cfg.readTimeout ≤ time then
            (s.move cfg unpack live .failed).map (fun moved =>
              { s with
                loop := moved.1
                now := s.since + cfg.readTimeout
                timedOut := true })
          else none
  | .resume =>
      match s.loop with
      | .gotHeader _ =>
          (s.move cfg unpack live .resume).map (fun moved =>
            { s with
              loop := moved.1
              since := s.now
              lastActivity := s.now })
      | .gotBody _ body =>
          (s.move cfg unpack live .resume).map (fun moved =>
            { s with
              loop := moved.1
              lastHb := if touches unpack body then s.now else s.lastHb
              incoming := s.incoming.tail })
      | _ => none
  | .handled =>
      match s.loop with
      | .handling _ => some { s with loop := .top }
      | _ => none
  | .loopTop =>
      (s.move cfg unpack live (.loopTop (s.isIdle cfg))).map (fun moved =>
        { s with
          loop := moved.1
          since := s.now
          timedOut := s.timedOut || moved.2.isSome })
  | .tick time =>
      if s.now ≤ time ∧ time ≤ s.horizon then
        some { s with
          now := time
          timedOut := s.timedOut || s.heartbeatMissed cfg live time }
      else none

end Step

end Clocked

/-! ## Schedules -/

section Schedule

variable (cfg : Config) (unpack : Bytes → Option Obj)

/-- A complete frame which the server handles. -/
structure TimedFrame.Valid (frame : TimedFrame) : Prop where
  magic : frame.header.magic = Header.kMagic
  version : frame.header.version = Header.kVersion
  headerLen : frame.header.headerLen = Header.kHeaderLen
  admitted : frame.header.bodyLen ≤ cfg.maxBodyLen
  complete : frame.body.length = frame.header.bodyLen.toNat
  handled : touches unpack frame.body = true

/-- The frames arrive one after another, each at most
`heartbeat_timeout_ms` after the one before it. -/
def Alive : Nat → List TimedFrame → Prop
  | _, [] => True
  | handledAt, frame :: rest =>
      frame.Valid cfg unpack ∧
        handledAt ≤ frame.headerAt ∧ frame.headerAt ≤ frame.bodyAt ∧
        (frame.header.bodyLen = 0 → frame.bodyAt = frame.headerAt) ∧
        frame.bodyAt ≤ handledAt + cfg.heartbeatTimeout ∧
        Alive frame.bodyAt rest

/-- Each header arrives less than `read_ms` after the frame before it, and
each body less than `read_ms` after its header. -/
def InTime : Nat → List TimedFrame → Prop
  | _, [] => True
  | handledAt, frame :: rest =>
      frame.headerAt < handledAt + cfg.readTimeout ∧
        frame.bodyAt < frame.headerAt + cfg.readTimeout ∧
        InTime frame.bodyAt rest

/-- No timer closes the session before the last of the frames is handled. -/
def NeverTimedOut (live : LiveSession) (handledAt : Nat)
    (frames : List TimedFrame) : Prop :=
  ∀ events s, Transition.run (Clocked.step cfg unpack live) events
    (.start handledAt frames) = some s → s.timedOut = false

end Schedule

namespace Clocked

section Steps

variable {cfg : Config} {unpack : Bytes → Option Obj} {live : LiveSession}

/-- Where a loop can be which is ahead of its timers. -/
def Place (s : Clocked) : Prop :=
  match s.loop with
  | .awaitHeader => s.since = s.lastHb
  | .gotHeader h => ∃ frame rest, s.incoming = frame :: rest ∧
      h = frame.header ∧ s.now = frame.headerAt
  | .awaitBody h => ∃ frame rest, s.incoming = frame :: rest ∧
      h = frame.header ∧ s.since = frame.headerAt
  | .gotBody h body => ∃ frame rest, s.incoming = frame :: rest ∧
      h = frame.header ∧ body = frame.body ∧ s.now = frame.bodyAt ∧
      s.lastActivity = s.now
  | .handling _ | .top => s.now = s.lastHb ∧ s.lastActivity = s.now
  | _ => False

structure OnTrack (cfg : Config) (unpack : Bytes → Option Obj)
    (s : Clocked) : Prop where
  quiet : s.timedOut = false
  recent : s.now ≤ s.lastHb + cfg.heartbeatTimeout
  alive : Alive cfg unpack s.lastHb s.incoming
  inTime : InTime cfg s.lastHb s.incoming
  place : s.Place

variable {s s' : Clocked}

theorem awaited_cases {time : Nat} {read : ReadEvent}
    (hawaited : s.awaited = some (time, read)) :
    (∃ frame rest, s.loop = .awaitHeader ∧ s.incoming = frame :: rest ∧
      time = frame.headerAt ∧ read = .header frame.header) ∨
    (∃ h frame rest, s.loop = .awaitBody h ∧ s.incoming = frame :: rest ∧
      time = frame.bodyAt ∧ read = .body frame.body) := by
  unfold awaited at hawaited
  split at hawaited
  · rename_i frame rest hloop hincoming
    cases hawaited
    exact .inl ⟨frame, rest, hloop, hincoming, rfl, rfl⟩
  · rename_i h frame rest hloop hincoming
    cases hawaited
    exact .inr ⟨h, frame, rest, hloop, hincoming, rfl, rfl⟩
  · cases hawaited

/-- The bytes which are waited for come before both timers. -/
theorem OnTrack.awaited_lt (htrack : s.OnTrack cfg unpack) {time : Nat}
    {read : ReadEvent} (hawaited : s.awaited = some (time, read)) :
    time < s.since + cfg.readTimeout ∧
      time ≤ s.lastHb + cfg.heartbeatTimeout := by
  have halive := htrack.alive
  have hinTime := htrack.inTime
  have hplace := htrack.place
  obtain ⟨frame, rest, hloop, hincoming, rfl, _⟩ |
    ⟨h, frame, rest, hloop, hincoming, rfl, _⟩ := awaited_cases hawaited
  · rw [hincoming] at halive hinTime
    obtain ⟨_, _, hbody, _, hgap, _⟩ := halive
    simp only [Place, hloop] at hplace
    rw [hplace]
    exact ⟨hinTime.1, Nat.le_trans hbody hgap⟩
  · rw [hincoming] at halive hinTime
    obtain ⟨_, _, _, _, hgap, _⟩ := halive
    simp only [Place, hloop] at hplace
    obtain ⟨frame', rest', hincoming', _, hsince⟩ := hplace
    rw [hincoming] at hincoming'
    cases hincoming'
    rw [hsince]
    exact ⟨hinTime.2.1, hgap⟩

theorem OnTrack.horizon_le (htrack : s.OnTrack cfg unpack) :
    s.horizon ≤ s.lastHb + cfg.heartbeatTimeout := by
  unfold horizon
  split
  · rename_i hawaited
    exact (htrack.awaited_lt hawaited).2
  · exact htrack.recent

/-! ### Moves of the read loop -/

theorem move_header (hloop : s.loop = .awaitHeader) (h : Header) :
    s.move cfg unpack live (.header h) = some (.gotHeader h, none) := by
  rw [move, hloop]
  exact if_pos live.isOpen

theorem move_body {h : Header} (hloop : s.loop = .awaitBody h) {body : Bytes}
    (hlength : body.length = h.bodyLen.toNat) :
    s.move cfg unpack live (.body body) = some (.gotBody h body, none) := by
  rw [move, hloop]
  exact if_pos ⟨live.isOpen, hlength⟩

theorem move_gotHeader {frame : TimedFrame} (hvalid : frame.Valid cfg unpack)
    (hloop : s.loop = .gotHeader frame.header) :
    s.move cfg unpack live .resume =
      if frame.header.bodyLen = 0 then some (.gotBody frame.header [], none)
      else some (.awaitBody frame.header, none) := by
  have hfields : ¬(frame.header.magic ≠ Header.kMagic ∨
      frame.header.version ≠ Header.kVersion ∨
      frame.header.headerLen ≠ Header.kHeaderLen) := by
    simp [hvalid.magic, hvalid.version, hvalid.headerLen]
  have hadmitted : ¬frame.header.bodyLen > cfg.maxBodyLen :=
    UInt32.not_lt.mpr hvalid.admitted
  rw [move, hloop]
  simp only [ReadLoop.next, if_neg hfields, if_neg hadmitted]

theorem move_loopTop (hloop : s.loop = .top)
    (hactive : s.lastActivity = s.now) :
    s.move cfg unpack live (.loopTop (s.isIdle cfg)) =
      some (.awaitHeader, none) := by
  have hidle : s.isIdle cfg = false := by
    simp [isIdle, hactive]
  rw [move, hloop, hidle]
  simp only [ReadLoop.next, live.unstopped]
  rfl

/-! ### Each step keeps the loop ahead -/

theorem OnTrack.arrive (htrack : s.OnTrack cfg unpack)
    (hstep : s.step cfg unpack live .arrive = some s') :
    s'.OnTrack cfg unpack := by
  simp only [step] at hstep
  split at hstep
  · cases hstep
  rename_i time read hawaited
  have hgap := (htrack.awaited_lt hawaited).2
  split at hstep
  · obtain ⟨frame, rest, hloop, hincoming, rfl, rfl⟩ |
      ⟨h, frame, rest, hloop, hincoming, rfl, rfl⟩ := awaited_cases hawaited
    · rw [move_header hloop] at hstep
      cases hstep
      exact ⟨htrack.quiet, hgap, htrack.alive, htrack.inTime,
        ⟨frame, rest, hincoming, rfl, rfl⟩⟩
    · have hplace := htrack.place
      simp only [Place, hloop] at hplace
      obtain ⟨frame', rest', hincoming', rfl, _⟩ := hplace
      have halive := htrack.alive
      rw [hincoming] at hincoming' halive
      cases hincoming'
      rw [move_body hloop halive.1.complete] at hstep
      cases hstep
      exact ⟨htrack.quiet, hgap, htrack.alive, htrack.inTime,
        ⟨frame, rest, hincoming, rfl, rfl, rfl, rfl⟩⟩
  · cases hstep

theorem OnTrack.resume (htrack : s.OnTrack cfg unpack)
    (hstep : s.step cfg unpack live .resume = some s') :
    s'.OnTrack cfg unpack := by
  have hplace := htrack.place
  have halive := htrack.alive
  have hinTime := htrack.inTime
  simp only [step] at hstep
  split at hstep
  · rename_i h hloop
    simp only [Place, hloop] at hplace
    obtain ⟨frame, rest, hincoming, rfl, hnow⟩ := hplace
    rw [hincoming] at halive
    obtain ⟨hvalid, _, _, hempty, _, _⟩ := halive
    rw [move_gotHeader hvalid hloop] at hstep
    by_cases hzero : frame.header.bodyLen = 0
    · rw [if_pos hzero] at hstep
      cases hstep
      have hbody : frame.body = [] := by
        have hcomplete := hvalid.complete
        rw [hzero] at hcomplete
        exact List.length_eq_zero_iff.mp hcomplete
      exact ⟨htrack.quiet, htrack.recent, htrack.alive, htrack.inTime,
        ⟨frame, rest, hincoming, rfl, hbody.symm,
          hnow.trans (hempty hzero).symm, rfl⟩⟩
    · rw [if_neg hzero] at hstep
      cases hstep
      exact ⟨htrack.quiet, htrack.recent, htrack.alive, htrack.inTime,
        ⟨frame, rest, hincoming, rfl, hnow⟩⟩
  · rename_i h body hloop
    simp only [Place, hloop] at hplace
    obtain ⟨frame, rest, hincoming, rfl, rfl, hnow, hactive⟩ := hplace
    rw [hincoming] at halive hinTime
    obtain ⟨hvalid, _, _, _, _, hrest⟩ := halive
    have hmove : s.move cfg unpack live .resume =
        some (.handling (Request.start unpack
          (live.session.identity live.connId) frame.header frame.body),
          none) := by
      rw [move, hloop]
      rfl
    rw [hmove, hvalid.handled, if_pos rfl, hincoming] at hstep
    cases hstep
    exact ⟨htrack.quiet, Nat.le_add_right _ _, hnow ▸ hrest,
      hnow ▸ hinTime.2.2, ⟨rfl, hactive⟩⟩
  · cases hstep

theorem loop_of_loopTop {idle : Bool} {moved : ReadLoop × Option Call}
    (hmove : s.move cfg unpack live (.loopTop idle) = some moved) :
    s.loop = .top := by
  unfold move at hmove
  cases hloop : s.loop with
  | top => rfl
  | _ =>
      rw [hloop] at hmove
      cases hmove

theorem OnTrack.loopTop (htrack : s.OnTrack cfg unpack)
    (hstep : s.step cfg unpack live .loopTop = some s') :
    s'.OnTrack cfg unpack := by
  obtain ⟨moved, hmove, rfl⟩ := Option.map_eq_some_iff.mp hstep
  have hloop := loop_of_loopTop hmove
  have hplace := htrack.place
  simp only [Place, hloop] at hplace
  rw [move_loopTop hloop hplace.2] at hmove
  cases hmove
  refine ⟨?_, htrack.recent, htrack.alive, htrack.inTime, hplace.1⟩
  rw [htrack.quiet]
  rfl

theorem OnTrack.tick (htrack : s.OnTrack cfg unpack) {time : Nat}
    (hstep : s.step cfg unpack live (.tick time) = some s') :
    s'.OnTrack cfg unpack := by
  have hhorizon := htrack.horizon_le
  simp only [Clocked.step] at hstep
  split at hstep
  · rename_i htime
    cases hstep
    have hrecent : time ≤ s.lastHb + cfg.heartbeatTimeout :=
      Nat.le_trans htime.2 hhorizon
    have hkept : s.heartbeatMissed cfg live time = false := by
      have hlow : ¬time - s.lastHb > cfg.heartbeatTimeout := by omega
      simp [heartbeatMissed, hlow]
    refine ⟨?_, hrecent, htrack.alive, htrack.inTime, ?_⟩
    · rw [htrack.quiet, hkept]
      rfl
    · -- only a waiting loop lets time pass
      have hplace := htrack.place
      unfold Place at hplace ⊢
      unfold horizon awaited at htime
      cases hloop : s.loop <;> simp only [hloop] at hplace htime ⊢ <;>
        first
          | exact hplace
          | rwa [Nat.le_antisymm htime.2 htime.1]
  · cases hstep

theorem OnTrack.step (htrack : s.OnTrack cfg unpack) {event : Event}
    (hstep : s.step cfg unpack live event = some s') :
    s'.OnTrack cfg unpack := by
  cases event with
  | arrive => exact htrack.arrive hstep
  | readTimer =>
      simp only [Clocked.step] at hstep
      split at hstep
      · cases hstep
      · rename_i hawaited
        split at hstep
        · rename_i hexpired
          have hlt := (htrack.awaited_lt hawaited).1
          exact absurd hlt (Nat.not_lt.mpr hexpired)
        · cases hstep
  | resume => exact htrack.resume hstep
  | handled =>
      have hplace := htrack.place
      simp only [Clocked.step] at hstep
      split at hstep
      · rename_i q hloop
        simp only [Place, hloop] at hplace
        cases hstep
        exact ⟨htrack.quiet, htrack.recent, htrack.alive, htrack.inTime,
          hplace⟩
      · cases hstep
  | loopTop => exact htrack.loopTop hstep
  | tick time => exact htrack.tick hstep

end Steps

end Clocked

section Schedules

variable {cfg : Config} {unpack : Bytes → Option Obj} {live : LiveSession}
  {handledAt : Nat} {frames : List TimedFrame}

theorem neverTimedOut_of_inTime (halive : Alive cfg unpack handledAt frames)
    (hinTime : InTime cfg handledAt frames) :
    NeverTimedOut cfg unpack live handledAt frames := by
  intro events s hrun
  have hstart : (Clocked.start handledAt frames).OnTrack cfg unpack :=
    ⟨rfl, Nat.le_add_right _ _, halive, hinTime, rfl⟩
  have htrack := Transition.run_preserves_always
    (Clocked.OnTrack cfg unpack)
    (fun _ _ _ htrack hstep => htrack.step hstep) hstart hrun
  exact htrack.quiet

/-! ## A schedule which is not in time -/

namespace Clocked

variable {frame : TimedFrame} {rest : List TimedFrame}

/-- The header has been read, and a body follows. -/
def betweenReads (handledAt : Nat) (frame : TimedFrame)
    (rest : List TimedFrame) : Clocked where
  loop := .awaitBody frame.header
  now := frame.headerAt
  since := frame.headerAt
  lastActivity := frame.headerAt
  lastHb := handledAt
  incoming := frame :: rest

def frameRead (handledAt since : Nat) (frame : TimedFrame)
    (rest : List TimedFrame) : Clocked where
  loop := .gotBody frame.header frame.body
  now := frame.bodyAt
  since := since
  lastActivity := frame.bodyAt
  lastHb := handledAt
  incoming := frame :: rest

theorem step_arrive {s : Clocked} {time : Nat} {read : ReadEvent}
    {loop : ReadLoop} {made : Option Call}
    (hawaited : s.awaited = some (time, read))
    (hle : time ≤ s.since + cfg.readTimeout)
    (hmove : s.move cfg unpack live read = some (loop, made)) :
    s.step cfg unpack live .arrive =
      some { s with loop := loop, now := time, lastActivity := time } := by
  simp only [step, hawaited, if_pos hle, hmove, Option.map_some]

variable (cfg unpack live) in
theorem step_readTimer {s : Clocked} {time : Nat} {read : ReadEvent}
    (hawaited : s.awaited = some (time, read))
    (hle : s.since + cfg.readTimeout ≤ time) :
    ∃ s', s.step cfg unpack live .readTimer = some s' ∧
      s'.timedOut = true := by
  have hmove : s.move cfg unpack live .failed = some (.leaving, none) := by
    obtain ⟨_, _, hloop, _⟩ | ⟨_, _, _, hloop, _⟩ := awaited_cases hawaited
    · rw [move, hloop]
      rfl
    · rw [move, hloop]
      rfl
  refine ⟨{ s with
    loop := .leaving
    now := s.since + cfg.readTimeout
    timedOut := true }, ?_, rfl⟩
  simp only [step, hawaited, if_pos hle, hmove, Option.map_some]

theorem run_header (hvalid : frame.Valid cfg unpack)
    (hheader : frame.headerAt ≤ handledAt + cfg.readTimeout)
    (hbody : frame.header.bodyLen ≠ 0) :
    Transition.run (step cfg unpack live) [.arrive, .resume]
      (start handledAt (frame :: rest)) =
      some (betweenReads handledAt frame rest) := by
  rw [Transition.run_cons_eq_some]
  refine ⟨{ start handledAt (frame :: rest) with
    loop := .gotHeader frame.header
    now := frame.headerAt
    lastActivity := frame.headerAt }, ?_, ?_⟩
  · exact step_arrive rfl hheader (move_header rfl frame.header)
  · rw [Transition.run_cons_eq_some]
    refine ⟨_, ?_, rfl⟩
    simp only [step]
    rw [move_gotHeader hvalid rfl, if_neg hbody]
    rfl

theorem run_emptyBody (hvalid : frame.Valid cfg unpack)
    (hheader : frame.headerAt ≤ handledAt + cfg.readTimeout)
    (hbody : frame.header.bodyLen = 0)
    (hempty : frame.bodyAt = frame.headerAt) :
    Transition.run (step cfg unpack live) [.arrive, .resume]
      (start handledAt (frame :: rest)) =
      some (frameRead handledAt frame.headerAt frame rest) := by
  have hnil : frame.body = [] := by
    have hcomplete := hvalid.complete
    rw [hbody] at hcomplete
    exact List.length_eq_zero_iff.mp hcomplete
  rw [Transition.run_cons_eq_some]
  refine ⟨{ start handledAt (frame :: rest) with
    loop := .gotHeader frame.header
    now := frame.headerAt
    lastActivity := frame.headerAt }, ?_, ?_⟩
  · exact step_arrive rfl hheader (move_header rfl frame.header)
  · rw [Transition.run_cons_eq_some]
    refine ⟨_, ?_, rfl⟩
    simp only [step]
    rw [move_gotHeader hvalid rfl, if_pos hbody, frameRead, hempty, hnil]
    rfl

theorem run_body (hvalid : frame.Valid cfg unpack)
    (hbody : frame.bodyAt ≤ frame.headerAt + cfg.readTimeout) :
    Transition.run (step cfg unpack live) [.arrive]
      (betweenReads handledAt frame rest) =
      some (frameRead handledAt frame.headerAt frame rest) := by
  rw [Transition.run_cons_eq_some]
  exact ⟨_, step_arrive rfl hbody (move_body rfl hvalid.complete), rfl⟩

theorem run_handled (hvalid : frame.Valid cfg unpack) (since : Nat) :
    Transition.run (step cfg unpack live) [.resume, .handled, .loopTop]
      (frameRead handledAt since frame rest) =
      some (start frame.bodyAt rest) := by
  rw [Transition.run_cons_eq_some]
  refine ⟨{ start frame.bodyAt rest with
    loop := .handling (Request.start unpack
      (live.session.identity live.connId) frame.header frame.body)
    since := since }, ?_, ?_⟩
  · simp only [step, frameRead]
    rw [hvalid.handled]
    rfl
  · rw [Transition.run_cons_eq_some]
    refine ⟨{ start frame.bodyAt rest with loop := .top, since := since },
      rfl, ?_⟩
    rw [Transition.run_cons_eq_some]
    refine ⟨_, ?_, rfl⟩
    simp only [step]
    rw [move_loopTop rfl rfl]
    rfl

end Clocked

variable (live) in
theorem exists_run_frame {frame : TimedFrame} {rest : List TimedFrame}
    (halive : Alive cfg unpack handledAt (frame :: rest))
    (hheader : frame.headerAt ≤ handledAt + cfg.readTimeout)
    (hbody : frame.bodyAt ≤ frame.headerAt + cfg.readTimeout) :
    ∃ events, Transition.run (Clocked.step cfg unpack live) events
      (.start handledAt (frame :: rest)) =
      some (.start frame.bodyAt rest) := by
  obtain ⟨hvalid, _, _, hempty, _, _⟩ := halive
  by_cases hzero : frame.header.bodyLen = 0
  · refine ⟨[.arrive, .resume] ++ [.resume, .handled, .loopTop], ?_⟩
    rw [Transition.run_append_eq_some]
    exact ⟨_, Clocked.run_emptyBody hvalid hheader hzero (hempty hzero),
      Clocked.run_handled hvalid _⟩
  · refine ⟨[.arrive, .resume] ++ ([.arrive] ++
      [.resume, .handled, .loopTop]), ?_⟩
    rw [Transition.run_append_eq_some]
    refine ⟨_, Clocked.run_header hvalid hheader hzero, ?_⟩
    rw [Transition.run_append_eq_some]
    exact ⟨_, Clocked.run_body hvalid hbody, Clocked.run_handled hvalid _⟩

variable (live) in
/-- A timer closes the session at the first wait which is too long. -/
theorem exists_timeout (halive : Alive cfg unpack handledAt frames)
    (hlate : ¬InTime cfg handledAt frames) :
    ∃ events s, Transition.run (Clocked.step cfg unpack live) events
      (.start handledAt frames) = some s ∧ s.timedOut = true := by
  induction frames generalizing handledAt with
  | nil => exact absurd trivial hlate
  | cons frame rest ih =>
      obtain ⟨hvalid, _, _, hempty, _, hrest⟩ := id halive
      by_cases hheader : frame.headerAt < handledAt + cfg.readTimeout
      · by_cases hbody : frame.bodyAt < frame.headerAt + cfg.readTimeout
        · have hlater : ¬InTime cfg frame.bodyAt rest := by
            intro hinTime
            exact hlate ⟨hheader, hbody, hinTime⟩
          obtain ⟨events, hframe⟩ := exists_run_frame live halive
            (Nat.le_of_lt hheader) (Nat.le_of_lt hbody)
          obtain ⟨later, s, hrun, htimedOut⟩ := ih hrest hlater
          refine ⟨events ++ later, s, ?_, htimedOut⟩
          rw [Transition.run_append_eq_some]
          exact ⟨_, hframe, hrun⟩
        · have hlong := Nat.not_lt.mp hbody
          have hmore : frame.header.bodyLen ≠ 0 := by
            intro hzero
            have hpos := cfg.readTimeout_pos
            rw [hempty hzero] at hlong
            omega
          obtain ⟨s, hstep, htimedOut⟩ := Clocked.step_readTimer cfg unpack live
            (s := .betweenReads handledAt frame rest) rfl hlong
          refine ⟨[.arrive, .resume] ++ [.readTimer], s, ?_, htimedOut⟩
          rw [Transition.run_append_eq_some]
          refine ⟨_, Clocked.run_header hvalid (Nat.le_of_lt hheader) hmore,
            ?_⟩
          rw [Transition.run_cons_eq_some]
          exact ⟨s, hstep, rfl⟩
      · obtain ⟨s, hstep, htimedOut⟩ := Clocked.step_readTimer cfg unpack live
          (s := .start handledAt (frame :: rest)) rfl (Nat.not_lt.mp hheader)
        refine ⟨[.readTimer], s, ?_, htimedOut⟩
        rw [Transition.run_cons_eq_some]
        exact ⟨s, hstep, rfl⟩

/-- The relation between the timeouts which the configuration checks leave
out. -/
theorem inTime_of_alive
    (hshorter : cfg.heartbeatTimeoutMs < cfg.readMs)
    (halive : Alive cfg unpack handledAt frames) :
    InTime cfg handledAt frames := by
  have hlower := cfg.timeouts.1
  have htimeout : cfg.heartbeatTimeout < cfg.readTimeout := by
    unfold Config.heartbeatTimeout Config.readTimeout milliseconds
    omega
  induction frames generalizing handledAt with
  | nil => trivial
  | cons frame rest ih =>
      obtain ⟨_, hafter, hbody, _, hgap, hrest⟩ := halive
      refine ⟨?_, ?_, ih hrest⟩
      · omega
      · omega

end Schedules

/-- A session whose frames follow each other within the heartbeat timeout is
left alone by its timers exactly if each header comes within the read timeout
of the frame before it and each body within that of its header. -/
theorem neverTimedOut_iff (cfg : Config) (unpack : Bytes → Option Obj)
    (live : LiveSession) (handledAt : Nat) (frames : List TimedFrame)
    (halive : Alive cfg unpack handledAt frames) :
    NeverTimedOut cfg unpack live handledAt frames ↔
      InTime cfg handledAt frames := by
  constructor
  · intro hnever
    by_contra hlate
    obtain ⟨events, s, hrun, htimedOut⟩ :=
      exists_timeout live halive hlate
    have hquiet := hnever events s hrun
    rw [htimedOut] at hquiet
    cases hquiet
  · exact neverTimedOut_of_inTime halive

/-- HEARTBEAT frames of the SDK, one every 20 seconds. -/
def sdkHeartbeat (seq : UInt32) (arrival : Nat) : TimedFrame where
  header := { msgType := kClientHeartbeat, seq := seq, bodyLen := 1 }
  body := packAll [.map 0]
  headerAt := arrival
  bodyAt := arrival

theorem valid_sdkHeartbeat (cfg : Config) (hmax : 1 ≤ cfg.maxBodyLen)
    (seq : UInt32) (arrival : Nat) :
    (sdkHeartbeat seq arrival).Valid cfg unpackFlat :=
  ⟨rfl, rfl, rfl, hmax, rfl, rfl⟩

def rootSession : LiveSession where
  connId := 1
  session := { loggedIn := true }
  loggedIn := rfl
  unstopped := rfl
  isOpen := rfl

theorem alive_shipped : Alive forwarderJson unpackFlat 0
    [sdkHeartbeat 2 20000000000, sdkHeartbeat 3 40000000000] :=
  ⟨valid_sdkHeartbeat _ (by decide) _ _, by decide, by decide, by decide,
    by decide, valid_sdkHeartbeat _ (by decide) _ _, by decide, by decide,
    by decide, by decide, trivial⟩

theorem neverTimedOut_iff_shipped :
    NeverTimedOut forwarderJson unpackFlat rootSession 0
      [sdkHeartbeat 2 20000000000, sdkHeartbeat 3 40000000000] := by
  rw [neverTimedOut_iff forwarderJson unpackFlat rootSession 0 _
    alive_shipped]
  exact ⟨by decide, by decide, by decide, by decide, trivial⟩

/-- Where `heartbeat_timeout_ms` is below `read_ms`, as in the shipped file,
the heartbeat timeout alone matters: no timer closes a session whose frames
follow each other within it. -/
theorem neverTimedOut_of_shorter (cfg : Config)
    (unpack : Bytes → Option Obj)
    (hshorter : cfg.heartbeatTimeoutMs < cfg.readMs) (live : LiveSession)
    (handledAt : Nat) (frames : List TimedFrame)
    (halive : Alive cfg unpack handledAt frames) :
    NeverTimedOut cfg unpack live handledAt frames :=
  neverTimedOut_of_inTime halive (inTime_of_alive hshorter halive)

theorem neverTimedOut_of_shorter_twoHeartbeats :
    NeverTimedOut forwarderJson unpackFlat rootSession 0
      [sdkHeartbeat 2 20000000000, sdkHeartbeat 3 40000000000] :=
  neverTimedOut_of_shorter forwarderJson unpackFlat (by decide) rootSession 0
    _ alive_shipped

/-- The default timeouts of `config.hpp`. -/
def defaultTimeouts : Config :=
  { forwarderJson with
    readMs := 15000
    idleMs := 120000
    heartbeatTimeoutMs := 30000
    accepted := by rfl }

/-- The read of the next header is cancelled five seconds before the client
sends it. -/
theorem heartbeat_comes_too_late :
    Alive defaultTimeouts unpackFlat 0 [sdkHeartbeat 2 20000000000] ∧
      ¬NeverTimedOut defaultTimeouts unpackFlat rootSession 0
        [sdkHeartbeat 2 20000000000] := by
  have halive : Alive defaultTimeouts unpackFlat 0
      [sdkHeartbeat 2 20000000000] :=
    ⟨valid_sdkHeartbeat _ (by decide) _ _, by decide, by decide, by decide,
      by decide, trivial⟩
  refine ⟨halive, ?_⟩
  rw [neverTimedOut_iff defaultTimeouts unpackFlat rootSession 0 _ halive]
  intro hinTime
  exact absurd hinTime.1 (by decide)

end AsioForwarder
