import AsioForwarder.RequestStream
import AsioForwarder.SessionLedger

/-!
# The counters of the server

`Metrics` counts connections, frames and bytes in both directions, and frames
dropped by the send queues.  The counters are compared with what can be seen
without them: the bytes the connections have brought, the bytes handed to the
sockets, and the frames passed to `send_frame`.
-/

namespace AsioForwarder

/-- `Metrics`; `fetch_add` wraps around. -/
structure Metrics where
  clientConnects : UInt64 := 0
  framesIn : UInt64 := 0
  bytesIn : UInt64 := 0
  framesOut : UInt64 := 0
  bytesOut : UInt64 := 0
  drops : UInt64 := 0
  deriving DecidableEq

namespace Metrics

def drop (m : Metrics) : Metrics :=
  { m with drops := m.drops + 1 }

/-- A handler on the strand of `s`. -/
def handled (cfg : Config) (s : TcpSession) (m : Metrics) :
    Handler → Metrics
  | .sendFrame bytes =>
      if s.stopped || s.kickPending then m
      else
        let newTotal := s.pendingBytes + bytes.bytes.length
        if newTotal > cfg.highWaterBytes.toNat &&
            newTotal ≤ cfg.hardLimitBytes.toNat then m.drop
        else if newTotal > cfg.hardLimitBytes.toNat then m.drop
        else m
  | .written bytes none =>
      { m with
        framesOut := m.framesOut + 1
        bytesOut := m.bytesOut + UInt64.ofNat bytes.bytes.length }
  | _ => m

/-- The counters after an event in the state `s`. -/
def after (cfg : Config) (s : Server) (m : Metrics) : Event → Metrics
  | .accept _ => { m with clientConnects := m.clientConnects + 1 }
  | .read c .resume =>
      match s.readers c with
      | .gotBody _ body =>
          { m with
            framesIn := m.framesIn + 1
            bytesIn := m.bytesIn + UInt64.ofNat (24 + body.length) }
      | _ => m
  | .io c .runHandler =>
      match (s.hub.sessions c).posted with
      | handler :: _ => m.handled cfg (s.hub.sessions c) handler
      | [] => m
  | _ => m

end Metrics

/-- The server with its counters. -/
structure Metered where
  server : Server
  metrics : Metrics := {}

namespace Metered

def initial (db : Db) : Metered where
  server := Server.initial db

def step (cfg : Config) (unpack : Bytes → Option Obj) (t : Metered)
    (event : Event) : Option Metered :=
  (t.server.step cfg unpack event).map
    (fun s => ⟨s, t.metrics.after cfg t.server event⟩)

theorem step_eq_some {cfg : Config} {unpack : Bytes → Option Obj}
    {t t' : Metered} {event : Event}
    (hstep : t.step cfg unpack event = some t') :
    t.server.step cfg unpack event = some t'.server ∧
      t'.metrics = t.metrics.after cfg t.server event := by
  obtain ⟨s, hs, rfl⟩ := Option.map_eq_some_iff.mp hstep
  exact ⟨hs, rfl⟩

/-- A view of the server in a run with counters. -/
def shows {ω : Type} (view : Server → Event → List ω) (t : Metered)
    (event : Event) : List ω :=
  view t.server event

end Metered

/-! ## Frames and bytes in -/

/-- The frames handed to the frame handler, with their connections. -/
def Server.handled (s : Server) : Event → List (ConnId × ParsedFrame)
  | .read c event => ((s.readers c).handedOver event).map (Prod.mk c)
  | _ => []

theorem Server.itemsOf_handled (c : ConnId) (s : Server) (event : Event) :
    itemsOf c (s.handled event) = s.requests c event := by
  cases event with
  | read d event =>
      by_cases hsame : d = c
      · subst hsame
        simp [handled, requests, itemsOf_map_self]
      · simp [handled, requests, itemsOf_map_ne hsame, hsame]
  | _ => rfl

theorem Metrics.handled_in (cfg : Config) (s : TcpSession) (m : Metrics)
    (handler : Handler) :
    (handled cfg s m handler).clientConnects = m.clientConnects ∧
      (handled cfg s m handler).framesIn = m.framesIn ∧
      (handled cfg s m handler).bytesIn = m.bytesIn := by
  cases handler with
  | sendFrame bytes =>
      simp only [handled]
      split_ifs <;> exact ⟨rfl, rfl, rfl⟩
  | written bytes ec => cases ec <;> exact ⟨rfl, rfl, rfl⟩
  | kick notifyWire logWhy => exact ⟨rfl, rfl, rfl⟩
  | stop why => exact ⟨rfl, rfl, rfl⟩

theorem Metrics.after_in (cfg : Config) (s : Server) (m : Metrics)
    (event : Event) :
    (m.after cfg s event).framesIn =
        m.framesIn + UInt64.ofNat (s.handled event).length ∧
      (m.after cfg s event).bytesIn = m.bytesIn +
        UInt64.ofNat (streamBytes ((s.handled event).map Prod.snd)).length := by
  cases event with
  | read c event =>
      cases event with
      | resume =>
          simp only [after, Server.handled]
          cases hreader : s.readers c with
          | gotBody h body =>
              simp [ReadLoop.handedOver, streamBytes, ParsedFrame.bytes,
                Header.packLe_length]
          | _ => simp [ReadLoop.handedOver]
      | _ => simp [after, Server.handled, ReadLoop.handedOver]
  | io c event =>
      cases event with
      | runHandler =>
          simp only [after, Server.handled]
          cases (s.hub.sessions c).posted with
          | nil => simp
          | cons handler later => simpa using (m.handled_in cfg _ handler).2
      | _ => simp [after, Server.handled]
  | _ => simp [after, Server.handled]

theorem Metrics.after_connects (cfg : Config) (s : Server) (m : Metrics)
    {event : Event} (hother : ∀ peerIp, event ≠ .accept peerIp) :
    (m.after cfg s event).clientConnects = m.clientConnects := by
  cases event with
  | accept peerIp => exact absurd rfl (hother peerIp)
  | read c event =>
      cases event with
      | resume =>
          simp only [after]
          cases s.readers c <;> rfl
      | _ => rfl
  | io c event =>
      cases event with
      | runHandler =>
          simp only [after]
          cases (s.hub.sessions c).posted with
          | nil => rfl
          | cons handler later => exact (m.handled_in cfg _ handler).1
      | _ => rfl
  | _ => rfl

theorem streamBytes_length_append (first second : List ParsedFrame) :
    (streamBytes (first ++ second)).length =
      (streamBytes first).length + (streamBytes second).length := by
  rw [Server.streamBytes_append, List.length_append]

namespace Metered

variable {cfg : Config} {unpack : Bytes → Option Obj} {db : Db}
  {events : List Event} {t : Metered}

/-- `handled` are the frames counted so far, and `bytes` what the connection
`c` has brought. -/
structure Inbound (cfg : Config) (c : ConnId)
    (handled : List (ConnId × ParsedFrame)) (bytes : Bytes) (t : Metered) :
    Prop where
  framesIn : t.metrics.framesIn = UInt64.ofNat handled.length
  bytesIn : t.metrics.bytesIn =
    UInt64.ofNat (streamBytes (handled.map Prod.snd)).length
  decoded : Server.Decoded cfg c bytes (itemsOf c handled) t.server

theorem Inbound.step {c : ConnId} {handled : List (ConnId × ParsedFrame)}
    {bytes : Bytes} {t' : Metered} {event : Event}
    (hinbound : t.Inbound cfg c handled bytes)
    (hstep : t.step cfg unpack event = some t') :
    t'.Inbound cfg c (handled ++ t.server.handled event)
      (bytes ++ t.server.bytesRead c event) := by
  obtain ⟨hserver, hmetrics⟩ := step_eq_some hstep
  obtain ⟨hframes, hbytes⟩ := t.metrics.after_in cfg t.server event
  refine ⟨?_, ?_, ?_⟩
  · rw [hmetrics, hframes, hinbound.framesIn, List.length_append,
      UInt64.ofNat_add]
  · rw [hmetrics, hbytes, hinbound.bytesIn, List.map_append,
      streamBytes_length_append, UInt64.ofNat_add]
  · rw [itemsOf_append, Server.itemsOf_handled]
    exact hinbound.decoded.step hserver

theorem inbound_initial (cfg : Config) (c : ConnId) (db : Db) :
    Inbound cfg c [] [] (initial db) where
  framesIn := rfl
  bytesIn := rfl
  decoded := Server.decoded_initial cfg c db

theorem inbound_of_run
    (hrun : Transition.run (step cfg unpack) events (initial db) = some t)
    (c : ConnId) :
    t.Inbound cfg c
      (Transition.observe (step cfg unpack) (shows Server.handled) events
        (initial db))
      (Transition.observe (step cfg unpack) (shows (Server.bytesRead c)) events
        (initial db)) :=
  Transition.observe_preserves_both (Inbound cfg c)
    (fun _ _ _ _ _ hbefore hstep => hbefore.step hstep)
    (inbound_initial cfg c db) hrun

/-- `frames_in` and `bytes_in` count whole frames which passed the tests of
the header, and nothing else: of what a connection has brought they leave out
at most one frame, the one still being read or refused. -/
theorem bytes_in_of_run (cfg : Config) (unpack : Bytes → Option Obj) (db : Db)
    {events : List Event} {t : Metered}
    (hrun : Transition.run (step cfg unpack) events (initial db) = some t) :
    ∃ handled : List (ConnId × ParsedFrame),
      t.metrics.framesIn = UInt64.ofNat handled.length ∧
      t.metrics.bytesIn =
        UInt64.ofNat (streamBytes (handled.map Prod.snd)).length ∧
      (∀ frame ∈ handled, frame.2.Admitted cfg) ∧
      ∀ c, ∃ part, Transition.observe (step cfg unpack)
          (shows (Server.bytesRead c)) events (initial db) =
          streamBytes (itemsOf c handled) ++ part ∧
        part.length ≤ 24 + cfg.maxBodyLen.toNat ∧
        ((t.server.readers c).settled = true →
          (readFrame cfg.maxBodyLen part).1 = none) := by
  have hinbound := fun c => inbound_of_run hrun c
  refine ⟨_, (hinbound 0).framesIn, (hinbound 0).bytesIn, ?_, ?_⟩
  · rintro ⟨c, f⟩ hf
    apply (hinbound c).decoded.admitted f
    exact List.mem_filterMap.mpr ⟨(c, f), hf, if_pos rfl⟩
  · intro c
    obtain ⟨part, hholds, hsplit⟩ := (hinbound c).decoded.split
    exact ⟨part, hsplit, hholds.length_le, fun hsettled =>
      hholds.incomplete hsettled⟩

/-- `root` logs in, its reply is written, and the header of a heartbeat
arrives. -/
def loginWritten : List Event :=
  Server.rootLogin ++
    [.io 1 .runHandler, .io 1 (.transmit 0 1000), .io 1 (.writeDone 0),
      .io 1 .runHandler, .read 1 (.loopTop false),
      .read 1 (.header { msgType := kClientHeartbeat, seq := 2, bodyLen := 1 })]

theorem bytes_in_of_run_loginWritten :
    ∃ (t : Metered) (handled : List (ConnId × ParsedFrame)),
      Transition.run (step forwarderJson unpackFlat) loginWritten
        (initial Server.emptyDb) = some t ∧
      t.metrics.framesIn = 1 ∧
      t.metrics.framesIn = UInt64.ofNat handled.length ∧
      ∀ frame ∈ handled, frame.2.Admitted forwarderJson := by
  obtain ⟨t, hrun, hone⟩ : ∃ t,
      Transition.run (step forwarderJson unpackFlat) loginWritten
        (initial Server.emptyDb) = some t ∧ t.metrics.framesIn = 1 :=
    Transition.exists_run_of_check (by decide +kernel)
  obtain ⟨handled, hframes, _, hadmitted, _⟩ :=
    bytes_in_of_run forwarderJson unpackFlat Server.emptyDb hrun
  exact ⟨t, handled, hrun, hone, hframes, hadmitted⟩

end Metered

/-! ## Frames and bytes out -/

/-- `drops` counts exactly the frames refused for the size of the queue. -/
theorem Metrics.handled_sendFrame (cfg : Config) (s : TcpSession) (m : Metrics)
    (w : Wire) :
    handled cfg s m (.sendFrame w) =
      if s.live = true ∧
          cfg.highWaterBytes.toNat < s.pendingBytes + w.bytes.length then m.drop
      else m := by
  have hlimits := cfg.highWater_le_hardLimit
  cases hlive : s.live with
  | false =>
      have hdead : (s.stopped || s.kickPending) = true := by
        rw [TcpSession.live, ← Bool.not_or, Bool.not_eq_false'] at hlive
        exact hlive
      simp [handled, hdead]
  | true =>
      have hdead : (s.stopped || s.kickPending) = false := by
        rw [TcpSession.live, ← Bool.not_or, Bool.not_eq_true'] at hlive
        exact hlive
      simp only [handled, hdead, Bool.false_eq_true, if_false, true_and]
      by_cases hover :
          cfg.highWaterBytes.toNat < s.pendingBytes + w.bytes.length
      · by_cases hhard :
            s.pendingBytes + w.bytes.length ≤ cfg.hardLimitBytes.toNat
        · simp [hover, hhard]
        · simp [hover, hhard, Nat.lt_of_not_le hhard]
      · have hbelow :
            ¬cfg.hardLimitBytes.toNat < s.pendingBytes + w.bytes.length := by
          omega
        simp [hover, hbelow]

theorem Metrics.handled_out (cfg : Config) (s : TcpSession) (m : Metrics)
    (handler : Handler) :
    (handled cfg s m handler).framesOut = m.framesOut + UInt64.ofNat
        ((s.handlerEffects cfg handler).filterMap Effect.completed?).length ∧
      (handled cfg s m handler).bytesOut = m.bytesOut + UInt64.ofNat
        (wireBytes ((s.handlerEffects cfg handler).filterMap
          Effect.completed?)).length ∧
      (handled cfg s m handler).drops = m.drops + UInt64.ofNat
        ((s.handlerEffects cfg handler).filterMap Effect.refused?).length := by
  cases handler with
  | sendFrame w =>
      rw [handled_sendFrame, TcpSession.handlerEffects]
      split
      · simp [drop, List.filterMap_cons, Effect.completed?, Effect.refused?]
      · simp
  | written w ec =>
      cases ec with
      | none =>
          simp [handled, TcpSession.handlerEffects, List.filterMap_cons,
            Effect.completed?, Effect.refused?]
      | some message => simp [handled, TcpSession.handlerEffects]
  | kick w logWhy => simp [handled, TcpSession.handlerEffects]
  | stop why => simp [handled, TcpSession.handlerEffects]

theorem Server.pick_map {α : Type} (kind : Effect → Option α) (c : ConnId)
    (done : List Effect) :
    (pick kind (done.map (Prod.mk c))).map Prod.snd = done.filterMap kind := by
  rw [pick, List.filterMap_map, List.map_filterMap]
  apply List.filterMap_congr
  intro effect _
  cases hkind : kind effect <;> simp [hkind]

theorem Server.pick_map_length {α : Type} (kind : Effect → Option α)
    (c : ConnId) (done : List Effect) :
    (pick kind (done.map (Prod.mk c))).length =
      (done.filterMap kind).length := by
  rw [← pick_map kind c done, List.length_map]

theorem Metrics.after_out (cfg : Config) (s : Server) (m : Metrics)
    (event : Event) :
    (m.after cfg s event).framesOut = m.framesOut + UInt64.ofNat
        (Server.pick Effect.completed? (s.effects cfg event)).length ∧
      (m.after cfg s event).bytesOut = m.bytesOut + UInt64.ofNat
        (wireBytes ((Server.pick Effect.completed?
          (s.effects cfg event)).map Prod.snd)).length ∧
      (m.after cfg s event).drops = m.drops + UInt64.ofNat
        (Server.pick Effect.refused? (s.effects cfg event)).length := by
  cases event with
  | io c event =>
      simp only [Server.effects, Server.pick_map, Server.pick_map_length]
      cases event with
      | runHandler =>
          simp only [after, TcpSession.effects]
          cases (s.hub.sessions c).posted with
          | nil => simp
          | cons handler later => exact m.handled_out cfg _ handler
      | writeFailed index message =>
          simp only [after, TcpSession.effects]
          cases (s.hub.sessions c).writes[index]? <;>
            simp [List.filterMap_cons, Effect.completed?, Effect.refused?]
      | transmit index count => simp [after, TcpSession.effects]
      | writeDone index => simp [after, TcpSession.effects]
  | read c event =>
      cases event with
      | resume =>
          simp only [after]
          cases s.readers c <;> simp [Server.effects, Server.pick]
      | _ => simp [after, Server.effects, Server.pick]
  | _ => simp [after, Server.effects, Server.pick]

theorem Server.pick_append {α : Type} (kind : Effect → Option α)
    (first second : List (ConnId × Effect)) :
    pick kind (first ++ second) = pick kind first ++ pick kind second :=
  List.filterMap_append

/-- The frames whose completion handler an event runs, the write having
succeeded. -/
def Server.completions (cfg : Config) (s : Server) (event : Event) :
    List (ConnId × Wire) :=
  pick Effect.completed? (s.effects cfg event)

/-- The frames which an event makes a send queue refuse. -/
def Server.refusals (cfg : Config) (s : Server) (event : Event) :
    List (ConnId × Wire) :=
  pick Effect.refused? (s.effects cfg event)

namespace Metered

variable {cfg : Config} {unpack : Bytes → Option Obj} {db : Db}
  {events : List Event} {t : Metered}

/-- `done` is what has been done with frames so far. -/
structure Outbound (cfg : Config) (done : List (ConnId × Effect))
    (t : Metered) : Prop where
  ending : t.server.EndingOk cfg
  untouched : t.server.Untouched
  ahead : ∀ c, t.server.hub.reg.nextConnId < c → itemsOf c done = []
  connects : t.metrics.clientConnects =
    UInt64.ofNat t.server.hub.reg.nextConnId
  framesOut : t.metrics.framesOut =
    UInt64.ofNat (Server.pick Effect.completed? done).length
  bytesOut : t.metrics.bytesOut = UInt64.ofNat
    (wireBytes ((Server.pick Effect.completed? done).map Prod.snd)).length
  drops : t.metrics.drops =
    UInt64.ofNat (Server.pick Effect.refused? done).length
  balance : ∀ c, (t.server.hub.sessions c).Balance (itemsOf c done)
  disposed : ∀ c, (t.server.hub.sessions c).Disposed (itemsOf c done)
    (framesTo c t.server.hub.calls)

theorem outbound_initial (cfg : Config) (db : Db) :
    Outbound cfg [] (initial db) where
  ending := Server.endingOk_initial db
  untouched := fun _ _ => ⟨rfl, rfl⟩
  ahead := fun _ _ => rfl
  connects := rfl
  framesOut := rfl
  bytesOut := rfl
  drops := rfl
  balance := fun _ => TcpSession.balance_fresh _
  disposed := fun _ => TcpSession.disposed_fresh _

theorem Outbound.ahead_step {done : List (ConnId × Effect)} {t' : Metered}
    {event : Event} (houtbound : t.Outbound cfg done)
    (hstep : t.server.step cfg unpack event = some t'.server) {c : ConnId}
    (hbeyond : t'.server.hub.reg.nextConnId < c) :
    itemsOf c (done ++ t.server.effects cfg event) = [] := by
  have hbefore : t.server.hub.reg.nextConnId < c :=
    Nat.lt_of_le_of_lt (Server.nextConnId_le_of_step hstep) hbeyond
  rw [itemsOf_append, houtbound.ahead c hbefore, List.nil_append]
  cases event with
  | io d event =>
      have hne : d ≠ c := by
        rintro rfl
        simp only [Server.step] at hstep
        rw [(houtbound.untouched d hbefore).1] at hstep
        cases event <;> cases hstep
      rw [Server.effects, itemsOf_map_ne hne]
  | _ => rfl

theorem connects_step {t' : Metered} {event : Event}
    (hstep : t.step cfg unpack event = some t')
    (hconnects : t.metrics.clientConnects =
      UInt64.ofNat t.server.hub.reg.nextConnId) :
    t'.metrics.clientConnects =
      UInt64.ofNat t'.server.hub.reg.nextConnId := by
  obtain ⟨hserver, hmetrics⟩ := step_eq_some hstep
  rw [hmetrics]
  by_cases haccept : ∃ peerIp, event = .accept peerIp
  · obtain ⟨peerIp, rfl⟩ := haccept
    have hnext : t'.server.hub.reg.nextConnId =
        t.server.hub.reg.nextConnId + 1 := by
      simp only [Server.step, Option.some.injEq] at hserver
      rw [← hserver]
      rfl
    rw [hnext, UInt64.ofNat_add, ← hconnects]
    rfl
  · rw [Metrics.after_connects _ _ _ (fun peerIp hsame =>
      haccept ⟨peerIp, hsame⟩), hconnects]
    rcases Server.nextConnId_of_step hserver with hsame | ⟨haccepted, _⟩
    · rw [hsame]
    · exact absurd haccepted haccept

theorem Outbound.step {done : List (ConnId × Effect)} {t' : Metered}
    {event : Event} (houtbound : t.Outbound cfg done)
    (hstep : t.step cfg unpack event = some t') :
    t'.Outbound cfg (done ++ t.server.effects cfg event) := by
  obtain ⟨hserver, hmetrics⟩ := step_eq_some hstep
  obtain ⟨hframes, hbytes, hdrops⟩ := t.metrics.after_out cfg t.server event
  refine ⟨houtbound.ending.step hserver,
    houtbound.untouched.step houtbound.ending hserver,
    fun _ hbeyond => houtbound.ahead_step hserver hbeyond,
    connects_step hstep houtbound.connects, ?_, ?_, ?_, ?_, ?_⟩
  · rw [hmetrics, hframes, houtbound.framesOut, Server.pick_append,
      List.length_append, UInt64.ofNat_add]
  · rw [hmetrics, hbytes, houtbound.bytesOut, Server.pick_append,
      List.map_append, wireBytes_append, List.length_append, UInt64.ofNat_add]
  · rw [hmetrics, hdrops, houtbound.drops, Server.pick_append,
      List.length_append, UInt64.ofNat_add]
  · intro c
    exact Server.session_ledger (P := fun done _ s => s.Balance done)
      TcpSession.balance_fresh
      (fun _ _ _ made hbefore => hbefore.call made)
      (fun _ _ _ _ _ hbefore hio => hbefore.ioStep hio)
      (fun _ _ _ hbefore => hbefore.frame rfl rfl rfl) houtbound.untouched
      hserver (houtbound.ahead c) (houtbound.balance c)
  · intro c
    exact Server.session_ledger (P := fun done sent s => s.Disposed done sent)
      TcpSession.disposed_fresh
      (fun _ _ _ made hbefore => hbefore.call made)
      (fun _ _ _ _ _ hbefore hio => hbefore.ioStep hio)
      (fun _ _ _ hbefore => hbefore.frame (fun hlive => hlive) rfl rfl)
      houtbound.untouched hserver (houtbound.ahead c) (houtbound.disposed c)

theorem outbound_of_run
    (hrun : Transition.run (step cfg unpack) events (initial db) = some t) :
    t.Outbound cfg (Transition.observe (step cfg unpack)
      (shows (Server.effects cfg)) events (initial db)) :=
  Transition.observe_preserves (Outbound cfg)
    (fun _ _ _ _ hbefore hstep => hbefore.step hstep)
    (outbound_initial cfg db) hrun

/-- The frames whose writes have come to a successful end in a run, each with
its connection: the completion handlers of these writes have run. -/
def completed (cfg : Config) (unpack : Bytes → Option Obj) (db : Db)
    (events : List Event) : List (ConnId × Wire) :=
  Transition.observe (step cfg unpack) (shows (Server.completions cfg)) events
    (initial db)

/-- The frames which the send queues have refused in a run. -/
def refused (cfg : Config) (unpack : Bytes → Option Obj) (db : Db)
    (events : List Event) : List (ConnId × Wire) :=
  Transition.observe (step cfg unpack) (shows (Server.refusals cfg)) events
    (initial db)

/-- What is picked of the effects of a run is what its steps show. -/
theorem pick_observe {α : Type} (kind : Effect → Option α)
    (unpack : Bytes → Option Obj) (db : Db) (events : List Event) :
    Server.pick kind (Transition.observe (step cfg unpack)
        (shows (Server.effects cfg)) events (initial db)) =
      Transition.observe (step cfg unpack)
        (shows (fun s event => Server.pick kind (s.effects cfg event))) events
        (initial db) :=
  Transition.observe_map (Server.pick kind) rfl (Server.pick_append kind)
    (fun _ _ => rfl) events _

theorem pick_completed (unpack : Bytes → Option Obj) (db : Db)
    (events : List Event) :
    Server.pick Effect.completed? (Transition.observe (step cfg unpack)
        (shows (Server.effects cfg)) events (initial db)) =
      completed cfg unpack db events :=
  pick_observe Effect.completed? unpack db events

theorem pick_refused (unpack : Bytes → Option Obj) (db : Db)
    (events : List Event) :
    Server.pick Effect.refused? (Transition.observe (step cfg unpack)
        (shows (Server.effects cfg)) events (initial db)) =
      refused cfg unpack db events :=
  pick_observe Effect.refused? unpack db events

/-- The failed writes among the effects of a run are those its steps show. -/
theorem failed_observe (unpack : Bytes → Option Obj) (db : Db)
    (events : List Event) (c : ConnId) :
    (itemsOf c (Transition.observe (step cfg unpack)
        (shows (Server.effects cfg)) events (initial db))).filterMap
          Effect.failed? =
      Transition.observe (step cfg unpack) (shows (Server.failedWrites c))
        events (initial db) := by
  have hview : ∀ (t : Metered) event,
      (itemsOf c (shows (Server.effects cfg) t event)).filterMap
        Effect.failed? = shows (Server.failedWrites c) t event :=
    fun t event => Server.failed_effects cfg c t.server event
  have happend : ∀ first second : List (ConnId × Effect),
      (itemsOf c (first ++ second)).filterMap Effect.failed? =
        (itemsOf c first).filterMap Effect.failed? ++
          (itemsOf c second).filterMap Effect.failed? := by
    intro first second
    rw [itemsOf_append, List.filterMap_append]
  exact Transition.observe_map
    (fun done => (itemsOf c done).filterMap Effect.failed?) rfl happend hview
    events _

/-- `frames_out` and `bytes_out` count the frames whose write has succeeded
and whose completion handler has run.  Beyond them the sockets have been
handed only what is in flight and the beginnings of frames whose write has
failed; `client_connects` is the number of connections. -/
theorem bytes_out_of_run (cfg : Config) (unpack : Bytes → Option Obj)
    (db : Db) {events : List Event} {t : Metered}
    (hrun : Transition.run (step cfg unpack) events (initial db) = some t) :
    t.metrics.framesOut =
        UInt64.ofNat (completed cfg unpack db events).length ∧
      t.metrics.bytesOut = UInt64.ofNat
        (wireBytes ((completed cfg unpack db events).map Prod.snd)).length ∧
      t.metrics.clientConnects =
        UInt64.ofNat t.server.hub.reg.nextConnId ∧
      ∀ c, (t.server.hub.sessions c).output.length =
        (wireBytes (itemsOf c (completed cfg unpack db events))).length +
          (t.server.hub.sessions c).inFlight +
          ((Transition.observe (step cfg unpack)
            (shows (Server.failedWrites c)) events (initial db)).map
              PendingWrite.sent).sum := by
  have houtbound := outbound_of_run hrun
  rw [← pick_completed]
  refine ⟨houtbound.framesOut, houtbound.bytesOut, houtbound.connects, ?_⟩
  intro c
  have hbytes := (houtbound.balance c).bytes
  rw [Server.itemsOf_pick, hbytes, failed_observe]

theorem bytes_out_of_run_loginWritten :
    ∃ t : Metered,
      Transition.run (step forwarderJson unpackFlat) loginWritten
        (initial Server.emptyDb) = some t ∧
      t.metrics.framesOut = 1 ∧
      (completed forwarderJson unpackFlat Server.emptyDb loginWritten).length =
        1 ∧
      t.metrics.framesOut = UInt64.ofNat
        (completed forwarderJson unpackFlat Server.emptyDb
          loginWritten).length := by
  obtain ⟨t, hrun, hone⟩ : ∃ t,
      Transition.run (step forwarderJson unpackFlat) loginWritten
        (initial Server.emptyDb) = some t ∧ t.metrics.framesOut = 1 :=
    Transition.exists_run_of_check (by decide +kernel)
  exact ⟨t, hrun, hone, by decide +kernel,
    (bytes_out_of_run forwarderJson unpackFlat Server.emptyDb hrun).1⟩

/-- `drops` counts the frames the send queues refuse for their size, and no
frame is lost without being counted: while a session is neither stopped nor
kicked, each frame passed to it has been accepted, refused and counted, or
waits on the strand. -/
theorem drops_of_run (cfg : Config) (unpack : Bytes → Option Obj) (db : Db)
    {events : List Event} {t : Metered}
    (hrun : Transition.run (step cfg unpack) events (initial db) = some t) :
    t.metrics.drops = UInt64.ofNat (refused cfg unpack db events).length ∧
      ∀ c, (t.server.hub.sessions c).live = true →
        (framesTo c t.server.hub.calls).Perm
          ((t.server.hub.sessions c).accepted ++
            itemsOf c (refused cfg unpack db events) ++
            (t.server.hub.sessions c).posted.filterMap
              TcpSession.waitingOf) := by
  have houtbound := outbound_of_run hrun
  rw [← pick_refused]
  refine ⟨houtbound.drops, ?_⟩
  intro c hlive
  rw [Server.itemsOf_pick]
  exact houtbound.disposed c hlive

/-- A limit which a DELIVER fits into and not the acknowledgement behind it. -/
def narrowQueue : Config where
  highWaterBytes := 120
  mysqlUser := "root"
  mysqlDatabase := "forwarder"
  accepted := by rfl

/-- `root` logs in, reads the reply, and sends itself a message. -/
def refusedEcho : List Event :=
  Server.rootLogin ++
    [.io 1 .runHandler, .io 1 (.transmit 0 1000), .io 1 (.writeDone 0),
      .io 1 .runHandler] ++
    Server.receive 1 kClientData 2 [.map 2, .str (lit "dst_username"),
      .str (lit "root"), .str (lit "payload"), .bin (lit "hello")] ++
    Server.advances 1 3 ++ [.io 1 .runHandler, .io 1 .runHandler]

theorem drops_of_run_refusedEcho :
    ∃ t : Metered,
      Transition.run (step narrowQueue unpackFlat) refusedEcho
        (initial Server.emptyDb) = some t ∧
      t.metrics.drops = 1 ∧
      (t.server.hub.sessions 1).accepted.length = 2 ∧
      refused narrowQueue unpackFlat Server.emptyDb refusedEcho =
        [(1, okReplyWire 2 (lit "DATA"))] ∧
      (framesTo 1 t.server.hub.calls).Perm
        ((t.server.hub.sessions 1).accepted ++
          itemsOf 1 (refused narrowQueue unpackFlat Server.emptyDb
            refusedEcho) ++
          (t.server.hub.sessions 1).posted.filterMap
            TcpSession.waitingOf) := by
  obtain ⟨t, hrun, hone, haccepted, hlive⟩ : ∃ t,
      Transition.run (step narrowQueue unpackFlat) refusedEcho
        (initial Server.emptyDb) = some t ∧ t.metrics.drops = 1 ∧
      (t.server.hub.sessions 1).accepted.length = 2 ∧
      (t.server.hub.sessions 1).live = true :=
    Transition.exists_run_of_check (by decide +kernel)
  exact ⟨t, hrun, hone, haccepted, by decide +kernel,
    (drops_of_run narrowQueue unpackFlat Server.emptyDb hrun).2 1 hlive⟩

end Metered

end AsioForwarder
