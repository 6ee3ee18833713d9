import Mathlib.Data.Int.Order.Basic
import Mathlib.Tactic.Common

/-!
# Server configuration

`RawConfig` holds the values read from the property tree, defaults filled in;
`RawConfig.check` is the sequence of tests of `load_config_or_throw`, in the
order of the source.  A `Config` is a configuration which passed, so the
bounds the server relies on are facts about every `Config`.
-/

namespace AsioForwarder

/-- `flow.send_queue.on_high_water`. -/
inductive OnHighWater where
  | drop
  | disconnect
  | other (text : String)
  deriving DecidableEq

structure RawConfig where
  clientPort : Int := 9000
  adminPort : Int := 19003
  eventsMax : Int := 200
  ioThreads : Int := 2
  bizThreads : Int := 2
  readMs : Int := 15000
  idleMs : Int := 120000
  maxBodyLen : UInt32 := 67108864
  highWaterBytes : UInt32 := 67108864
  hardLimitBytes : UInt32 := 268435456
  onHighWater : OnHighWater := .drop
  metricsIntervalMs : Int := 5000
  maxConnectionsPerUser : Int := 8
  heartbeatTimeoutMs : Int := 30000
  broadcastMaxRecipients : Int := 10000
  hasMysql : Bool := true
  mysqlPort : Int := 3306
  mysqlUser : String := ""
  mysqlDatabase : String := ""

def asU16 (value : Int) (name : String) : Except String Unit :=
  if value < 1 ∨ value > 65535 then .error ("invalid " ++ name) else .ok ()

/-- Throw `message` when the test of the source succeeds. -/
def throwWhen (test : Bool) (message : String) : Except String Unit :=
  if test then .error message else .ok ()

def RawConfig.check (cfg : RawConfig) : Except String Unit := do
  asU16 cfg.clientPort "client.listen.port"
  asU16 cfg.adminPort "admin.listen.port"
  throwWhen (!cfg.hasMysql)
    "config must contain mysql \x7b host, port, user, password, database \x7d"
  asU16 cfg.mysqlPort "mysql.port"
  throwWhen (cfg.mysqlUser == "" || cfg.mysqlDatabase == "")
    "mysql.user and mysql.database required"
  throwWhen (cfg.ioThreads < 1 || cfg.ioThreads > 64) "invalid threads.io"
  throwWhen (cfg.bizThreads < 1 || cfg.bizThreads > 64) "invalid threads.biz"
  throwWhen (cfg.eventsMax < 0 || cfg.eventsMax > 10000)
    "invalid admin.events_max"
  throwWhen (cfg.maxBodyLen == 0 || cfg.maxBodyLen > 1073741824)
    "invalid limits.max_body_len"
  throwWhen (cfg.highWaterBytes == 0 ||
      cfg.hardLimitBytes < cfg.highWaterBytes)
    "invalid flow thresholds"
  throwWhen (!(cfg.onHighWater == .drop || cfg.onHighWater == .disconnect))
    "invalid flow.send_queue.on_high_water"
  throwWhen (cfg.readMs < 100 || cfg.idleMs < cfg.readMs) "invalid timeouts"
  throwWhen (cfg.metricsIntervalMs < 200 ||
      cfg.metricsIntervalMs > 60 * 60 * 1000)
    "invalid metrics.interval_ms"
  throwWhen (cfg.maxConnectionsPerUser < 1 || cfg.maxConnectionsPerUser > 256)
    "invalid session.max_connections_per_user"
  throwWhen (cfg.heartbeatTimeoutMs < 1000 ||
      cfg.heartbeatTimeoutMs > 24 * 60 * 60 * 1000)
    "invalid session.heartbeat_timeout_ms"
  throwWhen (cfg.broadcastMaxRecipients < 1 ||
      cfg.broadcastMaxRecipients > 1000000)
    "invalid session.broadcast_max_recipients"

/-- A configuration accepted by `load_config_or_throw`. -/
structure Config extends RawConfig where
  accepted : toRawConfig.check = .ok ()

theorem throwWhen_bind_eq_ok {test : Bool} {message : String}
    {rest : Unit → Except String Unit} :
    (throwWhen test message >>= rest) = .ok () ↔
      test = false ∧ rest () = .ok () := by
  cases test <;> simp [throwWhen, bind, Except.bind]

theorem throwWhen_eq_ok {test : Bool} {message : String} :
    throwWhen test message = .ok () ↔ test = false := by
  cases test <;> simp [throwWhen]

theorem asU16_bind_eq_ok {value : Int} {name : String}
    {rest : Unit → Except String Unit} :
    (asU16 value name >>= rest) = .ok () ↔
      (1 ≤ value ∧ value ≤ 65535) ∧ rest () = .ok () := by
  unfold asU16
  by_cases hbad : value < 1 ∨ value > 65535
  · have hrange : ¬(1 ≤ value ∧ value ≤ 65535) := by omega
    simp [hbad, hrange, bind, Except.bind]
  · have hrange : 1 ≤ value ∧ value ≤ 65535 := by omega
    simp [hbad, hrange, bind, Except.bind]

/-- `static_cast<std::size_t>(cfg_.session.max_connections_per_user)`. -/
def Config.maxConnections (cfg : Config) : Nat :=
  cfg.maxConnectionsPerUser.toNat

theorem Config.bounds (cfg : Config) :
    1 ≤ cfg.maxConnectionsPerUser ∧
      cfg.highWaterBytes ≤ cfg.hardLimitBytes := by
  have haccepted := cfg.accepted
  simp only [RawConfig.check, asU16_bind_eq_ok, throwWhen_bind_eq_ok,
    Bool.or_eq_false_iff, decide_eq_false_iff_not, not_lt] at haccepted
  constructor
  · tauto
  · rw [← UInt32.not_lt]
    tauto

theorem Config.limits (cfg : Config) :
    cfg.maxBodyLen ≤ 1073741824 ∧ 1 ≤ cfg.broadcastMaxRecipients := by
  have haccepted := cfg.accepted
  simp only [RawConfig.check, asU16_bind_eq_ok, throwWhen_bind_eq_ok,
    throwWhen_eq_ok, Bool.or_eq_false_iff, decide_eq_false_iff_not,
    not_lt] at haccepted
  constructor
  · rw [← UInt32.not_lt]
    tauto
  · tauto

theorem Config.timeouts (cfg : Config) :
    100 ≤ cfg.readMs ∧ cfg.readMs ≤ cfg.idleMs := by
  have haccepted := cfg.accepted
  simp only [RawConfig.check, asU16_bind_eq_ok, throwWhen_bind_eq_ok,
    Bool.or_eq_false_iff, decide_eq_false_iff_not, not_lt] at haccepted
  tauto

theorem Config.maxBodyLen_le (cfg : Config) :
    cfg.maxBodyLen.toNat ≤ 1073741824 :=
  UInt32.le_iff_toNat_le.mp cfg.limits.1

theorem Config.maxConnections_pos (cfg : Config) : 0 < cfg.maxConnections := by
  have hlower := cfg.bounds.1
  unfold Config.maxConnections
  omega

theorem Config.highWater_le_hardLimit (cfg : Config) :
    cfg.highWaterBytes.toNat ≤ cfg.hardLimitBytes.toNat :=
  UInt32.le_iff_toNat_le.mp cfg.bounds.2

/-- The shipped `forwarder.json`. -/
def forwarderJson : Config where
  clientPort := 19000
  adminPort := 19003
  eventsMax := 200
  ioThreads := 2
  bizThreads := 2
  readMs := 120000
  idleMs := 600000
  maxBodyLen := 67108864
  highWaterBytes := 67108864
  hardLimitBytes := 268435456
  onHighWater := .drop
  metricsIntervalMs := 3600000
  maxConnectionsPerUser := 8
  heartbeatTimeoutMs := 30000
  broadcastMaxRecipients := 10000
  mysqlPort := 3306
  mysqlUser := "root"
  mysqlDatabase := "forwarder_e2e"
  accepted := by rfl

end AsioForwarder
