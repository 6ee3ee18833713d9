import AsioForwarder.Config
import AsioForwarder.TransitionRun
import AsioForwarder.WireFormat

/-!
# One client session

`send_frame`, `kick_notify_and_close` and `stop` only post a handler to the
session's strand; the strand runs the posted handlers one at a time, in the
order in which they were posted.  `do_write` starts an asynchronous write
whose completion handler is posted when the write ends.  A write hands over
its bytes in pieces while the socket is open, and ends either when nothing is
left or with an error after a proper prefix.  The read loop closes the socket
from outside the strand.

The last three fields record what happened for the statements about runs:
the frames accepted into the queue, the KICK frames asked for, and the bytes
handed to the socket.
-/

namespace AsioForwarder

/-- A handler waiting on the strand. -/
inductive Handler where
  | sendFrame (bytes : Wire)
  | kick (notifyWire : Wire) (logWhy : Bytes)
  | stop (why : Bytes)
  | written (bytes : Wire) (ec : Option Bytes)
  deriving DecidableEq

/-- A write in progress: the frame and what is left of it. -/
structure PendingWrite where
  frame : Wire
  rest : Bytes
  deriving DecidableEq

/-- `TcpSession`, with its strand and its socket. -/
structure TcpSession where
  stopped : Bool := false
  writing : Bool := false
  queue : List Wire := []
  pendingBytes : Nat := 0
  highWaterLogged : Bool := false
  loggedIn : Bool := false
  userId : Nat := 0
  isAdmin : Bool := false
  username : Bytes := []
  kickPending : Bool := false
  kickLog : Bytes := []
  peerIp : Bytes := []
  isOpen : Bool := true
  posted : List Handler := []
  writes : List PendingWrite := []
  accepted : List Wire := []
  kicks : List Wire := []
  output : Bytes := []
  deriving DecidableEq

namespace TcpSession

/-- `boost::asio::post(strand_, ...)`. -/
def post (handler : Handler) (s : TcpSession) : TcpSession :=
  { s with posted := s.posted ++ [handler] }

def sendFrame (bytes : Wire) (s : TcpSession) : TcpSession :=
  s.post (.sendFrame bytes)

def stop (why : Bytes) (s : TcpSession) : TcpSession :=
  s.post (.stop why)

def kickNotifyAndClose (notifyWire : Wire) (logWhy : Bytes)
    (s : TcpSession) : TcpSession :=
  { s.post (.kick notifyWire logWhy) with kicks := s.kicks ++ [notifyWire] }

/-- `RelayServer::notify_and_close`: a session which has not logged in is
stopped without a notice. -/
def notifyAndClose (userReason logWhy : Bytes) (s : TcpSession) :
    TcpSession :=
  if s.loggedIn then s.kickNotifyAndClose (kickWire userReason) logWhy
  else s.stop logWhy

def markLogin (uid : Nat) (isAdmin : Bool) (username : Bytes)
    (s : TcpSession) : TcpSession :=
  { s with
    loggedIn := true
    userId := uid
    isAdmin := isAdmin
    username := username }

def doWrite (s : TcpSession) : TcpSession :=
  match s.queue with
  | [] => s
  | front :: _ =>
      if s.stopped then s
      else
        { s with
          writing := true
          writes := s.writes ++ [⟨front, front.bytes⟩] }

def writeNext (s : TcpSession) : TcpSession :=
  if s.writing then s else s.doWrite

/-- `queue_.push_back` with the bytes counted. -/
def enqueue (bytes : Wire) (s : TcpSession) : TcpSession :=
  { s with
    queue := s.queue ++ [bytes]
    pendingBytes := s.pendingBytes + bytes.bytes.length
    accepted := s.accepted ++ [bytes] }

/-- The KICK frame takes the place of whatever is queued. -/
def replaceQueue (notifyWire : Wire) (logWhy : Bytes) (s : TcpSession) :
    TcpSession :=
  { s with
    kickPending := true
    kickLog := logWhy
    queue := [notifyWire]
    pendingBytes := notifyWire.bytes.length
    accepted := s.accepted ++ [notifyWire] }

/-- The handler posted by `send_frame`. -/
def handleSend (cfg : Config) (bytes : Wire) (s : TcpSession) : TcpSession :=
  if s.stopped || s.kickPending then s
  else
    let newTotal := s.pendingBytes + bytes.bytes.length
    if newTotal > cfg.highWaterBytes.toNat &&
        newTotal ≤ cfg.hardLimitBytes.toNat then
      if cfg.onHighWater = .disconnect then
        s.stop (lit "high-water disconnect")
      else { s with highWaterLogged := true }
    else if newTotal > cfg.hardLimitBytes.toNat then
      s.stop (lit "hard-limit disconnect")
    else (s.enqueue bytes).writeNext

/-- The handler posted by `kick_notify_and_close`. -/
def handleKick (notifyWire : Wire) (logWhy : Bytes) (s : TcpSession) :
    TcpSession :=
  if s.stopped || s.kickPending then s
  else (s.replaceQueue notifyWire logWhy).writeNext

/-- The handler posted by `stop`. -/
def handleStop (s : TcpSession) : TcpSession :=
  if s.stopped then s else { s with stopped := true, isOpen := false }

/-- `queue_.pop_front` after a write, whether or not the front is the frame
just written; the byte counter saturates at zero. -/
def popWritten (bytes : Wire) (s : TcpSession) : TcpSession :=
  { s with
    writing := false
    queue := s.queue.tail
    pendingBytes := s.pendingBytes - bytes.bytes.length }

/-- The end of a kicked session. -/
def closeAfterKick (s : TcpSession) : TcpSession :=
  { s with kickPending := false, stopped := true, isOpen := false }

/-- The completion handler of `do_write`. -/
def handleWritten (bytes : Wire) (ec : Option Bytes) (s : TcpSession) :
    TcpSession :=
  match ec with
  | some message =>
      { s with writing := false }.stop (lit "write error: " ++ message)
  | none =>
      if s.kickPending && s.queue.tail.isEmpty then
        (s.popWritten bytes).closeAfterKick
      else (s.popWritten bytes).doWrite

def handle (cfg : Config) : Handler → TcpSession → TcpSession
  | .sendFrame bytes, s => s.handleSend cfg bytes
  | .kick notifyWire logWhy, s => s.handleKick notifyWire logWhy
  | .stop _, s => s.handleStop
  | .written bytes ec, s => s.handleWritten bytes ec

/-- What can happen on the strand and on the socket. -/
inductive IoEvent where
  | runHandler
  | transmit (index count : Nat)
  | writeDone (index : Nat)
  | writeFailed (index : Nat) (message : Bytes)
  deriving DecidableEq

/-- One step of the strand or of a write in progress. -/
def ioStep (cfg : Config) (s : TcpSession) : IoEvent → Option TcpSession
  | .runHandler =>
      match s.posted with
      | [] => none
      | handler :: rest => some ({ s with posted := rest }.handle cfg handler)
  | .transmit index count =>
      match s.writes[index]? with
      | none => none
      | some write =>
          if s.isOpen then
            some { s with
              writes := s.writes.set index
                { write with rest := write.rest.drop count }
              output := s.output ++ write.rest.take count }
          else none
  | .writeDone index =>
      match s.writes[index]? with
      | none => none
      | some write =>
          if write.rest = [] then
            some ({ s with writes := s.writes.eraseIdx index }.post
              (.written write.frame none))
          else none
  | .writeFailed index message =>
      match s.writes[index]? with
      | none => none
      | some write =>
          if write.rest = [] then none
          else
            some ({ s with writes := s.writes.eraseIdx index }.post
              (.written write.frame (some message)))

/-! ## What the pieces leave alone -/

theorem doWrite_shape (s : TcpSession) :
    ∃ writing writes,
      s.doWrite = { s with writing := writing, writes := writes } := by
  unfold doWrite
  split
  · exact ⟨s.writing, s.writes, rfl⟩
  · split
    · exact ⟨s.writing, s.writes, rfl⟩
    · exact ⟨_, _, rfl⟩

theorem writeNext_shape (s : TcpSession) :
    ∃ writing writes,
      s.writeNext = { s with writing := writing, writes := writes } := by
  unfold writeNext
  split
  · exact ⟨s.writing, s.writes, rfl⟩
  · exact s.doWrite_shape

@[simp] theorem doWrite_stopped (s : TcpSession) :
    s.doWrite.stopped = s.stopped := by
  obtain ⟨_, _, hshape⟩ := s.doWrite_shape
  rw [hshape]

@[simp] theorem doWrite_queue (s : TcpSession) :
    s.doWrite.queue = s.queue := by
  obtain ⟨_, _, hshape⟩ := s.doWrite_shape
  rw [hshape]

@[simp] theorem doWrite_posted (s : TcpSession) :
    s.doWrite.posted = s.posted := by
  obtain ⟨_, _, hshape⟩ := s.doWrite_shape
  rw [hshape]

@[simp] theorem doWrite_kickPending (s : TcpSession) :
    s.doWrite.kickPending = s.kickPending := by
  obtain ⟨_, _, hshape⟩ := s.doWrite_shape
  rw [hshape]

@[simp] theorem doWrite_isOpen (s : TcpSession) :
    s.doWrite.isOpen = s.isOpen := by
  obtain ⟨_, _, hshape⟩ := s.doWrite_shape
  rw [hshape]

@[simp] theorem doWrite_kicks (s : TcpSession) :
    s.doWrite.kicks = s.kicks := by
  obtain ⟨_, _, hshape⟩ := s.doWrite_shape
  rw [hshape]

@[simp] theorem writeNext_stopped (s : TcpSession) :
    s.writeNext.stopped = s.stopped := by
  obtain ⟨_, _, hshape⟩ := s.writeNext_shape
  rw [hshape]

@[simp] theorem writeNext_queue (s : TcpSession) :
    s.writeNext.queue = s.queue := by
  obtain ⟨_, _, hshape⟩ := s.writeNext_shape
  rw [hshape]

@[simp] theorem writeNext_posted (s : TcpSession) :
    s.writeNext.posted = s.posted := by
  obtain ⟨_, _, hshape⟩ := s.writeNext_shape
  rw [hshape]

@[simp] theorem writeNext_kickPending (s : TcpSession) :
    s.writeNext.kickPending = s.kickPending := by
  obtain ⟨_, _, hshape⟩ := s.writeNext_shape
  rw [hshape]

@[simp] theorem writeNext_isOpen (s : TcpSession) :
    s.writeNext.isOpen = s.isOpen := by
  obtain ⟨_, _, hshape⟩ := s.writeNext_shape
  rw [hshape]

@[simp] theorem writeNext_kicks (s : TcpSession) :
    s.writeNext.kicks = s.kicks := by
  obtain ⟨_, _, hshape⟩ := s.writeNext_shape
  rw [hshape]

/-- Everything a step of the strand or of a write can be. -/
theorem ioStep_cases {cfg : Config} {s next : TcpSession} {event : IoEvent}
    (hstep : s.ioStep cfg event = some next) :
    (∃ handler later, event = .runHandler ∧ s.posted = handler :: later ∧
      next = { s with posted := later }.handle cfg handler) ∨
    (∃ index count write, event = .transmit index count ∧
      s.writes[index]? = some write ∧ s.isOpen = true ∧
      next = { s with
        writes := s.writes.set index
          { write with rest := write.rest.drop count }
        output := s.output ++ write.rest.take count }) ∨
    (∃ index write, event = .writeDone index ∧
      s.writes[index]? = some write ∧ write.rest = [] ∧
      next = { s with writes := s.writes.eraseIdx index }.post
        (.written write.frame none)) ∨
    (∃ index write message, event = .writeFailed index message ∧
      s.writes[index]? = some write ∧ write.rest ≠ [] ∧
      next = { s with writes := s.writes.eraseIdx index }.post
        (.written write.frame (some message))) := by
  cases event with
  | runHandler =>
      simp only [ioStep] at hstep
      split at hstep
      · cases hstep
      · rename_i handler later hposted
        exact .inl ⟨handler, later, rfl, hposted, (Option.some.inj hstep).symm⟩
  | transmit index count =>
      simp only [ioStep] at hstep
      split at hstep
      · cases hstep
      · rename_i write hwrite
        split at hstep
        · rename_i hopen
          exact .inr (.inl ⟨index, count, write, rfl, hwrite, hopen,
            (Option.some.inj hstep).symm⟩)
        · cases hstep
  | writeDone index =>
      simp only [ioStep] at hstep
      split at hstep
      · cases hstep
      · rename_i write hwrite
        split at hstep
        · rename_i hrest
          exact .inr (.inr (.inl ⟨index, write, rfl, hwrite, hrest,
            (Option.some.inj hstep).symm⟩))
        · cases hstep
  | writeFailed index message =>
      simp only [ioStep] at hstep
      split at hstep
      · cases hstep
      · rename_i write hwrite
        split at hstep
        · cases hstep
        · rename_i hrest
          exact .inr (.inr (.inr ⟨index, write, message, rfl, hwrite, hrest,
            (Option.some.inj hstep).symm⟩))

/-- The end of the read loop: the socket is cancelled and closed. -/
def closeSocket (s : TcpSession) : TcpSession :=
  { s with isOpen := false }

/-! ## Runs of one session -/

/-- Everything that can happen to one session: calls of its member
functions, steps of its strand and socket, and the end of its read loop. -/
inductive Event where
  | sendFrame (bytes : Wire)
  | notifyAndClose (userReason logWhy : Bytes)
  | stop (why : Bytes)
  | markLogin (uid : Nat) (isAdmin : Bool) (username : Bytes)
  | io (event : IoEvent)
  | closeSocket
  deriving DecidableEq

def step (cfg : Config) (s : TcpSession) : Event → Option TcpSession
  | .sendFrame bytes => some (s.sendFrame bytes)
  | .notifyAndClose userReason logWhy =>
      some (s.notifyAndClose userReason logWhy)
  | .stop why => some (s.stop why)
  | .markLogin uid isAdmin username =>
      some (s.markLogin uid isAdmin username)
  | .io event => s.ioStep cfg event
  | .closeSocket => some s.closeSocket

end TcpSession

end AsioForwarder
