import AsioForwarder.ReplyDecoding
import AsioForwarder.SdkClient
import AsioForwarder.Server

/-!
# One client and its session

A signed-on `Client` and the session of the server it is connected to, with a
FIFO channel in each direction.  The business thread, the heartbeat thread,
the read loop with the handler of the frame it has read, and the handlers of
other sessions take their steps in any order; whatever the handler finds in
the shared state comes with the step.

Every frame the client sends carries the position of its number among the
numbers handed out, and a frame of the server the request whose handler passed
it.  Neither is on the wire.
-/

namespace AsioForwarder

/-- A request of the client on its way; `id` counts the numbers handed out. -/
structure Sent where
  id : Nat
  header : Header
  body : Bytes
  deriving DecidableEq

/-- A frame on its way to the client, and the request whose handler passed
it. -/
structure Incoming where
  request : Option Sent
  wire : Wire
  deriving DecidableEq

/-- How a call has ended: the loop it was in, its own request, the frame its
last turn took, and that turn. -/
structure Ended where
  waiting : Waiting
  request : Option Sent
  taken : Option Incoming
  turn : Turn
  deriving DecidableEq

/-- `toClient` ends with the KICK once there is one.  `serverOpen` is cleared
by a KICK and by the end of the session, after which no frame is added, and
`clientOpen` when `recv` closes its socket at a body it cannot read. -/
structure Link where
  session : ClientSession
  issued : Nat := 0
  asked : Option Sent := none
  toServer : List Sent := []
  handling : Option (Sent × Request) := none
  toClient : List Incoming := []
  serverOpen : Bool := true
  clientOpen : Bool := true
  ended : List Ended := []

/-- A call that waits, a turn of its loop, a frame of the heartbeat thread;
the read loop takes a frame or goes on after one, the handler performs an
operation; another party passes a DELIVER or a KICK, or the session ends.  A
write may fail. -/
inductive LinkEvent where
  | call (made : ApiCall) (written : Bool)
  | turn
  | autoHeartbeat (written : Bool)
  | accept
  | advance (env : Env) (hub : Hub)
  | deliver (wire : Wire)
  | kick (reason : Bytes)
  | hangUp

namespace Link

def initial (seq : UInt32) : Link where
  session :=
    { client := { seq := nextSeq seq }, signedOn := true, waiting := none }

/-- The frame sent under the number just handed out. -/
def request (msgType : UInt32) (body : Bytes) (l : Link) : Sent where
  id := l.issued + 1
  header :=
    { msgType := msgType
      seq := nextSeq l.session.client.seq
      bodyLen := UInt32.ofNat body.length }
  body := body

def post (r : Sent) (written : Bool) (l : Link) : Link :=
  { l with
    issued := l.issued + 1
    toServer := if written then l.toServer ++ [r] else l.toServer }

def give (r : Sent) (made : Call) (l : Link) : Link :=
  if !l.serverOpen then l
  else
    match made with
    | .sendFrame wire =>
        { l with toClient := l.toClient ++ [⟨some r, wire⟩] }
    | .notifyAndClose userReason _ =>
        { l with
          toClient := l.toClient ++ [⟨some r, kickWire userReason⟩]
          serverOpen := false }
    | .stop _ => { l with serverOpen := false }
    | .markLogin _ _ _ => l

def giveAll (r : Sent) (made : List Call) (l : Link) : Link :=
  made.foldl (fun l made => l.give r made) l

def reads (l : Link) : Bool :=
  l.session.client.inOrder.isEmpty &&
    (l.session.waiting ≠ some .deliver ||
      l.session.client.preDelivers.isEmpty)

/-- What a read gets: the next frame, or `none` at the end of the stream. -/
def nextFrame (l : Link) : Option (Option Incoming) :=
  if !l.reads || !l.clientOpen then some none
  else
    match l.toClient with
    | item :: _ => some (some item)
    | [] => if l.serverOpen then none else some none

/-- The link after a frame has been read. -/
def pop (taken : Option Incoming) (l : Link) : Link :=
  match taken with
  | none => l
  | some item =>
      { l with
        toClient := l.toClient.tail
        clientOpen := (RelayClient.eventOfWire item.wire).isSome }

/-- A turn which takes `taken` from the socket. -/
def take (w : Waiting) (taken : Option Incoming) (l : Link) : Option Link :=
  let recv := taken.bind (fun item => RelayClient.eventOfWire item.wire)
  let turn := (l.session.client.turn w recv).2.2
  (l.session.step (.turn recv)).map (fun session =>
    { l.pop taken with
      session := session
      ended :=
        if turn = .again then l.ended
        else l.ended ++ [⟨w, l.asked, taken, turn⟩] })

def step (cfg : Config) (unpack : Bytes → Option Obj) (sender : Identity)
    (l : Link) : LinkEvent → Option Link
  | .call made written =>
      if (made.waits 0).isNone then none
      else
        (l.session.step (.call made written)).map (fun session =>
          match made.frame with
          | none => { l with session := session, asked := none }
          | some (msgType, body) =>
              { l.post (l.request msgType body) written with
                session := session
                asked := some (l.request msgType body) })
  | .turn =>
      match l.session.waiting with
      | none => none
      | some w => l.nextFrame.bind (fun taken => l.take w taken)
  | .autoHeartbeat written =>
      (l.session.step .autoHeartbeat).map (fun session =>
        { l.post (l.request kClientHeartbeat (packAll [.map 0])) written with
          session := session })
  | .accept =>
      match l.handling, l.toServer with
      | none, r :: rest =>
          some { l with
            toServer := rest
            handling := some (r, Request.start unpack sender r.header r.body) }
      | _, _ => none
  | .advance env hub =>
      match l.handling with
      | none => none
      | some (r, q) =>
          match q.nextOp, q.perform cfg env hub with
          | some op, some (_, q') =>
              some ({ l with handling := some (r, q') }.giveAll r
                (Hub.callsOn sender.connId (op.calls cfg env hub)))
          | _, _ => some { l with handling := none }
  | .deliver wire =>
      if l.serverOpen && wire.msgType = kMsgDeliver then
        some { l with toClient := l.toClient ++ [⟨none, wire⟩] }
      else none
  | .kick reason =>
      if l.serverOpen then
        some { l with
          toClient := l.toClient ++ [⟨none, kickWire reason⟩]
          serverOpen := false }
      else none
  | .hangUp => some { l with serverOpen := false }

end Link

end AsioForwarder
