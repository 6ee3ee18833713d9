import AsioForwarder.Msgpack
import Mathlib.Tactic.Common

/-!
# Frame header and outgoing frames

Version 3 of the wire protocol: a fixed little-endian header of 24 bytes
followed by a msgpack body.  An outgoing frame is kept as the header values
`pack_wire` is called with together with the packer calls of its body, and
`Wire.bytes` is the string which is queued on a session.
-/

namespace AsioForwarder

structure Header where
  magic : UInt32 := 0x44574641
  version : UInt16 := 3
  headerLen : UInt16 := 24
  bodyLen : UInt32 := 0
  msgType : UInt32 := 0
  seq : UInt32 := 0
  reserved0 : UInt32 := 0
  deriving DecidableEq

namespace Header

def kMagic : UInt32 := 0x44574641
def kVersion : UInt16 := 3
def kHeaderLen : UInt16 := 24

def writeU16Le (v : UInt16) : Bytes :=
  [v.toUInt8, (v >>> 8).toUInt8]

def writeU32Le (v : UInt32) : Bytes :=
  [v.toUInt8, (v >>> 8).toUInt8, (v >>> 16).toUInt8, (v >>> 24).toUInt8]

def packLe (h : Header) : Bytes :=
  writeU32Le h.magic ++ writeU16Le h.version ++ writeU16Le h.headerLen ++
    writeU32Le h.bodyLen ++ writeU32Le h.msgType ++ writeU32Le h.seq ++
    writeU32Le h.reserved0

theorem packLe_length (h : Header) : h.packLe.length = 24 := rfl

end Header

/-! ## Message types and error codes of `relay_constants.hpp` -/

def kClientLogin : UInt32 := 1
def kClientHeartbeat : UInt32 := 2
def kClientControl : UInt32 := 3
def kClientData : UInt32 := 4

def kMsgDeliver : UInt32 := 200
def kMsgServerReply : UInt32 := 201
def kMsgKick : UInt32 := 202

def kIpNotAllowed : Nat := 1001
def kAuthFailed : Nat := 1002
def kInvalidLoginBody : Nat := 1003
def kProtocol : Nat := 1005

/-! ## Outgoing frames -/

/-- The arguments of one `pack_wire` call, the body as packer calls. -/
structure Wire where
  msgType : UInt32
  seq : UInt32
  body : List Tok
  deriving DecidableEq

/-- The string built by `pack_wire`: the body length is cast to 32 bits. -/
def Wire.bytes (w : Wire) : Bytes :=
  ({ msgType := w.msgType
     seq := w.seq
     bodyLen := UInt32.ofNat (packAll w.body).length } : Header).packLe ++
    packAll w.body

theorem Wire.bytes_length (w : Wire) :
    w.bytes.length = 24 + (packAll w.body).length := by
  simp [Wire.bytes, Header.packLe_length]

/-- The bytes handed over by writing the frames one after another. -/
def wireBytes (frames : List Wire) : Bytes :=
  frames.flatMap Wire.bytes

@[simp] theorem wireBytes_nil : wireBytes [] = [] := rfl

@[simp] theorem wireBytes_append (first second : List Wire) :
    wireBytes (first ++ second) = wireBytes first ++ wireBytes second := by
  simp [wireBytes]

@[simp] theorem wireBytes_singleton (w : Wire) : wireBytes [w] = w.bytes := by
  simp [wireBytes]

/-- The KICK notice of `notify_and_close`. -/
def kickWire (reason : Bytes) : Wire where
  msgType := kMsgKick
  seq := 0
  body := [.map 2, .str (lit "op"), .str (lit "KICK"),
    .str (lit "reason"), .str reason]

/-- The frame of `send_reply`. -/
def replyWire (seq : UInt32) (body : List Tok) : Wire where
  msgType := kMsgServerReply
  seq := seq
  body := body

/-- The frame of `send_err_reply`. -/
def errReplyWire (seq : UInt32) (code : Nat) (message : Bytes) : Wire :=
  replyWire seq [.map 3, .str (lit "ok"), .bool false,
    .str (lit "code"), .uint code, .str (lit "message"), .str message]

/-- The two-key acknowledgement of HEARTBEAT, DATA and most CONTROL
actions. -/
def okReplyWire (seq : UInt32) (op : Bytes) : Wire :=
  replyWire seq [.map 2, .str (lit "ok"), .bool true, .str (lit "op"), .str op]

/-- The body built by `pack_deliver_envelope`. -/
def packDeliverEnvelope (payload : Bytes) (srcConn dstConn : Nat)
    (srcUsername dstUsername : Bytes) : List Tok :=
  [.map 5, .str (lit "payload"), .castBin payload,
    .str (lit "src_conn_id"), .uint srcConn,
    .str (lit "dst_conn_id"), .uint dstConn,
    .str (lit "src_username"), .str srcUsername,
    .str (lit "dst_username"), .str dstUsername]

def deliverWire (seq : UInt32) (payload : Bytes) (srcConn dstConn : Nat)
    (srcUsername dstUsername : Bytes) : Wire where
  msgType := kMsgDeliver
  seq := seq
  body := packDeliverEnvelope payload srcConn dstConn srcUsername dstUsername

end AsioForwarder
