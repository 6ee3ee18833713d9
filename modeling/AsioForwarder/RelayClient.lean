import AsioForwarder.WireFormat

/-!
# The client's side of the wire

`RelayClient::recv` turns a frame into an event and `Client::sign_on` waits
for the answer to a LOGIN.  The frames are those the server builds, so the
body of a frame is a sequence of packer calls; `unpackToks` is the object
`msgpack::unpack` returns for the bytes of such calls.
-/

namespace AsioForwarder

/-! ## Unpacking what was packed -/

mutual

/-- The value the calls describe, and the calls after it. -/
def readTok : Nat → List Tok → Option (Obj × List Tok)
  | 0, _ => none
  | _, [] => none
  | _ + 1, .str value :: rest => some (.str value, rest)
  | _ + 1, .bin value :: rest => some (.bin value, rest)
  | _ + 1, .uint value :: rest => some (.positiveInteger value, rest)
  | _ + 1, .bool value :: rest => some (.boolean value, rest)
  | fuel + 1, .array size :: rest =>
      (readElements fuel size rest).map
        (fun read => (.array read.1, read.2))
  | fuel + 1, .map size :: rest =>
      (readEntries fuel size rest).map (fun read => (.map read.1, read.2))

def readElements : Nat → Nat → List Tok → Option (List Obj × List Tok)
  | _, 0, rest => some ([], rest)
  | 0, _ + 1, _ => none
  | fuel + 1, size + 1, rest =>
      match readTok fuel rest with
      | none => none
      | some (element, rest) =>
          (readElements fuel size rest).map
            (fun read => (element :: read.1, read.2))

def readEntries : Nat → Nat → List Tok → Option (ObjMap × List Tok)
  | _, 0, rest => some ([], rest)
  | 0, _ + 1, _ => none
  | fuel + 1, size + 1, rest =>
      match readTok fuel rest with
      | none => none
      | some (key, rest) =>
          match readTok fuel rest with
          | none => none
          | some (value, rest) =>
              (readEntries fuel size rest).map
                (fun read => ((key, value) :: read.1, read.2))

end

theorem readTok_str (fuel : Nat) (value : Bytes) (rest : List Tok) :
    readTok (fuel + 1) (.str value :: rest) = some (.str value, rest) := rfl

theorem readTok_bool (fuel : Nat) (value : Bool) (rest : List Tok) :
    readTok (fuel + 1) (.bool value :: rest) =
      some (.boolean value, rest) := rfl

theorem readTok_map (fuel size : Nat) (rest : List Tok) :
    readTok (fuel + 1) (.map size :: rest) =
      (readEntries fuel size rest).map
        (fun read => (.map read.1, read.2)) := rfl

theorem readEntries_zero (fuel : Nat) (rest : List Tok) :
    readEntries fuel 0 rest = some ([], rest) := by
  cases fuel <;> rfl

theorem readEntries_succ (fuel size : Nat) (rest : List Tok) :
    readEntries (fuel + 1) (size + 1) rest =
      (readTok fuel rest).bind (fun key =>
        (readTok fuel key.2).bind (fun value =>
          (readEntries fuel size value.2).map (fun read =>
            ((key.1, value.1) :: read.1, read.2)))) := by
  rw [readEntries]
  cases readTok fuel rest with
  | none => rfl
  | some key =>
      obtain ⟨key, rest⟩ := key
      dsimp only [Option.bind_some]
      cases readTok fuel rest <;> rfl

/-- A value takes at most two levels of fuel for each call. -/
def unpackToks (calls : List Tok) : Option Obj :=
  (readTok (2 * calls.length) calls).map Prod.fst

/-! ## `RelayClient::recv` -/

structure ServerReply where
  seq : UInt32
  ok : Bool := false
  op : Bytes := []
  message : Bytes := []
  deriving DecidableEq

/-- `fwd::sdk::Event`; of a `Deliver` only that it is one. -/
inductive ClientEvent where
  | deliver
  | serverReply (reply : ServerReply)
  | kick (reason : Bytes)
  deriving DecidableEq

namespace RelayClient

/-- `convert` to a `std::string`; `none` is the exception it throws. -/
def convertStr : Obj → Option Bytes
  | .str value => some value
  | .bin value => some value
  | _ => none

/-- Whether every `convert` of the loop over a DELIVER body succeeds. -/
def deliverConverts : ObjMap → Bool
  | [] => true
  | (.str key, value) :: rest =>
      (if key = lit "src_conn_id" ∨ key = lit "dst_conn_id" then
        match value with
        | .positiveInteger _ => true
        | _ => false
      else if key = lit "src_username" ∨ key = lit "dst_username" then
        (convertStr value).isSome
      else true) && deliverConverts rest
  | _ :: rest => deliverConverts rest

/-- The loop over a KICK body. -/
def kickReason : ObjMap → Bytes → Option Bytes
  | [], reason => some reason
  | (.str key, value) :: rest, reason =>
      if key = lit "reason" then
        match convertStr value with
        | none => none
        | some reason => kickReason rest reason
      else kickReason rest reason
  | _ :: rest, reason => kickReason rest reason

/-- The loop over a SERVER_REPLY body; a later entry of a key replaces an
earlier one. -/
def replyFields : ObjMap → ServerReply → ServerReply
  | [], reply => reply
  | (.str key, .boolean value) :: rest, reply =>
      if key = lit "ok" then replyFields rest { reply with ok := value }
      else replyFields rest reply
  | (.str key, .str value) :: rest, reply =>
      if key = lit "op" then replyFields rest { reply with op := value }
      else if key = lit "message" ∨ key = lit "error" then
        replyFields rest { reply with message := value }
      else replyFields rest reply
  | _ :: rest, reply => replyFields rest reply

/-- The event of one frame; `none` for a frame of unknown type and for one
whose body cannot be read. -/
def recv (frame : Wire) : Option ClientEvent :=
  if frame.msgType = kMsgDeliver then
    match unpackToks frame.body with
    | none => none
    | some (.map entries) =>
        if deliverConverts entries then some .deliver else none
    | some _ => some .deliver
  else if frame.msgType = kMsgKick then
    match unpackToks frame.body with
    | none => none
    | some (.map entries) => (kickReason entries []).map .kick
    | some _ => some (.kick [])
  else if frame.msgType = kMsgServerReply then
    match unpackToks frame.body with
    | none => none
    | some (.map entries) =>
        some (.serverReply (replyFields entries { seq := frame.seq }))
    | some _ => some (.serverReply { seq := frame.seq })
  else none

end RelayClient

/-! ## `Client::sign_on` -/

/-- How `sign_on` ends: it returns, throws one of its exceptions, or has no
further frame to read. -/
inductive SignOn where
  | returned
  | kicked (reason : Bytes)
  | deliverDuringLogin
  | refused (message : Bytes)
  | unexpected (op : Bytes)
  | eof
  deriving DecidableEq

/-- The loop of `sign_on` over the frames that arrive. -/
def signOn : List Wire → SignOn
  | [] => .eof
  | frame :: rest =>
      match RelayClient.recv frame with
      | none => .eof
      | some (.kick reason) => .kicked reason
      | some .deliver => .deliverDuringLogin
      | some (.serverReply reply) =>
          if reply.ok ∧ reply.op = lit "HEARTBEAT" then signOn rest
          else if !reply.ok then .refused reply.message
          else if reply.op = lit "LOGIN" then .returned
          else .unexpected reply.op

def Wire.isLoginOk (frame : Wire) : Bool :=
  match RelayClient.recv frame with
  | some (.serverReply reply) => reply.ok && reply.op = lit "LOGIN"
  | _ => false

theorem RelayClient.deliver_of_recv {frame : Wire}
    (hrecv : recv frame = some .deliver) : frame.msgType = kMsgDeliver := by
  by_contra hother
  simp only [recv, if_neg hother] at hrecv
  split at hrecv
  · split at hrecv
    · cases hrecv
    · rename_i entries _
      cases hreason : kickReason entries [] <;> simp [hreason] at hrecv
    · cases hrecv
  · split at hrecv
    · split at hrecv <;> cases hrecv
    · cases hrecv

/-- `sign_on` complains about a DELIVER only if one arrives before every ok
LOGIN reply.  KICK frames in between do not matter. -/
theorem deliver_of_signOn {frames : List Wire}
    (hdeliver : signOn frames = .deliverDuringLogin) :
    ∃ frame ∈ (frames.filter (fun frame => frame.msgType ≠ kMsgKick)).takeWhile
        (fun frame => !frame.isLoginOk),
      frame.msgType = kMsgDeliver := by
  induction frames with
  | nil => cases hdeliver
  | cons frame rest ih =>
      unfold signOn at hdeliver
      cases hrecv : RelayClient.recv frame with
      | none => simp [hrecv] at hdeliver
      | some event =>
          rw [hrecv] at hdeliver
          cases event with
          | kick reason => cases hdeliver
          | deliver =>
              have htype := RelayClient.deliver_of_recv hrecv
              refine ⟨frame, ?_, htype⟩
              rw [List.filter_cons_of_pos (by rw [htype]; decide),
                List.takeWhile_cons_of_pos (by simp [Wire.isLoginOk, hrecv])]
              exact List.mem_cons_self
          | serverReply reply =>
              dsimp only at hdeliver
              split at hdeliver
              · rename_i hheartbeat
                obtain ⟨other, hother, htype⟩ := ih hdeliver
                refine ⟨other, ?_, htype⟩
                have hnot : frame.isLoginOk = false := by
                  simp only [Wire.isLoginOk, hrecv, hheartbeat.1,
                    hheartbeat.2]
                  decide
                rw [List.filter_cons]
                split
                · rw [List.takeWhile_cons_of_pos (by simp [hnot])]
                  exact List.mem_cons_of_mem _ hother
                · exact hother
              · split at hdeliver
                · cases hdeliver
                · split at hdeliver <;> cases hdeliver

end AsioForwarder
