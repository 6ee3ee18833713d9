import AsioForwarder.RelayClient

/-!
# The events of the client

`RelayClient::recv` fills a `Deliver`, a `ServerReply` or a `Kick` from the
unpacked body of a frame.  `eventOf` is that part of it, with every field a
caller can read but the typed view of a payload; `recv_eq_eventOf` says that
`RelayClient.recv` on the packer calls of a body is `eventOf` with the fields
of a `Deliver` forgotten.
-/

namespace AsioForwarder

structure Deliver where
  seq : UInt32 := 0
  srcConnId : Nat := 0
  dstConnId : Nat := 0
  srcUsername : Bytes := []
  dstUsername : Bytes := []
  payload : Bytes := []
  deriving DecidableEq

inductive SdkEvent where
  | deliver (d : Deliver)
  | serverReply (reply : ServerReply)
  | kick (reason : Bytes)
  deriving DecidableEq

def SdkEvent.kind : SdkEvent → ClientEvent
  | .deliver _ => .deliver
  | .serverReply reply => .serverReply reply
  | .kick reason => .kick reason

namespace RelayClient

/-- `convert` to a `std::uint64_t`; `none` is the exception it throws. -/
def convertU64 : Obj → Option Nat
  | .positiveInteger value => some value
  | _ => none

/-- The bytes of a `payload` entry; a value of another type is passed
over. -/
def payloadOr (value : Obj) (payload : Bytes) : Bytes :=
  match value with
  | .bin bytes => bytes
  | .str bytes => bytes
  | _ => payload

def deliverEntry (key : Bytes) (value : Obj) (d : Deliver) :
    Option Deliver :=
  if key = lit "src_conn_id" then
    (convertU64 value).map (fun id => { d with srcConnId := id })
  else if key = lit "dst_conn_id" then
    (convertU64 value).map (fun id => { d with dstConnId := id })
  else if key = lit "src_username" then
    (convertStr value).map (fun name => { d with srcUsername := name })
  else if key = lit "dst_username" then
    (convertStr value).map (fun name => { d with dstUsername := name })
  else if key = lit "payload" then
    some { d with payload := payloadOr value d.payload }
  else some d

def deliverFields : ObjMap → Deliver → Option Deliver
  | [], d => some d
  | (.str key, value) :: rest, d =>
      match deliverEntry key value d with
      | none => none
      | some d => deliverFields rest d
  | _ :: rest, d => deliverFields rest d

/-- The event of a frame whose body unpacks to `unpacked`; `none` for a frame
of unknown type, and for the exceptions of `unpack` and `convert`. -/
def eventOf (msgType seq : UInt32) (unpacked : Option Obj) :
    Option SdkEvent :=
  if msgType = kMsgDeliver then
    match unpacked with
    | none => none
    | some (.map entries) => (deliverFields entries { seq := seq }).map .deliver
    | some _ => some (.deliver { seq := seq })
  else if msgType = kMsgKick then
    match unpacked with
    | none => none
    | some (.map entries) => (kickReason entries []).map .kick
    | some _ => some (.kick [])
  else if msgType = kMsgServerReply then
    match unpacked with
    | none => none
    | some (.map entries) =>
        some (.serverReply (replyFields entries { seq := seq }))
    | some _ => some (.serverReply { seq := seq })
  else none

def eventOfWire (frame : Wire) : Option SdkEvent :=
  eventOf frame.msgType frame.seq (unpackToks frame.body)

theorem convertU64_isSome (value : Obj) :
    (convertU64 value).isSome =
      match value with
      | .positiveInteger _ => true
      | _ => false := by
  cases value <;> rfl

theorem deliverEntry_isSome (key : Bytes) (value : Obj) (d : Deliver) :
    (deliverEntry key value d).isSome =
      if key = lit "src_conn_id" ∨ key = lit "dst_conn_id" then
        match value with
        | .positiveInteger _ => true
        | _ => false
      else if key = lit "src_username" ∨ key = lit "dst_username" then
        (convertStr value).isSome
      else true := by
  rw [← convertU64_isSome]
  unfold deliverEntry
  split
  · rename_i hsrc
    rw [if_pos (.inl hsrc), Option.isSome_map]
  rename_i hsrc
  split
  · rename_i hdst
    rw [if_pos (.inr hdst), Option.isSome_map]
  rename_i hdst
  rw [if_neg (not_or.mpr ⟨hsrc, hdst⟩)]
  split
  · rename_i hname
    rw [if_pos (.inl hname), Option.isSome_map]
  rename_i hname
  split
  · rename_i hname'
    rw [if_pos (.inr hname'), Option.isSome_map]
  rename_i hname'
  rw [if_neg (not_or.mpr ⟨hname, hname'⟩)]
  split <;> rfl

theorem deliverFields_isSome (entries : ObjMap) (d : Deliver) :
    (deliverFields entries d).isSome = deliverConverts entries := by
  induction entries generalizing d with
  | nil => rfl
  | cons entry rest ih =>
      obtain ⟨key, value⟩ := entry
      cases key with
      | str key =>
          have hconverts : deliverConverts ((.str key, value) :: rest) =
              ((deliverEntry key value d).isSome &&
                deliverConverts rest) := by
            rw [deliverEntry_isSome]
            cases value <;> rfl
          rw [deliverFields, hconverts]
          cases deliverEntry key value d with
          | none => rfl
          | some d => exact ih d
      | _ => exact ih d

theorem recv_eq_eventOf (frame : Wire) :
    recv frame = (eventOfWire frame).map SdkEvent.kind := by
  unfold recv eventOfWire eventOf
  generalize unpackToks frame.body = unpacked
  split
  · cases unpacked with
    | none => rfl
    | some obj =>
        cases obj with
        | map entries =>
            have hfields := deliverFields_isSome entries { seq := frame.seq }
            dsimp only
            cases hd : deliverFields entries { seq := frame.seq } with
            | none =>
                rw [hd] at hfields
                rw [← hfields]
                rfl
            | some d =>
                rw [hd] at hfields
                rw [← hfields]
                rfl
        | _ => rfl
  split
  · cases unpacked with
    | none => rfl
    | some obj =>
        cases obj with
        | map entries =>
            dsimp only
            rw [Option.map_map]
            rfl
        | _ => rfl
  split
  · cases unpacked with
    | none => rfl
    | some obj =>
        cases obj with
        | map entries => rfl
        | _ => rfl
  · rfl

end RelayClient

end AsioForwarder
