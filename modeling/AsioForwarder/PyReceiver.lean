import AsioForwarder.FrameDecoders
import AsioForwarder.SequenceNumbers

/-!
# The receiver of the Python client

`_rx_loop` of `relay_client.py` reads one frame after another from a socket
with a timeout.  `recv_all` keeps what it has read of a header or of a body in
a local buffer, and when the timeout strikes the loop starts over: these bytes
are lost, and the loop goes on in the middle of a frame.
-/

namespace AsioForwarder

namespace PyRelayClient

/-! ## The socket -/

/-- What `recv` calls on the socket meet: a segment, or the end of a waiting
time in which nothing arrived.  After the last one the peer has closed. -/
inductive Arrival where
  | bytes (chunk : Bytes)
  | timeout
  deriving DecidableEq

/-- `sock.recv(n)`: at most `n` bytes of the next segment.  `none` is
`socket.timeout`, and no bytes mean the end of the stream. -/
def recv (n : Nat) : List Arrival → Option Bytes × List Arrival
  | [] => (some [], [])
  | .timeout :: rest => (none, rest)
  | .bytes chunk :: rest =>
      if chunk.length ≤ n then (some chunk, rest)
      else (some (chunk.take n), .bytes (chunk.drop n) :: rest)

/-- Why the loop ends: `EOFError`, `ValueError("bad header")`, and the
exceptions of the code which unpacks a body. -/
inductive Failure where
  | peerClosed
  | badHeader
  | badBody
  deriving DecidableEq

inductive Outcome (α : Type) where
  | got (value : α)
  | timeout
  | failed (why : Failure)
  deriving DecidableEq

/-- The loop of `recv_all`. -/
def recvAllFrom (n : Nat) (buf : Bytes) (sock : List Arrival) :
    Outcome Bytes × List Arrival :=
  if buf.length < n then
    match recv (n - buf.length) sock with
    | (none, rest) => (.timeout, rest)
    | (some [], rest) => (.failed .peerClosed, rest)
    | (some (first :: more), rest) => recvAllFrom n (buf ++ first :: more) rest
  else (.got buf, sock)
termination_by n - buf.length
decreasing_by
  rw [List.length_append, List.length_cons]
  omega

/-- `recv_all` of `forwarder_wire.py`. -/
def recvAll (n : Nat) (sock : List Arrival) : Outcome Bytes × List Arrival :=
  recvAllFrom n [] sock

/-- `recv_frame` of `forwarder_wire.py`. -/
def recvFrame (sock : List Arrival) : Outcome ParsedFrame × List Arrival :=
  match recvAll 24 sock with
  | (.timeout, rest) => (.timeout, rest)
  | (.failed why, rest) => (.failed why, rest)
  | (.got hb, rest) =>
      let h := Header.unpackLe hb
      if h.magic ≠ Header.kMagic ∨ h.version ≠ Header.kVersion ∨
          h.headerLen ≠ Header.kHeaderLen then (.failed .badHeader, rest)
      else if h.bodyLen ≠ 0 then
        match recvAll h.bodyLen.toNat rest with
        | (.timeout, rest) => (.timeout, rest)
        | (.failed why, rest) => (.failed why, rest)
        | (.got body, rest) => (.got ⟨h, body⟩, rest)
      else (.got ⟨h, []⟩, rest)

/-! ## What a `recv` takes -/

/-- The bytes of the stream. -/
def stream : List Arrival → Bytes
  | [] => []
  | .bytes chunk :: rest => chunk ++ stream rest
  | .timeout :: rest => stream rest

/-- How many bytes precede each timeout. -/
def timeoutsAt : List Arrival → List Nat
  | [] => []
  | .bytes chunk :: rest => (timeoutsAt rest).map (chunk.length + ·)
  | .timeout :: rest => 0 :: timeoutsAt rest

/-- Only the end of the stream delivers no bytes. -/
def Segments (sock : List Arrival) : Prop :=
  ∀ arrival ∈ sock, arrival ≠ .bytes []

instance (sock : List Arrival) : Decidable (Segments sock) :=
  inferInstanceAs (Decidable (∀ arrival ∈ sock, arrival ≠ .bytes []))

/-- `taken` are the bytes between two positions with no timeout in between. -/
structure Takes (taken : Bytes) (sock rest : List Arrival) : Prop where
  stream : stream sock = taken ++ PyRelayClient.stream rest
  timeouts : timeoutsAt sock = (timeoutsAt rest).map (taken.length + ·)
  segments : Segments rest

theorem Segments.tail {arrival : Arrival} {rest : List Arrival}
    (hsegments : Segments (arrival :: rest)) : Segments rest :=
  fun other hother => hsegments other (List.mem_cons_of_mem _ hother)

theorem Takes.refl {sock : List Arrival} (hsegments : Segments sock) :
    Takes [] sock sock where
  stream := rfl
  timeouts := by simp
  segments := hsegments

theorem Takes.trans {first second : Bytes} {sock middle rest : List Arrival}
    (hfirst : Takes first sock middle) (hsecond : Takes second middle rest) :
    Takes (first ++ second) sock rest where
  stream := by rw [hfirst.stream, hsecond.stream, List.append_assoc]
  timeouts := by
    rw [hfirst.timeouts, hsecond.timeouts, List.map_map]
    apply List.map_congr_left
    intro position _
    rw [Function.comp_apply, List.length_append, Nat.add_assoc]
  segments := hsecond.segments

inductive Received (n : Nat) :
    List Arrival → Option Bytes × List Arrival → Prop where
  | timeout (rest : List Arrival) : Received n (.timeout :: rest) (none, rest)
  | peerClosed : Received n [] (some [], [])
  | some (first : UInt8) (more : Bytes) (sock rest : List Arrival)
      (hle : (first :: more).length ≤ n)
      (htakes : Takes (first :: more) sock rest) :
      Received n sock (some (first :: more), rest)

theorem received_recv {n : Nat} (hn : 0 < n) {sock : List Arrival}
    (hsegments : Segments sock) : Received n sock (recv n sock) := by
  cases sock with
  | nil => exact .peerClosed
  | cons arrival rest =>
      cases arrival with
      | timeout => exact .timeout rest
      | bytes chunk =>
          cases chunk with
          | nil => exact absurd rfl (hsegments _ List.mem_cons_self)
          | cons first more =>
              rw [recv]
              split
              · rename_i hshort
                exact .some first more _ rest hshort
                  ⟨rfl, rfl, hsegments.tail⟩
              · rename_i hlong
                obtain ⟨n, rfl⟩ := Nat.exists_eq_succ_of_ne_zero hn.ne'
                rw [List.length_cons] at hlong
                have hlength : (more.take n).length = n := by
                  rw [List.length_take]
                  omega
                refine .some first (more.take n) _ _ ?_ ⟨?_, ?_, ?_⟩
                · rw [List.length_cons, hlength]
                · rw [stream, stream, List.drop_succ_cons, List.cons_append,
                    List.cons_append, ← List.append_assoc,
                    List.take_append_drop]
                · simp only [timeoutsAt, List.drop_succ_cons, List.map_map]
                  apply List.map_congr_left
                  intro position _
                  rw [Function.comp_apply, List.length_cons, List.length_cons,
                    List.length_drop, hlength]
                  omega
                · intro other hother
                  rcases List.mem_cons.mp hother with rfl | hother
                  · simp only [ne_eq, Arrival.bytes.injEq,
                      List.drop_succ_cons, List.drop_eq_nil_iff]
                    omega
                  · exact hsegments.tail other hother

theorem received_of_recv {n len : Nat} (hmore : len < n)
    {sock rest : List Arrival} {got : Option Bytes}
    (hsegments : Segments sock) (hrecv : recv (n - len) sock = (got, rest)) :
    Received (n - len) sock (got, rest) := by
  rw [← hrecv]
  exact received_recv (by omega) hsegments

inductive AllReceived (n : Nat) (sock : List Arrival) :
    Outcome Bytes × List Arrival → Prop where
  | got (taken : Bytes) (rest : List Arrival) (hlength : taken.length = n)
      (htakes : Takes taken sock rest) : AllReceived n sock (.got taken, rest)
  | timeout (lost : Bytes) (rest : List Arrival) (hshort : lost.length < n)
      (htakes : Takes lost sock (.timeout :: rest)) :
      AllReceived n sock (.timeout, rest)
  | peerClosed (lost : Bytes) (rest : List Arrival)
      (hshort : lost.length < n) (htakes : Takes lost sock []) :
      AllReceived n sock (.failed .peerClosed, rest)

/-- The buffer is what the loop has taken so far. -/
theorem allReceived_from {n : Nat} {buf : Bytes} (hbuf : buf.length ≤ n)
    {start sock : List Arrival} (htaken : Takes buf start sock) :
    AllReceived n start (recvAllFrom n buf sock) := by
  fun_induction recvAllFrom n buf sock with
  | case1 buf sock hmore rest hrecv =>
      have hreceived := received_of_recv hmore htaken.segments hrecv
      cases hreceived
      exact .timeout buf rest hmore htaken
  | case2 buf sock hmore rest hrecv =>
      have hreceived := received_of_recv hmore htaken.segments hrecv
      cases hreceived
      exact .peerClosed buf [] hmore htaken
  | case3 buf sock hmore first more rest hrecv ih =>
      have hreceived := received_of_recv hmore htaken.segments hrecv
      cases hreceived with
      | some _ _ _ _ hle htakes =>
          apply ih ?_ (htaken.trans htakes)
          rw [List.length_append]
          omega
  | case4 buf sock hmore => exact .got buf sock (by omega) htaken

theorem allReceived_recvAll (n : Nat) {sock : List Arrival}
    (hsegments : Segments sock) : AllReceived n sock (recvAll n sock) :=
  allReceived_from (Nat.zero_le n) (Takes.refl hsegments)

/-! ## What a `recv_frame` takes -/

/-- The bytes of a frame on the wire. -/
def frameBytes (f : ParsedFrame) : Bytes :=
  f.header.packLe ++ f.body

/-- A header announces the body of its frame. -/
def WellFramed (f : ParsedFrame) : Prop :=
  f.header.valid = true ∧ f.body.length = f.header.bodyLen.toNat

/-- The beginning of a frame, with the header or without. -/
inductive Incomplete : Bytes → Prop where
  | header (lost : Bytes) (hshort : lost.length < 24) : Incomplete lost
  | body (hb part : Bytes) (hlength : hb.length = 24)
      (hshort : part.length < (Header.unpackLe hb).bodyLen.toNat) :
      Incomplete (hb ++ part)

inductive FrameRead (sock : List Arrival) :
    Outcome ParsedFrame × List Arrival → Prop where
  | got (f : ParsedFrame) (rest : List Arrival) (hframed : WellFramed f)
      (htakes : Takes (frameBytes f) sock rest) :
      FrameRead sock (.got f, rest)
  | timeout (lost : Bytes) (rest : List Arrival)
      (hincomplete : Incomplete lost)
      (htakes : Takes lost sock (.timeout :: rest)) :
      FrameRead sock (.timeout, rest)
  | peerClosed (lost : Bytes) (rest : List Arrival)
      (hincomplete : Incomplete lost) (htakes : Takes lost sock []) :
      FrameRead sock (.failed .peerClosed, rest)
  | badHeader (hb : Bytes) (rest : List Arrival) (hlength : hb.length = 24)
      (hinvalid : (Header.unpackLe hb).valid = false)
      (htakes : Takes hb sock rest) :
      FrameRead sock (.failed .badHeader, rest)

theorem frameBytes_of_read {hb body : Bytes} (hlength : hb.length = 24) :
    frameBytes ⟨Header.unpackLe hb, body⟩ = hb ++ body := by
  rw [frameBytes, Header.packLe_unpackLe hb hlength]

theorem frameRead_recvFrame {sock : List Arrival}
    (hsegments : Segments sock) : FrameRead sock (recvFrame sock) := by
  unfold recvFrame
  have hheader := allReceived_recvAll 24 hsegments
  generalize recvAll 24 sock = outcome at hheader
  cases hheader with
  | timeout lost rest hshort htakes =>
      exact .timeout lost rest (.header lost hshort) htakes
  | peerClosed lost rest hshort htakes =>
      exact .peerClosed lost rest (.header lost hshort) htakes
  | got hb rest hlength htakes =>
      dsimp only
      cases hvalid : (Header.unpackLe hb).valid with
      | false =>
          rw [if_pos (Header.valid_eq_false.mp hvalid)]
          exact .badHeader hb rest hlength hvalid htakes
      | true =>
          rw [if_neg (by rw [← Header.valid_eq_false, hvalid]; decide)]
          split
          · have hbody := allReceived_recvAll (Header.unpackLe hb).bodyLen.toNat
              htakes.segments
            generalize recvAll (Header.unpackLe hb).bodyLen.toNat rest =
              outcome at hbody
            cases hbody with
            | timeout lost last hshort hlater =>
                exact .timeout _ last (.body hb lost hlength hshort)
                  (htakes.trans hlater)
            | peerClosed lost last hshort hlater =>
                exact .peerClosed _ last (.body hb lost hlength hshort)
                  (htakes.trans hlater)
            | got body last hlength' hlater =>
                refine .got _ last ⟨hvalid, hlength'⟩ ?_
                rw [frameBytes_of_read hlength]
                exact htakes.trans hlater
          · rename_i hzero
            rw [not_not] at hzero
            refine .got _ rest ⟨hvalid, by rw [hzero]; rfl⟩ ?_
            rw [frameBytes_of_read hlength, List.append_nil]
            exact htakes

theorem frameRead_of_recvFrame {sock rest : List Arrival}
    {outcome : Outcome ParsedFrame} (hsegments : Segments sock)
    (hread : recvFrame sock = (outcome, rest)) :
    FrameRead sock (outcome, rest) := by
  rw [← hread]
  exact frameRead_recvFrame hsegments

/-! ## `_rx_loop` -/

/-- `msgpack.unpackb(body, raw=False)`, and `int` and `str` of the objects it
returns; `none` is an exception.  A `dict` is a map whose keys are
distinct. -/
structure Builtins where
  unpackb : Bytes → Option Obj
  int : Obj → Option Int
  str : Obj → Bytes

structure Deliver where
  seq : UInt32
  payload : Bytes
  srcConnId : Int
  dstConnId : Int
  srcUsername : Bytes
  dstUsername : Bytes

inductive Event where
  | deliver (d : Deliver)
  | serverReply (seq : UInt32) (body : ObjMap)
  | kickNotice (seq : UInt32) (reason : Bytes)

/-- The fields of a `RelayClient` which the loop writes.  `dispatched` are the
objects handed to the callbacks or put into the inboxes, each with its
frame. -/
structure Receiver where
  loggedIn : Bool := false
  userId : Int := 0
  username : Bytes := []
  peerRole : Bytes := lit "user"
  connId : Int := 0
  dispatched : List (ParsedFrame × Event) := []

namespace Builtins

/-- `int(o.get(key, 0))`. -/
def getInt (py : Builtins) (o : ObjMap) (key : Bytes) : Option Int :=
  match mapGetObj o key with
  | none => some 0
  | some value => py.int value

/-- `str(o.get(key, default))`. -/
def getStr (py : Builtins) (o : ObjMap) (key default : Bytes) : Bytes :=
  match mapGetObj o key with
  | none => default
  | some value => py.str value

/-- `unpack_deliver_body`, with the sequence number of the frame. -/
def unpackDeliverBody (py : Builtins) (seq : UInt32) (body : Bytes) :
    Option Deliver :=
  match py.unpackb body with
  | some (.map o) =>
      match mapGetObj o (lit "payload") with
      | some (.bin pl) => do
          let src ← py.getInt o (lit "src_conn_id")
          let dst ← py.getInt o (lit "dst_conn_id")
          return ⟨seq, pl, src, dst, py.getStr o (lit "src_username") [],
            py.getStr o (lit "dst_username") []⟩
      | _ => none
  | _ => none

/-- `msgpack.unpackb(body_raw) if body_raw else {}`. -/
def unpackBody (py : Builtins) (body : Bytes) : Option Obj :=
  if body ≠ [] then py.unpackb body else some (.map [])

/-- What a successful LOGIN reply does to the session fields. -/
def noteLogin (py : Builtins) (obj : Obj) (c : Receiver) : Option Receiver :=
  match obj with
  | .map o =>
      match mapGetObj o (lit "ok"), mapGetObj o (lit "op") with
      | some (.boolean true), some (.str op) =>
          if op = lit "LOGIN" then do
            let userId ← py.getInt o (lit "user_id")
            let connId ← py.getInt o (lit "conn_id")
            return { c with
              loggedIn := true
              userId := userId
              username := py.getStr o (lit "username") []
              peerRole := py.getStr o (lit "peer_role") (lit "user")
              connId := connId }
          else some c
      | _, _ => some c
  | _ => some c

def replyBody : Obj → ObjMap
  | .map o => o
  | obj => [(.str (lit "raw"), obj)]

/-- `str(obj.get("reason", "")) if isinstance(obj, dict) else ""`. -/
def kickReason (py : Builtins) : Obj → Bytes
  | .map o => py.getStr o (lit "reason") []
  | _ => []

/-- The part of the loop after `recv_frame`. -/
def dispatch (py : Builtins) (f : ParsedFrame) (c : Receiver) :
    Option Receiver :=
  let put event := { c with dispatched := c.dispatched ++ [(f, event)] }
  if f.header.msgType = kMsgDeliver then
    (py.unpackDeliverBody f.header.seq f.body).map (fun d => put (.deliver d))
  else if f.header.msgType = kMsgServerReply then
    match py.unpackBody f.body with
    | none => none
    | some obj =>
        (py.noteLogin obj c).map (fun noted =>
          { noted with dispatched := c.dispatched ++
              [(f, .serverReply f.header.seq (replyBody obj))] })
  else if f.header.msgType = kMsgKick then
    (py.unpackBody f.body).map (fun obj =>
      put (.kickNotice f.header.seq (py.kickReason obj)))
  else some c

end Builtins

/-- A measure of what is still to arrive. -/
def size : List Arrival → Nat
  | [] => 0
  | .bytes chunk :: rest => chunk.length + 1 + size rest
  | .timeout :: rest => 1 + size rest

theorem size_recv {n : Nat} {sock rest : List Arrival} {got : Option Bytes}
    (hrecv : recv n sock = (got, rest)) :
    size rest ≤ size sock ∧ (got ≠ some [] → size rest < size sock) := by
  cases sock with
  | nil =>
      cases hrecv
      exact ⟨Nat.le_refl _, fun hnot => absurd rfl hnot⟩
  | cons arrival later =>
      cases arrival with
      | timeout =>
          cases hrecv
          rw [size]
          exact ⟨by omega, fun _ => by omega⟩
      | bytes chunk =>
          rw [recv] at hrecv
          split at hrecv
          · cases hrecv
            rw [size]
            exact ⟨by omega, fun _ => by omega⟩
          · cases hrecv
            rw [size, size, List.length_drop]
            refine ⟨by omega, fun hnot => ?_⟩
            have hn : n ≠ 0 := by
              rintro rfl
              exact hnot rfl
            omega

theorem size_recvAllFrom {n : Nat} {buf : Bytes} {sock rest : List Arrival}
    {outcome : Outcome Bytes}
    (hrecv : recvAllFrom n buf sock = (outcome, rest)) :
    size rest ≤ size sock ∧
      (buf.length < n → outcome ≠ .failed .peerClosed →
        size rest < size sock) := by
  fun_induction recvAllFrom n buf sock with
  | case1 buf sock hmore rest' hsome =>
      cases hrecv
      obtain ⟨hle, hlt⟩ := size_recv hsome
      exact ⟨hle, fun _ _ => hlt (by simp)⟩
  | case2 buf sock hmore rest' hsome =>
      cases hrecv
      exact ⟨(size_recv hsome).1, fun _ hnot => absurd rfl hnot⟩
  | case3 buf sock hmore first more rest' hsome ih =>
      have hlt := (size_recv hsome).2 (by simp)
      have hle := (ih hrecv).1
      exact ⟨by omega, fun _ _ => by omega⟩
  | case4 buf sock hmore =>
      cases hrecv
      exact ⟨Nat.le_refl _, fun hless => absurd hless hmore⟩

theorem size_recvAll {n : Nat} {sock rest : List Arrival}
    {outcome : Outcome Bytes} (hrecv : recvAll n sock = (outcome, rest)) :
    size rest ≤ size sock ∧
      (0 < n → outcome ≠ .failed .peerClosed → size rest < size sock) :=
  size_recvAllFrom hrecv

theorem size_recvFrame {sock rest : List Arrival}
    {outcome : Outcome ParsedFrame} (hread : recvFrame sock = (outcome, rest))
    (hgoes : ∀ why, outcome ≠ .failed why) : size rest < size sock := by
  unfold recvFrame at hread
  split at hread
  · rename_i last hrecv
    cases hread
    exact (size_recvAll hrecv).2 (by decide) (by simp)
  · cases hread
    exact absurd rfl (hgoes _)
  · rename_i hb last hrecv
    have hlt := (size_recvAll hrecv).2 (by decide) (by simp)
    dsimp only at hread
    split at hread
    · cases hread
      exact absurd rfl (hgoes _)
    split at hread
    · split at hread
      · rename_i final hrecv'
        cases hread
        exact Nat.lt_of_le_of_lt (size_recvAll hrecv').1 hlt
      · cases hread
        exact absurd rfl (hgoes _)
      · rename_i body final hrecv'
        cases hread
        exact Nat.lt_of_le_of_lt (size_recvAll hrecv').1 hlt
    · cases hread
      exact hlt

/-- `_rx_loop` while nobody calls `close`: `socket.timeout` starts it over,
and any other exception ends it. -/
def rxLoop (py : Builtins) (sock : List Arrival) (c : Receiver) :
    Receiver × Failure :=
  match _hread : recvFrame sock with
  | (.timeout, rest) => rxLoop py rest c
  | (.failed why, _) => (c, why)
  | (.got f, rest) =>
      match py.dispatch f c with
      | none => (c, .badBody)
      | some c => rxLoop py rest c
termination_by size sock
decreasing_by
  · exact size_recvFrame _hread (by simp)
  · exact size_recvFrame _hread (by simp)

section Iteration

variable {py : Builtins} {sock rest : List Arrival}

theorem rxLoop_timeout (hread : recvFrame sock = (.timeout, rest))
    (c : Receiver) : rxLoop py sock c = rxLoop py rest c := by
  rw [rxLoop]
  split
  · rename_i hread'
    cases hread.symm.trans hread'
    rfl
  · rename_i hread'
    cases hread.symm.trans hread'
  · rename_i hread'
    cases hread.symm.trans hread'

theorem rxLoop_failed {why : Failure}
    (hread : recvFrame sock = (.failed why, rest)) (c : Receiver) :
    rxLoop py sock c = (c, why) := by
  rw [rxLoop]
  split
  · rename_i hread'
    cases hread.symm.trans hread'
  · rename_i hread'
    cases hread.symm.trans hread'
    rfl
  · rename_i hread'
    cases hread.symm.trans hread'

theorem rxLoop_got {f : ParsedFrame} {c c' : Receiver}
    (hread : recvFrame sock = (.got f, rest))
    (hdispatch : py.dispatch f c = some c') :
    rxLoop py sock c = rxLoop py rest c' := by
  rw [rxLoop]
  split
  · rename_i hread'
    cases hread.symm.trans hread'
  · rename_i hread'
    cases hread.symm.trans hread'
  · rename_i hread'
    cases hread.symm.trans hread'
    rw [hdispatch]

end Iteration

/-! ## Synchronisation -/

def encodeAll (frames : List ParsedFrame) : Bytes := frames.flatMap frameBytes

/-- A complete frame of a type the server sends, on which the loop raises no
exception. -/
structure ServerFrame (py : Builtins) (f : ParsedFrame) : Prop where
  framed : WellFramed f
  known : RelayClient.knownType f.header.msgType = true
  readable : ∀ c, (py.dispatch f c).isSome = true

/-- The loop has dispatched these frames, in order, and no header was
refused. -/
def Synchronised (py : Builtins) (frames : List ParsedFrame)
    (sock : List Arrival) (c : Receiver) : Prop :=
  (rxLoop py sock c).1.dispatched.map Prod.fst =
      c.dispatched.map Prod.fst ++ frames ∧
    (rxLoop py sock c).2 ≠ .badHeader

/-- Every timeout strikes between two frames. -/
def BetweenFrames (frames : List ParsedFrame) (sock : List Arrival) : Prop :=
  ∀ position ∈ timeoutsAt sock,
    ∃ k, position = (encodeAll (frames.take k)).length

theorem dispatch_eq_some {py : Builtins} {f : ParsedFrame}
    {c c' : Receiver} (hdispatch : py.dispatch f c = some c') :
    (RelayClient.knownType f.header.msgType = false ∧
      c'.dispatched = c.dispatched) ∨
    ∃ event, c'.dispatched = c.dispatched ++ [(f, event)] := by
  unfold Builtins.dispatch at hdispatch
  dsimp only at hdispatch
  split at hdispatch
  · obtain ⟨d, _, rfl⟩ := Option.map_eq_some_iff.mp hdispatch
    exact .inr ⟨_, rfl⟩
  rename_i hdeliver
  split at hdispatch
  · split at hdispatch
    · cases hdispatch
    · obtain ⟨noted, _, rfl⟩ := Option.map_eq_some_iff.mp hdispatch
      exact .inr ⟨_, rfl⟩
  rename_i hreply
  split at hdispatch
  · obtain ⟨obj, _, rfl⟩ := Option.map_eq_some_iff.mp hdispatch
    exact .inr ⟨_, rfl⟩
  · rename_i hkick
    cases hdispatch
    exact .inl ⟨by simp [RelayClient.knownType, hdeliver, hreply, hkick], rfl⟩

theorem dispatch_kick {py : Builtins} {f : ParsedFrame} {c : Receiver}
    (htype : f.header.msgType = kMsgKick) :
    (py.dispatch f c).isSome = (py.unpackBody f.body).isSome := by
  simp [Builtins.dispatch, htype, kMsgKick, kMsgDeliver, kMsgServerReply]

theorem ServerFrame.dispatch {py : Builtins} {f : ParsedFrame}
    (hframe : ServerFrame py f) (c : Receiver) :
    ∃ c' event, py.dispatch f c = some c' ∧
      c'.dispatched = c.dispatched ++ [(f, event)] := by
  obtain ⟨c', hdispatch⟩ := Option.isSome_iff_exists.mp (hframe.readable c)
  rcases dispatch_eq_some hdispatch with ⟨hunknown, _⟩ | ⟨event, hevent⟩
  · rw [hframe.known] at hunknown
    cases hunknown
  · exact ⟨c', event, hdispatch, hevent⟩

section Frames

variable {f g : ParsedFrame} {frames : List ParsedFrame}
  {lost left right : Bytes}

@[simp] theorem encodeAll_nil : encodeAll [] = [] := rfl

@[simp] theorem encodeAll_cons (f : ParsedFrame) (frames : List ParsedFrame) :
    encodeAll (f :: frames) = frameBytes f ++ encodeAll frames := rfl

theorem frameBytes_length (f : ParsedFrame) :
    (frameBytes f).length = 24 + f.body.length := by
  rw [frameBytes, List.length_append, Header.packLe_length]

theorem header_of_frameBytes {hb : Bytes} (hlength : hb.length = 24)
    (hsame : hb ++ left = frameBytes g ++ right) :
    Header.unpackLe hb = g.header := by
  rw [frameBytes, List.append_assoc] at hsame
  obtain ⟨hheader, _⟩ := List.append_inj hsame
    (hlength.trans (Header.packLe_length _).symm)
  rw [hheader]
  simpa using Header.unpackLe_packLe g.header []

/-- A stream begins with at most one complete frame. -/
theorem frameBytes_inj (hf : WellFramed f) (hg : WellFramed g)
    (hsame : frameBytes f ++ left = frameBytes g ++ right) :
    f = g ∧ left = right := by
  have hheader : f.header = g.header := by
    rw [frameBytes, List.append_assoc] at hsame
    rw [← header_of_frameBytes (Header.packLe_length f.header) hsame]
    simpa using (Header.unpackLe_packLe f.header []).symm
  have hlength : (frameBytes f).length = (frameBytes g).length := by
    rw [frameBytes_length, frameBytes_length, hf.2, hg.2, hheader]
  obtain ⟨hbytes, hrest⟩ := List.append_inj hsame hlength
  rw [frameBytes, frameBytes, hheader, List.append_cancel_left_eq] at hbytes
  obtain ⟨header, body⟩ := f
  obtain ⟨header', body'⟩ := g
  exact ⟨by rw [show header = header' from hheader,
    show body = body' from hbytes], hrest⟩

theorem Incomplete.length_lt (hincomplete : Incomplete lost)
    (hg : WellFramed g) (hsame : lost ++ left = frameBytes g ++ right) :
    lost.length < (frameBytes g).length := by
  rw [frameBytes_length]
  cases hincomplete with
  | header _ hshort => omega
  | body hb part hlength hshort =>
      rw [List.append_assoc] at hsame
      rw [header_of_frameBytes hlength hsame, ← hg.2] at hshort
      rw [List.length_append, hlength]
      omega

end Frames

/-! ## Lost bytes -/

/-- The frames dispatched are paid for by the bytes of the stream. -/
theorem dispatched_length_le (py : Builtins) {sock : List Arrival}
    (hsegments : Segments sock) (c : Receiver) :
    (encodeAll ((rxLoop py sock c).1.dispatched.map Prod.fst)).length ≤
      (encodeAll (c.dispatched.map Prod.fst)).length +
        (stream sock).length := by
  fun_induction rxLoop py sock c with
  | case1 sock c rest hread ih =>
      have hframe := frameRead_of_recvFrame hsegments hread
      cases hframe with
      | timeout lost _ _ htakes =>
          have hrest := ih htakes.segments.tail
          rw [htakes.stream, List.length_append, stream]
          omega
  | case2 sock c why rest hread => exact Nat.le_add_right _ _
  | case3 sock c f rest hread hdispatch => exact Nat.le_add_right _ _
  | case4 sock c f rest hread c' hdispatch ih =>
      have hframe := frameRead_of_recvFrame hsegments hread
      cases hframe with
      | got _ _ _ htakes =>
          have hrest := ih htakes.segments
          rw [htakes.stream, List.length_append]
          rcases dispatch_eq_some hdispatch with ⟨_, hsame⟩ | ⟨event, hput⟩
          · rw [hsame] at hrest
            omega
          · rw [hput, List.map_append] at hrest
            simp only [encodeAll, List.map_cons, List.map_nil,
              List.flatMap_append, List.flatMap_cons, List.flatMap_nil,
              List.append_nil, List.length_append] at hrest ⊢
            omega

/-- Lost bytes are missed at the end. -/
theorem not_synchronised_of_lost {py : Builtins} {sock rest : List Arrival}
    {lost : Bytes} {frames : List ParsedFrame} (c : Receiver)
    (hread : recvFrame sock = (.timeout, rest)) (hrest : Segments rest)
    (hstream : encodeAll frames = lost ++ stream rest) (hlost : lost ≠ []) :
    ¬Synchronised py frames sock c := by
  rintro ⟨hframes, _⟩
  have hle := dispatched_length_le py hrest c
  rw [← rxLoop_timeout hread, hframes] at hle
  have hpos := List.length_pos_iff.mpr hlost
  have hlength := congrArg List.length hstream
  simp only [encodeAll, List.flatMap_append, List.length_append] at hle hlength
  omega

/-! ## Timeouts between frames -/

section Timeouts

variable {frames : List ParsedFrame} {f : ParsedFrame}
  {sock rest : List Arrival} {lost : Bytes}

theorem betweenFrames_idle (htakes : Takes [] sock (.timeout :: rest)) :
    BetweenFrames frames sock ↔ BetweenFrames frames rest := by
  have htimeouts : timeoutsAt sock = 0 :: timeoutsAt rest := by
    rw [htakes.timeouts, timeoutsAt]
    simp
  rw [BetweenFrames, htimeouts, List.forall_mem_cons]
  exact and_iff_right ⟨0, rfl⟩

theorem betweenFrames_frame (htakes : Takes (frameBytes f) sock rest) :
    BetweenFrames (f :: frames) sock ↔ BetweenFrames frames rest := by
  have hlength := frameBytes_length f
  rw [BetweenFrames, htakes.timeouts, List.forall_mem_map]
  constructor
  · intro hbetween position hposition
    obtain ⟨k, hk⟩ := hbetween position hposition
    cases k with
    | zero =>
        rw [List.take_zero, encodeAll_nil, List.length_nil] at hk
        omega
    | succ k =>
        rw [List.take_succ_cons, encodeAll_cons, List.length_append] at hk
        exact ⟨k, by omega⟩
  · intro hbetween position hposition
    obtain ⟨k, rfl⟩ := hbetween position hposition
    exact ⟨k + 1, by
      rw [List.take_succ_cons, encodeAll_cons, List.length_append]⟩

theorem not_betweenFrames (htakes : Takes lost sock (.timeout :: rest))
    (hlost : lost ≠ []) (hshort : lost.length < (frameBytes f).length) :
    ¬BetweenFrames (f :: frames) sock := by
  intro hbetween
  obtain ⟨k, hk⟩ := hbetween lost.length (by
    rw [htakes.timeouts, timeoutsAt]
    simp)
  have hpos := List.length_pos_iff.mpr hlost
  cases k with
  | zero =>
      rw [List.take_zero, encodeAll_nil, List.length_nil] at hk
      omega
  | succ k =>
      rw [List.take_succ_cons, encodeAll_cons, List.length_append] at hk
      omega

end Timeouts

/-- A stream of frames, of which a `recv_frame` takes the first one. -/
theorem frames_of_got {frames : List ParsedFrame} {f : ParsedFrame}
    {rest : Bytes} (hframes : ∀ g ∈ frames, WellFramed g)
    (hf : WellFramed f) (hstream : frameBytes f ++ rest = encodeAll frames) :
    ∃ later, frames = f :: later ∧ rest = encodeAll later := by
  cases frames with
  | nil =>
      have hlength := congrArg List.length hstream
      rw [List.length_append, frameBytes_length] at hlength
      rw [encodeAll_nil, List.length_nil] at hlength
      omega
  | cons g later =>
      rw [encodeAll_cons] at hstream
      obtain ⟨rfl, hrest⟩ :=
        frameBytes_inj hf (hframes g List.mem_cons_self) hstream
      exact ⟨later, rfl, hrest⟩

theorem frames_of_lost {frames : List ParsedFrame} {lost rest : Bytes}
    (hframes : ∀ g ∈ frames, WellFramed g) (hincomplete : Incomplete lost)
    (hstream : lost ++ rest = encodeAll frames) (hlost : lost ≠ []) :
    ∃ f later, frames = f :: later ∧
      lost.length < (frameBytes f).length := by
  cases frames with
  | nil => exact absurd (List.append_eq_nil_iff.mp hstream).1 hlost
  | cons f later =>
      exact ⟨f, later, rfl,
        hincomplete.length_lt (hframes f List.mem_cons_self) hstream⟩

/-- On a stream of frames only its end ends the loop. -/
theorem nothing_left_of_failed {frames : List ParsedFrame}
    (hframes : ∀ f ∈ frames, WellFramed f) {sock rest : List Arrival}
    (hsegments : Segments sock) (hstream : stream sock = encodeAll frames)
    {why : Failure} (hread : recvFrame sock = (.failed why, rest)) :
    frames = [] ∧ why = .peerClosed ∧ timeoutsAt sock = [] := by
  have hframe := frameRead_of_recvFrame hsegments hread
  cases hframe with
  | peerClosed lost _ hincomplete htakes =>
      have hlost := htakes.stream.symm.trans hstream
      cases frames with
      | nil => exact ⟨rfl, rfl, by rw [htakes.timeouts]; rfl⟩
      | cons f later =>
          have hshort :=
            hincomplete.length_lt (hframes f List.mem_cons_self) hlost
          have hlength := congrArg List.length hlost
          simp only [stream, List.append_nil, encodeAll_cons,
            List.length_append] at hlength
          omega
  | badHeader hb _ hlength hinvalid htakes =>
      have hlost := htakes.stream.symm.trans hstream
      cases frames with
      | nil =>
          rw [(List.append_eq_nil_iff.mp hlost).1] at hlength
          cases hlength
      | cons f later =>
          rw [header_of_frameBytes hlength hlost,
            (hframes f List.mem_cons_self).1] at hinvalid
          cases hinvalid

/-- The loop stays synchronised exactly if every timeout strikes between two
frames. -/
theorem rxLoop_synchronised_iff (py : Builtins) {frames : List ParsedFrame}
    (hframes : ∀ f ∈ frames, ServerFrame py f) {sock : List Arrival}
    (hsegments : Segments sock) (hstream : stream sock = encodeAll frames)
    (c : Receiver) :
    Synchronised py frames sock c ↔ BetweenFrames frames sock := by
  fun_induction rxLoop py sock c generalizing frames with
  | case1 sock c rest hread ih =>
      have hframe := frameRead_of_recvFrame hsegments hread
      cases hframe with
      | timeout lost _ hincomplete htakes =>
          have hrest := htakes.segments.tail
          have hlost := htakes.stream
          rw [hstream, stream] at hlost
          by_cases hnone : lost = []
          · subst hnone
            rw [Synchronised, rxLoop_timeout hread,
              betweenFrames_idle htakes]
            exact ih hframes hrest hlost.symm
          · obtain ⟨f, later, rfl, hshort⟩ := frames_of_lost
              (fun f hf => (hframes f hf).framed) hincomplete hlost.symm hnone
            exact iff_of_false
              (not_synchronised_of_lost c hread hrest hlost hnone)
              (not_betweenFrames htakes hnone hshort)
  | case2 sock c why rest hread =>
      obtain ⟨rfl, rfl, htimeouts⟩ := nothing_left_of_failed
        (fun f hf => (hframes f hf).framed) hsegments hstream hread
      rw [Synchronised, rxLoop_failed hread]
      refine iff_of_true ⟨by simp, by simp⟩ ?_
      intro position hposition
      rw [htimeouts] at hposition
      cases hposition
  | case3 sock c f rest hread hdispatch =>
      have hframe := frameRead_of_recvFrame hsegments hread
      cases hframe with
      | got _ _ hf htakes =>
          obtain ⟨later, rfl, _⟩ := frames_of_got
            (fun f hf => (hframes f hf).framed) hf
            (htakes.stream.symm.trans hstream)
          have hreadable := (hframes f List.mem_cons_self).readable c
          rw [hdispatch] at hreadable
          cases hreadable
  | case4 sock c f rest hread c' hdispatch ih =>
      have hframe := frameRead_of_recvFrame hsegments hread
      cases hframe with
      | got _ _ hf htakes =>
          obtain ⟨later, rfl, hrest⟩ := frames_of_got
            (fun f hf => (hframes f hf).framed) hf
            (htakes.stream.symm.trans hstream)
          obtain ⟨c'', event, hdispatch', hput⟩ :=
            (hframes f List.mem_cons_self).dispatch c
          cases hdispatch.symm.trans hdispatch'
          have hlater := ih
            (fun g hg => hframes g (List.mem_cons_of_mem _ hg))
            htakes.segments hrest
          rw [betweenFrames_frame htakes, ← hlater, Synchronised,
            Synchronised, rxLoop_got hread hdispatch, hput, List.map_append,
            List.append_assoc]
          rfl

/-! ## A slow KICK -/

def flatBuiltins : Builtins where
  unpackb := unpackFlat
  int
    | .positiveInteger n => some n
    | .boolean b => some (if b then 1 else 0)
    | _ => none
  str
    | .str value => value
    | _ => []

def idleKick : ParsedFrame where
  header :=
    { msgType := kMsgKick
      bodyLen := UInt32.ofNat (packAll (kickWire (lit "idle")).body).length }
  body := packAll (kickWire (lit "idle")).body

theorem serverFrame_idleKick : ServerFrame flatBuiltins idleKick where
  framed := ⟨by decide, by decide⟩
  known := by decide
  readable := by
    intro c
    rw [dispatch_kick rfl]
    decide +kernel

/-- The first KICK arrives at once, and then nothing for a while. -/
def quietStream : List Arrival :=
  [.bytes idleKick.header.packLe, .bytes idleKick.body, .timeout,
    .bytes (frameBytes idleKick)]

theorem rxLoop_synchronised_iff_quietStream :
    Synchronised flatBuiltins [idleKick, idleKick] quietStream {} := by
  refine (rxLoop_synchronised_iff flatBuiltins ?_ ?_ ?_ {}).mpr ?_
  · intro f hf
    simp only [List.mem_cons, List.not_mem_nil, or_false, or_self] at hf
    rw [hf]
    exact serverFrame_idleKick
  · decide
  · decide
  · intro position hposition
    have hone : position = (frameBytes idleKick).length := by
      have htimeouts : timeoutsAt quietStream =
          [(frameBytes idleKick).length] := by decide
      rw [htimeouts, List.mem_singleton] at hposition
      exact hposition
    exact ⟨1, by rw [hone]; decide⟩

/-- The header of a KICK arrives, and the body only after the timeout. -/
def slowStream : List Arrival :=
  [.bytes idleKick.header.packLe, .timeout, .bytes idleKick.body]

theorem recvAll_timeout {n : Nat} (hn : 0 < n) (rest : List Arrival) :
    recvAll n (.timeout :: rest) = (.timeout, rest) := by
  rw [recvAll, recvAllFrom, if_pos (by simpa using hn), recv]

theorem recvAll_chunk {n : Nat} {chunk : Bytes} (hn : 0 < n)
    (hlength : chunk.length = n) (rest : List Arrival) :
    recvAll n (.bytes chunk :: rest) = (.got chunk, rest) := by
  subst hlength
  obtain ⟨first, more, rfl⟩ :=
    List.exists_cons_of_ne_nil (List.length_pos_iff.mp hn)
  rw [recvAll, recvAllFrom, if_pos (by simp), List.length_nil, Nat.sub_zero,
    recv, if_pos (Nat.le_refl _)]
  dsimp only
  rw [recvAllFrom, List.nil_append, if_neg (Nat.lt_irrefl _)]

theorem recvFrame_slowStream :
    recvFrame slowStream = (.timeout, [.bytes idleKick.body]) := by
  rw [recvFrame, slowStream,
    recvAll_chunk (by decide) (Header.packLe_length _)]
  dsimp only
  rw [if_neg (by decide), if_pos (by decide),
    recvAll_timeout (by decide) _]

theorem slow_frame_lost :
    (∀ f ∈ [idleKick], ServerFrame flatBuiltins f) ∧ Segments slowStream ∧
      stream slowStream = encodeAll [idleKick] ∧
      ¬Synchronised flatBuiltins [idleKick] slowStream {} := by
  refine ⟨?_, by decide, by decide, ?_⟩
  · intro f hf
    rw [List.mem_singleton.mp hf]
    exact serverFrame_idleKick
  · exact not_synchronised_of_lost {} recvFrame_slowStream (by decide)
      (show encodeAll [idleKick] = idleKick.header.packLe ++
        stream [.bytes idleKick.body] by decide) (by decide)

end PyRelayClient

end AsioForwarder
