import AsioForwarder.SdkEvent
import AsioForwarder.TransitionRun

/-!
# `Client` of the SDK

A `Client` keeps two queues: `in_order_` of events taken from the socket and
`pre_delivers_` of messages met while waiting for a reply.  A call of its
interface sends at most one frame and then waits in one of five loops; a turn
of a loop takes one event and either goes on, returns or throws.  The loops
are small steps here, because between two turns the heartbeat thread may send
and frames may arrive.
-/

namespace AsioForwarder

/-- `RelayClient::Impl::next_seq`. -/
def nextSeq (seq : UInt32) : UInt32 :=
  let next := (seq + 1) &&& 0x7FFFFFFF
  if next = 0 then 1 else next

/-- What a call waits for, with the arguments of its loop. -/
inductive Waiting where
  | signOn
  | serverAck (seq : UInt32) (op : Bytes)
  | controlFull (seq : UInt32)
  | heartbeatOk (seq : UInt32)
  | deliver
  deriving DecidableEq

/-- What a call returns, as far as it comes from the loop. -/
inductive Returned where
  | done
  | reply (reply : ServerReply)
  | deliver (d : Deliver)
  deriving DecidableEq

/-- How a turn of a loop ends. -/
inductive Turn where
  | again
  | returned (value : Returned)
  | threw (what : Bytes)
  deriving DecidableEq

structure Client where
  seq : UInt32 := 1
  inOrder : List SdkEvent := []
  preDelivers : List Deliver := []
  deriving DecidableEq

/-- `r->message.empty() ? ... : r->message`. -/
def messageOr (default message : Bytes) : Bytes :=
  if message = [] then default else message

namespace Waiting

def eofText : Waiting → Bytes
  | .signOn => lit "sign_on: LOGIN 前 EOF"
  | .serverAck _ op => lit "等待 " ++ op ++ lit " 应答时 EOF"
  | .controlFull _ => lit "CONTROL: EOF"
  | .heartbeatOk _ => lit "heartbeat: EOF"
  | .deliver => lit "recv_deliver: EOF"

def kickText (reason : Bytes) : Waiting → Bytes
  | .signOn => lit "sign_on: KICK " ++ reason
  | .serverAck _ _ => lit "KICK " ++ reason
  | .controlFull _ => lit "KICK " ++ reason
  | .heartbeatOk _ => lit "heartbeat: KICK " ++ reason
  | .deliver => lit "recv: KICK " ++ reason

/-- What a loop does with a reply. -/
def onReply (r : ServerReply) : Waiting → Turn
  | .signOn =>
      if r.ok ∧ r.op = lit "HEARTBEAT" then .again
      else if !r.ok then
        .threw (lit "sign_on: " ++ messageOr (lit "error") r.message)
      else if r.op = lit "LOGIN" then .returned .done
      else .threw (lit "sign_on: 未预期的 201: op=" ++ r.op)
  | .serverAck seq op =>
      if r.ok ∧ r.op = lit "HEARTBEAT" then .again
      else if r.seq = seq then
        if !r.ok then
          .threw (op ++ lit " 未受理: " ++ messageOr (lit "?") r.message)
        else if r.op = op then .returned .done
        else
          .threw (lit "等待 " ++ op ++ lit " 但收到 seq 相同、op 不符的 201: " ++
            r.op)
      else
        .threw (lit "等待 " ++ op ++ lit " 时先收到不匹配的 201: seq=" ++
          toDecimal r.seq.toNat ++ lit " op=" ++ r.op)
  | .controlFull seq =>
      if r.ok ∧ r.op = lit "HEARTBEAT" then .again
      else if r.seq ≠ seq then
        .threw (lit "CONTROL: 未预期的 201 seq=" ++ toDecimal r.seq.toNat)
      else if !r.ok then
        .threw (lit "CONTROL 未受理: " ++ messageOr (lit "?") r.message)
      else if r.op ≠ lit "CONTROL" then
        .threw (lit "CONTROL: op 不符: " ++ r.op)
      else .returned (.reply r)
  | .heartbeatOk seq =>
      if r.ok ∧ r.op = lit "HEARTBEAT" then
        if r.seq = seq then .returned .done else .again
      else
        .threw (lit "heartbeat: 对 HEARTBEAT 先收到不匹配的 201: seq=" ++
          toDecimal r.seq.toNat ++ lit " op=" ++ r.op)
  | .deliver =>
      if r.ok ∧ r.op = lit "HEARTBEAT" then .again
      else
        .threw (lit
          "recv_deliver: 在收到 200 之前收到 201（多线程/调用顺序不合法，或需先 drain 对端应答）")

end Waiting

namespace Client

/-- What a loop does with an event. -/
def react (w : Waiting) (event : SdkEvent) (c : Client) : Client × Turn :=
  match event with
  | .kick reason => (c, .threw (w.kickText reason))
  | .deliver d =>
      match w with
      | .signOn => (c, .threw (lit "sign_on: 登录阶段不应收到 DELIVER"))
      | .deliver => (c, .returned (.deliver d))
      | _ => ({ c with preDelivers := c.preDelivers ++ [d] }, .again)
  | .serverReply r => (c, w.onReply r)

/-- The part of a turn after `recv_deliver` has looked at `pre_delivers_`:
an event is taken from `in_order_`, into which one from `recv` is put first
if there is none.  The list holds the event `recv` produced. -/
def takeEvent (w : Waiting) (recv : Option SdkEvent) (c : Client) :
    Client × List SdkEvent × Turn :=
  match c.inOrder with
  | event :: rest =>
      let outcome := { c with inOrder := rest }.react w event
      (outcome.1, [], outcome.2)
  | [] =>
      match recv with
      | none => (c, [], .threw w.eofText)
      | some event =>
          let outcome := c.react w event
          (outcome.1, [event], outcome.2)

/-- One turn of the loop of a call; `recv` is what `client_.recv()` returns
if the turn calls it. -/
def turn (w : Waiting) (recv : Option SdkEvent) (c : Client) :
    Client × List SdkEvent × Turn :=
  match w, c.preDelivers with
  | .deliver, d :: rest =>
      ({ c with preDelivers := rest }, [], .returned (.deliver d))
  | _, _ => c.takeEvent w recv

end Client

/-! ## Calls -/

/-- The interface of `Client` after `sign_on`. -/
inductive ApiCall where
  | send (dstUsername payload : Bytes) (waitServerAccept : Bool)
  | heartbeat
  | controlRequest (body : Bytes)
  | controlListUsers (waitServerReply : Bool)
  | controlKickUser (targetUserId : Nat) (waitServerReply : Bool)
  | recvDeliver
  deriving DecidableEq

def sendDataBody (dstUsername payload : Bytes) : List Tok :=
  [.map 2, .str (lit "dst_username"), .str dstUsername,
    .str (lit "payload"), .castBin payload]

namespace ApiCall

/-- Type and body of the frame the call sends. -/
def frame : ApiCall → Option (UInt32 × Bytes)
  | .send dstUsername payload _ =>
      some (kClientData, packAll (sendDataBody dstUsername payload))
  | .heartbeat => some (kClientHeartbeat, packAll [.map 0])
  | .controlRequest body => some (kClientControl, body)
  | .controlListUsers _ =>
      some (kClientControl,
        packAll [.map 1, .str (lit "action"), .str (lit "list_users")])
  | .controlKickUser target _ =>
      some (kClientControl,
        packAll [.map 2, .str (lit "action"), .str (lit "kick_user"),
          .str (lit "target_user_id"), .uint target])
  | .recvDeliver => none

/-- The loop a call enters after it has sent its frame under `seq`. -/
def waits (seq : UInt32) : ApiCall → Option Waiting
  | .send _ _ wait => if wait then some (.serverAck seq (lit "DATA")) else none
  | .heartbeat => some (.heartbeatOk seq)
  | .controlRequest _ => some (.controlFull seq)
  | .controlListUsers wait => if wait then some (.controlFull seq) else none
  | .controlKickUser _ wait =>
      if wait then some (.serverAck seq (lit "CONTROL")) else none
  | .recvDeliver => some .deliver

end ApiCall

/-- The client after the frame of a call has been given its number. -/
def Client.number (call : ApiCall) (c : Client) : Client :=
  if call.frame.isSome then { c with seq := nextSeq c.seq } else c

/-! ## Runs -/

/-- A `Client` in use: the loop it is in, what `recv_deliver` has returned
and what `recv` has produced since `sign_on` returned. -/
structure ClientSession where
  client : Client := {}
  signedOn : Bool := false
  waiting : Option Waiting := some .signOn
  returned : List Deliver := []
  received : List SdkEvent := []
  deriving DecidableEq

/-- A call of the interface, where writing its frame may fail; one turn of
the loop in progress; or a frame of the heartbeat thread. -/
inductive ClientAction where
  | call (made : ApiCall) (written : Bool)
  | turn (recv : Option SdkEvent)
  | autoHeartbeat
  deriving DecidableEq

namespace ClientSession

/-- The delivery a call returns. -/
def deliveryOf : Turn → List Deliver
  | .returned (.deliver d) => [d]
  | _ => []

def step (s : ClientSession) : ClientAction → Option ClientSession
  | .call made written =>
      if s.signedOn && s.waiting.isNone then
        let client := s.client.number made
        if made.frame.isSome && !written then some { s with client := client }
        else some { s with client := client, waiting := made.waits client.seq }
      else none
  | .turn recv =>
      match s.waiting with
      | none => none
      | some w =>
          let outcome := s.client.turn w recv
          some { s with
            client := outcome.1
            signedOn := s.signedOn || outcome.2.2 = .returned .done
            waiting := if outcome.2.2 = .again then some w else none
            returned := s.returned ++ deliveryOf outcome.2.2
            received := if s.signedOn then s.received ++ outcome.2.1
              else s.received }
  | .autoHeartbeat =>
      if s.signedOn then
        some { s with client.seq := nextSeq s.client.seq }
      else none

def deliveries (events : List SdkEvent) : List Deliver :=
  events.filterMap (fun event =>
    match event with
    | .deliver d => some d
    | _ => none)

/-- What the client still holds, in the order in which it is returned. -/
def held (s : ClientSession) : List Deliver :=
  s.client.preDelivers ++ deliveries s.client.inOrder

@[simp] theorem deliveries_append (first second : List SdkEvent) :
    deliveries (first ++ second) =
      deliveries first ++ deliveries second := by
  simp [deliveries, List.filterMap_append]

end ClientSession

/-! ## No delivery is lost -/

namespace Client

open ClientSession (deliveries deliveryOf)

@[simp] theorem react_inOrder (w : Waiting) (event : SdkEvent) (c : Client) :
    (c.react w event).1.inOrder = c.inOrder := by
  cases event with
  | deliver d => cases w <;> rfl
  | serverReply r => rfl
  | kick reason => rfl

theorem deliveryOf_onReply (w : Waiting) (r : ServerReply) :
    deliveryOf (w.onReply r) = [] := by
  cases w with
  | signOn =>
      simp only [Waiting.onReply]
      split_ifs <;> rfl
  | serverAck seq op =>
      simp only [Waiting.onReply]
      split_ifs <;> rfl
  | controlFull seq =>
      simp only [Waiting.onReply]
      split_ifs <;> rfl
  | heartbeatOk seq =>
      simp only [Waiting.onReply]
      split_ifs <;> rfl
  | deliver =>
      simp only [Waiting.onReply]
      split_ifs <;> rfl

theorem react_deliveries {w : Waiting} {c : Client} (event : SdkEvent)
    (hw : w ≠ .signOn) (hkept : w = .deliver → c.preDelivers = []) :
    deliveryOf (c.react w event).2 ++ (c.react w event).1.preDelivers =
      c.preDelivers ++ deliveries [event] := by
  cases event with
  | kick reason => simp [react, deliveryOf, deliveries]
  | serverReply r =>
      simp [react, deliveryOf_onReply, deliveries]
  | deliver d =>
      cases w with
      | signOn => exact absurd rfl hw
      | deliver => simp [react, deliveryOf, deliveries, hkept rfl]
      | serverAck seq op => simp [react, deliveryOf, deliveries]
      | controlFull seq => simp [react, deliveryOf, deliveries]
      | heartbeatOk seq => simp [react, deliveryOf, deliveries]

theorem turn_inOrder {c : Client} (w : Waiting) (recv : Option SdkEvent)
    (hempty : c.inOrder = []) : (c.turn w recv).1.inOrder = [] := by
  unfold turn
  split
  · exact hempty
  · unfold takeEvent
    rw [hempty]
    cases recv with
    | none => exact hempty
    | some event => exact (react_inOrder _ event c).trans hempty

theorem turn_deliveries {w : Waiting} {c : Client} (recv : Option SdkEvent)
    (hw : w ≠ .signOn) (hempty : c.inOrder = []) :
    deliveryOf (c.turn w recv).2.2 ++ (c.turn w recv).1.preDelivers =
      c.preDelivers ++ deliveries (c.turn w recv).2.1 := by
  unfold turn
  split
  · rename_i d rest hkept
    simp [deliveryOf, deliveries, hkept]
  · rename_i hkept
    unfold takeEvent
    rw [hempty]
    cases recv with
    | none => simp [deliveryOf, deliveries]
    | some event =>
        refine react_deliveries event hw (fun hdeliver => ?_)
        cases hpre : c.preDelivers with
        | nil => rfl
        | cons d rest => exact (hkept d rest hdeliver hpre).elim

end Client

namespace ClientSession

/-- Between two turns `in_order_` is empty.  Until `sign_on` returns nothing
is kept; afterwards no loop of it runs, and the messages received are those
returned followed by those kept. -/
structure Accounted (s : ClientSession) : Prop where
  drained : s.client.inOrder = []
  kept : s.returned ++ s.client.preDelivers = deliveries s.received
  before : s.signedOn = false →
    s.client.preDelivers = [] ∧ ∀ w, s.waiting = some w → w = .signOn
  after : s.signedOn = true → s.waiting ≠ some .signOn

theorem accounted_initial : Accounted {} :=
  ⟨rfl, rfl, fun _ => ⟨rfl, fun _ hw => (Option.some.inj hw).symm⟩,
    fun hsigned => Bool.noConfusion hsigned⟩

theorem waits_ne_signOn (made : ApiCall) (seq : UInt32) :
    made.waits seq ≠ some .signOn := by
  cases made with
  | send dstUsername payload wait => cases wait <;> simp [ApiCall.waits]
  | heartbeat => simp [ApiCall.waits]
  | controlRequest body => simp [ApiCall.waits]
  | controlListUsers wait => cases wait <;> simp [ApiCall.waits]
  | controlKickUser target wait => cases wait <;> simp [ApiCall.waits]
  | recvDeliver => simp [ApiCall.waits]

theorem turn_signOn {c : Client} (recv : Option SdkEvent)
    (hempty : c.inOrder = []) :
    (c.turn .signOn recv).1.preDelivers = c.preDelivers ∧
      deliveryOf (c.turn .signOn recv).2.2 = [] := by
  simp only [Client.turn, Client.takeEvent, hempty]
  cases recv with
  | none => exact ⟨rfl, rfl⟩
  | some event =>
      cases event with
      | deliver d => exact ⟨rfl, rfl⟩
      | serverReply r => exact ⟨rfl, Client.deliveryOf_onReply .signOn r⟩
      | kick reason => exact ⟨rfl, rfl⟩

theorem Accounted.call {s : ClientSession} (hs : s.Accounted)
    (made : ApiCall) {waiting : Option Waiting}
    (hsigned : s.signedOn = true) (hwaiting : waiting ≠ some .signOn) :
    Accounted
      { s with client := s.client.number made, waiting := waiting } := by
  have hpre : (s.client.number made).preDelivers = s.client.preDelivers := by
    unfold Client.number
    split <;> rfl
  have horder : (s.client.number made).inOrder = s.client.inOrder := by
    unfold Client.number
    split <;> rfl
  refine ⟨horder.trans hs.drained, ?_, ?_, fun _ => hwaiting⟩
  · rw [hpre]
    exact hs.kept
  · intro hunsigned
    rw [hsigned] at hunsigned
    exact Bool.noConfusion hunsigned

theorem Accounted.step {s next : ClientSession} {action : ClientAction}
    (hs : s.Accounted) (hstep : s.step action = some next) :
    next.Accounted := by
  cases action with
  | autoHeartbeat =>
      simp only [ClientSession.step] at hstep
      split at hstep
      · cases hstep
        exact ⟨hs.drained, hs.kept, hs.before, hs.after⟩
      · cases hstep
  | call made written =>
      simp only [ClientSession.step] at hstep
      split at hstep
      · rename_i hready
        rw [Bool.and_eq_true, Option.isNone_iff_eq_none] at hready
        split at hstep
        · cases hstep
          have hnone : s.waiting ≠ some .signOn := by simp [hready.2]
          exact hs.call made hready.1 hnone
        · cases hstep
          exact hs.call made hready.1 (waits_ne_signOn made _)
      · cases hstep
  | turn recv =>
      simp only [ClientSession.step] at hstep
      split at hstep
      · cases hstep
      rename_i w hw
      cases hstep
      have hdrained := Client.turn_inOrder w recv hs.drained
      cases hsigned : s.signedOn with
      | true =>
          have hother : w ≠ .signOn := by
            intro hsign
            exact hs.after hsigned (hsign ▸ hw)
          have hturn := Client.turn_deliveries recv hother hs.drained
          refine ⟨hdrained, ?_, ?_, ?_⟩
          · simp only [if_true, deliveries_append]
            rw [List.append_assoc, hturn, ← List.append_assoc, hs.kept]
          · intro hunsigned
            simp at hunsigned
          · intro _
            dsimp only
            split
            · exact fun hsign => hother (Option.some.inj hsign)
            · exact fun hsign => by cases hsign
      | false =>
          obtain ⟨hpre, honly⟩ := hs.before hsigned
          obtain rfl := honly w hw
          obtain ⟨hkept, hnothing⟩ := turn_signOn recv hs.drained
          refine ⟨hdrained, ?_, ?_, ?_⟩
          · simp only [Bool.false_eq_true, if_false, hnothing, hkept,
              List.append_nil]
            exact hs.kept
          · intro _
            refine ⟨hkept.trans hpre, ?_⟩
            intro w' hw'
            dsimp only at hw'
            split at hw'
            · exact (Option.some.inj hw').symm
            · cases hw'
          · intro hdone
            have hdone : (s.client.turn .signOn recv).2.2 =
                .returned .done := by simpa using hdone
            simp [hdone]

/-- `Client` loses, duplicates and reorders no delivery: at any point, inside
a call or between two, and whatever the calls before ended in, the messages
returned by `recv_deliver` followed by the messages held are the messages
received since `sign_on` has returned. -/
theorem returned_append_held {actions : List ClientAction}
    {s : ClientSession}
    (hrun : Transition.run step actions {} = some s) :
    s.returned ++ s.held = deliveries s.received := by
  have haccounted : s.Accounted :=
    Transition.run_preserves_always Accounted
      (fun _ _ _ hs hstep => hs.step hstep) accounted_initial hrun
  rw [held, haccounted.drained, deliveries, List.filterMap_nil,
    List.append_nil]
  exact haccounted.kept

/-- A run in which a `send` meets a delivery and then its refusal, another
delivery is kept by a `heartbeat` which a KICK ends, and one of the two is
returned. -/
def mixedRun : List ClientAction :=
  [.turn (some (.serverReply { seq := 2, ok := true, op := lit "LOGIN" })),
    .call (.send (lit "bob") [1] true) true,
    .turn (some (.deliver { seq := 3, payload := [7] })),
    .turn (some (.serverReply { seq := 3 })),
    .call .heartbeat true,
    .turn (some (.deliver { seq := 4, payload := [8] })),
    .turn (some (.kick (lit "admin"))),
    .call .recvDeliver true,
    .turn none]

theorem returned_append_held_mixedRun :
    ∃ s, Transition.run step mixedRun {} = some s ∧
      s.returned = [{ seq := 3, payload := [7] }] ∧
      s.held = [{ seq := 4, payload := [8] }] ∧
      s.returned ++ s.held = deliveries s.received := by
  have hfinal : ∃ s, Transition.run step mixedRun {} = some s ∧
      s.returned = [{ seq := 3, payload := [7] }] ∧
      s.held = [{ seq := 4, payload := [8] }] :=
    Transition.exists_run_of_check (by decide +kernel)
  obtain ⟨s, hrun, hreturned, hheld⟩ := hfinal
  exact ⟨s, hrun, hreturned, hheld, returned_append_held hrun⟩

end ClientSession

end AsioForwarder
