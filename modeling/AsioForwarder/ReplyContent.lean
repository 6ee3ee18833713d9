import AsioForwarder.ReplyDecoding
import AsioForwarder.RequestReplies

/-!
# Replies to a logged-in session

What the handler of a frame answers a session which is logged in, as the
client reads it: a HEARTBEAT is answered ok, if its handler answers at all;
DATA and CONTROL are answered ok under their own `op`, or refused.
-/

namespace AsioForwarder

open Interaction

/-- A reply to a frame of a logged-in session. -/
inductive ReplyTo (h : Header) : ServerReply → Prop where
  | heartbeat (htype : h.msgType = kClientHeartbeat) :
      ReplyTo h { seq := h.seq, ok := true, op := lit "HEARTBEAT" }
  | data (htype : h.msgType = kClientData) :
      ReplyTo h { seq := h.seq, ok := true, op := lit "DATA" }
  | control (htype : h.msgType = kClientControl) :
      ReplyTo h { seq := h.seq, ok := true, op := lit "CONTROL" }
  | refusal (htype : h.msgType ≠ kClientHeartbeat) (message : Bytes) :
      ReplyTo h { seq := h.seq, ok := false, message := message }

/-- A SERVER_REPLY to such a frame, if it can be read. -/
def Wire.RepliesTo (h : Header) (wire : Wire) : Prop :=
  wire.msgType = kMsgServerReply ∧
    (RelayClient.eventOfWire wire = none ∨
      ∃ reply, RelayClient.eventOfWire wire = some (.serverReply reply) ∧
        ReplyTo h reply)

theorem Wire.RepliesTo.of_event {h : Header} {wire : Wire}
    {reply : ServerReply} (htype : wire.msgType = kMsgServerReply)
    (hreads : RelayClient.eventOfWire wire = some (.serverReply reply))
    (hreply : ReplyTo h reply) : wire.RepliesTo h :=
  ⟨htype, .inr ⟨reply, hreads, hreply⟩⟩

theorem Wire.RepliesTo.report {h : Header}
    (htype : h.msgType = kClientControl) {key : Bytes}
    (hkey : key ∉ replyKeys) (value : List Tok) :
    (replyWire h.seq (RelayClient.reportBody key value)).RepliesTo h := by
  refine ⟨rfl, ?_⟩
  rcases RelayClient.eventOfWire_report h.seq hkey value with hnone | hreads
  · exact .inl hnone
  · exact .inr ⟨_, hreads, .control htype⟩

theorem Answers.repliesTo {h : Header} {wire : Wire}
    (hanswer : Answers h wire) (htype : h.msgType ≠ kClientHeartbeat) :
    wire.RepliesTo h := by
  cases hanswer with
  | refusal code message =>
      have hreads := RelayClient.eventOfWire_errReplyWire h.seq code message
      exact .of_event rfl hreads (.refusal htype message)
  | heartbeat hheartbeat => exact absurd hheartbeat htype
  | data hdata =>
      have hreads := RelayClient.eventOfWire_okReplyWire h.seq (lit "DATA")
      exact .of_event rfl hreads (.data hdata)
  | control hcontrol =>
      have hreads := RelayClient.eventOfWire_okReplyWire h.seq (lit "CONTROL")
      exact .of_event rfl hreads (.control hcontrol)
  | report hcontrol key hkey value => exact .report hcontrol hkey value

/-- What a handler of a logged-in session may have learned. -/
def Learned.Plain : Learned → Prop
  | .nothing => True
  | .registered _ _ _ => False
  | .listed body => ∃ value, body = RelayClient.reportBody (lit "users") value

theorem Learned.Plain.next {learned : Learned} (hplain : learned.Plain)
    {op : Op}
    (hlogin : ∀ self un info wantMode,
      op ≠ .lock (.login self un info wantMode))
    (cfg : Config) (env : Env) (hub : Hub) :
    (learned.next op (op.exec cfg env hub).2).Plain := by
  cases op with
  | store operation => exact hplain
  | clientIp c => exact hplain
  | call c made => exact hplain
  | lock operation =>
      cases operation with
      | login self un info wantMode =>
          exact absurd rfl (hlogin self un info wantMode)
      | listUsers => exact RelayClient.listUsersBody_eq _ _ _ _
      | _ => exact hplain

/-- What a handler has left of a HEARTBEAT frame. -/
def AtHeartbeat (sender : Identity) (seq : UInt32) (program : Frame Unit) :
    Prop :=
  program = .ret () ∨
    (∃ why, program = Frame.stop sender.connId why) ∨
    program = sendOkReply sender seq (lit "HEARTBEAT")

theorem atHeartbeat_handleClientFrame (unpack : Bytes → Option Obj)
    {sender : Identity} (hin : sender.loggedIn = true) {h : Header}
    (htype : h.msgType = kClientHeartbeat) (body : Bytes) :
    AtHeartbeat sender h.seq (handleClientFrame unpack sender h body) := by
  have hprogram : handleClientFrame unpack sender h body =
      withMap unpack sender body
        (fun _ => sendOkReply sender h.seq (lit "HEARTBEAT")) := by
    simp only [handleClientFrame, hin, htype, Bool.not_true,
      Bool.false_eq_true, if_false, if_true]
  rw [hprogram, withMap]
  split
  · exact .inr (.inl ⟨_, rfl⟩)
  · exact .inr (.inr rfl)
  · exact .inr (.inl ⟨_, rfl⟩)

/-- What is left of the handler of a frame of the session `sender`, which is
logged in. -/
structure Request.Serves (unpack : Bytes → Option Obj) (sender : Identity)
    (h : Header) (body : Bytes) (q : Request) : Prop where
  sender_eq : q.sender = sender
  header_eq : q.header = h
  stage_ne : q.stage.msgType ≠ some kClientLogin
  heartbeat : h.msgType = kClientHeartbeat →
    AtHeartbeat sender h.seq q.program
  content : ∃ learned, learned.Plain ∧
    (frameContent unpack sender h body).Conforms (fun _ _ => True) learned
      q.program

/-- What others do to a session. -/
inductive Call.Unasked : Call → Prop where
  | deliver (wire : Wire) (htype : wire.msgType = kMsgDeliver) :
      Unasked (.sendFrame wire)
  | kick (userReason logWhy : Bytes) :
      Unasked (.notifyAndClose userReason logWhy)
  | markLogin (uid : Nat) (isAdmin : Bool) (username : Bytes) :
      Unasked (.markLogin uid isAdmin username)

/-- The call with which a handler ends. -/
inductive Call.EndsHandler (h : Header) : Call → Prop where
  | stop (why : Bytes) : EndsHandler h (.stop why)
  | reply (wire : Wire) (hreply : wire.RepliesTo h) :
      EndsHandler h (.sendFrame wire)

theorem AsksFrame.sent {unpack : Bytes → Option Obj} {cfg : Config}
    {sender : Identity} {h : Header} {body : Bytes} {learned : Learned}
    {op : Op} (hasks : AsksFrame unpack sender h body learned op) {env : Env}
    {hub : Hub} {d : ConnId} {wire : Wire}
    (hcall : (d, Call.sendFrame wire) ∈ op.calls cfg env hub) :
    wire.msgType = kMsgDeliver ∨ wire.msgType = kMsgServerReply := by
  cases hasks with
  | stop why => simp [Op.calls] at hcall
  | ask mp _ _ hbody hasks =>
      cases hasks with
      | route dst payload uid htype hdst hpayload =>
          simp only [Op.calls, LockOp.exec, List.mem_map, Prod.mk.injEq,
            Call.sendFrame.injEq] at hcall
          obtain ⟨c, _, _, rfl⟩ := hcall
          exact .inl rfl
      | welcome self wantMode lok =>
          simp only [Op.calls, List.mem_singleton, Prod.mk.injEq,
            Call.sendFrame.injEq] at hcall
          rw [hcall.2]
          exact .inr rfl
      | listing htype listed =>
          simp only [Op.calls, List.mem_singleton, Prod.mk.injEq,
            Call.sendFrame.injEq] at hcall
          rw [hcall.2]
          exact .inr rfl
      | answer answered hanswer =>
          simp only [Op.calls, List.mem_singleton, Prod.mk.injEq,
            Call.sendFrame.injEq] at hcall
          rw [hcall.2]
          cases hanswer <;> exact .inr rfl
      | _ => simp [Op.calls, LockOp.exec] at hcall

namespace Request.Serves

variable {unpack : Bytes → Option Obj} {sender : Identity} {h : Header}
  {body : Bytes} {q q' : Request}

theorem start (hin : sender.loggedIn = true) :
    Serves unpack sender h body (Request.start unpack sender h body) where
  sender_eq := rfl
  header_eq := rfl
  stage_ne := by
    intro hlogin
    have hopening := initialStage_opening unpack sender h body
    change (initialStage unpack sender h body).msgType = _ at hlogin
    generalize initialStage unpack sender h body = stage at hopening hlogin
    cases hopening with
    | login htype hout =>
        rw [hin] at hout
        cases hout
    | _ => cases hlogin
  heartbeat := fun htype => atHeartbeat_handleClientFrame unpack hin htype body
  content := ⟨.nothing, trivial, handleClientFrame_content unpack sender h body⟩

theorem asks (hserves : Serves unpack sender h body q) {op : Op}
    (hop : q.nextOp = some op) :
    ∃ learned, learned.Plain ∧ AsksFrame unpack sender h body learned op := by
  obtain ⟨learned, hplain, hconforms⟩ := hserves.content
  unfold Request.nextOp at hop
  cases hprogram : q.program with
  | ret value =>
      rw [hprogram] at hop
      cases hop
  | op operation rest =>
      rw [hprogram] at hop hconforms
      cases hop
      exact ⟨learned, hplain, hconforms.1⟩

theorem ne_login (hserves : Serves unpack sender h body q) {op : Op}
    (hop : q.nextOp = some op) (self : ConnId) (un : Bytes) (info : UserInfo)
    (wantMode : RecvMode) : op ≠ .lock (.login self un info wantMode) := by
  rintro rfl
  have hallows := Request.allows_of_nextOp hop
  have hstage := hserves.stage_ne
  generalize q.stage = stage at hallows hstage
  cases hallows with
  | register _ _ _ => exact hstage rfl

theorem perform (hserves : Serves unpack sender h body q) {cfg : Config}
    {env : Env} {hub hub' : Hub}
    (hperform : q.perform cfg env hub = some (hub', q')) :
    Serves unpack sender h body q' := by
  obtain ⟨operation, rest, hprogram, hrest, hsender, hheader, hstage, _⟩ :=
    Request.perform_program hperform
  have hop := Request.nextOp_of_program hprogram
  refine ⟨hsender.trans hserves.sender_eq, hheader.trans hserves.header_eq, ?_,
    ?_, ?_⟩
  · intro hlogin
    rw [hstage] at hlogin
    exact hserves.stage_ne
      (Stage.msgType_of_next (Request.allows_of_nextOp hop) hlogin)
  · intro htype
    left
    rw [hrest]
    rcases hserves.heartbeat htype with hret | ⟨why, hstop⟩ | hreply
    · rw [hret] at hprogram
      cases hprogram
    · rw [hstop] at hprogram
      cases hprogram
      rfl
    · rw [hreply] at hprogram
      cases hprogram
      rfl
  · obtain ⟨learned, hplain, hconforms⟩ := hserves.content
    rw [hprogram] at hconforms
    refine ⟨learned.next operation (operation.exec cfg env hub).2,
      hplain.next (hserves.ne_login hop) cfg env hub, ?_⟩
    rw [hrest]
    exact hconforms.2 _

theorem repliesTo (hserves : Serves unpack sender h body q) {wire : Wire}
    (hop : q.nextOp = some (.call sender.connId (.sendFrame wire)))
    (htype : wire.msgType = kMsgServerReply) : wire.RepliesTo h := by
  by_cases hheartbeat : h.msgType = kClientHeartbeat
  · unfold Request.nextOp at hop
    rcases hserves.heartbeat hheartbeat with hret | ⟨why, hstop⟩ | hreply
    · rw [hret] at hop
      cases hop
    · rw [hstop] at hop
      cases hop
    · rw [hreply] at hop
      cases hop
      have hreads :=
        RelayClient.eventOfWire_okReplyWire h.seq (lit "HEARTBEAT")
      exact .of_event rfl hreads (.heartbeat hheartbeat)
  · obtain ⟨learned, hplain, hasks⟩ := hserves.asks hop
    cases hasks with
    | ask mp _ _ hbody hasks =>
        cases hasks with
        | welcome self wantMode lok => exact hplain.elim
        | listing hcontrol listed =>
            obtain ⟨value, rfl⟩ := hplain
            exact .report hcontrol (by decide) value
        | answer _ hanswer => exact hanswer.repliesTo hheartbeat

theorem answers_or (hserves : Serves unpack sender h body q) {cfg : Config}
    {env : Env} {hub hub' : Hub} {op : Op} (hop : q.nextOp = some op)
    (hperform : q.perform cfg env hub = some (hub', q')) :
    (q'.nextOp = none ∧ ∃ made, made.EndsHandler h ∧
      Hub.callsOn sender.connId (op.calls cfg env hub) = [made]) ∨
    (q'.nextOp ≠ none ∧
      ∀ made ∈ Hub.callsOn sender.connId (op.calls cfg env hub),
        made.Unasked) := by
  obtain ⟨op', hop', hallows, _, _, _, hstage⟩ :=
    Request.perform_eq_some hperform
  rw [hop, Option.some.injEq] at hop'
  subst hop'
  rw [hserves.sender_eq] at hallows
  rcases Allows.answers_or hallows with ⟨entry, hanswers, rfl, hdone⟩ |
    ⟨hquiet, hgoes⟩
  · left
    have hdone' : q'.stage = .done := hstage.trans (hdone ())
    refine ⟨q'.stage_eq_done_iff.mp hdone', ?_⟩
    cases hanswers with
    | stop why =>
        exact ⟨.stop why, .stop why, by simp [Op.calls, Hub.callsOn]⟩
    | reply wire htype hseq =>
        exact ⟨.sendFrame wire, .reply wire (hserves.repliesTo hop htype),
          by simp [Op.calls, Hub.callsOn]⟩
  · right
    refine ⟨fun hnone => ?_, fun made hmade => ?_⟩
    · exact hgoes _ (hstage.symm.trans (q'.stage_eq_done_iff.mpr hnone))
    · have hcall := Hub.mem_callsOn.mp hmade
      have hnot := hquiet env hub _ hcall
      cases made with
      | stop why => cases hnot
      | notifyAndClose userReason logWhy => exact .kick userReason logWhy
      | markLogin uid isAdmin username =>
          exact .markLogin uid isAdmin username
      | sendFrame wire =>
          obtain ⟨learned, _, hasks⟩ := hserves.asks hop
          rcases hasks.sent hcall with hdeliver | hreply
          · exact .deliver wire hdeliver
          · simp [Call.isAnswer, Call.replySeq, hreply] at hnot

end Request.Serves

end AsioForwarder
