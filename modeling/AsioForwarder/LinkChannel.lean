import AsioForwarder.Link
import AsioForwarder.ReplyContent

/-!
# The server's half of a link

The requests which can still be answered stand in one order: those whose reply
is on its way to the client, the one in its handler, those on their way to the
server.  A step of the server's half keeps the order and loses a request only
together with the session.
-/

namespace AsioForwarder

/-! ## Frames on their way to the client -/

namespace Incoming

def answered (item : Incoming) : Option Sent :=
  if item.wire.msgType = kMsgServerReply then item.request else none

/-- What the server puts on the channel. -/
inductive Fair : Incoming → Prop where
  | reply (r : Sent) (wire : Wire) (hreply : wire.RepliesTo r.header) :
      Fair ⟨some r, wire⟩
  | deliver (request : Option Sent) (wire : Wire)
      (htype : wire.msgType = kMsgDeliver) : Fair ⟨request, wire⟩
  | kick (request : Option Sent) (reason : Bytes) :
      Fair ⟨request, kickWire reason⟩

def IsKick (item : Incoming) : Prop := item.wire.msgType = kMsgKick

theorem answered_reply {r : Sent} {wire : Wire}
    (htype : wire.msgType = kMsgServerReply) :
    answered ⟨some r, wire⟩ = some r := if_pos htype

theorem answered_deliver {request : Option Sent} {wire : Wire}
    (htype : wire.msgType = kMsgDeliver) :
    answered ⟨request, wire⟩ = none := by
  unfold answered
  rw [if_neg]
  rw [htype]
  decide

theorem answered_kick (request : Option Sent) (reason : Bytes) :
    answered ⟨request, kickWire reason⟩ = none := rfl

end Incoming

namespace Link

def answered (l : Link) : List Sent := l.toClient.filterMap Incoming.answered

def handled (l : Link) : List Sent :=
  match l.handling with
  | none => []
  | some (r, q) => if q.nextOp.isSome then [r] else []

/-- The requests which may still be answered, in order. -/
def owed (l : Link) : List Sent := l.answered ++ (l.handled ++ l.toServer)

def Dead (l : Link) : Prop :=
  l.clientOpen = false ∨ (l.serverOpen = false ∧ l.toClient = [])

/-! ## The server's steps -/

variable {unpack : Bytes → Option Obj} {sender : Identity}

/-- The channel to the client: a KICK is its last frame, and the handler in
progress is that of its request. -/
structure Flowing (unpack : Bytes → Option Obj) (sender : Identity)
    (l : Link) : Prop where
  fair : ∀ item ∈ l.toClient, item.Fair
  kickLast : l.toClient.Pairwise (fun item _ => ¬item.IsKick)
  kickShut : l.serverOpen = true → ∀ item ∈ l.toClient, ¬item.IsKick
  serves : ∀ r q, l.handling = some (r, q) →
    q.Serves unpack sender r.header r.body

/-- What happens to the server's half without a request being answered. -/
structure Passes (l l' : Link) (added : List Incoming) : Prop where
  eq : l' = { l with
    toClient := l.toClient ++ added, serverOpen := l'.serverOpen }
  stays : l.serverOpen = false → l'.serverOpen = false ∧ added = []
  fair : ∀ item ∈ added, item.Fair ∧ item.answered = none
  kickLast : added.Pairwise (fun item _ => ¬item.IsKick)
  kickShut : l'.serverOpen = true → ∀ item ∈ added, ¬item.IsKick

theorem Passes.refl (l : Link) : Passes l l [] where
  eq := by simp
  stays := fun hshut => ⟨hshut, rfl⟩
  fair := by simp
  kickLast := .nil
  kickShut := by simp

theorem Passes.trans {l middle l' : Link} {first second : List Incoming}
    (hfirst : Passes l middle first) (hsecond : Passes middle l' second) :
    Passes l l' (first ++ second) where
  eq := by
    have heq := hsecond.eq
    rw [hfirst.eq] at heq
    rw [← List.append_assoc]
    exact heq
  stays := by
    intro hshut
    obtain ⟨hmiddle, hnone⟩ := hfirst.stays hshut
    obtain ⟨hshut', hnone'⟩ := hsecond.stays hmiddle
    exact ⟨hshut', by rw [hnone, hnone', List.append_nil]⟩
  fair := by
    intro item hitem
    rcases List.mem_append.mp hitem with hitem | hitem
    · exact hfirst.fair item hitem
    · exact hsecond.fair item hitem
  kickLast := by
    rw [List.pairwise_append]
    refine ⟨hfirst.kickLast, hsecond.kickLast, ?_⟩
    intro item hitem later hlater
    cases hopen : middle.serverOpen with
    | true => exact hfirst.kickShut hopen item hitem
    | false =>
        rw [(hsecond.stays hopen).2] at hlater
        cases hlater
  kickShut := by
    intro hopen item hitem
    have hmiddle : middle.serverOpen = true := by
      by_contra hshut
      rw [Bool.not_eq_true] at hshut
      rw [(hsecond.stays hshut).1] at hopen
      cases hopen
    rcases List.mem_append.mp hitem with hitem | hitem
    · exact hfirst.kickShut hmiddle item hitem
    · exact hsecond.kickShut hopen item hitem

theorem passes_item {l : Link} (hopen : l.serverOpen = true)
    {item : Incoming} (hfair : item.Fair) (hnone : item.answered = none)
    (stays : Bool) (hkick : stays = true → ¬item.IsKick) :
    Passes l { l with
      toClient := l.toClient ++ [item], serverOpen := stays } [item] where
  eq := rfl
  stays := by
    intro hshut
    rw [hopen] at hshut
    cases hshut
  fair := by
    intro other hother
    rw [List.mem_singleton] at hother
    subst hother
    exact ⟨hfair, hnone⟩
  kickLast := List.pairwise_singleton _ _
  kickShut := by
    intro hstays other hother
    rw [List.mem_singleton] at hother
    subst hother
    exact hkick hstays

theorem passes_shut (l : Link) :
    Passes l { l with serverOpen := false } [] where
  eq := by simp
  stays := fun _ => ⟨rfl, rfl⟩
  fair := by simp
  kickLast := .nil
  kickShut := by simp

theorem not_isKick_deliver {request : Option Sent} {wire : Wire}
    (htype : wire.msgType = kMsgDeliver) :
    ¬Incoming.IsKick ⟨request, wire⟩ := by
  intro hkick
  have hsame : kMsgDeliver = kMsgKick := htype.symm.trans hkick
  exact absurd hsame (by decide)

theorem not_isKick_reply {request : Option Sent} {wire : Wire}
    (htype : wire.msgType = kMsgServerReply) :
    ¬Incoming.IsKick ⟨request, wire⟩ := by
  intro hkick
  have hsame : kMsgServerReply = kMsgKick := htype.symm.trans hkick
  exact absurd hsame (by decide)

theorem give_of_shut {l : Link} (hshut : l.serverOpen = false) (r : Sent)
    (made : Call) : l.give r made = l := by
  simp [give, hshut]

theorem passes_give (l : Link) (r : Sent) {made : Call}
    (hmade : made.Unasked) : ∃ added, Passes l (l.give r made) added := by
  cases hopen : l.serverOpen with
  | false =>
      rw [give_of_shut hopen]
      exact ⟨[], .refl l⟩
  | true =>
      have hgive : ¬(!l.serverOpen) = true := by simp [hopen]
      unfold give
      rw [if_neg hgive]
      cases hmade with
      | deliver wire htype =>
          have hpass := passes_item hopen (.deliver (some r) wire htype)
            (Incoming.answered_deliver htype) true
            (fun _ => not_isKick_deliver htype)
          rw [← hopen] at hpass
          exact ⟨_, hpass⟩
      | kick userReason logWhy =>
          exact ⟨_, passes_item hopen (.kick (some r) userReason)
            (Incoming.answered_kick _ _) false (fun hstays => by cases hstays)⟩
      | markLogin uid isAdmin username => exact ⟨[], .refl l⟩

theorem passes_giveAll (l : Link) (r : Sent) {made : List Call}
    (hmade : ∀ call ∈ made, call.Unasked) :
    ∃ added, Passes l (l.giveAll r made) added := by
  induction made generalizing l with
  | nil => exact ⟨[], .refl l⟩
  | cons call rest ih =>
      obtain ⟨first, hfirst⟩ :=
        passes_give l r (hmade call List.mem_cons_self)
      obtain ⟨second, hsecond⟩ := ih (l.give r call)
        (fun call hcall => hmade call (List.mem_cons_of_mem _ hcall))
      exact ⟨first ++ second, hfirst.trans hsecond⟩

theorem Flowing.passes {l l' : Link} {added : List Incoming}
    (hflowing : l.Flowing unpack sender) (hpasses : Passes l l' added) :
    l'.Flowing unpack sender := by
  have hclient : l'.toClient = l.toClient ++ added := by rw [hpasses.eq]
  have hhandling : l'.handling = l.handling := by rw [hpasses.eq]
  have hopens : l'.serverOpen = true → l.serverOpen = true := by
    intro hopen
    by_contra hshut
    rw [Bool.not_eq_true] at hshut
    rw [(hpasses.stays hshut).1] at hopen
    cases hopen
  refine ⟨?_, ?_, ?_, ?_⟩
  · rw [hclient]
    intro item hitem
    rcases List.mem_append.mp hitem with hitem | hitem
    · exact hflowing.fair item hitem
    · exact (hpasses.fair item hitem).1
  · rw [hclient, List.pairwise_append]
    refine ⟨hflowing.kickLast, hpasses.kickLast, ?_⟩
    intro item hitem later hlater
    cases hopen : l.serverOpen with
    | true => exact hflowing.kickShut hopen item hitem
    | false =>
        rw [(hpasses.stays hopen).2] at hlater
        cases hlater
  · rw [hclient]
    intro hopen item hitem
    rcases List.mem_append.mp hitem with hitem | hitem
    · exact hflowing.kickShut (hopens hopen) item hitem
    · exact hpasses.kickShut hopen item hitem
  · rw [hhandling]
    exact hflowing.serves

/-- A step of the server's half.  A request is lost only when no frame is
added any more and the replies on their way are to earlier ones. -/
structure Served (l l' : Link) : Prop where
  session : l'.session = l.session
  issued : l'.issued = l.issued
  asked : l'.asked = l.asked
  clientOpen : l'.clientOpen = l.clientOpen
  ended : l'.ended = l.ended
  owed : l'.owed.Sublist l.owed
  kept : ∀ r ∈ l.owed, r ∈ l'.owed ∨
    (l'.serverOpen = false ∧ ∀ other ∈ l'.answered, other.id < r.id)
  shut : l.serverOpen = false →
    l'.serverOpen = false ∧ l'.toClient = l.toClient

def Ordered (l : Link) : Prop :=
  l.owed.Pairwise (fun earlier later => earlier.id < later.id)

theorem answered_append {l l' : Link} {added : List Incoming}
    (hclient : l'.toClient = l.toClient ++ added) :
    l'.answered = l.answered ++ added.filterMap Incoming.answered := by
  rw [answered, answered, hclient, List.filterMap_append]

theorem handled_of_nextOp {l : Link} {r : Sent} {q : Request}
    (hhandling : l.handling = some (r, q)) (hnext : q.nextOp ≠ none) :
    l.handled = [r] := by
  simp [handled, hhandling, Option.isSome_iff_ne_none, hnext]

theorem handled_of_done {l : Link} {r : Sent} {q : Request}
    (hhandling : l.handling = some (r, q)) (hdone : q.nextOp = none) :
    l.handled = [] := by
  simp [handled, hhandling, hdone]

theorem Passes.served {l l' : Link} {added : List Incoming}
    (hpasses : Passes l l' added) : Served l l' := by
  have hclient : l'.toClient = l.toClient ++ added := by rw [hpasses.eq]
  have hnone : added.filterMap Incoming.answered = [] := by
    rw [List.filterMap_eq_nil_iff]
    exact fun item hitem => (hpasses.fair item hitem).2
  have hanswered : l'.answered = l.answered := by
    rw [answered_append hclient, hnone, List.append_nil]
  have hhandled : l'.handled = l.handled := by
    rw [hpasses.eq]
    rfl
  have howed : l'.owed = l.owed := by
    rw [owed, owed, hanswered, hhandled, hpasses.eq]
  refine ⟨?_, ?_, ?_, ?_, ?_, ?_, ?_, ?_⟩
  · rw [hpasses.eq]
  · rw [hpasses.eq]
  · rw [hpasses.eq]
  · rw [hpasses.eq]
  · rw [hpasses.eq]
  · rw [howed]
  · intro r hr
    rw [howed]
    exact .inl hr
  · intro hshut
    obtain ⟨hshut', hnothing⟩ := hpasses.stays hshut
    rw [hnothing, List.append_nil] at hclient
    exact ⟨hshut', hclient⟩

theorem served_of_same {l l' : Link}
    (heq : l' = { l with toServer := l'.toServer, handling := l'.handling })
    (hserver : l'.handled ++ l'.toServer = l.handled ++ l.toServer) :
    Served l l' := by
  have hanswered : l'.answered = l.answered := by
    rw [heq]
    rfl
  have howed : l'.owed = l.owed := by
    rw [owed, owed, hanswered, hserver]
  refine ⟨?_, ?_, ?_, ?_, ?_, ?_, ?_, ?_⟩
  · rw [heq]
  · rw [heq]
  · rw [heq]
  · rw [heq]
  · rw [heq]
  · rw [howed]
  · intro r hr
    rw [howed]
    exact .inl hr
  · intro hshut
    rw [heq]
    exact ⟨hshut, rfl⟩

theorem Served.trans {l middle l' : Link} (hfirst : Served l middle)
    (hsame : middle.owed = l.owed) (hsecond : Served middle l') :
    Served l l' where
  session := hsecond.session.trans hfirst.session
  issued := hsecond.issued.trans hfirst.issued
  asked := hsecond.asked.trans hfirst.asked
  clientOpen := hsecond.clientOpen.trans hfirst.clientOpen
  ended := hsecond.ended.trans hfirst.ended
  owed := hsecond.owed.trans hfirst.owed
  kept := by
    rw [← hsame]
    exact hsecond.kept
  shut := by
    intro hshut
    obtain ⟨hmiddle, hclient⟩ := hfirst.shut hshut
    obtain ⟨hshut', hclient'⟩ := hsecond.shut hmiddle
    exact ⟨hshut', hclient'.trans hclient⟩

theorem served_drop {l : Link} (hordered : l.Ordered) {r : Sent}
    {q q' : Request} (hhandling : l.handling = some (r, q))
    (hnext : q.nextOp ≠ none) (hdone : q'.nextOp = none) :
    Served l { l with handling := some (r, q'), serverOpen := false } := by
  have hbefore : l.owed = l.answered ++ ([r] ++ l.toServer) := by
    rw [owed, handled_of_nextOp hhandling hnext]
  have hafter : owed { l with
      handling := some (r, q'), serverOpen := false } =
        l.answered ++ l.toServer := by
    rw [owed, handled_of_done rfl hdone]
    rfl
  refine ⟨rfl, rfl, rfl, rfl, rfl, ?_, ?_, fun _ => ⟨rfl, rfl⟩⟩
  · rw [hbefore, hafter]
    exact (List.sublist_append_right [r] l.toServer).append_left _
  · intro request hrequest
    rw [hbefore, List.mem_append, List.mem_append, List.mem_singleton]
      at hrequest
    rw [hafter, List.mem_append]
    rcases hrequest with hanswered | rfl | hserver
    · exact .inl (.inl hanswered)
    · refine .inr ⟨rfl, fun other hother => ?_⟩
      rw [Ordered, hbefore, List.pairwise_append] at hordered
      exact hordered.2.2 other hother request List.mem_cons_self
    · exact .inl (.inr hserver)

/-- The handler ends with its reply. -/
theorem served_reply {l : Link} {r : Sent} {q q' : Request}
    (hhandling : l.handling = some (r, q)) (hnext : q.nextOp ≠ none)
    (hdone : q'.nextOp = none) (hopen : l.serverOpen = true) {wire : Wire}
    (htype : wire.msgType = kMsgServerReply) :
    Served l { l with
      handling := some (r, q')
      toClient := l.toClient ++ [⟨some r, wire⟩] } := by
  have hanswered : answered { l with
      handling := some (r, q'),
      toClient := l.toClient ++ [⟨some r, wire⟩] } = l.answered ++ [r] := by
    simp [answered, Incoming.answered_reply htype]
  have howed : owed { l with
      handling := some (r, q'),
      toClient := l.toClient ++ [⟨some r, wire⟩] } = l.owed := by
    rw [owed, hanswered, handled_of_done rfl hdone, owed,
      handled_of_nextOp hhandling hnext, List.append_assoc, List.nil_append]
  refine ⟨rfl, rfl, rfl, rfl, rfl, ?_, ?_, ?_⟩
  · rw [howed]
  · intro request hrequest
    rw [howed]
    exact .inl hrequest
  · intro hshut
    rw [hopen] at hshut
    cases hshut

theorem Flowing.reply {l : Link} (hflowing : l.Flowing unpack sender)
    {r : Sent} {q' : Request} (hopen : l.serverOpen = true) {wire : Wire}
    (hreply : wire.RepliesTo r.header)
    (hserves : q'.Serves unpack sender r.header r.body) :
    Flowing unpack sender { l with
      handling := some (r, q'),
      toClient := l.toClient ++ [⟨some r, wire⟩] } where
  fair := by
    intro item hitem
    rcases List.mem_append.mp hitem with hitem | hitem
    · exact hflowing.fair item hitem
    · rw [List.mem_singleton] at hitem
      subst hitem
      exact .reply r wire hreply
  kickLast := by
    rw [List.pairwise_append]
    exact ⟨hflowing.kickLast, List.pairwise_singleton _ _,
      fun item hitem _ _ => hflowing.kickShut hopen item hitem⟩
  kickShut := by
    intro _ item hitem
    rcases List.mem_append.mp hitem with hitem | hitem
    · exact hflowing.kickShut hopen item hitem
    · rw [List.mem_singleton] at hitem
      subst hitem
      exact not_isKick_reply hreply.1
  serves := by
    intro request q hhandling
    cases hhandling
    exact hserves

theorem Flowing.handle {l : Link} (hflowing : l.Flowing unpack sender)
    {stays : Bool} (hstays : stays = true → l.serverOpen = true)
    (toServer : List Sent) {handling : Option (Sent × Request)}
    (hserves : ∀ r q, handling = some (r, q) →
      q.Serves unpack sender r.header r.body) :
    Flowing unpack sender { l with
      toServer := toServer, handling := handling, serverOpen := stays } where
  fair := hflowing.fair
  kickLast := hflowing.kickLast
  kickShut := fun hopen => hflowing.kickShut (hstays hopen)
  serves := hserves

def OfServer : LinkEvent → Prop
  | .accept | .advance _ _ | .deliver _ | .kick _ | .hangUp => True
  | _ => False

theorem Flowing.advance {cfg : Config} {l : Link}
    (hflowing : l.Flowing unpack sender) (hordered : l.Ordered) {r : Sent}
    {q q' : Request} (hhandling : l.handling = some (r, q)) {env : Env}
    {hub hub' : Hub} {op : Op} (hop : q.nextOp = some op)
    (hperform : q.perform cfg env hub = some (hub', q')) :
    Served l ({ l with handling := some (r, q') }.giveAll r
      (Hub.callsOn sender.connId (op.calls cfg env hub))) ∧
    Flowing unpack sender ({ l with handling := some (r, q') }.giveAll r
      (Hub.callsOn sender.connId (op.calls cfg env hub))) := by
  have hserves := hflowing.serves r q hhandling
  have hserves' := hserves.perform hperform
  have hnext : q.nextOp ≠ none := by simp [hop]
  have hhandle : ∀ request q₁, some (r, q') = some (request, q₁) →
      q₁.Serves unpack sender request.header request.body := by
    intro request q₁ heq
    cases heq
    exact hserves'
  rcases hserves.answers_or hop hperform with ⟨hdone, made, hends, hcalls⟩ |
    ⟨hgoes, hunasked⟩
  · rw [hcalls]
    change Served l (give r made { l with handling := some (r, q') }) ∧
      Flowing unpack sender (give r made { l with handling := some (r, q') })
    have hdrop : Served l { l with
          handling := some (r, q'), serverOpen := false } ∧
        Flowing unpack sender { l with
          handling := some (r, q'), serverOpen := false } :=
      ⟨served_drop hordered hhandling hnext hdone,
        hflowing.handle (fun hstays => by cases hstays) l.toServer hhandle⟩
    by_cases hopen : l.serverOpen = true
    · have hgive : ¬(!l.serverOpen) = true := by simp [hopen]
      unfold give
      rw [if_neg hgive]
      cases hends with
      | stop why => exact hdrop
      | reply wire hreply =>
          exact ⟨served_reply hhandling hnext hdone hopen hreply.1,
            hflowing.reply hopen hreply hserves'⟩
    · rw [Bool.not_eq_true] at hopen
      have hsame : give r made { l with handling := some (r, q') } =
          { l with handling := some (r, q') } := by simp [give, hopen]
      rw [hsame]
      rw [← hopen] at hdrop
      exact hdrop
  · obtain ⟨added, hpasses⟩ :=
      passes_giveAll { l with handling := some (r, q') } r hunasked
    have howed : owed { l with handling := some (r, q') } = l.owed := by
      rw [owed, owed, handled_of_nextOp rfl hgoes,
        handled_of_nextOp hhandling hnext]
      rfl
    have hsame : Served l { l with handling := some (r, q') } := by
      refine served_of_same rfl ?_
      rw [handled_of_nextOp rfl hgoes, handled_of_nextOp hhandling hnext]
    exact ⟨hsame.trans howed hpasses.served,
      (hflowing.handle id l.toServer hhandle).passes hpasses⟩

theorem Flowing.step (hin : sender.loggedIn = true) {cfg : Config}
    {l l' : Link} (hflowing : l.Flowing unpack sender)
    (hordered : l.Ordered) {event : LinkEvent} (hserver : OfServer event)
    (hstep : l.step cfg unpack sender event = some l') :
    Served l l' ∧ l'.Flowing unpack sender := by
  cases event with
  | call made written => exact hserver.elim
  | turn => exact hserver.elim
  | autoHeartbeat written => exact hserver.elim
  | accept =>
      simp only [Link.step] at hstep
      split at hstep
      · rename_i r rest hhandling hrest
        cases hstep
        have hserves : Request.Serves unpack sender r.header r.body
            (.start unpack sender r.header r.body) := .start hin
        have hnext : (Request.start unpack sender r.header r.body).nextOp ≠
            none := by
          rw [ne_eq, ← Request.stage_eq_done_iff]
          exact initialStage_ne_done unpack sender r.header r.body
        constructor
        · refine served_of_same rfl ?_
          rw [handled_of_nextOp rfl hnext, handled, hhandling, hrest]
          rfl
        · refine hflowing.handle id rest ?_
          intro request q heq
          cases heq
          exact hserves
      · cases hstep
  | advance env hub =>
      simp only [Link.step] at hstep
      split at hstep
      · cases hstep
      rename_i r q hhandling
      split at hstep
      · rename_i op _ _ q' hop hperform
        cases hstep
        exact hflowing.advance hordered hhandling hop hperform
      · rename_i hended
        cases hstep
        have hdone : q.nextOp = none := by
          cases hop : q.nextOp with
          | none => rfl
          | some op =>
              cases hperform : q.perform cfg env hub with
              | none =>
                  have hnone := (Request.stage_of_perform_eq_none hperform).2
                  exact hop.symm.trans hnone
              | some outcome =>
                  exact (hended op outcome.1 outcome.2 hop hperform).elim
        constructor
        · refine served_of_same rfl ?_
          rw [handled_of_done hhandling hdone]
          rfl
        · refine hflowing.handle id l.toServer ?_
          intro request q₁ heq
          cases heq
  | deliver wire =>
      simp only [Link.step] at hstep
      split at hstep
      · rename_i hready
        rw [Bool.and_eq_true, decide_eq_true_eq] at hready
        cases hstep
        have hpasses := passes_item hready.1 (.deliver none wire hready.2)
          (Incoming.answered_deliver hready.2) true
          (fun _ => not_isKick_deliver hready.2)
        rw [← hready.1] at hpasses
        exact ⟨hpasses.served, hflowing.passes hpasses⟩
      · cases hstep
  | kick reason =>
      simp only [Link.step] at hstep
      split at hstep
      · rename_i hopen
        cases hstep
        have hpasses := passes_item hopen (.kick none reason)
          (Incoming.answered_kick _ _) false (fun hstays => by cases hstays)
        exact ⟨hpasses.served, hflowing.passes hpasses⟩
      · cases hstep
  | hangUp =>
      cases hstep
      exact ⟨(passes_shut l).served, hflowing.passes (passes_shut l)⟩

end Link

end AsioForwarder
