import AsioForwarder.Authority
import AsioForwarder.RegistryInvariant
import AsioForwarder.RelayClient
import Mathlib.Data.List.TakeWhile

/-!
# The reply to a LOGIN and the first DELIVER

A session becomes a target of routing inside the critical section of its
login, and its ok reply is passed to `send_frame` later.  A message routed to
the account in between reaches the session before the reply.  Without such a
message the reply comes first, and `sign_on` of the client never meets a
DELIVER.
-/

namespace AsioForwarder

/-- The account of a login which is registered but not yet answered. -/
def Stage.welcomedId : Stage → Option Nat
  | .welcoming uid _ => some uid
  | _ => none

/-- The account whose sessions a routing operation chooses from. -/
def Op.routesTo : Op → Option Nat
  | .lock (.deliver _ _ _ uid _ _) => some uid
  | _ => none

def framesTo (c : ConnId) (calls : List (ConnId × Call)) : List Wire :=
  (Hub.callsOn c calls).filterMap Call.sent

theorem framesTo_append (c : ConnId) (first second : List (ConnId × Call)) :
    framesTo c (first ++ second) = framesTo c first ++ framesTo c second := by
  simp [framesTo, Hub.callsOn]

theorem mem_framesTo {c : ConnId} {calls : List (ConnId × Call)}
    {frame : Wire} :
    frame ∈ framesTo c calls ↔ (c, Call.sendFrame frame) ∈ calls := by
  simp only [framesTo, List.mem_filterMap, Hub.mem_callsOn]
  constructor
  · rintro ⟨made, hmade, hsent⟩
    cases made with
    | sendFrame wire =>
        cases hsent
        exact hmade
    | _ => cases hsent
  · intro hcall
    exact ⟨_, hcall, rfl⟩

/-- No DELIVER stands before the first ok LOGIN reply. -/
def LoginFirst (frames : List Wire) : Prop :=
  ∀ frame ∈ frames.takeWhile (fun frame => !frame.isLoginOk),
    frame.msgType ≠ kMsgDeliver

instance (frames : List Wire) : Decidable (LoginFirst frames) :=
  inferInstanceAs (Decidable (∀ frame ∈ List.takeWhile _ frames, _))

theorem LoginFirst.append {frames new : List Wire}
    (hfirst : LoginFirst frames)
    (hnew : ∀ frame ∈ new, frame.msgType = kMsgDeliver →
      ∃ reply ∈ frames, reply.isLoginOk = true) :
    LoginFirst (frames ++ new) := by
  intro frame hframe hdeliver
  rw [List.takeWhile_append] at hframe
  split at hframe
  · rename_i hall
    have hself : frames.takeWhile (fun frame => !frame.isLoginOk) = frames :=
      (List.takeWhile_prefix _).eq_of_length hall
    rcases List.mem_append.mp hframe with hold | hlate
    · exact hfirst frame (hself.symm ▸ hold) hdeliver
    · obtain ⟨reply, hreply, hok⟩ :=
        hnew frame (List.takeWhile_subset _ hlate) hdeliver
      rw [← hself] at hreply
      have hnot := List.mem_takeWhile_imp hreply
      simp [hok] at hnot
  · exact hfirst frame hframe hdeliver

theorem LoginFirst.signOn_ne {frames received : List Wire}
    (hfirst : LoginFirst frames)
    (hreceived : received.filter (fun frame => frame.msgType ≠ kMsgKick) <+:
      frames) :
    signOn received ≠ .deliverDuringLogin := by
  intro hsign
  obtain ⟨frame, hframe, hdeliver⟩ := deliver_of_signOn hsign
  refine hfirst frame ?_ hdeliver
  obtain ⟨later, rfl⟩ := hreceived
  rw [List.takeWhile_append]
  split
  · exact List.mem_append_left _ (List.takeWhile_subset _ hframe)
  · exact hframe

theorem loginReplyWire_isLoginOk (seq : UInt32) (self : Identity)
    (lok : LoginOk) : (loginReplyWire seq self lok).isLoginOk = true := by
  obtain ⟨mode, notice⟩ := lok
  cases notice with
  | none => rfl
  | some notice => rfl

namespace Server

variable {cfg : Config} {unpack : Bytes → Option Obj}

/-- No message is routed to an account while one of its logins stands
between its registration and its reply. -/
def LoginUndisturbed (s : Server) (event : Event) : Prop :=
  ∀ acting ∈ event.advance?, ∀ op ∈ s.pendingOp acting.1,
    ∀ uid ∈ op.routesTo, ∀ stage ∈ s.stages, stage.welcomedId ≠ some uid

instance (s : Server) (event : Event) :
    Decidable (s.LoginUndisturbed event) :=
  inferInstanceAs (Decidable (∀ acting ∈ event.advance?, _))

/-- The ok reply has been passed to the session, or its LOGIN frame is still
being handled. -/
def Welcomed (s : Server) (c : ConnId) : Prop :=
  (∃ reply ∈ framesTo c s.hub.calls, reply.isLoginOk = true) ∨
  ∃ q todo, s.readers c = .handling q ∧
    q.stage = .welcoming (s.hub.sessions c).userId todo

theorem framesTo_extend {s s' : Server} {event : Event}
    (hstep : s.step cfg unpack event = some s') (c : ConnId) :
    framesTo c s.hub.calls <+: framesTo c s'.hub.calls := by
  obtain ⟨new, hnew⟩ := calls_extend hstep
  rw [← hnew, framesTo_append]
  exact List.prefix_append _ _

theorem welcomed_of_registers {s s' : Server} {event : Event} {c : ConnId}
    {un : Bytes} {info : UserInfo} {wantMode : RecvMode}
    (hstep : s.step cfg unpack event = some s')
    (hregisters : s.Registers event c un info wantMode) :
    ∃ q todo, s'.readers c = .handling q ∧
      q.stage = .welcoming info.id todo := by
  obtain ⟨env, q, rfl, hreader, hauthed, hop⟩ := hregisters
  obtain ⟨q', _, hstage, rfl⟩ := perform_of_nextOp hstep hreader hop
  rw [Request.stageAfter, hauthed] at hstage
  exact ⟨q', _, setReader_self _ _ _, hstage⟩

theorem welcomed_of_advance {s s' : Server} {c : ConnId} {env : Env}
    {q : Request} {uid : Nat} {todo : List ConnId} (hsane : s.Sane)
    (hstep : s.step cfg unpack (.advance c env) = some s')
    (hreader : s.readers c = .handling q)
    (hstage : q.stage = .welcoming uid todo) :
    (∃ reply ∈ framesTo c s'.hub.calls, reply.isLoginOk = true) ∨
    ∃ q' rest, s'.readers c = .handling q' ∧
      q'.stage = .welcoming uid rest := by
  obtain ⟨op, q', hop, hallows, _, hnext, rfl⟩ :=
    perform_of_step hstep hreader (by simp [hstage])
  rw [Request.stageAfter, hstage] at hnext
  rw [hstage] at hallows
  cases hallows with
  | evict _ victim rest userReason logWhy =>
      exact .inr ⟨q', rest, setReader_self _ _ _, hnext⟩
  | welcome _ self lok =>
      refine .inl ⟨_, ?_, loginReplyWire_isLoginOk q.header.seq self lok⟩
      rw [mem_framesTo, setReader_hub, Op.exec_calls,
        (hsane.fits c q hreader).1]
      simp [Op.calls]
  | reply _ hmay wire htype hseq => cases hmay

theorem welcomed_of_step {s s' : Server} {event : Event} (hsane : s.Sane)
    (hstep : s.step cfg unpack event = some s')
    (hall : ∀ c, (s.hub.sessions c).loggedIn = true → s.Welcomed c)
    (c : ConnId) (hlogged' : (s'.hub.sessions c).loggedIn = true) :
    s'.Welcomed c := by
  cases hlogged : (s.hub.sessions c).loggedIn with
  | false =>
      obtain ⟨un, info, wantMode, hregisters, huid⟩ :=
        registers_of_login hsane hstep hlogged hlogged'
      right
      rw [huid]
      exact welcomed_of_registers hstep hregisters
  | true =>
      have huid : (s'.hub.sessions c).userId = (s.hub.sessions c).userId :=
        congrArg Identity.userId (identity_stable hsane hstep hlogged)
      rcases hall c hlogged with ⟨reply, hreply, hok⟩ |
        ⟨q, todo, hreader, hstage⟩
      · exact .inl ⟨reply, (framesTo_extend hstep c).subset hreply, hok⟩
      · unfold Welcomed
        rw [huid]
        by_cases hadvance : ∃ env, event = .advance c env
        · obtain ⟨env, rfl⟩ := hadvance
          exact welcomed_of_advance hsane hstep hreader hstage
        · refine .inr ⟨q, todo, handling_of_step hstep hsane hreader ?_,
            hstage⟩
          intro env hevent
          exact hadvance ⟨env, hevent⟩

theorem frames_of_step {s s' : Server} {event : Event}
    (hlisted : s.Listed cfg)
    (hstep : s.step cfg unpack event = some s') (c : ConnId) :
    ∃ new, framesTo c s'.hub.calls = framesTo c s.hub.calls ++ new ∧
      ∀ frame ∈ new, frame.msgType = kMsgDeliver →
        (s.hub.sessions c).loggedIn = true ∧
        ∃ d env op, event = .advance d env ∧ op ∈ s.pendingOp d ∧
          op.routesTo = some (s.hub.sessions c).userId := by
  rcases calls_of_step hstep with hsame | ⟨d, made, hmade, hcalls⟩ |
    ⟨d, env, q, op, rfl, hreader, hop, hallows, _, hcalls⟩
  · exact ⟨[], by rw [hsame, List.append_nil], by simp⟩
  · refine ⟨framesTo c [(d, made)], by rw [hcalls, framesTo_append], ?_⟩
    intro frame hframe
    rw [mem_framesTo, List.mem_singleton, Prod.mk.injEq] at hframe
    rcases hmade with ⟨why, rfl⟩ | ⟨userReason, logWhy, rfl⟩
    · cases hframe.2
    · cases hframe.2
  · refine ⟨framesTo c (op.calls cfg env s.hub),
      by rw [hcalls, framesTo_append], ?_⟩
    intro frame hframe hdeliver
    rw [mem_framesTo] at hframe
    obtain ⟨dst, uid, payload, _, rfl, hmem, _⟩ :=
      deliver_of_calls hallows hframe rfl hdeliver
    rw [hlisted.owner uid c hmem]
    have hpending := (pendingOp_of_handling hreader).trans hop
    exact ⟨hlisted.loggedIn hmem, d, env, _, rfl, hpending, rfl⟩

/-- What the order of frames rests on. -/
structure OrderOk (cfg : Config) (s : Server) : Prop where
  sane : s.Sane
  listed : s.Listed cfg
  welcomed : ∀ c, (s.hub.sessions c).loggedIn = true → s.Welcomed c
  first : ∀ c, LoginFirst (framesTo c s.hub.calls)

theorem orderOk_initial (db : Db) : (initial db).OrderOk cfg where
  sane := sane_initial db
  listed := listed_initial db
  welcomed := by
    intro c hlogged
    cases hlogged
  first := by
    intro c frame hframe
    simp [initial, framesTo, Hub.callsOn] at hframe

theorem OrderOk.step {s s' : Server} {event : Event} (hok : s.OrderOk cfg)
    (hgood : s.LoginUndisturbed event)
    (hstep : s.step cfg unpack event = some s') : s'.OrderOk cfg where
  sane := hok.sane.step hstep
  listed := hok.listed.step hok.sane hstep
  welcomed := welcomed_of_step hok.sane hstep hok.welcomed
  first := by
    intro c
    obtain ⟨new, hframes, hnew⟩ := frames_of_step hok.listed hstep c
    rw [hframes]
    refine (hok.first c).append ?_
    intro frame hframe hdeliver
    obtain ⟨hlogged, d, env, op, rfl, hop, hroutes⟩ :=
      hnew frame hframe hdeliver
    rcases hok.welcomed c hlogged with hreply | ⟨q, todo, hreader, hstage⟩
    · exact hreply
    · exact absurd rfl (hgood (d, env) rfl op hop _ hroutes
        (.welcoming (s.hub.sessions c).userId todo)
        ((mem_stages hok.sane).mpr ⟨c, q, hreader, hstage⟩))

/-- The ok LOGIN reply comes before every DELIVER, and `sign_on` of the
client never meets one, in every run in which no message is routed to an
account while one of its logins stands between registration and reply. -/
theorem loginFirst_of_undisturbed (cfg : Config)
    (unpack : Bytes → Option Obj) (db : Db) (events : List Event)
    (s : Server)
    (hgood : Transition.Along (step cfg unpack) LoginUndisturbed events
      (initial db))
    (hrun : Transition.run (step cfg unpack) events (initial db) = some s)
    (c : ConnId) :
    LoginFirst (framesTo c s.hub.calls) ∧
    ∀ received : List Wire,
      received.filter (fun frame => frame.msgType ≠ kMsgKick) <+:
        framesTo c s.hub.calls →
      signOn received ≠ .deliverDuringLogin := by
  have hok : s.OrderOk cfg := Transition.run_preserves _
    (fun _ _ _ hok hgood hstep => OrderOk.step hok hgood hstep)
    (orderOk_initial db) hgood hrun
  exact ⟨hok.first c, fun received => (hok.first c).signOn_ne⟩

theorem loginFirst_of_undisturbed_selfDataRun :
    ∃ s, Transition.run (step forwarderJson unpackFlat) selfDataRun
        (initial emptyDb) = some s ∧
      (∃ frame ∈ framesTo 1 s.hub.calls, frame.msgType = kMsgDeliver) ∧
      LoginFirst (framesTo 1 s.hub.calls) := by
  obtain ⟨s, hrun, hdeliver⟩ : ∃ s,
      Transition.run (step forwarderJson unpackFlat) selfDataRun
        (initial emptyDb) = some s ∧
      ∃ frame ∈ framesTo 1 s.hub.calls, frame.msgType = kMsgDeliver :=
    Transition.exists_run_of_check (by decide +kernel)
  exact ⟨s, hrun, hdeliver,
    (loginFirst_of_undisturbed forwarderJson unpackFlat emptyDb selfDataRun s
      (Transition.along_of_check (by decide +kernel)) hrun 1).1⟩

/-- A second session of `root` is registered, and before its reply session 1
sends a message to `root`. -/
def deliverBeforeReplyRun : List Event :=
  rootLogin ++ [.accept (lit "10.0.0.1")] ++
    receive 2 kClientLogin 1 (loginBody (lit "root") (lit "pw") (lit "admin"))
    ++ advances 2 4 ++
    receive 1 kClientData 2 (dataBody (lit "root")) ++ advances 1 2 ++
    advances 2 1

theorem deliver_before_login_reply :
    ∃ s, Transition.run (step forwarderJson unpackFlat) deliverBeforeReplyRun
        (initial emptyDb) = some s ∧
      (∃ reply ∈ framesTo 2 s.hub.calls, reply.isLoginOk = true) ∧
      ¬LoginFirst (framesTo 2 s.hub.calls) ∧
      signOn (framesTo 2 s.hub.calls) = .deliverDuringLogin :=
  Transition.exists_run_of_check (by decide +kernel)

end Server

end AsioForwarder
