import AsioForwarder.RegistryInvariant
import AsioForwarder.SessionKick

/-!
# The end of a session

`stop` and `notify_and_close` only post a handler; until it has run, and for
a kick until the notice is written, the socket stays open and the read loop
goes on.  A frame whose read completes in that window is handled like any
other.  This module shows that the window is the only way: if every frame
read in it is one the handler merely answers, a session on which termination
has been decided has no further effect.
-/

namespace AsioForwarder

def Handler.ends : Handler → Bool
  | .kick _ _ => true
  | .stop _ => true
  | _ => false

def Call.isTermination : Call → Bool
  | .notifyAndClose _ _ => true
  | .stop _ => true
  | _ => false

namespace TcpSession

/-- The end of the session has been asked for and has not happened: its
handler is waiting, or the notice is still to be written. -/
def condemned (s : TcpSession) : Bool :=
  s.kickPending || s.posted.any Handler.ends

def doomed (s : TcpSession) : Bool := s.stopped || s.condemned

/-! ## One session -/

theorem doomed_iff {s : TcpSession} :
    s.doomed = true ↔ s.stopped = true ∨ s.kickPending = true ∨
      ∃ handler ∈ s.posted, handler.ends = true := by
  simp [doomed, condemned]

theorem doomed_of_posted {s t : TcpSession} (hdoomed : s.doomed = true)
    (hstopped : t.stopped = s.stopped)
    (hpending : t.kickPending = s.kickPending)
    (hposted : s.posted ⊆ t.posted) : t.doomed = true := by
  rw [doomed_iff, hstopped, hpending]
  rcases doomed_iff.mp hdoomed with h | h | ⟨handler, hmem, hends⟩
  · exact .inl h
  · exact .inr (.inl h)
  · exact .inr (.inr ⟨handler, hposted hmem, hends⟩)

theorem doomed_post {s : TcpSession} (hdoomed : s.doomed = true)
    (handler : Handler) : (s.post handler).doomed = true :=
  doomed_of_posted hdoomed rfl rfl (List.subset_append_left _ _)

theorem doomed_pop {s : TcpSession} {handler : Handler}
    {later : List Handler} (hdoomed : s.doomed = true)
    (hposted : s.posted = handler :: later) (hends : handler.ends = false) :
    doomed { s with posted := later } = true := by
  rw [doomed_iff] at hdoomed ⊢
  rcases hdoomed with h | h | ⟨other, hmem, hother⟩
  · exact .inl h
  · exact .inr (.inl h)
  · rw [hposted, List.mem_cons] at hmem
    rcases hmem with rfl | hlater
    · rw [hends] at hother
      cases hother
    · exact .inr (.inr ⟨other, hlater, hother⟩)

theorem doomed_handleSend {s : TcpSession} (hdoomed : s.doomed = true)
    (cfg : Config) (bytes : Wire) :
    (s.handleSend cfg bytes).doomed = true := by
  obtain ⟨hstopped, hpending, _, _⟩ := handleSend_flags cfg s bytes
  refine doomed_of_posted hdoomed hstopped hpending ?_
  rcases handleSend_posted cfg s bytes with hsame | ⟨why, hstop⟩
  · rw [hsame]
    exact List.Subset.refl _
  · rw [hstop]
    exact List.subset_append_left _ _

theorem doomed_handleKick (s : TcpSession) (notifyWire : Wire)
    (logWhy : Bytes) : (s.handleKick notifyWire logWhy).doomed = true := by
  rw [doomed_iff]
  unfold handleKick
  split
  · rename_i hflag
    rw [Bool.or_eq_true] at hflag
    rcases hflag with h | h
    · exact .inl h
    · exact .inr (.inl h)
  · exact .inr (.inl (by simp [replaceQueue]))

theorem doomed_handleStop (s : TcpSession) : s.handleStop.doomed = true := by
  rw [doomed_iff]
  unfold handleStop
  split
  · rename_i hstopped
    exact .inl hstopped
  · exact .inl rfl

theorem doomed_handleWritten {s : TcpSession} (hdoomed : s.doomed = true)
    (bytes : Wire) (ec : Option Bytes) :
    (s.handleWritten bytes ec).doomed = true := by
  cases ec with
  | some message =>
      exact doomed_of_posted hdoomed rfl rfl (List.subset_append_left _ _)
  | none =>
      simp only [handleWritten]
      split
      · exact doomed_iff.mpr (.inl rfl)
      · refine doomed_of_posted hdoomed ?_ ?_ ?_ <;>
          simp [popWritten]

theorem doomed_ioStep {cfg : Config} {s next : TcpSession} {event : IoEvent}
    (hdoomed : s.doomed = true) (hstep : s.ioStep cfg event = some next) :
    next.doomed = true := by
  obtain ⟨handler, later, rfl, hposted, rfl⟩ |
    ⟨index, count, write, rfl, _, _, rfl⟩ |
    ⟨index, write, rfl, _, _, rfl⟩ |
    ⟨index, write, message, rfl, _, _, rfl⟩ := ioStep_cases hstep
  · cases handler with
    | sendFrame bytes =>
        exact doomed_handleSend (doomed_pop hdoomed hposted rfl) cfg bytes
    | kick notifyWire logWhy => exact doomed_handleKick _ notifyWire logWhy
    | stop why => exact doomed_handleStop _
    | written bytes ec =>
        exact doomed_handleWritten (doomed_pop hdoomed hposted rfl) bytes ec
  · exact hdoomed
  · exact doomed_of_posted hdoomed rfl rfl (List.subset_append_left _ _)
  · exact doomed_of_posted hdoomed rfl rfl (List.subset_append_left _ _)

/-- A stopped session is closed. -/
def Shut (s : TcpSession) : Prop := s.stopped = true → s.isOpen = false

theorem shut_ioStep {cfg : Config} {s next : TcpSession} {event : IoEvent}
    (hshut : s.Shut) (hstep : s.ioStep cfg event = some next) :
    next.Shut := by
  obtain ⟨handler, later, rfl, hposted, rfl⟩ |
    ⟨index, count, write, rfl, _, _, rfl⟩ |
    ⟨index, write, rfl, _, _, rfl⟩ |
    ⟨index, write, message, rfl, _, _, rfl⟩ := ioStep_cases hstep
  · cases handler with
    | sendFrame bytes =>
        obtain ⟨hstopped, _, hopen, _⟩ :=
          handleSend_flags cfg { s with posted := later } bytes
        unfold Shut TcpSession.handle
        dsimp only
        rw [hstopped, hopen]
        exact hshut
    | kick notifyWire logWhy =>
        unfold TcpSession.handle handleKick
        dsimp only
        split
        · exact hshut
        · intro hstopped
          rw [writeNext_stopped] at hstopped
          rw [writeNext_isOpen]
          exact hshut hstopped
    | stop why =>
        unfold TcpSession.handle handleStop
        dsimp only
        split
        · exact hshut
        · exact fun _ => rfl
    | written bytes ec =>
        cases ec with
        | some message => exact hshut
        | none =>
            simp only [TcpSession.handle, handleWritten]
            split
            · exact fun _ => rfl
            · intro hstopped
              rw [doWrite_stopped] at hstopped
              rw [doWrite_isOpen]
              exact hshut hstopped
  · exact hshut
  · exact hshut
  · exact hshut

end TcpSession

namespace Call

theorem apply_shut {made : Call} {s : TcpSession} (hshut : s.Shut) :
    (made.apply s).Shut := by
  cases made with
  | notifyAndClose userReason logWhy =>
      simp only [apply, TcpSession.notifyAndClose]
      split <;> exact hshut
  | _ => exact hshut

theorem apply_doomed {made : Call} {s : TcpSession}
    (hdoomed : s.doomed = true) : (made.apply s).doomed = true := by
  cases made with
  | sendFrame wire => exact TcpSession.doomed_post hdoomed _
  | notifyAndClose userReason logWhy =>
      simp only [apply, TcpSession.notifyAndClose]
      split
      · exact TcpSession.doomed_of_posted hdoomed rfl rfl
          (List.subset_append_left _ _)
      · exact TcpSession.doomed_post hdoomed _
  | stop why => exact TcpSession.doomed_post hdoomed _
  | markLogin uid isAdmin username => exact hdoomed

theorem apply_dooms {made : Call} (htermination : made.isTermination = true)
    (s : TcpSession) : (made.apply s).doomed = true := by
  rw [TcpSession.doomed_iff]
  cases made with
  | notifyAndClose userReason logWhy =>
      simp only [apply, TcpSession.notifyAndClose]
      split
      · exact .inr (.inr ⟨.kick (kickWire userReason) logWhy,
          List.mem_append_right _ (List.mem_singleton.mpr rfl), rfl⟩)
      · exact .inr (.inr ⟨.stop logWhy,
          List.mem_append_right _ (List.mem_singleton.mpr rfl), rfl⟩)
  | stop why =>
      exact .inr (.inr ⟨.stop why,
        List.mem_append_right _ (List.mem_singleton.mpr rfl), rfl⟩)
  | sendFrame wire => cases htermination
  | markLogin uid isAdmin username => cases htermination

end Call

/-! ## Read loops -/

namespace ReadLoop

/-- The read loop is waiting for a frame or the rest of one. -/
def awaits : ReadLoop → Bool
  | .awaitHeader => true
  | .awaitBody _ => true
  | _ => false

/-- The frame whose read this event completes. -/
def completes : ReadLoop → ReadEvent → Option (Header × Bytes)
  | .awaitHeader, .header h => if h.bodyLen = 0 then some (h, []) else none
  | .awaitBody h, .body bytes => some (h, bytes)
  | _, _ => none

/-- What the read loop has read is a frame the handler only answers. -/
def Inert (unpack : Bytes → Option Obj) (self : Identity) : ReadLoop → Prop
  | .gotHeader h =>
      h.bodyLen = 0 → initialStage unpack self h [] = .answering
  | .gotBody h body => initialStage unpack self h body = .answering
  | .handling q => q.stage = .answering ∨ q.stage = .done
  | _ => True

end ReadLoop

def Stage.victims : Stage → List ConnId
  | .welcoming _ todo => todo
  | .kicking todo => todo
  | .purging _ _ todo => todo
  | _ => []

theorem Opening.victims {sender : Identity} {h : Header} {stage : Stage}
    (hopening : Opening sender h stage) : stage.victims = [] := by
  cases hopening <;> rfl

def Event.read? : Event → Option (ConnId × ReadEvent)
  | .read c event => some (c, event)
  | _ => none

namespace Server

variable {cfg : Config} {unpack : Bytes → Option Obj}

/-- `stop` or `notify_and_close` has been called on the session. -/
def Terminated (s : Server) (c : ConnId) : Prop :=
  ∃ made ∈ Hub.callsOn c s.hub.calls, made.isTermination = true

instance (s : Server) (c : ConnId) : Decidable (s.Terminated c) :=
  inferInstanceAs (Decidable (∃ made ∈ Hub.callsOn c s.hub.calls, _))

/-- A frame whose read completes while the end of the session is pending is
one the handler only answers: no LOGIN map, and after the login neither a
DATA map nor an administrator's CONTROL map. -/
def TerminationHeeded (unpack : Bytes → Option Obj) (s : Server)
    (event : Event) : Prop :=
  ∀ reading ∈ event.read?, (s.hub.sessions reading.1).condemned = true →
    ∀ frame ∈ (s.readers reading.1).completes reading.2,
      initialStage unpack (s.hub.identity reading.1) frame.1 frame.2 =
        .answering

instance (s : Server) (event : Event) :
    Decidable (s.TerminationHeeded unpack event) :=
  inferInstanceAs (Decidable (∀ reading ∈ event.read?, _))

/-- A step of `c` changes no table, logs nobody in, changes no deque and no
receive mode, kicks no other session and passes no DELIVER to one. -/
structure Harmless (c : ConnId) (s s' : Server) : Prop where
  users : s'.hub.db.users = s.hub.db.users
  allowlist : s'.hub.db.allowlist = s.hub.db.allowlist
  login : (s'.hub.sessions c).loggedIn = (s.hub.sessions c).loggedIn
  deques : ∀ uid, s'.hub.reg.deque uid = s.hub.reg.deque uid
  modes : ∀ uid, s'.hub.reg.userRecvMode.lookup uid =
    s.hub.reg.userRecvMode.lookup uid
  others : ∃ new, s'.hub.calls = s.hub.calls ++ new ∧
    ∀ d made, (d, made) ∈ new → d ≠ c → made.isTermination = false ∧
      ∀ wire, made = .sendFrame wire → wire.msgType ≠ kMsgDeliver

/-- If the step is one of the frame handler of `c`, it is harmless. -/
def HarmlessBy (cfg : Config) (unpack : Bytes → Option Obj) (c : ConnId)
    (s : Server) (event : Event) : Prop :=
  ∀ env s', event = .advance c env →
    s.step cfg unpack event = some s' → Harmless c s s'

/-! ## What every reachable server satisfies -/

theorem session_of_step {P : TcpSession → Prop}
    (hcall : ∀ (made : Call) (session : TcpSession), P session →
      P (made.apply session))
    (hio : ∀ (session : TcpSession) event next, P session →
      session.ioStep cfg event = some next → P next)
    (hclose : ∀ session : TcpSession, P session → P session.closeSocket)
    {s s' : Server} {event : Event}
    (hstep : s.step cfg unpack event = some s') {c : ConnId}
    (hnew : ∀ peerIp, event = .accept peerIp →
      c ≠ s.hub.reg.nextConnId + 1)
    (hold : P (s.hub.sessions c)) : P (s'.hub.sessions c) := by
  have hone : ∀ (d : ConnId) (made : Call),
      P ((s.hub.call d made).sessions c) := by
    intro d made
    by_cases hsame : c = d
    · subst hsame
      rw [Hub.call_sessions_self]
      exact hcall made _ hold
    · rwa [Hub.call_sessions_ne _ _ hsame]
  cases stepped_of_step hstep with
  | accept peerIp =>
      have hne := hnew peerIp rfl
      simpa [Hub.accept, hne] using hold
  | give d event made hreader hkind => exact hone d made
  | perform d env q q' op hreader hop hallows hsender hheader hstage =>
      rw [setReader_hub, Op.exec_sessions]
      generalize Hub.callsOn c (op.calls cfg env s.hub) = calls
      generalize s.hub.sessions c = session at hold
      induction calls generalizing session with
      | nil => exact hold
      | cons made rest ih =>
          exact ih (made.apply session) (hcall made session hold)
  | closeSocket d hreader =>
      rw [setReader_hub]
      by_cases hsame : c = d
      · subst hsame
        simpa [Hub.closeSocket, Hub.setSession] using hclose _ hold
      · simpa [Hub.closeSocket, Hub.setSession, hsame] using hold
  | io d event session hio' =>
      by_cases hsame : c = d
      · subst hsame
        simpa [Hub.setSession] using hio _ event session hold hio'
      · simpa [Hub.setSession, hsame] using hold
  | heartbeatTimeout d hlogged hopen => exact hone d heartbeatCall
  | _ => exact hold

theorem doomed_of_step {s s' : Server} {event : Event}
    (hstep : s.step cfg unpack event = some s') {c : ConnId}
    (hknown : c ≤ s.hub.reg.nextConnId)
    (hdoomed : (s.hub.sessions c).doomed = true) :
    (s'.hub.sessions c).doomed = true :=
  session_of_step (P := fun session => session.doomed = true)
    (fun _ _ => Call.apply_doomed)
    (fun _ _ _ => TcpSession.doomed_ioStep) (fun _ hold => hold) hstep
    (fun _ _ => Nat.ne_of_lt (Nat.lt_succ_of_le hknown)) hdoomed

theorem shut_of_step {s s' : Server} {event : Event}
    (hstep : s.step cfg unpack event = some s')
    (hshut : ∀ c, (s.hub.sessions c).Shut) (c : ConnId) :
    (s'.hub.sessions c).Shut := by
  by_cases hnew : ∃ peerIp, event = .accept peerIp ∧
      c = s.hub.reg.nextConnId + 1
  · obtain ⟨peerIp, rfl, rfl⟩ := hnew
    cases hstep
    intro hstopped
    simp [Hub.accept] at hstopped
  · refine session_of_step (P := TcpSession.Shut)
      (fun _ _ => Call.apply_shut) (fun _ _ _ => TcpSession.shut_ioStep)
      (fun _ _ _ => rfl) hstep ?_ (hshut c)
    intro peerIp hevent hsame
    exact hnew ⟨peerIp, hevent, hsame⟩

theorem victims_of_next {sender : Identity} {seq : UInt32} {stage : Stage}
    {op : Op} (hallows : Allows sender seq stage op) {env : Env} {hub : Hub}
    {v : ConnId}
    (hv : v ∈ (stage.next op (op.exec cfg env hub).2).victims) :
    v ∈ stage.victims ∨ ∃ uid, v ∈ hub.reg.deque uid := by
  generalize hresult : (op.exec cfg env hub).2 = result at hv
  cases hallows with
  | allowIp ip => cases result <;> cases hv
  | authenticate un password wantAdmin => cases result <;> cases hv
  | register un info wantMode =>
      subst hresult
      have hevicted : v ∈ (hub.reg.login cfg sender.connId un info.id
          wantMode).2.2 := List.mem_of_mem_filter hv
      rw [Registry.login_victims] at hevicted
      exact .inr ⟨info.id, List.mem_of_mem_take hevicted⟩
  | evict uid victim todo userReason logWhy =>
      exact .inl (List.mem_cons_of_mem _ hv)
  | lookup dst => cases result <;> cases hv
  | ask dst => cases result <;> cases hv
  | snapshot uid =>
      subst hresult
      exact .inr ⟨uid, hv⟩
  | kick victim todo userReason logWhy =>
      exact .inl (List.mem_cons_of_mem _ hv)
  | manage operation hordinary =>
      rw [control_next_store] at hv
      cases hv
  | nameOf uid => cases result <;> cases hv
  | update uid name newName password isAdmin => cases result <;> cases hv
  | condemn uid name =>
      subst hresult
      exact .inr ⟨uid, hv⟩
  | purge uid name victim todo userReason logWhy =>
      exact .inl (List.mem_cons_of_mem _ hv)
  | delete uid name => cases result <;> cases hv
  | reply _ hmay wire htype hseq =>
      rw [Stage.next_sendFrame] at hv
      cases hv
  | _ => cases hv

theorem victim_of_calls {sender : Identity} {seq : UInt32} {stage : Stage}
    {op : Op} (hallows : Allows sender seq stage op) {env : Env} {hub : Hub}
    {c : ConnId} {made : Call} (hmade : (c, made) ∈ op.calls cfg env hub)
    (htermination : made.isTermination = true) :
    c = sender.connId ∨ c ∈ stage.victims := by
  cases hallows with
  | evict uid victim todo userReason logWhy =>
      cases List.mem_singleton.mp hmade
      exact .inr List.mem_cons_self
  | kick victim todo userReason logWhy =>
      cases List.mem_singleton.mp hmade
      exact .inr List.mem_cons_self
  | purge uid name victim todo userReason logWhy =>
      cases List.mem_singleton.mp hmade
      exact .inr List.mem_cons_self
  | refuse why =>
      cases List.mem_singleton.mp hmade
      exact .inl rfl
  | welcome uid self lok =>
      cases List.mem_singleton.mp hmade
      exact .inl rfl
  | confirm uid =>
      cases List.mem_singleton.mp hmade
      exact .inl rfl
  | reply _ hmay wire htype hseq =>
      cases List.mem_singleton.mp hmade
      exact .inl rfl
  | register un info wantMode =>
      cases List.mem_singleton.mp hmade
      cases htermination
  | route dst uid payload =>
      simp only [Op.calls, LockOp.exec, List.mem_map] at hmade
      obtain ⟨d, _, hpair⟩ := hmade
      cases hpair
      cases htermination
  | _ => cases hmade

theorem doomed_of_calls {calls : List Call} {made : Call}
    (hmade : made ∈ calls) (htermination : made.isTermination = true)
    (session : TcpSession) :
    (calls.foldl (fun s call => call.apply s) session).doomed = true := by
  have hkeep : ∀ (rest : List Call) (session : TcpSession),
      session.doomed = true →
      (rest.foldl (fun s call => call.apply s) session).doomed = true := by
    intro rest
    induction rest with
    | nil => exact fun _ hdoomed => hdoomed
    | cons call rest ih =>
        exact fun session hdoomed => ih _ (Call.apply_doomed hdoomed)
  induction calls generalizing session with
  | nil => cases hmade
  | cons call rest ih =>
      rcases List.mem_cons.mp hmade with rfl | hrest
      · exact hkeep rest _ (Call.apply_dooms htermination session)
      · exact ih hrest _

/-- What holds in every run: stopped sessions are closed, requests notify
sessions which exist, and a session on which termination has been called is
doomed. -/
structure EndingOk (cfg : Config) (s : Server) : Prop where
  sane : s.Sane
  listed : s.Listed cfg
  shut : ∀ c, (s.hub.sessions c).Shut
  victims : ∀ c q, s.readers c = .handling q →
    ∀ v ∈ q.stage.victims, v ≤ s.hub.reg.nextConnId
  called : ∀ c made, (c, made) ∈ s.hub.calls → made.isTermination = true →
    c ≤ s.hub.reg.nextConnId ∧ (s.hub.sessions c).doomed = true

theorem endingOk_initial (db : Db) : (initial db).EndingOk cfg where
  sane := sane_initial db
  listed := listed_initial db
  shut := by
    intro c hstopped
    cases hstopped
  victims := by
    intro c q hreader
    cases hreader
  called := by
    intro c made hmade
    cases hmade

theorem Sane.known_of_reader {s : Server} (hsane : s.Sane) {c : ConnId}
    (hreader : s.readers c ≠ .notAccepted) : c ≤ s.hub.reg.nextConnId := by
  by_contra hbeyond
  exact hreader (hsane.fresh c (Nat.lt_of_not_le hbeyond)).1

theorem Sane.known_of_login {s : Server} (hsane : s.Sane) {c : ConnId}
    (hlogged : (s.hub.sessions c).loggedIn = true) :
    c ≤ s.hub.reg.nextConnId := by
  by_contra hbeyond
  rw [(hsane.fresh c (Nat.lt_of_not_le hbeyond)).2] at hlogged
  cases hlogged

theorem nextConnId_le_of_step {s s' : Server} {event : Event}
    (hstep : s.step cfg unpack event = some s') :
    s.hub.reg.nextConnId ≤ s'.hub.reg.nextConnId := by
  rcases nextConnId_of_step hstep with hsame | ⟨_, hsucc⟩ <;> omega

theorem victims_of_step {s s' : Server} {event : Event}
    (hok : s.EndingOk cfg) (hstep : s.step cfg unpack event = some s')
    {c : ConnId} {q' : Request} (hreader' : s'.readers c = .handling q')
    {v : ConnId} (hv : v ∈ q'.stage.victims) :
    v ≤ s'.hub.reg.nextConnId := by
  refine Nat.le_trans ?_ (nextConnId_le_of_step hstep)
  rcases request_of_step hstep hreader' with ⟨hreader, _⟩ |
    ⟨h, body, _, _, rfl, _⟩ |
    ⟨env, q, op, _, hreader, _, hallows, _, _, hstage, _⟩
  · exact hok.victims c q' hreader v hv
  · rw [Request.start, (initialStage_opening unpack _ h body).victims] at hv
    cases hv
  · rw [hstage, Request.stageAfter] at hv
    rcases victims_of_next hallows hv with hold | ⟨uid, hmem⟩
    · exact hok.victims c q hreader v hold
    · exact hok.sane.known_of_login (hok.listed.loggedIn hmem)

theorem called_of_step {s s' : Server} {event : Event}
    (hok : s.EndingOk cfg) (hstep : s.step cfg unpack event = some s')
    {c : ConnId} {made : Call} (hmade : (c, made) ∈ s'.hub.calls)
    (htermination : made.isTermination = true) :
    c ≤ s'.hub.reg.nextConnId ∧ (s'.hub.sessions c).doomed = true := by
  have hold : (c, made) ∈ s.hub.calls →
      c ≤ s'.hub.reg.nextConnId ∧ (s'.hub.sessions c).doomed = true := by
    intro hmem
    obtain ⟨hknown, hdoomed⟩ := hok.called c made hmem htermination
    exact ⟨Nat.le_trans hknown (nextConnId_le_of_step hstep),
      doomed_of_step hstep hknown hdoomed⟩
  cases stepped_of_step hstep with
  | give d event made' hreader hkind =>
      rcases List.mem_append.mp hmade with hmem | hnew
      · exact hold hmem
      · cases List.mem_singleton.mp hnew
        refine ⟨hok.sane.known_of_reader ?_, ?_⟩
        · rcases hreader with hreader | ⟨h, hreader⟩ <;> simp [hreader]
        · rw [setReader_hub, Hub.call_sessions_self]
          exact Call.apply_dooms htermination _
  | perform d env q q' op hreader hop hallows hsender hheader hstage =>
      rw [setReader_hub, Op.exec_calls] at hmade
      rcases List.mem_append.mp hmade with hmem | hnew
      · exact hold hmem
      · refine ⟨Nat.le_trans ?_ (nextConnId_le_of_step hstep), ?_⟩
        · rcases victim_of_calls hallows hnew htermination with rfl | hv
          · rw [(hok.sane.fits d q hreader).1]
            exact hok.sane.known_of_reader (by simp [hreader])
          · exact hok.victims d q hreader c hv
        · rw [setReader_hub, Op.exec_sessions]
          exact doomed_of_calls (Hub.mem_callsOn.mpr hnew) htermination _
  | heartbeatTimeout d hlogged hopen =>
      rcases List.mem_append.mp hmade with hmem | hnew
      · exact hold hmem
      · cases List.mem_singleton.mp hnew
        refine ⟨hok.sane.known_of_login hlogged, ?_⟩
        dsimp only
        rw [Hub.call_sessions_self]
        exact Call.apply_dooms rfl _
  | _ => exact hold hmade

theorem EndingOk.step {s s' : Server} {event : Event}
    (hok : s.EndingOk cfg) (hstep : s.step cfg unpack event = some s') :
    s'.EndingOk cfg where
  sane := hok.sane.step hstep
  listed := hok.listed.step hok.sane hstep
  shut := shut_of_step hstep hok.shut
  victims := fun _ _ hreader _ hv => victims_of_step hok hstep hreader hv
  called := fun _ _ hmade htermination =>
    called_of_step hok hstep hmade htermination

/-! ## A session which is about to end -/

/-- The session is doomed, and what its read loop has in hand is inert. -/
structure Quiet (unpack : Bytes → Option Obj) (s : Server) (c : ConnId) :
    Prop where
  known : c ≤ s.hub.reg.nextConnId
  doomed : (s.hub.sessions c).doomed = true
  inert : (s.readers c).Inert unpack (s.hub.identity c)

theorem answering_next {sender : Identity} {seq : UInt32} {stage : Stage}
    {op : Op} (hallows : Allows sender seq stage op)
    (hstage : stage = .answering ∨ stage = .done) (result : op.Res) :
    stage.next op result = .done ∧
      ((∃ wire, op = .call sender.connId (.sendFrame wire)) ∨
        ∃ why, op = .call sender.connId (.stop why)) := by
  rcases hstage with rfl | rfl
  · cases hallows with
    | reply _ hmay wire htype hseq => exact ⟨rfl, .inl ⟨wire, rfl⟩⟩
    | refuse why => exact ⟨rfl, .inr ⟨why, rfl⟩⟩
  · cases hallows with
    | reply _ hmay wire htype hseq => cases hmay

theorem Quiet.identity {s s' : Server} {event : Event} {c : ConnId}
    (hquiet : s.Quiet unpack c) (hsane : s.Sane)
    (hstep : s.step cfg unpack event = some s') :
    s'.hub.identity c = s.hub.identity c := by
  rcases identity_of_step hsane hstep c with hkept | ⟨hnew, _⟩ |
    ⟨un, info, wantMode, ⟨env, q, _, hreader, hauthed, _⟩, _⟩
  · exact hkept
  · have hknown := hquiet.known
    rw [hnew] at hknown
    exact absurd hknown (Nat.not_succ_le_self _)
  · have hinert := hquiet.inert
    rw [hreader] at hinert
    rcases hinert with hanswering | hdone
    · rw [hauthed] at hanswering
      cases hanswering
    · rw [hauthed] at hdone
      cases hdone

theorem Quiet.condemned {s : Server} {c : ConnId}
    (hquiet : s.Quiet unpack c) (hok : s.EndingOk cfg)
    (hopen : (s.hub.sessions c).isOpen = true) :
    (s.hub.sessions c).condemned = true := by
  have hdoomed := hquiet.doomed
  rw [TcpSession.doomed, Bool.or_eq_true] at hdoomed
  rcases hdoomed with hstopped | hcondemned
  · rw [hok.shut c hstopped] at hopen
    cases hopen
  · exact hcondemned

theorem Quiet.inert_of_step {s s' : Server} {event : Event} {c : ConnId}
    (hquiet : s.Quiet unpack c) (hok : s.EndingOk cfg)
    (hheeded : s.TerminationHeeded unpack event)
    (hstep : s.step cfg unpack event = some s') :
    (s'.readers c).Inert unpack (s.hub.identity c) := by
  have hinert := hquiet.inert
  have hset : ∀ (d : ConnId) (t : Server) (loop : ReadLoop),
      t.readers = s.readers →
      (c = d → loop.Inert unpack (s.hub.identity c)) →
      ((t.setReader d loop).readers c).Inert unpack (s.hub.identity c) := by
    intro d t loop ht hloop
    by_cases hsame : c = d
    · subst hsame
      rw [setReader_self]
      exact hloop rfl
    · rw [setReader_ne _ _ hsame, ht]
      exact hinert
  cases stepped_of_step hstep with
  | accept peerIp => exact hset _ _ _ rfl (fun _ => trivial)
  | move d event loop loop' hreader hmoved =>
      refine hset d _ _ rfl ?_
      rintro rfl
      rw [hreader] at hinert
      have hread : ∀ frame, s.hub.isOpen c = true →
          loop.completes event = some frame →
          initialStage unpack (s.hub.identity c) frame.1 frame.2 =
            .answering := by
        intro frame hopen hcompletes
        exact hheeded (c, event) rfl (hquiet.condemned hok hopen) frame
          (by rw [hreader]; exact hcompletes)
      cases hmoved with
      | header h hopen =>
          intro hempty
          exact hread (h, []) hopen (if_pos hempty)
      | empty h hempty => exact hinert hempty
      | body h bytes hopen hlength => exact hread (h, bytes) hopen rfl
      | handle h body => exact .inl hinert
      | _ => trivial
  | give d event made hreader hkind => exact hset _ _ _ rfl (fun _ => trivial)
  | finish d env q hreader hdone => exact hset _ _ _ rfl (fun _ => trivial)
  | perform d env q q' op hreader hop hallows hsender hheader hstage =>
      refine hset d _ _ rfl ?_
      rintro rfl
      rw [hreader] at hinert
      right
      rw [hstage]
      exact (answering_next hallows hinert _).1
  | removeSession d hreader => exact hset _ _ _ rfl (fun _ => trivial)
  | closeSocket d hreader => exact hset _ _ _ rfl (fun _ => trivial)
  | io d event session hio => exact hinert
  | heartbeatTimeout d hlogged hopen => exact hinert
  | snapshotStats => exact hinert

theorem Quiet.step {s s' : Server} {event : Event} {c : ConnId}
    (hquiet : s.Quiet unpack c) (hok : s.EndingOk cfg)
    (hheeded : s.TerminationHeeded unpack event)
    (hstep : s.step cfg unpack event = some s') : s'.Quiet unpack c where
  known := Nat.le_trans hquiet.known (nextConnId_le_of_step hstep)
  doomed := doomed_of_step hstep hquiet.known hquiet.doomed
  inert := by
    rw [hquiet.identity hok.sane hstep]
    exact hquiet.inert_of_step hok hheeded hstep

theorem Quiet.harmless {s s' : Server} {c : ConnId} {env : Env}
    (hquiet : s.Quiet unpack c) (hok : s.EndingOk cfg)
    (hstep : s.step cfg unpack (.advance c env) = some s') :
    Harmless c s s' := by
  have hlogin : (s'.hub.sessions c).loggedIn =
      (s.hub.sessions c).loggedIn :=
    congrArg Identity.loggedIn (hquiet.identity hok.sane hstep)
  cases stepped_of_step hstep with
  | finish _ _ q hreader hdone =>
      exact ⟨rfl, rfl, rfl, fun _ => rfl, fun _ => rfl, [],
        (List.append_nil _).symm, by simp⟩
  | perform _ _ q q' op hreader hop hallows hsender hheader hstage =>
      have hinert := hquiet.inert
      rw [hreader] at hinert
      have hconn := (hok.sane.fits c q hreader).1
      obtain ⟨made, rfl⟩ : ∃ made, op = .call c made := by
        rcases (answering_next hallows hinert
          (op.exec cfg env s.hub).2).2 with ⟨wire, rfl⟩ | ⟨why, rfl⟩
        · exact ⟨_, by rw [hconn]⟩
        · exact ⟨_, by rw [hconn]⟩
      refine ⟨rfl, rfl, hlogin, fun _ => rfl, fun _ => rfl, [(c, made)], rfl,
        ?_⟩
      intro d other hmem hne
      cases List.mem_singleton.mp hmem
      exact absurd rfl hne

/-- Once termination has been called on a session, the frames its read loop
then reads have no effect beyond their answer, in every run in which every
frame read while the end is pending is one the handler only answers. -/
theorem harmless_of_terminationHeeded (cfg : Config)
    (unpack : Bytes → Option Obj) (db : Db) (before after : List Event)
    (s : Server) (c : ConnId)
    (hheeded : Transition.Along (step cfg unpack)
      (TerminationHeeded unpack) (before ++ after) (initial db))
    (hbefore : Transition.run (step cfg unpack) before (initial db) = some s)
    (hcalled : s.Terminated c) (hawaits : (s.readers c).awaits = true) :
    Transition.Along (step cfg unpack) (HarmlessBy cfg unpack c) after s := by
  have hok : s.EndingOk cfg := Transition.run_preserves_always _
    (fun _ _ _ hok hstep => EndingOk.step hok hstep) (endingOk_initial db)
    hbefore
  obtain ⟨made, hmade, htermination⟩ := hcalled
  obtain ⟨hknown, hdoomed⟩ := hok.called c made (Hub.mem_callsOn.mp hmade)
    htermination
  have hquiet : s.Quiet unpack c := by
    refine ⟨hknown, hdoomed, ?_⟩
    cases hreader : s.readers c with
    | awaitHeader => trivial
    | awaitBody h => trivial
    | _ => simp [hreader, ReadLoop.awaits] at hawaits
  refine Transition.along_of_invariant
    (fun s => s.EndingOk cfg ∧ s.Quiet unpack c) ?_ ?_ ⟨hok, hquiet⟩
    (hheeded.append_right hbefore)
  · rintro s event s' ⟨hok, hquiet⟩ hheeded hstep
    exact ⟨hok.step hstep, hquiet.step hok hheeded hstep⟩
  · rintro s event ⟨hok, hquiet⟩ _ env s' rfl hstep
    exact hquiet.harmless hok hstep

/-- A frame which is no LOGIN from a session which is not logged in: the
handler calls `stop`, and the read loop goes on. -/
def refusedHeartbeat : List Event :=
  [.accept (lit "10.0.0.1")] ++ receive 1 kClientHeartbeat 1 [.map 0] ++
    advances 1 2

theorem harmless_of_terminationHeeded_second_heartbeat :
    ∃ s, Transition.run (step forwarderJson unpackFlat)
        (refusedHeartbeat ++ (receive 1 kClientHeartbeat 2 [.map 0]).take 1)
        (initial emptyDb) = some s ∧
      s.Terminated 1 ∧
      (Transition.run (step forwarderJson unpackFlat)
        ((receive 1 kClientHeartbeat 2 [.map 0]).drop 1 ++ advances 1 2)
        s).isSome = true ∧
      Transition.Along (step forwarderJson unpackFlat)
        (HarmlessBy forwarderJson unpackFlat 1)
        ((receive 1 kClientHeartbeat 2 [.map 0]).drop 1 ++ advances 1 2)
        s := by
  obtain ⟨s, hrun, hcalled, hawaits, hlater⟩ : ∃ s,
      Transition.run (step forwarderJson unpackFlat)
        (refusedHeartbeat ++ (receive 1 kClientHeartbeat 2 [.map 0]).take 1)
        (initial emptyDb) = some s ∧
      s.Terminated 1 ∧ (s.readers 1).awaits = true ∧
      (Transition.run (step forwarderJson unpackFlat)
        ((receive 1 kClientHeartbeat 2 [.map 0]).drop 1 ++ advances 1 2)
        s).isSome = true :=
    Transition.exists_run_of_check (by decide +kernel)
  exact ⟨s, hrun, hcalled, hlater,
    harmless_of_terminationHeeded forwarderJson unpackFlat emptyDb _ _ s 1
      (Transition.along_of_check (by decide +kernel)) hrun hcalled hawaits⟩

/-- The rest of a LOGIN frame, and the handler up to the registration. -/
def lateLogin : List Event :=
  (receive 1 kClientLogin 2
    (loginBody (lit "root") (lit "pw") (lit "admin"))).drop 1 ++ advances 1 4

/-- A LOGIN frame is read after `stop` has been called: it registers an
account and logs the session in. -/
theorem terminated_session_logs_in :
    ∃ s, Transition.run (step forwarderJson unpackFlat)
        (refusedHeartbeat ++ [.read 1 (.loopTop false)]) (initial emptyDb) =
          some s ∧
      s.Terminated 1 ∧ (s.readers 1).awaits = true ∧
      ¬Transition.Along (step forwarderJson unpackFlat)
        (HarmlessBy forwarderJson unpackFlat 1) lateLogin s := by
  obtain ⟨s, hrun, hcalled, hawaits, s₁, hrun₁, hbefore, s₂, hstep,
      hafter⟩ : ∃ s,
      Transition.run (step forwarderJson unpackFlat)
        (refusedHeartbeat ++ [.read 1 (.loopTop false)]) (initial emptyDb) =
          some s ∧
      s.Terminated 1 ∧ (s.readers 1).awaits = true ∧
      ∃ s₁ ∈ Transition.run (step forwarderJson unpackFlat)
          (lateLogin.take 7) s,
        (s₁.hub.sessions 1).loggedIn = false ∧
        ∃ s₂ ∈ s₁.step forwarderJson unpackFlat (.advance 1 {}),
          (s₂.hub.sessions 1).loggedIn = true :=
    Transition.exists_run_of_check (by decide +kernel)
  refine ⟨s, hrun, hcalled, hawaits, ?_⟩
  intro halong
  have hlast : Transition.Along (step forwarderJson unpackFlat)
      (HarmlessBy forwarderJson unpackFlat 1) [.advance 1 {}] s₁ :=
    Transition.Along.append_right
      (show Transition.Along _ _ (lateLogin.take 7 ++ [.advance 1 {}]) s
        from halong) hrun₁
  have hlogin := (hlast.1 {} s₂ rfl hstep).login
  rw [hbefore, hafter] at hlogin
  cases hlogin

end Server

end AsioForwarder
