import AsioForwarder.DeliveryOrder
import AsioForwarder.RequestStream

/-!
# The requests of a connection, one after another

Whatever the other parties do, the operations performed for a connection are
complete executions of `handle_client_frame`, one for each frame handed over
and in the same order, and the beginning of one more.  Only the states which
the operations find are anybody's.  What an execution comes to can therefore
be said of the frame alone, and holds of every request of every run.
-/

namespace AsioForwarder

open Interaction

variable {α β : Type} {cfg : Config} {unpack : Bytes → Option Obj}

/-! ## Executions under way -/

/-- `steps` takes a handler to what is left of it. -/
inductive Leads (cfg : Config) (program : Frame α) :
    List Performed → Frame α → Prop where
  | nil : Leads cfg program [] program
  | snoc (steps : List Performed) (operation : Op)
      (rest : operation.Res → Frame α) (env : Env) (hub : Hub)
      (hearlier : Leads cfg program steps (.op operation rest)) :
      Leads cfg program (steps ++ [⟨operation, env, hub⟩])
        (rest (operation.exec cfg env hub).2)

theorem Leads.follows_append {program left : Frame α}
    {steps later : List Performed} {value : α}
    (hleads : Leads cfg program steps left)
    (hlater : Follows cfg left later value) :
    Follows cfg program (steps ++ later) value := by
  induction hleads generalizing later with
  | nil => exact hlater
  | snoc steps operation rest env hub hearlier ih =>
      rw [List.append_assoc]
      exact ih (.op operation rest env hub later value hlater)

/-- A handler which has returned has been executed. -/
theorem Leads.follows {program : Frame α} {steps : List Performed}
    {value : α} (hleads : Leads cfg program steps (.ret value)) :
    Follows cfg program steps value := by
  have hfollows := hleads.follows_append (.ret value)
  rwa [List.append_nil] at hfollows

theorem hub_of_mem_execution {program : Frame α}
    {found : Nat → Env × Hub} {p : Performed}
    (hp : p ∈ execution cfg program found) : ∃ n, p.hub = (found n).2 := by
  induction program generalizing found with
  | ret value => cases hp
  | op operation rest ih =>
      rcases List.mem_cons.mp hp with rfl | hp
      · exact ⟨0, rfl⟩
      · obtain ⟨n, hhub⟩ := ih _ hp
        exact ⟨n + 1, hhub⟩

/-! ### The executions of a composed handler -/

theorem follows_ret_iff {value result : α} {steps : List Performed} :
    Follows cfg (.ret value) steps result ↔ steps = [] ∧ result = value := by
  constructor
  · intro hfollows
    cases hfollows
    exact ⟨rfl, rfl⟩
  · rintro ⟨rfl, rfl⟩
    exact .ret _

theorem follows_perform_bind {operation : Op}
    {next : operation.Res → Frame β} {steps : List Performed} {value : β}
    (hfollows : Follows cfg (Prog.perform operation >>= next) steps value) :
    ∃ env hub later, steps = ⟨operation, env, hub⟩ :: later ∧
      Follows cfg (next (operation.exec cfg env hub).2) later value := by
  cases hfollows with
  | op operation rest env hub later value hlater =>
      exact ⟨env, hub, later, rfl, hlater⟩

theorem follows_perform {operation : Op} {steps : List Performed}
    {value : operation.Res}
    (hfollows : Follows cfg (Prog.perform operation) steps value) :
    ∃ env hub, steps = [⟨operation, env, hub⟩] ∧
      value = (operation.exec cfg env hub).2 := by
  cases hfollows with
  | op operation rest env hub later value hlater =>
      obtain ⟨rfl, rfl⟩ := follows_ret_iff.mp hlater
      exact ⟨env, hub, rfl, rfl⟩

theorem follows_bind {program : Frame α} {next : α → Frame β}
    {steps : List Performed} {value : β}
    (hfollows : Follows cfg (program >>= next) steps value) :
    ∃ first second result, steps = first ++ second ∧
      Follows cfg program first result ∧
      Follows cfg (next result) second value := by
  induction program generalizing steps with
  | ret result => exact ⟨[], steps, result, rfl, .ret result, hfollows⟩
  | op operation rest ih =>
      cases hfollows with
      | op operation _ env hub later value hlater =>
          obtain ⟨first, second, result, rfl, hfirst, hsecond⟩ :=
            ih _ hlater
          exact ⟨⟨operation, env, hub⟩ :: first, second, result, rfl,
            .op operation rest env hub first result hfirst, hsecond⟩

/-! ## The history of a connection -/

/-- `handle_client_frame` has been entered for a frame. -/
structure Entered where
  sender : Identity
  frame : ParsedFrame
  deriving DecidableEq

namespace Entered

def program (unpack : Bytes → Option Obj) (e : Entered) : Frame Unit :=
  handleClientFrame unpack e.sender e.frame.header e.frame.body

/-- The handler has been executed from its first operation to its last. -/
def Executed (cfg : Config) (unpack : Bytes → Option Obj) (e : Entered)
    (steps : List Performed) : Prop :=
  Follows cfg (e.program unpack) steps ()

end Entered

namespace Server

variable {s s' : Server} {event : Event} {c : ConnId}

/-- The frames for which the read loop of `c` enters the handler. -/
def entered (c : ConnId) (s : Server) (event : Event) : List Entered :=
  (s.requests c event).map (fun f => ⟨s.hub.identity c, f⟩)

/-- The operations which the handler of `c` performs, with the states they
find. -/
def performed (c : ConnId) (s : Server) : Event → List Performed
  | .advance d env =>
      if d = c then (s.pendingOp c).toList.map (fun op => ⟨op, env, s.hub⟩)
      else []
  | _ => []

theorem performed_of_ne (s : Server)
    (hother : ∀ env, event ≠ .advance c env) : s.performed c event = [] := by
  cases event with
  | advance d env =>
      refine if_neg ?_
      rintro rfl
      exact hother env rfl
  | _ => rfl

theorem performed_of_program {env : Env} {q : Request} {operation : Op}
    {rest : operation.Res → Frame Unit} (hreader : s.readers c = .handling q)
    (hprogram : q.program = .op operation rest) :
    s.performed c (.advance c env) = [⟨operation, env, s.hub⟩] := by
  simp [performed, pendingOp_of_handling hreader,
    Request.nextOp_of_program hprogram]

theorem entered_of_read (c : ConnId) (s : Server) (read : ReadEvent) :
    s.entered c (.read c read) =
      ((s.readers c).handedOver read).map
        (fun f => ⟨s.hub.identity c, f⟩) := by
  simp [entered, requests]

theorem entered_of_ne (s : Server) (hquiet : ∀ read, event ≠ .read c read) :
    s.entered c event = [] := by
  rw [entered, (bytesRead_of_ne hquiet s).2, List.map_nil]

theorem entered_of_handling {q : Request}
    (hreader : s.readers c = .handling q) : s.entered c event = [] := by
  by_cases hread : ∃ read, event = .read c read
  · obtain ⟨read, rfl⟩ := hread
    rw [entered_of_read, hreader]
    rfl
  · exact entered_of_ne s (fun read hsame => hread ⟨read, hsame⟩)

theorem entered_of_gotBody {h : Header} {body : Bytes}
    (hreader : s.readers c = .gotBody h body) :
    s.entered c (.read c .resume) = [⟨s.hub.identity c, ⟨h, body⟩⟩] := by
  rw [entered_of_read, hreader]
  rfl

/-- A frame is handed over only by a read loop which then handles it. -/
theorem entered_of_step_idle (hstep : s.step cfg unpack event = some s')
    (hidle : ∀ q, s'.readers c ≠ .handling q) : s.entered c event = [] := by
  by_cases hread : ∃ read, event = .read c read
  · obtain ⟨read, rfl⟩ := hread
    obtain ⟨made, hnext⟩ := next_of_read hstep
    rw [entered_of_read]
    cases hreader : s.readers c with
    | gotBody h body =>
        rw [hreader] at hnext
        cases read with
        | resume =>
            simp only [ReadLoop.next, Option.some.injEq, Prod.mk.injEq]
              at hnext
            exact absurd hnext.1.symm (hidle _)
        | _ => rfl
    | _ => rfl
  · exact entered_of_ne s (fun read hsame => hread ⟨read, hsame⟩)

/-- The operations performed for `c` are those of the frames it has handled
and, while it is handling one, the first ones of that. -/
inductive History (cfg : Config) (unpack : Bytes → Option Obj) (c : ConnId)
    (steps : List Performed) (requests : List Entered) (s : Server) : Prop
    where
  | between (executions : List (List Performed))
      (hidle : ∀ q, s.readers c ≠ .handling q)
      (hsteps : steps = executions.flatten)
      (hexecuted : List.Forall₂ (Entered.Executed cfg unpack) requests
        executions) : History cfg unpack c steps requests s
  | within (q : Request) (earlier : List Entered) (request : Entered)
      (executions : List (List Performed)) (begun : List Performed)
      (hreader : s.readers c = .handling q)
      (hrequests : requests = earlier ++ [request])
      (hsteps : steps = executions.flatten ++ begun)
      (hexecuted : List.Forall₂ (Entered.Executed cfg unpack) earlier
        executions)
      (hbegun : Leads cfg (request.program unpack) begun q.program) :
      History cfg unpack c steps requests s

theorem history_initial (cfg : Config) (unpack : Bytes → Option Obj)
    (c : ConnId) (db : Db) : History cfg unpack c [] [] (initial db) := by
  refine .between [] (fun q hreader => ?_) rfl .nil
  cases hreader

section OneStep

variable {steps : List Performed} {requests : List Entered}

/-- The frame which has just been handed over begins with nothing done. -/
theorem History.enter (hhistory : History cfg unpack c steps requests s)
    {h : Header} {body : Bytes} {q : Request}
    (hreader : s.readers c = .gotBody h body)
    (hreader' : s'.readers c = .handling q)
    (hq : q = Request.start unpack (s.hub.identity c) h body) :
    History cfg unpack c steps
      (requests ++ [⟨s.hub.identity c, ⟨h, body⟩⟩]) s' := by
  cases hhistory with
  | within q₀ earlier request executions begun hhandling =>
      rw [hreader] at hhandling
      cases hhandling
  | between executions hidle hsteps hexecuted =>
      refine .within q requests ⟨s.hub.identity c, ⟨h, body⟩⟩ executions []
        hreader' rfl ?_ hexecuted ?_
      · rw [hsteps, List.append_nil]
      · subst hq
        exact .nil

theorem History.perform (hhistory : History cfg unpack c steps requests s)
    {q q' : Request} {env : Env} {operation : Op}
    {rest : operation.Res → Frame Unit} (hreader : s.readers c = .handling q)
    (hreader' : s'.readers c = .handling q')
    (hprogram : q.program = .op operation rest)
    (hrest : q'.program = rest (operation.exec cfg env s.hub).2) :
    History cfg unpack c (steps ++ [⟨operation, env, s.hub⟩]) requests
      s' := by
  cases hhistory with
  | between executions hidle => exact absurd hreader (hidle q)
  | within q₀ earlier request executions begun hhandling hrequests hsteps
      hexecuted hbegun =>
      rw [hreader, ReadLoop.handling.injEq] at hhandling
      subst hhandling
      rw [hprogram] at hbegun
      refine .within q' earlier request executions
        (begun ++ [⟨operation, env, s.hub⟩]) hreader' hrequests ?_ hexecuted
        ?_
      · rw [hsteps, List.append_assoc]
      · rw [hrest]
        exact hbegun.snoc begun operation rest env s.hub

/-- The handler returns, or the read loop was not in it. -/
theorem History.idle (hsane : s.Sane)
    (hhistory : History cfg unpack c steps requests s)
    (hstep : s.step cfg unpack event = some s')
    (hidle : ∀ q, s'.readers c ≠ .handling q) :
    History cfg unpack c (steps ++ s.performed c event) requests s' := by
  cases hhistory with
  | between executions hbefore hsteps hexecuted =>
      refine .between executions hidle ?_ hexecuted
      have hnone : s.pendingOp c = none := by
        unfold pendingOp
        cases hreader : s.readers c with
        | handling q => exact absurd hreader (hbefore q)
        | _ => rfl
      cases event with
      | advance d env =>
          simp only [performed, hnone, Option.toList_none, List.map_nil,
            ite_self, List.append_nil]
          exact hsteps
      | _ =>
          rw [performed_of_ne s (by simp), List.append_nil]
          exact hsteps
  | within q earlier request executions begun hreader hrequests hsteps
      hexecuted hbegun =>
      by_cases hadvance : ∃ env, event = .advance c env
      · obtain ⟨env, rfl⟩ := hadvance
        have hreturned : ∃ value, q.program = .ret value := by
          cases hprogram : q.program with
          | ret value => exact ⟨value, rfl⟩
          | op operation rest =>
              obtain ⟨q', -, -, rfl⟩ := perform_of_nextOp hstep hreader
                (Request.nextOp_of_program hprogram)
              exact absurd (setReader_self _ c _) (hidle q')
        obtain ⟨value, hprogram⟩ := hreturned
        have hnone : s.performed c (.advance c env) = [] := by
          simp [performed, pendingOp_of_handling hreader, Request.nextOp,
            hprogram, Prog.head?]
        rw [hprogram] at hbegun
        rw [hnone, List.append_nil, hrequests]
        refine .between (executions ++ [begun]) hidle ?_
          (List.rel_append hexecuted (.cons hbegun.follows .nil))
        rw [hsteps, List.flatten_append, List.flatten_singleton]
      · have hother : ∀ env, event ≠ .advance c env :=
          fun env hsame => hadvance ⟨env, hsame⟩
        exact absurd (handling_of_step hstep hsane hreader hother) (hidle q)

theorem History.step (hsane : s.Sane)
    (hhistory : History cfg unpack c steps requests s)
    (hstep : s.step cfg unpack event = some s') :
    History cfg unpack c (steps ++ s.performed c event)
      (requests ++ s.entered c event) s' := by
  by_cases hhandling : ∃ q, s'.readers c = .handling q
  · obtain ⟨q', hreader'⟩ := hhandling
    rcases program_of_step hstep hreader' with ⟨hreader, hother⟩ |
      ⟨h, body, rfl, hreader, hq, -⟩ |
      ⟨env, q, operation, rest, rfl, hreader, hprogram, hrest, -⟩
    · rw [performed_of_ne s hother, entered_of_handling hreader,
        List.append_nil, List.append_nil]
      cases hhistory with
      | between executions hidle => exact absurd hreader (hidle q')
      | within q earlier request executions begun hbefore hrequests hsteps
          hexecuted hbegun =>
          rw [hreader, ReadLoop.handling.injEq] at hbefore
          subst hbefore
          exact .within q' earlier request executions begun hreader'
            hrequests hsteps hexecuted hbegun
    · rw [performed_of_ne s (by simp), entered_of_gotBody hreader,
        List.append_nil]
      exact hhistory.enter hreader hreader' hq
    · rw [performed_of_program hreader hprogram,
        entered_of_handling hreader, List.append_nil]
      exact hhistory.perform hreader hreader' hprogram hrest
  · have hidle : ∀ q, s'.readers c ≠ .handling q :=
      fun q hreader => hhandling ⟨q, hreader⟩
    rw [entered_of_step_idle hstep hidle, List.append_nil]
    exact hhistory.idle hsane hstep hidle

end OneStep

theorem history_of_run {db : Db} {events : List Event}
    (hrun : Transition.run (step cfg unpack) events (initial db) = some s)
    (c : ConnId) :
    History cfg unpack c
      (Transition.observe (step cfg unpack) (performed c) events (initial db))
      (Transition.observe (step cfg unpack) (entered c) events (initial db))
      s := by
  refine (Transition.observe_preserves_both
    (fun steps requests s => s.Sane ∧ History cfg unpack c steps requests s)
    ?_ ⟨sane_initial db, history_initial cfg unpack c db⟩ hrun).2
  rintro steps requests s event s' ⟨hsane, hhistory⟩ hstep
  exact ⟨hsane.step hstep, hhistory.step hsane hstep⟩

/-! ## What the requests come to -/

/-- No session is listed twice in a state which an operation finds. -/
def Orderly (p : Performed) : Prop :=
  ∀ uid, (p.hub.reg.deque uid).Nodup

/-- Request by request, the operations performed for `c` come to `outcome`.
Those of the request whose handler still has an operation before it are the
beginning of an execution which does, and not all of it. -/
structure Accounts (outcome : Entered → List Performed → Prop) (c : ConnId)
    (requests : List Entered) (steps : List Performed) (s : Server) : Prop
    where
  settled : s.pendingOp c = none → ∃ executions, steps = executions.flatten ∧
    List.Forall₂ outcome requests executions
  underway : s.pendingOp c ≠ none →
    ∃ earlier request executions begun later, later ≠ [] ∧
      requests = earlier ++ [request] ∧
      steps = executions.flatten ++ begun ∧
      List.Forall₂ outcome earlier executions ∧
      outcome request (begun ++ later)

theorem forall₂_of_executed {outcome : Entered → List Performed → Prop}
    {requests : List Entered} {executions : List (List Performed)}
    (hexecuted : List.Forall₂ (Entered.Executed cfg unpack) requests
      executions)
    (houtcome : ∀ e ∈ requests, ∀ steps ∈ executions,
      e.Executed cfg unpack steps → outcome e steps) :
    List.Forall₂ outcome requests executions := by
  induction hexecuted with
  | nil => exact .nil
  | cons hhead htail ih =>
      refine .cons (houtcome _ List.mem_cons_self _ List.mem_cons_self hhead)
        (ih (fun e he steps hsteps => ?_))
      exact houtcome e (List.mem_cons_of_mem _ he) steps
        (List.mem_cons_of_mem _ hsteps)

theorem History.accounts {outcome : Entered → List Performed → Prop}
    {steps : List Performed} {requests : List Entered}
    (hhistory : History cfg unpack c steps requests s)
    (hrequests : ∀ e ∈ requests, e.sender.connId = c)
    (hsteps : ∀ p ∈ steps, Orderly p)
    (houtcome : ∀ e steps, e.sender.connId = c → (∀ p ∈ steps, Orderly p) →
      e.Executed cfg unpack steps → outcome e steps) :
    Accounts outcome c requests steps s := by
  cases hhistory with
  | between executions hidle hsplit hexecuted =>
      subst hsplit
      refine ⟨fun _ => ⟨executions, rfl, ?_⟩, fun hbusy => ?_⟩
      · refine forall₂_of_executed hexecuted (fun e he steps hmem => ?_)
        exact houtcome e steps (hrequests e he)
          (fun p hp => hsteps p (List.mem_flatten.mpr ⟨steps, hmem, hp⟩))
      · refine absurd ?_ hbusy
        unfold pendingOp
        cases hreader : s.readers c with
        | handling q => exact absurd hreader (hidle q)
        | _ => rfl
  | within q earlier request executions begun hreader hsplit hparts hexecuted
      hbegun =>
      subst hsplit hparts
      have hrequest : request.sender.connId = c := hrequests _ (by simp)
      have hearlier : List.Forall₂ outcome earlier executions := by
        refine forall₂_of_executed hexecuted (fun e he steps hmem => ?_)
        exact houtcome e steps
          (hrequests e (List.mem_append_left _ he))
          (fun p hp => hsteps p (List.mem_append_left _
            (List.mem_flatten.mpr ⟨steps, hmem, hp⟩)))
      have horderly : ∀ p ∈ begun, Orderly p :=
        fun p hp => hsteps p (List.mem_append_right _ hp)
      refine ⟨fun hdone => ?_, fun hbusy => ?_⟩
      · rw [pendingOp_of_handling hreader] at hdone
        have hreturned :
            Leads cfg (request.program unpack) begun (.ret ()) := by
          cases hprogram : q.program with
          | ret value =>
              rw [hprogram] at hbegun
              exact hbegun
          | op operation rest =>
              rw [Request.nextOp_of_program hprogram] at hdone
              cases hdone
        refine ⟨executions ++ [begun], ?_, List.rel_append hearlier
          (.cons ?_ .nil)⟩
        · rw [List.flatten_append, List.flatten_singleton]
        · exact houtcome request begun hrequest horderly hreturned.follows
      · rw [pendingOp_of_handling hreader] at hbusy
        obtain ⟨value, hlater⟩ :=
          follows_execution cfg q.program (fun _ => ({}, { db := emptyDb }))
        refine ⟨earlier, request, executions, begun, _, ?_, rfl, rfl,
          hearlier, houtcome request _ hrequest ?_
            (hbegun.follows_append hlater)⟩
        · intro hnone
          rw [hnone] at hlater
          cases hprogram : q.program with
          | ret value =>
              exact hbusy (by simp [Request.nextOp, hprogram, Prog.head?])
          | op operation rest =>
              rw [hprogram] at hlater
              cases hlater
        · intro p hp
          rcases List.mem_append.mp hp with hp | hp
          · exact horderly p hp
          · obtain ⟨n, hhub⟩ := hub_of_mem_execution hp
            rw [Orderly, hhub]
            exact fun _ => List.nodup_nil

theorem entered_connId (s : Server) :
    ∀ e ∈ s.entered c event, e.sender.connId = c := by
  intro e he
  obtain ⟨f, -, rfl⟩ := List.mem_map.mp he
  rfl

theorem orderly_performed {s : Server} (hlisted : s.Listed cfg) :
    ∀ p ∈ s.performed c event, Orderly p := by
  intro p hp
  cases event with
  | advance d env =>
      rw [performed] at hp
      split at hp
      · obtain ⟨op, -, rfl⟩ := List.mem_map.mp hp
        exact fun uid => (hlisted.ordered uid).nodup hlisted.loginsNodup
      · cases hp
  | _ => cases hp

/-- Every connection's operations come to what each execution of the handler
does. -/
theorem accounts_of_run {outcome : Entered → List Performed → Prop}
    {db : Db} {events : List Event}
    (hrun : Transition.run (step cfg unpack) events (initial db) = some s)
    (houtcome : ∀ e steps, e.sender.connId = c → (∀ p ∈ steps, Orderly p) →
      e.Executed cfg unpack steps → outcome e steps) :
    Accounts outcome c
      (Transition.observe (step cfg unpack) (entered c) events (initial db))
      (Transition.observe (step cfg unpack) (performed c) events (initial db))
      s := by
  refine (history_of_run hrun c).accounts ?_ ?_ houtcome
  · exact Transition.forall_mem_observe (fun _ => True)
      (fun _ _ _ _ _ => trivial)
      (fun s event _ => entered_connId s) trivial events
  · refine Transition.forall_mem_observe
      (fun s => s.Sane ∧ s.Listed cfg) ?_
      (fun s event hinv => orderly_performed hinv.2)
      ⟨sane_initial db, listed_initial db⟩ events
    rintro s event s' ⟨hsane, hlisted⟩ hstep
    exact ⟨hsane.step hstep, hlisted.step hsane hstep⟩

end Server

end AsioForwarder
