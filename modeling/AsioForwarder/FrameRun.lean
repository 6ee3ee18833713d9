import AsioForwarder.Confinement
import AsioForwarder.FrameContent

/-!
# The handler of a frame in a run of the server

Between two operations of a frame handler the other parties move, so the
state an operation finds is any state: `Follows` is one execution of a
handler, each operation with the environment and the shared state it was
performed in.  In a run of the server the handler of a request is what is
left of `handle_client_frame` after such an execution, and `Carries` lets an
invariant speak about what it has learned on the way.
-/

namespace AsioForwarder

open Interaction

variable {α : Type}

inductive Follows (cfg : Config) : Frame α → List Performed → α → Prop where
  | ret (value : α) : Follows cfg (.ret value) [] value
  | op (operation : Op) (rest : operation.Res → Frame α) (env : Env)
      (hub : Hub) (later : List Performed) (value : α)
      (hlater : Follows cfg (rest (operation.exec cfg env hub).2) later
        value) :
      Follows cfg (.op operation rest) (⟨operation, env, hub⟩ :: later) value

/-- The execution of a handler which finds the environments and states of
`found`, one for each operation. -/
def execution (cfg : Config) : Frame α → (Nat → Env × Hub) → List Performed
  | .ret _, _ => []
  | .op operation rest, found =>
      ⟨operation, (found 0).1, (found 0).2⟩ ::
        execution cfg (rest (operation.exec cfg (found 0).1 (found 0).2).2)
          (fun n => found (n + 1))

theorem mem_execution_bind {cfg : Config} {β : Type} {program : Frame α}
    {next : α → Frame β} {found : Nat → Env × Hub} {p : Performed}
    (hmem : p ∈ execution cfg program found) :
    p ∈ execution cfg (program >>= next) found := by
  induction program generalizing found with
  | ret value => cases hmem
  | op operation rest ih =>
      rcases List.mem_cons.mp hmem with rfl | hmem
      · exact List.mem_cons_self
      · exact List.mem_cons_of_mem _ (ih _ hmem)

theorem follows_execution (cfg : Config) (program : Frame α)
    (found : Nat → Env × Hub) :
    ∃ value, Follows cfg program (execution cfg program found) value := by
  induction program generalizing found with
  | ret value => exact ⟨value, .ret value⟩
  | op operation rest ih =>
      obtain ⟨value, hfollows⟩ :=
        ih (operation.exec cfg (found 0).1 (found 0).2).2
          (fun n => found (n + 1))
      exact ⟨value, .op operation rest (found 0).1 (found 0).2 _ value
        hfollows⟩

/-- An execution of a handler which keeps to a protocol, with the stage it
reaches. -/
inductive Walks (cfg : Config) (protocol : Protocol Op Op.Res) :
    protocol.Stage → List Performed → protocol.Stage → Prop where
  | nil (stage : protocol.Stage) : Walks cfg protocol stage [] stage
  | cons (stage final : protocol.Stage) (operation : Op) (env : Env)
      (hub : Hub) (later : List Performed)
      (hallows : protocol.Allows stage operation)
      (hlater : Walks cfg protocol
        (protocol.next stage operation (operation.exec cfg env hub).2) later
        final) :
      Walks cfg protocol stage (⟨operation, env, hub⟩ :: later) final

theorem Walks.eq_of_nil {cfg : Config} {protocol : Protocol Op Op.Res}
    {stage final : protocol.Stage}
    (hwalks : Walks cfg protocol stage [] final) : stage = final := by
  cases hwalks
  rfl

theorem Walks.of_cons {cfg : Config} {protocol : Protocol Op Op.Res}
    {stage final : protocol.Stage} {step : Performed}
    {later : List Performed}
    (hwalks : Walks cfg protocol stage (step :: later) final) :
    protocol.Allows stage step.op ∧
      Walks cfg protocol
        (protocol.next stage step.op (step.op.exec cfg step.env step.hub).2)
        later final := by
  cases hwalks with
  | cons _ _ operation env hub _ hallows hlater => exact ⟨hallows, hlater⟩

theorem Walks.allows_of_mem {cfg : Config} {protocol : Protocol Op Op.Res}
    {stage final : protocol.Stage} {steps : List Performed}
    (hwalks : Walks cfg protocol stage steps final) {step : Performed}
    (hstep : step ∈ steps) : ∃ reached, protocol.Allows reached step.op := by
  induction hwalks with
  | nil stage => cases hstep
  | cons stage final operation env hub later hallows hlater ih =>
      rcases List.mem_cons.mp hstep with rfl | hstep
      · exact ⟨stage, hallows⟩
      · exact ih hstep

theorem Follows.walks {cfg : Config} {protocol : Protocol Op Op.Res}
    {post : α → protocol.Stage → Prop} {stage : protocol.Stage}
    {program : Frame α} {steps : List Performed} {value : α}
    (hfollows : Follows cfg program steps value)
    (hconforms : protocol.Conforms post stage program) :
    ∃ final, Walks cfg protocol stage steps final ∧ post value final := by
  induction hfollows generalizing stage with
  | ret value => exact ⟨stage, .nil stage, hconforms⟩
  | op operation rest env hub later value hlater ih =>
      obtain ⟨final, hwalks, hpost⟩ := ih (hconforms.2 _)
      exact ⟨final, .cons stage final operation env hub later hconforms.1
        hwalks, hpost⟩

/-! ## Requests of a run -/

theorem Request.perform_program {cfg : Config} {env : Env} {hub hub' : Hub}
    {q q' : Request} (hperform : q.perform cfg env hub = some (hub', q')) :
    ∃ operation rest, q.program = .op operation rest ∧
      q'.program = rest (operation.exec cfg env hub).2 ∧
      q'.sender = q.sender ∧ q'.header = q.header ∧
      q'.stage = q.stageAfter cfg env hub operation ∧
      hub' = (operation.exec cfg env hub).1 := by
  obtain ⟨sender, h, stage, program, hends⟩ := q
  cases program with
  | ret value => cases hperform
  | op operation rest =>
      cases hperform
      exact ⟨operation, rest, rfl, rfl, rfl, rfl, rfl, rfl⟩

theorem Request.nextOp_of_program {q : Request} {operation : Op}
    {rest : operation.Res → Frame Unit}
    (hprogram : q.program = .op operation rest) :
    q.nextOp = some operation := by
  simp [Request.nextOp, hprogram, Prog.head?]

namespace Server

variable {cfg : Config} {unpack : Bytes → Option Obj}

theorem program_of_step {s s' : Server} {event : Event}
    (hstep : s.step cfg unpack event = some s') {c : ConnId} {q' : Request}
    (hreader' : s'.readers c = .handling q') :
    (s.readers c = .handling q' ∧ ∀ env, event ≠ .advance c env) ∨
    (∃ h body, event = .read c .resume ∧ s.readers c = .gotBody h body ∧
      q' = Request.start unpack (s.hub.identity c) h body ∧
      s'.hub = s.hub) ∨
    (∃ env q operation rest, event = .advance c env ∧
      s.readers c = .handling q ∧ q.program = .op operation rest ∧
      q'.program = rest (operation.exec cfg env s.hub).2 ∧
      q'.sender = q.sender ∧ q'.header = q.header ∧
      q'.stage = q.stageAfter cfg env s.hub operation ∧
      s'.hub = (operation.exec cfg env s.hub).1) := by
  rcases request_of_step hstep hreader' with hkept | hstart |
    ⟨env, q, _, rfl, hreader, _⟩
  · exact .inl hkept
  · exact .inr (.inl hstart)
  · right
    right
    simp only [step, hreader] at hstep
    split at hstep
    · cases hstep
      rw [setReader_self] at hreader'
      cases hreader'
    · rename_i hub q'' hperform
      cases hstep
      rw [setReader_self, ReadLoop.handling.injEq] at hreader'
      subst hreader'
      obtain ⟨operation, rest, hprogram, hrest, hsender, hheader, hstage,
        hhub⟩ := Request.perform_program hperform
      exact ⟨env, q, operation, rest, rfl, hreader, hprogram, hrest, hsender,
        hheader, hstage, hhub⟩

/-- What is left of a request keeps to the content of its frame, and `fact`
holds of its body and of what its handler has learned. -/
def Carries (unpack : Bytes → Option Obj)
    (fact : ConnId → Request → Bytes → Learned → Prop) (s : Server) : Prop :=
  ∀ c q, s.readers c = .handling q → ∃ body learned,
    (frameContent unpack q.sender q.header body).Conforms (fun _ _ => True)
      learned q.program ∧ fact c q body learned

theorem carries_initial (db : Db)
    (fact : ConnId → Request → Bytes → Learned → Prop) :
    (initial db).Carries unpack fact := by
  intro c q hreader
  cases hreader

/-- The step rule of `Carries`: the fact survives the steps of other
parties, holds of a frame just started, and is passed on by an operation the
frame asks for. -/
theorem carries_of_step
    {fact fact' : ConnId → Request → Bytes → Learned → Prop}
    {s s' : Server} {event : Event} (hcarries : s.Carries unpack fact)
    (hstep : s.step cfg unpack event = some s')
    (hkept : ∀ c q body learned, s.readers c = .handling q →
      (∀ env, event ≠ .advance c env) → fact c q body learned →
      fact' c q body learned)
    (hstart : ∀ c h body, event = .read c .resume →
      s.readers c = .gotBody h body →
      fact' c (Request.start unpack (s.hub.identity c) h body) body .nothing)
    (hpassed : ∀ c env q q' body learned operation,
      event = .advance c env → s.readers c = .handling q →
      q.nextOp = some operation →
      AsksFrame unpack q.sender q.header body learned operation →
      q'.sender = q.sender → q'.header = q.header →
      q'.stage = q.stageAfter cfg env s.hub operation →
      s'.hub = (operation.exec cfg env s.hub).1 → fact c q body learned →
      fact' c q' body (learned.next operation
        (operation.exec cfg env s.hub).2)) :
    s'.Carries unpack fact' := by
  intro c q' hreader'
  rcases program_of_step hstep hreader' with ⟨hreader, hother⟩ |
    ⟨h, body, hevent, hreader, rfl, _⟩ |
    ⟨env, q, operation, rest, hevent, hreader, hprogram, hrest, hsender,
      hheader, hstage, hhub⟩
  · obtain ⟨body, learned, hconforms, hfact⟩ := hcarries c q' hreader
    exact ⟨body, learned, hconforms,
      hkept c q' body learned hreader hother hfact⟩
  · exact ⟨body, .nothing, handleClientFrame_content unpack _ h body,
      hstart c h body hevent hreader⟩
  · obtain ⟨body, learned, hconforms, hfact⟩ := hcarries c q hreader
    rw [hprogram] at hconforms
    refine ⟨body, learned.next operation (operation.exec cfg env s.hub).2,
      ?_, ?_⟩
    · rw [hrest, hsender, hheader]
      exact hconforms.2 _
    · exact hpassed c env q q' body learned operation hevent hreader
        (Request.nextOp_of_program hprogram) hconforms.1 hsender hheader
        hstage hhub hfact

theorem Carries.asks {fact : ConnId → Request → Bytes → Learned → Prop}
    {s : Server} (hcarries : s.Carries unpack fact) {c : ConnId}
    {q : Request} {op : Op} (hreader : s.readers c = .handling q)
    (hop : q.nextOp = some op) :
    ∃ body learned, AsksFrame unpack q.sender q.header body learned op ∧
      fact c q body learned := by
  obtain ⟨body, learned, hconforms, hfact⟩ := hcarries c q hreader
  refine ⟨body, learned, ?_, hfact⟩
  unfold Request.nextOp at hop
  cases hprogram : q.program with
  | ret value =>
      rw [hprogram] at hop
      cases hop
  | op operation rest =>
      rw [hprogram] at hop hconforms
      cases hop
      exact hconforms.1

abbrev Asked (unpack : Bytes → Option Obj) (s : Server) : Prop :=
  s.Carries unpack (fun _ _ _ _ => True)

theorem Asked.step {s s' : Server} {event : Event} (hasked : s.Asked unpack)
    (hstep : s.step cfg unpack event = some s') : s'.Asked unpack :=
  carries_of_step hasked hstep (fun _ _ _ _ _ _ _ => trivial)
    (fun _ _ _ _ _ => trivial)
    (fun _ _ _ _ _ _ _ _ _ _ _ _ _ _ _ _ => trivial)

end Server

end AsioForwarder
