import Mathlib.Tactic.Common

/-!
# Programs of atomic operations

A handler which runs concurrently with others is modelled as a tree: either
it has returned, or it is about to perform one atomic operation and goes on
according to the operation's result.  Between two operations anything may
happen, so a statement about such a tree quantifies over every result.

A protocol describes what a program may do without looking at the program:
which operations are allowed at a stage and which stage follows a result.
`Protocol.Conforms` says that a tree keeps to a protocol on all its paths;
it is proved by the rules for `perform` and `bind` below, and gives an
invariant of every interleaving, since one performed operation leaves a tree
which conforms at the next stage.
-/

namespace Interaction

/-- A program over the operations `Op`, where performing `operation` yields
a value of type `Res operation`. -/
inductive Prog (Op : Type) (Res : Op → Type) (α : Type) : Type where
  | ret (value : α) : Prog Op Res α
  | op (operation : Op) (next : Res operation → Prog Op Res α) :
      Prog Op Res α

variable {Op : Type} {Res : Op → Type} {α β : Type}

namespace Prog

def bind : Prog Op Res α → (α → Prog Op Res β) → Prog Op Res β
  | ret value, next => next value
  | op operation rest, next =>
      op operation (fun result => (rest result).bind next)

def perform (operation : Op) : Prog Op Res (Res operation) :=
  op operation ret

instance : Monad (Prog Op Res) where
  pure := ret
  bind := bind

def head? : Prog Op Res α → Option Op
  | ret _ => none
  | op operation _ => some operation

end Prog

/-- Which operations are allowed at a stage, and the stage after a result. -/
structure Protocol (Op : Type) (Res : Op → Type) where
  Stage : Type
  Allows : Stage → Op → Prop
  next : Stage → (operation : Op) → Res operation → Stage

namespace Protocol

variable {protocol : Protocol Op Res}

/-- Every operation the program can reach is allowed at the stage reached,
and a program which returns does so with `post`. -/
def Conforms (protocol : Protocol Op Res)
    (post : α → protocol.Stage → Prop) :
    protocol.Stage → Prog Op Res α → Prop
  | stage, .ret value => post value stage
  | stage, .op operation rest =>
      protocol.Allows stage operation ∧
        ∀ result, protocol.Conforms post
          (protocol.next stage operation result) (rest result)

theorem conforms_perform_bind {post : β → protocol.Stage → Prop}
    {stage : protocol.Stage} {operation : Op}
    {next : Res operation → Prog Op Res β}
    (hallows : protocol.Allows stage operation)
    (hnext : ∀ result, protocol.Conforms post
      (protocol.next stage operation result) (next result)) :
    protocol.Conforms post stage (Prog.perform operation >>= next) :=
  ⟨hallows, hnext⟩

theorem conforms_bind {mid : α → protocol.Stage → Prop}
    {post : β → protocol.Stage → Prop}
    {stage : protocol.Stage} {program : Prog Op Res α}
    {next : α → Prog Op Res β}
    (hfirst : protocol.Conforms mid stage program)
    (hnext : ∀ value reached, mid value reached →
      protocol.Conforms post reached (next value)) :
    protocol.Conforms post stage (program >>= next) := by
  induction program generalizing stage with
  | ret value => exact hnext value stage hfirst
  | op operation rest ih =>
      exact ⟨hfirst.1, fun result => ih result (hfirst.2 result)⟩

end Protocol

end Interaction
