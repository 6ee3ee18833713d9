import Mathlib.Data.Option.Basic
import Mathlib.Tactic.Common

/-!
# Finite runs of a partial step function

A transition system is a partial function taking a state and an event to the
next state.  `run` executes a list of events, and `Along` says that every
event of a list meets a condition in the state in which it happens.  The
invariant rules below are used for every safety statement about a whole run:
one step lemma gives the run lemma.
-/

namespace Transition

variable {σ ε : Type*}

/-- Execute the events in order; `none` if one of them cannot happen. -/
def run (step : σ → ε → Option σ) : List ε → σ → Option σ
  | [], state => some state
  | event :: rest, state => (step state event).bind (run step rest)

/-- Every event of the list meets the condition in the state before it. -/
def Along (step : σ → ε → Option σ) (good : σ → ε → Prop) :
    List ε → σ → Prop
  | [], _ => True
  | event :: rest, state =>
      good state event ∧
        ∀ next, step state event = some next → Along step good rest next

variable {step : σ → ε → Option σ} {good : σ → ε → Prop}

@[simp] theorem run_nil (state : σ) :
    run step [] state = some state := rfl

theorem run_cons_eq_some {event : ε} {rest : List ε} {state final : σ} :
    run step (event :: rest) state = some final ↔
      ∃ next, step state event = some next ∧
        run step rest next = some final := by
  simp [run, Option.bind_eq_some_iff]

theorem run_append_eq_some {first second : List ε} {state final : σ} :
    run step (first ++ second) state = some final ↔
      ∃ middle, run step first state = some middle ∧
        run step second middle = some final := by
  induction first generalizing state with
  | nil => simp
  | cons event rest ih =>
      simp only [List.cons_append, run_cons_eq_some, ih]
      constructor
      · rintro ⟨next, hstep, middle, hrest, hsecond⟩
        exact ⟨middle, ⟨next, hstep, hrest⟩, hsecond⟩
      · rintro ⟨middle, ⟨next, hstep, hrest⟩, hsecond⟩
        exact ⟨next, hstep, middle, hrest, hsecond⟩

theorem Along.append_right {first second : List ε} {state middle : σ}
    (halong : Along step good (first ++ second) state)
    (hrun : run step first state = some middle) :
    Along step good second middle := by
  induction first generalizing state with
  | nil =>
      rw [run_nil, Option.some.injEq] at hrun
      subst middle
      exact halong
  | cons event rest ih =>
      obtain ⟨next, hstep, hrest⟩ := run_cons_eq_some.mp hrun
      exact ih (halong.2 next hstep) hrest

theorem along_of_forall {events : List ε} {state : σ}
    (hgood : ∀ state event, good state event) :
    Along step good events state := by
  induction events generalizing state with
  | nil => trivial
  | cons event rest ih => exact ⟨hgood state event, fun next _ => ih⟩

theorem Along.and_forall {allowed : ε → Prop} {events : List ε} {state : σ}
    (halong : Along step good events state)
    (hallowed : ∀ event ∈ events, allowed event) :
    Along step (fun state event => allowed event ∧ good state event)
      events state := by
  induction events generalizing state with
  | nil => trivial
  | cons event rest ih =>
      refine ⟨⟨hallowed event (by simp), halong.1⟩, ?_⟩
      intro next hstep
      exact ih (halong.2 next hstep)
        (fun other hother => hallowed other (List.mem_cons_of_mem _ hother))

theorem Along.and {other : σ → ε → Prop} {events : List ε} {state : σ}
    (halong : Along step good events state)
    (hother : Along step other events state) :
    Along step (fun state event => good state event ∧ other state event)
      events state := by
  induction events generalizing state with
  | nil => trivial
  | cons event rest ih =>
      exact ⟨⟨halong.1, hother.1⟩,
        fun next hnext => ih (halong.2 next hnext) (hother.2 next hnext)⟩

/-- Evaluate `Along` for a decidable condition. -/
def checkAlong (step : σ → ε → Option σ) (good : σ → ε → Prop)
    [∀ state event, Decidable (good state event)] : List ε → σ → Bool
  | [], _ => true
  | event :: rest, state =>
      decide (good state event) &&
        match step state event with
        | none => true
        | some next => checkAlong step good rest next

theorem checkAlong_iff [∀ state event, Decidable (good state event)]
    {events : List ε} {state : σ} :
    checkAlong step good events state = true ↔
      Along step good events state := by
  induction events generalizing state with
  | nil => simp [checkAlong, Along]
  | cons event rest ih =>
      simp only [checkAlong, Along, Bool.and_eq_true, decide_eq_true_eq]
      refine and_congr_right (fun _ => ?_)
      cases hstep : step state event with
      | none => simp
      | some next => simp [ih]

theorem along_of_check [∀ state event, Decidable (good state event)]
    {events : List ε} {state : σ}
    (hcheck : checkAlong step good events state = true) :
    Along step good events state :=
  checkAlong_iff.mp hcheck

theorem not_along_of_check [∀ state event, Decidable (good state event)]
    {events : List ε} {state : σ}
    (hcheck : checkAlong step good events state = false) :
    ¬Along step good events state := by
  rw [← checkAlong_iff, hcheck]
  exact Bool.false_ne_true

/-- A property of states which every good step preserves holds at the end of
every good run. -/
theorem run_preserves (inv : σ → Prop)
    (hstep : ∀ state event next, inv state → good state event →
      step state event = some next → inv next)
    {events : List ε} {state final : σ}
    (hinv : inv state) (hgood : Along step good events state)
    (hrun : run step events state = some final) : inv final := by
  induction events generalizing state with
  | nil =>
      rw [run_nil, Option.some.injEq] at hrun
      subst final
      exact hinv
  | cons event rest ih =>
      obtain ⟨next, hnext, hrest⟩ := run_cons_eq_some.mp hrun
      exact ih (hstep state event next hinv hgood.1 hnext)
        (hgood.2 next hnext) hrest

theorem along_of_invariant (inv : σ → Prop) {property : σ → ε → Prop}
    (hstep : ∀ state event next, inv state → good state event →
      step state event = some next → inv next)
    (hproperty : ∀ state event, inv state → good state event →
      property state event)
    {events : List ε} {state : σ}
    (hinv : inv state) (hgood : Along step good events state) :
    Along step property events state := by
  induction events generalizing state with
  | nil => trivial
  | cons event rest ih =>
      refine ⟨hproperty state event hinv hgood.1, ?_⟩
      intro next hnext
      exact ih (hstep state event next hinv hgood.1 hnext)
        (hgood.2 next hnext)

/-- The steps of a run of allowed events have what an invariant gives each
step that goes through. -/
theorem along_of_run (inv : σ → Prop) {allowed : ε → Prop}
    {property : σ → ε → Prop}
    (hstep : ∀ state event next, inv state → allowed event →
      step state event = some next → inv next ∧ property state event)
    {events : List ε} {state final : σ} (hinv : inv state)
    (hallowed : ∀ event ∈ events, allowed event)
    (hrun : run step events state = some final) :
    Along step property events state := by
  induction events generalizing state with
  | nil => trivial
  | cons event rest ih =>
      obtain ⟨next, hnext, hrest⟩ := run_cons_eq_some.mp hrun
      rw [List.forall_mem_cons] at hallowed
      obtain ⟨hlater, hproperty⟩ :=
        hstep state event next hinv hallowed.1 hnext
      refine ⟨hproperty, fun other hother => ?_⟩
      rw [hnext, Option.some.injEq] at hother
      subst hother
      exact ih hlater hallowed.2 hrest

theorem run_preserves_always (inv : σ → Prop)
    (hstep : ∀ state event next, inv state →
      step state event = some next → inv next)
    {events : List ε} {state final : σ}
    (hinv : inv state) (hrun : run step events state = some final) :
    inv final :=
  run_preserves inv
    (fun state event next hbefore _ => hstep state event next hbefore)
    hinv (along_of_forall (fun _ _ => trivial)) hrun

/-- A property which a step keeps exactly when the step is good holds in
every state of a run exactly when the run is good. -/
theorem forall_reached_iff_along (base property : σ → Prop)
    (hbase : ∀ state event next, base state →
      step state event = some next → base next)
    (hexact : ∀ state event next, base state → property state →
      step state event = some next →
      (property next ↔ good state event))
    {events : List ε} {state final : σ}
    (hstart : base state) (hproperty : property state)
    (hrun : run step events state = some final) :
    (∀ earlier reached, earlier <+: events →
      run step earlier state = some reached → property reached) ↔
    Along step good events state := by
  induction events generalizing state with
  | nil =>
      refine ⟨fun _ => trivial, fun _ earlier reached hearlier hreached => ?_⟩
      rw [List.prefix_nil] at hearlier
      rw [hearlier, run_nil, Option.some.injEq] at hreached
      exact hreached ▸ hproperty
  | cons event rest ih =>
      obtain ⟨next, hnext, hrest⟩ := run_cons_eq_some.mp hrun
      have hiff := hexact state event next hstart hproperty hnext
      have hlater := fun hholds =>
        ih (hbase state event next hstart hnext) hholds hrest
      constructor
      · intro hall
        have hholds : property next := hall [event] next
          (List.cons_prefix_cons.mpr ⟨rfl, List.nil_prefix⟩)
          (run_cons_eq_some.mpr ⟨next, hnext, rfl⟩)
        refine ⟨hiff.mp hholds, ?_⟩
        intro other hother
        rw [hnext, Option.some.injEq] at hother
        subst hother
        refine (hlater hholds).mp ?_
        intro earlier reached hearlier hreached
        exact hall (event :: earlier) reached
          (List.cons_prefix_cons.mpr ⟨rfl, hearlier⟩)
          (run_cons_eq_some.mpr ⟨next, hnext, hreached⟩)
      · intro halong earlier reached hearlier hreached
        have hholds : property next := hiff.mpr halong.1
        cases earlier with
        | nil =>
            rw [run_nil, Option.some.injEq] at hreached
            exact hreached ▸ hproperty
        | cons first later =>
            obtain ⟨rfl, hlater'⟩ := List.cons_prefix_cons.mp hearlier
            obtain ⟨other, hother, hrun'⟩ := run_cons_eq_some.mp hreached
            rw [hnext, Option.some.injEq] at hother
            subst hother
            exact (hlater hholds).mpr (halong.2 next hnext) later reached
              hlater' hrun'

/-- What a run shows: the views of its steps one after another. -/
def observe {ω : Type*} (step : σ → ε → Option σ) (view : σ → ε → List ω) :
    List ε → σ → List ω
  | [], _ => []
  | event :: rest, state =>
      view state event ++
        match step state event with
        | none => []
        | some next => observe step view rest next

/-- An invariant relating what has been seen to the state reached, kept by
every good step. -/
theorem observe_preserves_along {ω : Type*} {view : σ → ε → List ω}
    (inv : List ω → σ → Prop)
    (hstep : ∀ seen state event next, inv seen state → good state event →
      step state event = some next → inv (seen ++ view state event) next)
    {events : List ε} {seen : List ω} {state final : σ}
    (hinv : inv seen state) (hgood : Along step good events state)
    (hrun : run step events state = some final) :
    inv (seen ++ observe step view events state) final := by
  induction events generalizing seen state with
  | nil =>
      rw [run_nil, Option.some.injEq] at hrun
      subst final
      rw [observe, List.append_nil]
      exact hinv
  | cons event rest ih =>
      obtain ⟨next, hnext, hrest⟩ := run_cons_eq_some.mp hrun
      have hlater := ih (hstep seen state event next hinv hgood.1 hnext)
        (hgood.2 next hnext) hrest
      rw [List.append_assoc] at hlater
      rw [observe, hnext]
      exact hlater

theorem observe_preserves {ω : Type*} {view : σ → ε → List ω}
    (inv : List ω → σ → Prop)
    (hstep : ∀ seen state event next, inv seen state →
      step state event = some next → inv (seen ++ view state event) next)
    {events : List ε} {seen : List ω} {state final : σ}
    (hinv : inv seen state) (hrun : run step events state = some final) :
    inv (seen ++ observe step view events state) final :=
  observe_preserves_along inv
    (fun seen state event next hbefore _ =>
      hstep seen state event next hbefore)
    hinv (along_of_forall (fun _ _ => trivial)) hrun

/-- The rule for two views of one run. -/
theorem observe_preserves_both {ω ω' : Type*} {view : σ → ε → List ω}
    {other : σ → ε → List ω'} (inv : List ω → List ω' → σ → Prop)
    (hstep : ∀ seen seen' state event next, inv seen seen' state →
      step state event = some next →
      inv (seen ++ view state event) (seen' ++ other state event) next)
    {events : List ε} {seen : List ω} {seen' : List ω'} {state final : σ}
    (hinv : inv seen seen' state) (hrun : run step events state = some final) :
    inv (seen ++ observe step view events state)
      (seen' ++ observe step other events state) final := by
  induction events generalizing seen seen' state with
  | nil =>
      rw [run_nil, Option.some.injEq] at hrun
      subst final
      rw [observe, observe, List.append_nil, List.append_nil]
      exact hinv
  | cons event rest ih =>
      obtain ⟨next, hnext, hrest⟩ := run_cons_eq_some.mp hrun
      have hlater := ih (hstep seen seen' state event next hinv hnext) hrest
      rw [List.append_assoc, List.append_assoc] at hlater
      rw [observe, observe, hnext]
      exact hlater

/-- What the states of an invariant show holds of all that is seen. -/
theorem forall_mem_observe {ω : Type*} {view : σ → ε → List ω}
    {property : ω → Prop} (inv : σ → Prop)
    (hstep : ∀ state event next, inv state →
      step state event = some next → inv next)
    (hview : ∀ state event, inv state →
      ∀ item ∈ view state event, property item)
    {state : σ} (hinv : inv state) (events : List ε) :
    ∀ item ∈ observe step view events state, property item := by
  induction events generalizing state with
  | nil => simp [observe]
  | cons event rest ih =>
      intro item hitem
      rcases List.mem_append.mp hitem with hnow | hlater
      · exact hview state event hinv item hnow
      · cases hnext : step state event with
        | none =>
            rw [hnext] at hlater
            cases hlater
        | some next =>
            rw [hnext] at hlater
            exact ih (hstep state event next hinv hnext) item hlater

/-- A map of lists which takes appending to appending commutes with
observing. -/
theorem observe_map {ω ω' : Type*} {view : σ → ε → List ω}
    {other : σ → ε → List ω'} (change : List ω → List ω')
    (hnil : change [] = [])
    (happend : ∀ first second, change (first ++ second) =
      change first ++ change second)
    (hview : ∀ state event, change (view state event) = other state event)
    (events : List ε) (state : σ) :
    change (observe step view events state) =
      observe step other events state := by
  induction events generalizing state with
  | nil => exact hnil
  | cons event rest ih =>
      rw [observe, observe, happend, hview]
      cases step state event with
      | none => rw [hnil]
      | some next => rw [ih next]

/-- A run seen through `view` is a run of a system which takes the views of
all steps. -/
theorem run_view {τ : Type*} {step' : τ → ε → Option τ} (view : σ → τ)
    (hstep : ∀ state event next, step state event = some next →
      step' (view state) event = some (view next))
    {events : List ε} {state final : σ}
    (hrun : run step events state = some final) :
    run step' events (view state) = some (view final) := by
  induction events generalizing state with
  | nil =>
      rw [run_nil, Option.some.injEq] at hrun
      rw [run_nil, hrun]
  | cons event rest ih =>
      obtain ⟨next, hnext, hrest⟩ := run_cons_eq_some.mp hrun
      exact run_cons_eq_some.mpr
        ⟨view next, hstep state event next hnext, ih hrest⟩

/-- Events which `view` does not see can be left out: what it sees of the
state reached, and whether the run goes through, stays the same. -/
theorem run_erase {τ : Type*} (inv : σ → Prop) (view : σ → τ)
    (keep : ε → Bool)
    (hinv : ∀ state event next, inv state →
      step state event = some next → inv next)
    (hstep : ∀ state state' event, inv state → inv state' →
      view state = view state' →
      (step state event).map view = (step state' event).map view)
    (hunseen : ∀ state event, inv state → keep event = false →
      (step state event).map view = some (view state))
    (events : List ε) {state state' : σ} (hstate : inv state)
    (hstate' : inv state') (hsame : view state = view state') :
    (run step events state).map view =
      (run step (events.filter keep) state').map view := by
  induction events generalizing state state' with
  | nil => exact congrArg some hsame
  | cons event rest ih =>
      cases hkeep : keep event with
      | false =>
          obtain ⟨next, hnext, hview⟩ :=
            Option.map_eq_some_iff.mp (hunseen state event hstate hkeep)
          rw [List.filter_cons_of_neg (by simp [hkeep]), run, hnext,
            Option.bind_some]
          exact ih (hinv state event next hstate hnext) hstate'
            (hview.trans hsame)
      | true =>
          rw [List.filter_cons_of_pos hkeep, run, run]
          have hboth := hstep state state' event hstate hstate' hsame
          cases hnext : step state event with
          | none =>
              rw [hnext, Option.map_none, eq_comm, Option.map_eq_none_iff]
                at hboth
              rw [hboth, Option.bind_none, Option.bind_none]
          | some next =>
              rw [hnext, Option.map_some, eq_comm] at hboth
              obtain ⟨next', hnext', hview⟩ := Option.map_eq_some_iff.mp hboth
              rw [hnext', Option.bind_some, Option.bind_some]
              exact ih (hinv state event next hstate hnext)
                (hinv state' event next' hstate' hnext') hview.symm

theorem run_relates (rel : σ → σ → Prop)
    (hrefl : ∀ state, rel state state)
    (htrans : ∀ first second third, rel first second → rel second third →
      rel first third)
    (hstep : ∀ state event next, step state event = some next →
      rel state next)
    {events : List ε} {state final : σ}
    (hrun : run step events state = some final) : rel state final := by
  refine run_preserves_always (fun current => rel state current)
    ?_ (hrefl state) hrun
  intro current event next hcurrent hnext
  exact htrans state current next hcurrent (hstep current event next hnext)

/-- A run whose final state passes a decidable test.  Concrete runs are
replayed through this lemma. -/
theorem exists_run_of_check {test : σ → Prop} [DecidablePred test]
    {events : List ε} {state : σ}
    (hrun : (run step events state).map (fun final => decide (test final)) =
      some true) :
    ∃ final, run step events state = some final ∧ test final := by
  cases hfinal : run step events state with
  | none => simp [hfinal] at hrun
  | some final =>
      rw [hfinal, Option.map_some, Option.some.injEq] at hrun
      exact ⟨final, rfl, of_decide_eq_true hrun⟩

/-! ## Measures -/

section Measure

variable (measure : σ → Nat) (inv : σ → Prop)

/-- A run whose steps all lower a measure is no longer than the measure. -/
theorem length_le_of_decreasing
    (hinv : ∀ state event next, inv state → good state event →
      step state event = some next → inv next)
    (hlower : ∀ state event next, inv state → good state event →
      step state event = some next → measure next < measure state)
    {events : List ε} {state final : σ} (hstate : inv state)
    (hgood : Along step good events state)
    (hrun : run step events state = some final) :
    events.length + measure final ≤ measure state := by
  induction events generalizing state with
  | nil =>
      cases hrun
      exact Nat.le_of_eq (Nat.zero_add _)
  | cons event rest ih =>
      obtain ⟨next, hnext, hrest⟩ := run_cons_eq_some.mp hrun
      have hmore := ih (hinv state event next hstate hgood.1 hnext)
        (hgood.2 next hnext) hrest
      have hless := hlower state event next hstate hgood.1 hnext
      rw [List.length_cons]
      omega

/-- Good steps can be taken until there is none left. -/
theorem exists_exhausted
    (hinv : ∀ state event next, inv state → good state event →
      step state event = some next → inv next)
    (hlower : ∀ state event next, inv state → good state event →
      step state event = some next → measure next < measure state)
    {state : σ} (hstate : inv state) :
    ∃ events final, run step events state = some final ∧
      Along step good events state ∧
      ∀ event, good final event → step final event = none := by
  induction hwork : measure state using Nat.strongRecOn
    generalizing state with
  | ind work ih =>
      by_cases hstuck : ∀ event, good state event → step state event = none
      · exact ⟨[], state, rfl, trivial, hstuck⟩
      · push Not at hstuck
        obtain ⟨event, hgood, hsome⟩ := hstuck
        obtain ⟨next, hnext⟩ := Option.ne_none_iff_exists'.mp hsome
        have hless := hlower state event next hstate hgood hnext
        obtain ⟨events, final, hrun, halong, hdone⟩ := ih (measure next)
          (hwork ▸ hless) (hinv state event next hstate hgood hnext) rfl
        refine ⟨event :: events, final, ?_, ?_, hdone⟩
        · exact run_cons_eq_some.mpr ⟨next, hnext, hrun⟩
        · refine ⟨hgood, ?_⟩
          intro other hother
          rw [hnext, Option.some.injEq] at hother
          rwa [← hother]

end Measure

end Transition
