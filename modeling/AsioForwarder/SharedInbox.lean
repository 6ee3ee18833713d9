import AsioForwarder.TransitionRun
import Mathlib.Data.List.AList
import Mathlib.Algebra.Order.Group.Multiset
import Mathlib.Tactic.Abel

/-!
# Threads sharing an inbox

Items with a key are put into a queue.  Any number of threads wait there, each
for an item with its key: a thread takes the front item, and if its key is
another one it puts the item back at the end.  Taking and putting back are
steps of their own, so a thread may hold the item another one waits for.
-/

namespace SharedInbox

variable {τ κ ι : Type*}

/-- A call which waits for an item, and the item it has in hand. -/
structure Waiting (κ ι : Type*) where
  key : κ
  inHand : Option ι := none

/-- `returned` are the results of the calls in their order. -/
structure Inbox (τ κ ι : Type*) where
  queue : List ι := []
  waiting : AList (fun _ : τ => Waiting κ ι) := ∅
  returned : List (τ × κ × ι) := []

inductive Event (τ κ ι : Type*) where
  | put (item : ι)
  | call (t : τ) (key : κ)
  | take (t : τ)
  | compare (t : τ)
  | expire (t : τ)

def Event.thread : Event τ κ ι → Option τ
  | .put _ => none
  | .call t _ | .take t | .compare t | .expire t => some t

namespace Inbox

section Step

variable [DecidableEq τ] [DecidableEq κ] (keyOf : ι → κ)

/-- A thread looks at the item in its hand. -/
def settle (t : τ) (key : κ) (item : ι) (s : Inbox τ κ ι) : Inbox τ κ ι :=
  if keyOf item = key then
    { s with
      waiting := s.waiting.erase t
      returned := s.returned ++ [(t, key, item)] }
  else
    { s with
      queue := s.queue ++ [item]
      waiting := s.waiting.insert t ⟨key, none⟩ }

/-- A call comes to its deadline only with empty hands. -/
def step (s : Inbox τ κ ι) : Event τ κ ι → Option (Inbox τ κ ι)
  | .put item => some { s with queue := s.queue ++ [item] }
  | .call t key =>
      match s.waiting.lookup t with
      | some _ => none
      | none => some { s with waiting := s.waiting.insert t ⟨key, none⟩ }
  | .take t =>
      match s.waiting.lookup t, s.queue with
      | some ⟨key, none⟩, item :: rest =>
          some { s with
            queue := rest
            waiting := s.waiting.insert t ⟨key, some item⟩ }
      | _, _ => none
  | .compare t =>
      match s.waiting.lookup t with
      | some ⟨key, some item⟩ => some (s.settle keyOf t key item)
      | _ => none
  | .expire t =>
      match s.waiting.lookup t with
      | some ⟨_, none⟩ => some { s with waiting := s.waiting.erase t }
      | _ => none

end Step

/-- The items in the hands of threads. -/
def inHands (waiting : AList (fun _ : τ => Waiting κ ι)) : Multiset ι :=
  Multiset.ofList (waiting.entries.filterMap (fun entry => entry.2.inHand))

def results (s : Inbox τ κ ι) : Multiset ι :=
  Multiset.ofList (s.returned.map (fun result => result.2.2))

/-- All items: in the queue, in hands, and returned. -/
def items (s : Inbox τ κ ι) : Multiset ι :=
  Multiset.ofList s.queue + inHands s.waiting + s.results

/-- What a step puts into the queue from outside. -/
def puts (_ : Inbox τ κ ι) : Event τ κ ι → List ι
  | .put item => [item]
  | _ => []

/-! ## No item is lost -/

section Hands

variable [DecidableEq τ] {waiting : AList (fun _ : τ => Waiting κ ι)} {t : τ}

theorem perm_of_lookup {x : Waiting κ ι}
    (hlookup : waiting.lookup t = some x) :
    waiting.entries.Perm (⟨t, x⟩ :: (waiting.erase t).entries) := by
  have hmem : t ∈ waiting := AList.lookup_isSome.mp (by rw [hlookup]; rfl)
  obtain ⟨y, first, second, hnot, hentries, hkerase⟩ :=
    List.exists_of_kerase hmem
  have hy : waiting.lookup t = some y := by
    rw [AList.lookup, hentries, List.dlookup_append]
    rw [List.dlookup_eq_none.mpr hnot, Option.none_or, List.dlookup_cons_eq]
  rw [hlookup, Option.some.injEq] at hy
  subst hy
  have herased : (waiting.erase t).entries = first ++ second := hkerase
  rw [herased, hentries]
  exact List.perm_middle

theorem inHands_insert (waiting : AList (fun _ : τ => Waiting κ ι)) (t : τ)
    (x : Waiting κ ι) :
    inHands (waiting.insert t x) =
      Multiset.ofList x.inHand.toList + inHands (waiting.erase t) := by
  have hentries : (waiting.insert t x).entries =
      ⟨t, x⟩ :: (waiting.erase t).entries := rfl
  rw [inHands, hentries]
  cases hhand : x.inHand <;> simp [inHands, hhand]

theorem inHands_of_lookup {x : Waiting κ ι}
    (hlookup : waiting.lookup t = some x) :
    inHands waiting =
      Multiset.ofList x.inHand.toList + inHands (waiting.erase t) := by
  have hperm := (perm_of_lookup hlookup).filterMap
    (fun entry => entry.2.inHand)
  rw [inHands, Multiset.coe_eq_coe.mpr hperm]
  cases hhand : x.inHand <;> simp [inHands, hhand]

/-- The thread does not wait. -/
theorem inHands_of_not_mem (hlookup : waiting.lookup t = none) :
    inHands (waiting.erase t) = inHands waiting := by
  have hnot : t ∉ waiting.keys := AList.lookup_eq_none.mp hlookup
  have herased : (waiting.erase t).entries = waiting.entries :=
    List.kerase_of_notMem_keys hnot
  rw [inHands, herased, inHands]

end Hands

section Runs

variable [DecidableEq τ] [DecidableEq κ] {keyOf : ι → κ}
  {s next : Inbox τ κ ι}

theorem items_settle {t : τ} {key : κ} {item : ι}
    (hlookup : s.waiting.lookup t = some ⟨key, some item⟩) :
    (s.settle keyOf t key item).items = s.items := by
  have hhands := inHands_of_lookup hlookup
  rw [Option.toList_some] at hhands
  unfold settle
  split
  · have hresults : results
        { s with
          waiting := s.waiting.erase t
          returned := s.returned ++ [(t, key, item)] } =
        s.results + Multiset.ofList [item] := by
      rw [results, List.map_append, ← Multiset.coe_add]
      rfl
    rw [items, hresults, items, hhands]
    abel
  · rw [items, items, inHands_insert, hhands, ← Multiset.coe_add,
      Option.toList_none, Multiset.coe_nil, zero_add]
    exact congrArg (· + s.results) (add_assoc _ _ _)

/-! ## What a step can do -/

theorem call_eq_some {t : τ} {key : κ}
    (hstep : s.step keyOf (.call t key) = some next) :
    s.waiting.lookup t = none ∧
      next = { s with waiting := s.waiting.insert t ⟨key, none⟩ } := by
  simp only [step] at hstep
  split at hstep
  · cases hstep
  · rename_i hnone
    exact ⟨hnone, (Option.some.inj hstep).symm⟩

theorem take_eq_some {t : τ} (hstep : s.step keyOf (.take t) = some next) :
    ∃ key item rest, s.waiting.lookup t = some ⟨key, none⟩ ∧
      s.queue = item :: rest ∧
      next = { s with
        queue := rest
        waiting := s.waiting.insert t ⟨key, some item⟩ } := by
  simp only [step] at hstep
  split at hstep
  · rename_i key item rest hlookup hqueue
    exact ⟨key, item, rest, hlookup, hqueue, (Option.some.inj hstep).symm⟩
  · cases hstep

theorem compare_eq_some {t : τ}
    (hstep : s.step keyOf (.compare t) = some next) :
    ∃ key item, s.waiting.lookup t = some ⟨key, some item⟩ ∧
      next = s.settle keyOf t key item := by
  simp only [step] at hstep
  split at hstep
  · rename_i key item hlookup
    exact ⟨key, item, hlookup, (Option.some.inj hstep).symm⟩
  · cases hstep

theorem expire_eq_some {t : τ}
    (hstep : s.step keyOf (.expire t) = some next) :
    ∃ key, s.waiting.lookup t = some ⟨key, none⟩ ∧
      next = { s with waiting := s.waiting.erase t } := by
  simp only [step] at hstep
  split at hstep
  · rename_i key hlookup
    exact ⟨key, hlookup, (Option.some.inj hstep).symm⟩
  · cases hstep

/-- A step leaves the other threads alone. -/
theorem lookup_of_ne {t : τ} {event : Event τ κ ι}
    (hne : event.thread ≠ some t)
    (hstep : s.step keyOf event = some next) :
    next.waiting.lookup t = s.waiting.lookup t := by
  have hother : ∀ u, event.thread = some u → t ≠ u := by
    rintro u hu rfl
    exact hne hu
  cases event with
  | put item =>
      cases hstep
      rfl
  | call u key =>
      obtain ⟨_, rfl⟩ := call_eq_some hstep
      exact AList.lookup_insert_ne (hother u rfl)
  | take u =>
      obtain ⟨_, _, _, _, _, rfl⟩ := take_eq_some hstep
      exact AList.lookup_insert_ne (hother u rfl)
  | compare u =>
      obtain ⟨_, _, _, rfl⟩ := compare_eq_some hstep
      unfold settle
      split
      · exact AList.lookup_erase_ne (hother u rfl)
      · exact AList.lookup_insert_ne (hother u rfl)
  | expire u =>
      obtain ⟨_, _, rfl⟩ := expire_eq_some hstep
      exact AList.lookup_erase_ne (hother u rfl)

/-- Only a thread which waits takes a step other than a call. -/
theorem lookup_ne_none {t : τ} {event : Event τ κ ι}
    (hthread : event.thread = some t) (hcall : ∀ key, event ≠ .call t key)
    (hstep : s.step keyOf event = some next) :
    s.waiting.lookup t ≠ none := by
  cases event with
  | put item => cases hthread
  | call u key =>
      cases hthread
      exact absurd rfl (hcall key)
  | take u =>
      cases hthread
      obtain ⟨_, _, _, hlookup, _⟩ := take_eq_some hstep
      simp [hlookup]
  | compare u =>
      cases hthread
      obtain ⟨_, _, hlookup, _⟩ := compare_eq_some hstep
      simp [hlookup]
  | expire u =>
      cases hthread
      obtain ⟨_, hlookup, _⟩ := expire_eq_some hstep
      simp [hlookup]

/-- A step adds to the items those which it puts into the queue. -/
theorem items_step {event : Event τ κ ι}
    (hstep : s.step keyOf event = some next) :
    next.items = s.items + Multiset.ofList (s.puts event) := by
  cases event with
  | put item =>
      cases hstep
      rw [items, items, puts, ← Multiset.coe_add]
      have hresults : results { s with queue := s.queue ++ [item] } =
          s.results := rfl
      rw [hresults]
      abel
  | call t key =>
      obtain ⟨hnone, rfl⟩ := call_eq_some hstep
      have hhands := inHands_insert s.waiting t ⟨key, none⟩
      rw [inHands_of_not_mem hnone] at hhands
      simp [items, hhands, puts, results]
  | take t =>
      obtain ⟨key, item, rest, hlookup, hqueue, rfl⟩ := take_eq_some hstep
      have hhands := inHands_of_lookup hlookup
      simp only [Option.toList_none, Multiset.coe_nil, zero_add] at hhands
      have hfront : Multiset.ofList s.queue =
          Multiset.ofList [item] + Multiset.ofList rest := by
        rw [hqueue, Multiset.coe_add]
        rfl
      rw [items, items, inHands_insert, hfront, hhands]
      simp only [Option.toList_some, puts, Multiset.coe_nil, add_zero]
      rw [← add_assoc, add_comm (Multiset.ofList [item])]
      rfl
  | compare t =>
      obtain ⟨key, item, hlookup, rfl⟩ := compare_eq_some hstep
      have hnone : s.puts (.compare t) = [] := rfl
      rw [items_settle hlookup, hnone, Multiset.coe_nil, add_zero]
  | expire t =>
      obtain ⟨key, hlookup, rfl⟩ := expire_eq_some hstep
      have hhands := inHands_of_lookup hlookup
      simp only [Option.toList_none, Multiset.coe_nil, zero_add] at hhands
      simp [items, hhands, puts, results]

/-- Every item put into the queue is in the queue, in the hand of one thread
or the result of one call. -/
theorem items_of_run {events : List (Event τ κ ι)}
    (hrun : Transition.run (step keyOf) events {} = some s) :
    s.items = Multiset.ofList
      (Transition.observe (step keyOf) puts events {}) := by
  have hinitial : items ({} : Inbox τ κ ι) = Multiset.ofList [] := rfl
  exact Transition.observe_preserves
    (fun seen (s : Inbox τ κ ι) => s.items = Multiset.ofList seen)
    (fun seen _ _ _ hbefore hnext => by
      rw [items_step hnext, hbefore, Multiset.coe_add])
    hinitial hrun

theorem returned_step {event : Event τ κ ι}
    (hstep : s.step keyOf event = some next) :
    next.returned = s.returned ∨
      ∃ t item, s.waiting.lookup t = some ⟨keyOf item, some item⟩ ∧
        event = .compare t ∧
        next.waiting = s.waiting.erase t ∧
        next.returned = s.returned ++ [(t, keyOf item, item)] := by
  cases event with
  | put item =>
      cases hstep
      exact .inl rfl
  | call t key =>
      obtain ⟨_, rfl⟩ := call_eq_some hstep
      exact .inl rfl
  | take t =>
      obtain ⟨_, _, _, _, _, rfl⟩ := take_eq_some hstep
      exact .inl rfl
  | compare t =>
      obtain ⟨key, item, hlookup, rfl⟩ := compare_eq_some hstep
      unfold settle
      split
      · rename_i hkey
        subst hkey
        exact .inr ⟨t, item, hlookup, rfl, rfl, rfl⟩
      · exact .inl rfl
  | expire t =>
      obtain ⟨_, _, rfl⟩ := expire_eq_some hstep
      exact .inl rfl

theorem matched_of_run {events : List (Event τ κ ι)}
    (hrun : Transition.run (step keyOf) events {} = some s) :
    ∀ result ∈ s.returned, keyOf result.2.2 = result.2.1 := by
  refine Transition.run_preserves_always
    (fun s : Inbox τ κ ι => ∀ result ∈ s.returned,
      keyOf result.2.2 = result.2.1) ?_ (by simp) hrun
  intro s event next hmatched hstep
  obtain hsame | ⟨t, item, _, _, _, hreturned⟩ := returned_step hstep
  · rwa [hsame]
  · rw [hreturned, List.forall_mem_append, List.forall_mem_singleton]
    exact ⟨hmatched, rfl⟩

end Runs

/-! ## A call which waits for an item of the queue -/

section Progress

variable (keyOf : ι → κ)

/-- The thread waits, and an item it waits for is in the queue. -/
structure Due [DecidableEq τ] (t : τ) (key : κ) (s : Inbox τ κ ι) : Prop where
  waits : ∃ hand, s.waiting.lookup t = some ⟨key, hand⟩ ∧
    ∀ item ∈ hand, keyOf item ≠ key
  there : ∃ item ∈ s.queue, keyOf item = key

/-- How many items stand before the first one with the key. -/
def position [DecidableEq κ] (key : κ) (queue : List ι) : Nat :=
  queue.findIdx (fun item => keyOf item = key)

/-- No other thread takes an item with this key, and the call of the thread
does not come to its deadline. -/
def Undisturbed (t : τ) (key : κ) (s : Inbox τ κ ι) : Event τ κ ι → Prop
  | .take u => u = t ∨ ∀ item ∈ s.queue.head?, keyOf item ≠ key
  | .expire u => u ≠ t
  | _ => True

def isTake [DecidableEq τ] (t : τ) : Event τ κ ι → Bool
  | .take u => u = t
  | _ => false

/-- After the results `before` the thread has got an item with the key. -/
inductive Served [DecidableEq τ] (before : List (τ × κ × ι)) (t : τ) (key : κ)
    (s : Inbox τ κ ι) : Prop where
  | inHand (item : ι) (hkey : keyOf item = key)
      (hlookup : s.waiting.lookup t = some ⟨key, some item⟩)
      (hreturned : before <+: s.returned)
  | returned (item : ι) (later : List (τ × κ × ι)) (hkey : keyOf item = key)
      (hreturned : s.returned = before ++ later)
      (hmem : (t, key, item) ∈ later)

section Queue

variable {keyOf} [DecidableEq κ] {key : κ} {queue rest : List ι} {item : ι}

theorem position_append (hthere : ∃ item ∈ queue, keyOf item = key)
    (item : ι) :
    position keyOf key (queue ++ [item]) = position keyOf key queue := by
  obtain ⟨found, hmem, hkey⟩ := hthere
  have hlt : queue.findIdx (fun item => keyOf item = key) < queue.length :=
    List.findIdx_lt_length_of_exists ⟨found, hmem, decide_eq_true hkey⟩
  rw [position, position, List.findIdx_append, if_pos hlt]

theorem position_cons (hne : keyOf item ≠ key) :
    position keyOf key (item :: rest) = position keyOf key rest + 1 := by
  rw [position, List.findIdx_cons, decide_eq_false hne]
  rfl

end Queue

theorem exists_append {queue : List ι} {key : κ}
    (hthere : ∃ item ∈ queue, keyOf item = key) (more : List ι) :
    ∃ item ∈ queue ++ more, keyOf item = key := by
  obtain ⟨found, hmem, hkey⟩ := hthere
  exact ⟨found, List.mem_append_left _ hmem, hkey⟩

theorem exists_tail {queue rest : List ι} {item : ι} {key : κ}
    (hthere : ∃ item ∈ queue, keyOf item = key)
    (hqueue : queue = item :: rest) (hne : keyOf item ≠ key) :
    ∃ item ∈ rest, keyOf item = key := by
  obtain ⟨found, hmem, hkey⟩ := hthere
  rw [hqueue, List.mem_cons] at hmem
  rcases hmem with rfl | hmem
  · exact absurd hkey hne
  · exact ⟨found, hmem, hkey⟩

section Steps

variable {keyOf} [DecidableEq τ] [DecidableEq κ] {t : τ} {key : κ}
  {s next : Inbox τ κ ι} {before : List (τ × κ × ι)} {event : Event τ κ ι}

theorem returned_grows (hstep : s.step keyOf event = some next) :
    s.returned <+: next.returned := by
  obtain hsame | ⟨t, item, _, _, _, hreturned⟩ := returned_step hstep
  · exact hsame ▸ List.prefix_rfl
  · rw [hreturned]
    exact List.prefix_append _ _

/-- What a thread has got stays in its hand until the call returns it. -/
theorem Served.step (hserved : s.Served keyOf before t key)
    (hstep : s.step keyOf event = some next) :
    next.Served keyOf before t key := by
  have hprefix := returned_grows hstep
  cases hserved with
  | returned item later hkey hreturned hmem =>
      obtain ⟨more, hmore⟩ := hprefix
      refine .returned item (later ++ more) hkey ?_
        (List.mem_append_left _ hmem)
      rw [← hmore, hreturned, List.append_assoc]
  | inHand item hkey hlookup hbefore =>
      by_cases hself : event.thread = some t
      · cases event with
        | put other => cases hself
        | call u other =>
            cases hself
            rw [(call_eq_some hstep).1] at hlookup
            cases hlookup
        | take u =>
            cases hself
            obtain ⟨_, _, _, hwaits, _⟩ := take_eq_some hstep
            rw [hlookup] at hwaits
            cases hwaits
        | expire u =>
            cases hself
            obtain ⟨_, hwaits, _⟩ := expire_eq_some hstep
            rw [hlookup] at hwaits
            cases hwaits
        | compare u =>
            cases hself
            obtain ⟨other, found, hwaits, rfl⟩ := compare_eq_some hstep
            rw [hlookup, Option.some.injEq, Waiting.mk.injEq,
              Option.some.injEq] at hwaits
            obtain ⟨rfl, rfl⟩ := hwaits
            obtain ⟨more, hmore⟩ := hbefore
            refine .returned item (more ++ [(t, key, item)]) hkey ?_ (by simp)
            rw [settle, if_pos hkey, ← hmore, List.append_assoc]
      · exact .inHand item hkey ((lookup_of_ne hself hstep).trans hlookup)
          (hbefore.trans hprefix)

/-- An undisturbed step leaves the item where it is, or brings it nearer;
when the thread takes an item, it gets this one or the item comes nearer. -/
theorem Due.step (hdue : s.Due keyOf t key)
    (hquiet : s.Undisturbed keyOf t key event)
    (hbefore : before <+: s.returned)
    (hstep : s.step keyOf event = some next) :
    next.Served keyOf before t key ∨
      (next.Due keyOf t key ∧
        (isTake t event).toNat + position keyOf key next.queue ≤
          position keyOf key s.queue) := by
  obtain ⟨hand, hlookup, hhand⟩ := hdue.waits
  have hother : event.thread ≠ some t →
      ∃ hand, next.waiting.lookup t = some ⟨key, hand⟩ ∧
        ∀ item ∈ hand, keyOf item ≠ key := fun hne =>
    ⟨hand, (lookup_of_ne hne hstep).trans hlookup, hhand⟩
  cases event with
  | put item =>
      have hwaits := hother (by simp [Event.thread])
      cases hstep
      exact .inr ⟨⟨hwaits, exists_append keyOf hdue.there _⟩,
        by simp [isTake, position_append hdue.there]⟩
  | call u other =>
      obtain ⟨hnone, hnext⟩ := call_eq_some hstep
      have hne : u ≠ t := by
        rintro rfl
        rw [hlookup] at hnone
        cases hnone
      have hwaits := hother (by simpa [Event.thread] using hne)
      subst hnext
      exact .inr ⟨⟨hwaits, hdue.there⟩, by simp [isTake]⟩
  | expire u =>
      have hwaits := hother (by simpa [Event.thread, Undisturbed] using hquiet)
      obtain ⟨_, _, rfl⟩ := expire_eq_some hstep
      exact .inr ⟨⟨hwaits, hdue.there⟩, by simp [isTake]⟩
  | take u =>
      obtain ⟨other, item, rest, hfree, hqueue, hnext⟩ := take_eq_some hstep
      by_cases hsame : u = t
      · subst hsame hnext
        rw [hlookup, Option.some.injEq, Waiting.mk.injEq] at hfree
        obtain ⟨rfl, rfl⟩ := hfree
        by_cases hkey : keyOf item = key
        · exact .inl (.inHand item hkey (AList.lookup_insert _) hbefore)
        · refine .inr ⟨⟨⟨some item, AList.lookup_insert _, ?_⟩,
            exists_tail keyOf hdue.there hqueue hkey⟩, ?_⟩
          · simpa using hkey
          · rw [hqueue, position_cons hkey]
            simp [isTake, Nat.add_comm]
      · have hwaits := hother (by simpa [Event.thread] using hsame)
        have hkey : keyOf item ≠ key := by
          rcases hquiet with hself | hkey
          · exact absurd hself hsame
          · exact hkey item (by rw [hqueue]; rfl)
        subst hnext
        refine .inr ⟨⟨hwaits, exists_tail keyOf hdue.there hqueue hkey⟩, ?_⟩
        rw [hqueue, position_cons hkey]
        simp [isTake, hsame]
  | compare u =>
      obtain ⟨other, item, hholds, hnext⟩ := compare_eq_some hstep
      by_cases hsame : u = t
      · subst hsame hnext
        rw [hlookup, Option.some.injEq, Waiting.mk.injEq] at hholds
        obtain ⟨rfl, rfl⟩ := hholds
        have hkey := hhand item rfl
        right
        rw [settle, if_neg hkey]
        exact ⟨⟨⟨none, AList.lookup_insert _, by simp⟩,
          exists_append keyOf hdue.there _⟩,
          by simp [isTake, position_append hdue.there]⟩
      · have hwaits := hother (by simpa [Event.thread] using hsame)
        subst hnext
        right
        unfold settle at hwaits ⊢
        split
        · rw [if_pos ‹_›] at hwaits
          exact ⟨⟨hwaits, hdue.there⟩, by simp [isTake]⟩
        · rw [if_neg ‹_›] at hwaits
          exact ⟨⟨hwaits, exists_append keyOf hdue.there _⟩,
            by simp [isTake, position_append hdue.there]⟩

theorem Due.run {events : List (Event τ κ ι)} (hdue : s.Due keyOf t key)
    (hquiet : Transition.Along (Inbox.step keyOf) (Undisturbed keyOf t key)
      events s)
    (hbefore : before <+: s.returned)
    (hrun : Transition.run (Inbox.step keyOf) events s = some next) :
    next.Served keyOf before t key ∨
      (next.Due keyOf t key ∧
        events.countP (isTake t) + position keyOf key next.queue ≤
          position keyOf key s.queue) := by
  induction events generalizing s with
  | nil =>
      rw [Transition.run_nil, Option.some.injEq] at hrun
      subst hrun
      exact .inr ⟨hdue, by simp⟩
  | cons event rest ih =>
      obtain ⟨middle, hstep, hrest⟩ := Transition.run_cons_eq_some.mp hrun
      obtain hserved | ⟨hlater, hnearer⟩ :=
        hdue.step hquiet.1 hbefore hstep
      · left
        exact Transition.run_preserves_always
          (fun s : Inbox τ κ ι => s.Served keyOf before t key)
          (fun _ _ _ hserved hstep => hserved.step hstep) hserved hrest
      · refine (ih hlater (hquiet.2 middle hstep)
          (hbefore.trans (returned_grows hstep)) hrest).imp_right ?_
        rintro ⟨hdue, hcount⟩
        refine ⟨hdue, ?_⟩
        rw [List.countP_cons]
        cases htake : isTake t event <;> simp [htake] at hnearer ⊢ <;> omega

/-- A thread takes no more items than stand in the queue before its own. -/
theorem served_of_takes {events : List (Event τ κ ι)}
    (hdue : s.Due keyOf t key)
    (hquiet : Transition.Along (Inbox.step keyOf) (Undisturbed keyOf t key)
      events s)
    (hrun : Transition.run (Inbox.step keyOf) events s = some next)
    (htakes : position keyOf key s.queue < events.countP (isTake t)) :
    next.Served keyOf s.returned t key := by
  obtain hserved | ⟨_, hcount⟩ := hdue.run hquiet List.prefix_rfl hrun
  · exact hserved
  · omega

end Steps

/-! ## Two threads in each other's way -/

section Starvation

variable [DecidableEq τ]

/-- Two threads wait, `u` since the last step. -/
def both (t u : τ) (x y : Waiting κ ι) : AList (fun _ : τ => Waiting κ ι) :=
  ((∅ : AList (fun _ : τ => Waiting κ ι)).insert t x).insert u y

/-- Each of two threads takes an item and puts it back. -/
def round (t u : τ) : List (Event τ κ ι) :=
  [.take t, .take u, .compare t, .compare u]

def rounds (t u : τ) : Nat → List (Event τ κ ι)
  | 0 => []
  | n + 1 => round t u ++ rounds t u n

/-- Each thread waits for the item behind the one it will take. -/
def facing (t u : τ) (a b : ι) : Inbox τ κ ι where
  queue := [a, b]
  waiting := both t u ⟨keyOf b, none⟩ ⟨keyOf a, none⟩

variable {keyOf} {t u : τ} {a b : ι}

theorem lookup_both (hthreads : t ≠ u) (x y : Waiting κ ι) :
    (both t u x y).lookup t = some x :=
  (AList.lookup_insert_ne hthreads).trans (AList.lookup_insert _)

theorem kerase_kerase (hthreads : t ≠ u) (x : Waiting κ ι) :
    List.kerase t (List.kerase u [(⟨t, x⟩ : Σ _ : τ, Waiting κ ι)]) = [] := by
  rw [List.kerase_cons_ne (Ne.symm hthreads), List.kerase_nil]
  exact List.kerase_cons_eq rfl

theorem insert_both (hthreads : t ≠ u) (x x' y : Waiting κ ι) :
    (both t u x y).insert t x' = both u t y x' := by
  apply AList.ext
  simp [both, AList.entries_insert, hthreads, kerase_kerase hthreads]

theorem erase_both (hthreads : t ≠ u) (x y : Waiting κ ι) :
    ((both t u x y).erase t).erase u = ∅ := by
  apply AList.ext
  have herased : ((both t u x y).erase t).entries =
      List.kerase t (both t u x y).entries := rfl
  have hfirst : ((both t u x y).erase t).entries = [⟨u, y⟩] := by
    rw [herased]
    simp [both, AList.entries_insert, hthreads, kerase_kerase hthreads]
  have hsecond : (((both t u x y).erase t).erase u).entries =
      List.kerase u ((both t u x y).erase t).entries := rfl
  rw [hsecond, hfirst]
  exact List.kerase_cons_eq rfl

theorem countP_rounds (t u : τ) (n : Nat) :
    n ≤ (rounds t u n : List (Event τ κ ι)).countP (isTake t) ∧
      n ≤ (rounds t u n : List (Event τ κ ι)).countP (isTake u) := by
  induction n with
  | zero => exact ⟨Nat.le_refl _, Nat.le_refl _⟩
  | succ n ih =>
      rw [rounds, List.countP_append, List.countP_append]
      have hone : 1 ≤ (round t u : List (Event τ κ ι)).countP (isTake t) ∧
          1 ≤ (round t u : List (Event τ κ ι)).countP (isTake u) := by
        simp [round, isTake, List.countP_cons]
      omega

variable [DecidableEq κ]

theorem run_round (hthreads : t ≠ u) (hkeys : keyOf a ≠ keyOf b) :
    Transition.run (Inbox.step keyOf) (round t u) (facing keyOf t u a b) =
      some (facing keyOf t u a b) := by
  have hsym := Ne.symm hthreads
  simp [round, Transition.run, facing, step, settle, lookup_both hthreads,
    lookup_both hsym, insert_both hthreads, insert_both hsym, hkeys,
    Ne.symm hkeys]

theorem run_rounds (hthreads : t ≠ u) (hkeys : keyOf a ≠ keyOf b) (n : Nat) :
    Transition.run (Inbox.step keyOf) (rounds t u n) (facing keyOf t u a b) =
      some (facing keyOf t u a b) := by
  induction n with
  | zero => rfl
  | succ n ih =>
      exact Transition.run_append_eq_some.mpr
        ⟨_, run_round hthreads hkeys, ih⟩

theorem run_facing (hthreads : t ≠ u) :
    Transition.run (Inbox.step keyOf)
      [.put a, .put b, .call t (keyOf b), .call u (keyOf a)] {} =
      some (facing keyOf t u a b) := by
  have hnone : AList.lookup u
      ((∅ : AList (fun _ : τ => Waiting κ ι)).insert t ⟨keyOf b, none⟩) =
      none := AList.lookup_insert_ne (Ne.symm hthreads)
  have hfirst : AList.lookup t (∅ : AList (fun _ : τ => Waiting κ ι)) =
      none := rfl
  simp only [Transition.run, step, Option.bind_some, hfirst, hnone]
  rfl

theorem run_expire (hthreads : t ≠ u) :
    Transition.run (Inbox.step keyOf) [.expire t, .expire u]
      (facing keyOf t u a b) = some { queue := [a, b] } := by
  have hsecond : AList.lookup u ((both t u (⟨keyOf b, none⟩ : Waiting κ ι)
      ⟨keyOf a, none⟩).erase t) = some ⟨keyOf a, none⟩ :=
    (AList.lookup_erase_ne (Ne.symm hthreads)).trans (AList.lookup_insert _)
  simp [Transition.run, step, facing, lookup_both hthreads, hsecond,
    erase_both hthreads]

end Starvation

end Progress

end Inbox

end SharedInbox
