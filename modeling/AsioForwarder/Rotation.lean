import Mathlib.Data.List.Rotate

/-!
# Taking turns

A cursor goes round the members of a list, one at each turn, from wherever it
stands.  In as many turns as there are members each has one, and after any
number of turns no member is ahead of another by more than one.
-/

namespace Rotation

variable {α : Type*}

/-- The members whose turn it is while the cursor counts from `start`. -/
def turns (members : List α) : Nat → Nat → List α
  | _, 0 => []
  | start, count + 1 =>
      (members[start % members.length]?).toList ++
        turns members (start + 1) count

@[simp] theorem turns_zero (members : List α) (start : Nat) :
    turns members start 0 = [] := rfl

theorem turns_add (members : List α) (start first second : Nat) :
    turns members start (first + second) =
      turns members start first ++ turns members (start + first) second := by
  induction first generalizing start with
  | zero => rw [Nat.zero_add, turns_zero, List.nil_append, Nat.add_zero]
  | succ first ih =>
      rw [Nat.succ_add, turns, turns, ih, List.append_assoc, Nat.add_assoc,
        Nat.add_comm 1 first]

theorem mem_of_mem_turns {members : List α} {start count : Nat} {member : α}
    (hmem : member ∈ turns members start count) : member ∈ members := by
  induction count generalizing start with
  | zero => cases hmem
  | succ count ih =>
      rw [turns, List.mem_append, Option.mem_toList] at hmem
      rcases hmem with hnow | hlater
      · exact List.mem_of_getElem? hnow
      · exact ih hlater

section Members

variable {members : List α} (hmembers : members ≠ [])

include hmembers

theorem exists_turn (start : Nat) :
    ∃ member ∈ members,
      members[start % members.length]? = some member := by
  have hlt : start % members.length < members.length :=
    Nat.mod_lt start (List.length_pos_iff.mpr hmembers)
  exact ⟨members[start % members.length], List.getElem_mem hlt,
    List.getElem?_eq_getElem hlt⟩

theorem turns_succ_eq (start count : Nat) :
    ∃ member ∈ members, turns members start (count + 1) =
      member :: turns members (start + 1) count := by
  obtain ⟨member, hmem, hturn⟩ := exists_turn hmembers start
  exact ⟨member, hmem, by rw [turns, hturn]; rfl⟩

theorem length_turns (start count : Nat) :
    (turns members start count).length = count := by
  induction count generalizing start with
  | zero => rfl
  | succ count ih =>
      obtain ⟨member, _, hturns⟩ := turns_succ_eq hmembers start count
      rw [hturns, List.length_cons, ih]

theorem take_turns (start : Nat) {first count : Nat} (hle : first ≤ count) :
    (turns members start count).take first = turns members start first := by
  obtain ⟨rest, rfl⟩ := Nat.exists_eq_add_of_le hle
  have hlength := length_turns hmembers start first
  rw [turns_add, List.take_append_of_le_length hlength.ge,
    List.take_of_length_le hlength.le]

theorem drop_turns (start first count : Nat) :
    (turns members start (first + count)).drop first =
      turns members (start + first) count := by
  have hlength := length_turns hmembers start first
  rw [turns_add, List.drop_append_of_le_length hlength.ge,
    List.drop_of_length_le hlength.le, List.nil_append]

theorem getElem_turns (start : Nat) {count index : Nat}
    (hindex : index < count) :
    (turns members start count)[index]? =
      members[(start + index) % members.length]? := by
  induction index generalizing start count with
  | zero =>
      obtain ⟨count, rfl⟩ := Nat.exists_eq_succ_of_ne_zero
        (show count ≠ 0 by omega)
      obtain ⟨member, _, hturn⟩ := exists_turn hmembers start
      rw [turns, hturn]
      exact hturn.symm
  | succ index ih =>
      obtain ⟨count, rfl⟩ := Nat.exists_eq_succ_of_ne_zero
        (show count ≠ 0 by omega)
      obtain ⟨member, _, hturns⟩ := turns_succ_eq hmembers start count
      rw [hturns, List.getElem?_cons_succ, ih (start + 1) (by omega),
        Nat.add_assoc, Nat.add_comm 1 index]

/-- A full round. -/
theorem turns_length (start : Nat) :
    turns members start members.length = members.rotate start := by
  apply List.ext_getElem?
  intro index
  by_cases hindex : index < members.length
  · rw [getElem_turns hmembers start hindex, List.getElem?_rotate hindex,
      Nat.add_comm]
  · have hturns := length_turns hmembers start members.length
    rw [List.getElem?_eq_none (by omega),
      List.getElem?_eq_none (by rw [List.length_rotate]; omega)]

theorem turns_perm (start : Nat) :
    (turns members start members.length).Perm members := by
  rw [turns_length hmembers]
  exact List.rotate_perm members start

/-- Less than a round gives nobody two turns, and whole rounds give everybody
the same number. -/
theorem count_turns_le [DecidableEq α] (hnodup : members.Nodup)
    {first second : α} (hsecond : second ∈ members) (start count : Nat) :
    (turns members start count).count first ≤
      (turns members start count).count second + 1 := by
  induction count using Nat.strong_induction_on generalizing start with
  | _ count ih =>
      by_cases hround : count < members.length
      · have hsub : (turns members start count).Sublist
            (turns members start members.length) := by
          rw [← take_turns hmembers start hround.le]
          exact List.take_sublist _ _
        have honce := List.nodup_iff_count_le_one.mp
          (((turns_perm hmembers start).nodup_iff.mpr hnodup).sublist hsub)
          first
        omega
      · obtain ⟨rest, rfl⟩ := Nat.exists_eq_add_of_le
          (Nat.le_of_not_lt hround)
        have hpos := List.length_pos_iff.mpr hmembers
        have hrest := ih rest (by omega) (start + members.length)
        have hfirst := List.nodup_iff_count_le_one.mp hnodup first
        have hone := List.count_eq_one_of_mem hnodup hsecond
        rw [turns_add, List.count_append, List.count_append,
          (turns_perm hmembers start).count_eq,
          (turns_perm hmembers start).count_eq]
        omega

end Members

end Rotation
