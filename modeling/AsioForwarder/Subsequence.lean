import Mathlib.Data.List.Forall2
import Mathlib.Data.List.Perm.Basic
import Mathlib.Data.List.Nodup

/-!
# Observers of one sequence

Several observers each see a part of one sequence of items, in its order.
`agree_of_sublist` says that two of them see the items they share in the same
order.  What an observer holds may be something made of an item, one for
each: `exists_sublist_forall₂` finds the items of a part of what was made.
Items are of kinds, and those of one kind are numbered upwards.
-/

namespace Subsequence

variable {α β κ : Type*}

theorem agree_of_sublist [BEq α] [LawfulBEq α] {first second whole : List α}
    (hfirst : first.Sublist whole) (hsecond : second.Sublist whole)
    (hnodup : whole.Nodup) :
    first.filter (fun item => item ∈ second) =
      second.filter (fun item => item ∈ first) := by
  have hleft : (first.filter (fun item => item ∈ second)).Sublist whole :=
    List.filter_sublist.trans hfirst
  have hright : (second.filter (fun item => item ∈ first)).Sublist whole :=
    List.filter_sublist.trans hsecond
  apply (List.Nodup.perm_iff_eq_of_sublist hnodup hleft hright).mp
  apply (List.perm_ext_iff_of_nodup (hleft.nodup hnodup)
    (hright.nodup hnodup)).mpr
  intro item
  simp only [List.mem_filter, decide_eq_true_eq]
  exact and_comm

/-- A part of what was made of a list of items was made of a part of them. -/
theorem exists_sublist_forall₂ {rel : α → β → Prop} {items : List α}
    {made part : List β} (hmade : List.Forall₂ rel items made)
    (hpart : part.Sublist made) :
    ∃ chosen, chosen.Sublist items ∧ List.Forall₂ rel chosen part := by
  induction hpart generalizing items with
  | slnil =>
      cases hmade
      exact ⟨[], List.Sublist.refl [], .nil⟩
  | cons b _ ih =>
      cases hmade with
      | cons hrel hmade =>
          obtain ⟨chosen, hchosen, hpart⟩ := ih hmade
          exact ⟨chosen, hchosen.cons _, hpart⟩
  | cons_cons b _ ih =>
      cases hmade with
      | cons hrel hmade =>
          obtain ⟨chosen, hchosen, hpart⟩ := ih hmade
          exact ⟨_ :: chosen, hchosen.cons_cons _, .cons hrel hpart⟩

theorem sublist_of_numbered_from {items : List α} {chosen : List (Nat × α)}
    {first : Nat}
    (hupward : chosen.Pairwise (fun earlier later => earlier.1 < later.1))
    (hnumbered : ∀ entry ∈ chosen,
      first ≤ entry.1 ∧ items[entry.1 - first]? = some entry.2) :
    (chosen.map Prod.snd).Sublist items := by
  induction items generalizing chosen first with
  | nil =>
      cases chosen with
      | nil => exact List.Sublist.refl []
      | cons entry rest =>
          have hentry := (hnumbered entry List.mem_cons_self).2
          cases hentry
  | cons item items ih =>
      have hlater : ∀ {part : List (Nat × α)}, part.Sublist chosen →
          (∀ entry ∈ part, first < entry.1) →
          (part.map Prod.snd).Sublist items := by
        intro part hpart habove
        apply ih (List.Pairwise.sublist hpart hupward)
        intro entry hentry
        have hlt := habove entry hentry
        obtain ⟨_, hitem⟩ := hnumbered entry (hpart.subset hentry)
        have hindex : entry.1 - first = entry.1 - (first + 1) + 1 := by omega
        rw [hindex, List.getElem?_cons_succ] at hitem
        exact ⟨hlt, hitem⟩
      cases chosen with
      | nil => exact List.nil_sublist _
      | cons entry rest =>
          rw [List.pairwise_cons] at hupward
          obtain ⟨hfirst, hitem⟩ := hnumbered entry List.mem_cons_self
          by_cases hhead : entry.1 = first
          · rw [hhead, Nat.sub_self, List.getElem?_cons_zero,
              Option.some.injEq] at hitem
            subst hitem
            refine (hlater (List.sublist_cons_self _ _) ?_).cons_cons _
            intro other hother
            rw [← hhead]
            exact hupward.1 other hother
          · refine (hlater (List.Sublist.refl _) ?_).cons _
            intro other hother
            rcases List.mem_cons.mp hother with rfl | hother
            · omega
            · have hlt := hupward.1 other hother
              omega

/-- Items taken at ascending positions are a part of the list. -/
theorem sublist_of_numbered {items : List α} {chosen : List (Nat × α)}
    (hupward : chosen.Pairwise (fun earlier later => earlier.1 < later.1))
    (hnumbered : ∀ entry ∈ chosen, items[entry.1]? = some entry.2) :
    (chosen.map Prod.snd).Sublist items := by
  refine @sublist_of_numbered_from _ _ _ 0 hupward ?_
  intro entry hentry
  exact ⟨Nat.zero_le _, hnumbered entry hentry⟩

/-- Items of one kind are numbered upwards. -/
def Upward (kind : α → κ) (number : α → Nat) (items : List α) : Prop :=
  items.Pairwise (fun earlier later =>
    kind earlier = kind later → number earlier < number later)

variable {kind : α → κ} {number : α → Nat} {items part : List α}

theorem Upward.sublist (hupward : Upward kind number items)
    (hpart : part.Sublist items) : Upward kind number part :=
  List.Pairwise.sublist hpart hupward

theorem Upward.nodup (hupward : Upward kind number items) :
    items.Nodup := by
  refine List.Pairwise.imp ?_ hupward
  intro earlier later hbelow hsame
  subst hsame
  exact Nat.lt_irrefl _ (hbelow rfl)

theorem Upward.concat (hupward : Upward kind number items) {item : α}
    (hlast : ∀ earlier ∈ items, kind earlier = kind item →
      number earlier < number item) :
    Upward kind number (items ++ [item]) := by
  refine List.pairwise_append.mpr ⟨hupward, List.pairwise_singleton _ _, ?_⟩
  intro earlier hearlier later hlater
  rw [List.mem_singleton] at hlater
  subst hlater
  exact hlast earlier hearlier

end Subsequence
