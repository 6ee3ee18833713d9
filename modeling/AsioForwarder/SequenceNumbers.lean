import AsioForwarder.SdkClient
import Mathlib.Data.List.Nodup
import Mathlib.Logic.Function.Iterate

/-!
# Sequence numbers

`next_seq` counts from 1 to `2 ^ 31 - 1` and starts again, so two numbers it
hands out are equal exactly if their positions differ by a multiple of that.
`_next_seq` of the Python client hands out the same numbers.
-/

namespace AsioForwarder

/-- How many numbers are handed out before one is handed out again. -/
def seqPeriod : Nat := 2147483647

/-- The number handed out `n` calls after `start`. -/
def seqAt (start : UInt32) (n : Nat) : UInt32 :=
  nextSeq^[n] start

@[simp] theorem seqAt_zero (start : UInt32) : seqAt start 0 = start := rfl

theorem seqAt_succ (start : UInt32) (n : Nat) :
    seqAt start (n + 1) = nextSeq (seqAt start n) :=
  Function.iterate_succ_apply' nextSeq n start

theorem nextSeq_toNat (seq : UInt32) :
    (nextSeq seq).toNat =
      if (seq.toNat + 1) % 2147483648 = 0 then 1
      else (seq.toNat + 1) % 2147483648 := by
  have hmask : ((seq + 1) &&& 0x7FFFFFFF).toNat =
      (seq.toNat + 1) % 2147483648 := by
    have hand := Nat.and_two_pow_sub_one_eq_mod (seq + 1).toNat 31
    rw [UInt32.toNat_and]
    refine hand.trans ?_
    rw [UInt32.toNat_add, UInt32.toNat_one]
    omega
  have hzero : (seq + 1) &&& 0x7FFFFFFF = 0 ↔
      ((seq + 1) &&& 0x7FFFFFFF).toNat = 0 := by
    rw [← UInt32.toNat_inj, UInt32.toNat_zero]
  rw [← hmask, nextSeq]
  by_cases hwrap : (seq + 1) &&& 0x7FFFFFFF = 0
  · rw [if_pos hwrap, if_pos (hzero.mp hwrap), UInt32.toNat_one]
  · rw [if_neg hwrap, if_neg (mt hzero.mpr hwrap)]

/-- A number `next_seq` can have handed out. -/
def ValidSeq (seq : UInt32) : Prop :=
  1 ≤ seq.toNat ∧ seq.toNat ≤ seqPeriod

theorem validSeq_nextSeq (seq : UInt32) : ValidSeq (nextSeq seq) := by
  rw [ValidSeq, nextSeq_toNat, seqPeriod]
  split <;> omega

section Valid

variable {start : UInt32} (hvalid : ValidSeq start)

include hvalid

theorem seqAt_toNat (n : Nat) :
    (seqAt start n).toNat = (start.toNat - 1 + n) % seqPeriod + 1 := by
  obtain ⟨hpos, hle⟩ := hvalid
  rw [seqPeriod] at hle ⊢
  induction n with
  | zero =>
      rw [seqAt_zero]
      omega
  | succ n ih =>
      rw [seqAt_succ, nextSeq_toNat, ih]
      split <;> omega

theorem seqAt_eq_iff {m n : Nat} (hmn : m ≤ n) :
    seqAt start m = seqAt start n ↔ (n - m) % seqPeriod = 0 := by
  rw [← UInt32.toNat_inj, seqAt_toNat hvalid, seqAt_toNat hvalid, seqPeriod]
  omega

theorem seqAt_injOn (first : Nat) {m n : Nat} (hm : first ≤ m)
    (hm' : m < first + seqPeriod) (hn : first ≤ n)
    (hn' : n < first + seqPeriod) (hsame : seqAt start m = seqAt start n) :
    m = n := by
  rw [seqPeriod] at hm' hn'
  rcases Nat.le_total m n with hmn | hnm
  · have hmod := (seqAt_eq_iff hvalid hmn).mp hsame
    rw [seqPeriod] at hmod
    omega
  · have hmod := (seqAt_eq_iff hvalid hnm).mp hsame.symm
    rw [seqPeriod] at hmod
    omega

end Valid

/-! ## Two implementations -/

namespace PyRelayClient

/-- `_next_seq` of `relay_client.py`; `_seq` is an `int`. -/
def nextSeq (seq : Nat) : Nat :=
  let seq := (seq + 1) &&& 0x7FFFFFFF
  if seq = 0 then 1 else seq

theorem nextSeq_toNat (seq : UInt32) :
    nextSeq seq.toNat = (AsioForwarder.nextSeq seq).toNat := by
  have hmask : (seq.toNat + 1) &&& 0x7FFFFFFF =
      (seq.toNat + 1) % 2147483648 :=
    Nat.and_two_pow_sub_one_eq_mod (seq.toNat + 1) 31
  rw [nextSeq, AsioForwarder.nextSeq_toNat, hmask]

theorem iterate_nextSeq_toNat (start : UInt32) (n : Nat) :
    nextSeq^[n] start.toNat = (seqAt start n).toNat := by
  induction n with
  | zero => rfl
  | succ n ih =>
      rw [Function.iterate_succ_apply', ih, nextSeq_toNat, seqAt_succ]

end PyRelayClient

/-- The values `n` calls of a counter's `next` return. -/
def returned {α : Type} (next : α → α) (start : α) (n : Nat) : List α :=
  (List.range n).map (fun k => next^[k + 1] start)

theorem mem_window {n first size k : Nat}
    (hk : k ∈ ((List.range n).drop first).take size) :
    first ≤ k ∧ k < first + size := by
  obtain ⟨index, hindex, rfl⟩ := List.getElem_of_mem hk
  rw [List.length_take] at hindex
  rw [List.getElem_take, List.getElem_drop, List.getElem_range]
  omega

theorem returned_window_nodup {start : UInt32} (hvalid : ValidSeq start)
    (n first : Nat) :
    (((returned nextSeq start n).drop first).take seqPeriod).Nodup := by
  rw [returned, ← List.map_drop, ← List.map_take]
  apply List.Nodup.map_on
  · intro j hj k hk hsame
    have hjwindow := mem_window hj
    have hkwindow := mem_window hk
    have hsucc : j + 1 = k + 1 :=
      seqAt_injOn hvalid (first + 1) (by omega) (by omega) (by omega)
        (by omega) hsame
    omega
  · exact (List.nodup_range.sublist (List.drop_sublist first _)).sublist
      (List.take_sublist seqPeriod _)

/-- Both counters start at 1. -/
theorem nextSeq_distinct :
    (∀ n, ValidSeq (seqAt 1 (n + 1))) ∧
    (∀ n, returned PyRelayClient.nextSeq 1 n =
      (returned nextSeq 1 n).map UInt32.toNat) ∧
    (∀ n first,
      (((returned nextSeq 1 n).drop first).take seqPeriod).Nodup) ∧
    ∀ n reply,
      ((returned nextSeq 1 n).drop (n - seqPeriod)).count reply ≤ 1 := by
  have hone : ValidSeq 1 := ⟨by decide, by decide⟩
  refine ⟨?_, ?_, returned_window_nodup hone, ?_⟩
  · intro n
    rw [seqAt_succ]
    exact validSeq_nextSeq _
  · intro n
    rw [returned, returned, List.map_map]
    exact List.map_congr_left
      (fun k _ => PyRelayClient.iterate_nextSeq_toNat 1 (k + 1))
  · intro n reply
    have hlast : ((returned nextSeq 1 n).drop (n - seqPeriod)).take
        seqPeriod = (returned nextSeq 1 n).drop (n - seqPeriod) := by
      apply List.take_of_length_le
      rw [List.length_drop, returned, List.length_map, List.length_range]
      omega
    have hnodup := returned_window_nodup hone n (n - seqPeriod)
    rw [hlast] at hnodup
    exact List.nodup_iff_count_le_one.mp hnodup reply

end AsioForwarder
