import Mathlib.Algebra.Order.Group.Nat
import Mathlib.Data.List.Basic

/-!
# Iterated hashing

A compression function is folded over the blocks of a padded message.  The
padding is a mark, as few zeros as make the length a multiple of the block
size, and a suffix.  A program which compresses the whole blocks in place has
then one or two blocks left to build, and these two lemmas say which.
-/

namespace IteratedHash

variable {α σ : Type*}

/-- Fold the compression function over the whole blocks of `n` items. -/
def absorb (compress : σ → List α → σ) (n : Nat) (state : σ)
    (items : List α) : σ :=
  if _ : 0 < n ∧ n ≤ items.length then
    absorb compress n (compress state (items.take n)) (items.drop n)
  else state
termination_by items.length
decreasing_by
  rw [List.length_drop]
  omega

/-- How many zeros complete a block after `length` items, the mark and
`reserved` further items. -/
def zeros (n length reserved : Nat) : Nat :=
  (n - (length + 1 + reserved) % n) % n

/-- The message with its padding. -/
def padded (mark zero : α) (n : Nat) (suffix message : List α) : List α :=
  message ++ mark ::
    (List.replicate (zeros n message.length suffix.length) zero ++ suffix)

/-! ## Folding -/

section Absorb

variable {compress : σ → List α → σ} {n : Nat}

@[simp] theorem absorb_nil (state : σ) :
    absorb compress n state [] = state := by
  rw [absorb, dif_neg (by rw [List.length_nil]; omega)]

theorem absorb_block_append (hn : 0 < n) {state : σ} {block items : List α}
    (hblock : block.length = n) :
    absorb compress n state (block ++ items) =
      absorb compress n (compress state block) items := by
  rw [absorb, dif_pos ⟨hn, by rw [List.length_append]; omega⟩, ← hblock,
    List.take_left, List.drop_left]

theorem absorb_block (hn : 0 < n) {state : σ} {block : List α}
    (hblock : block.length = n) :
    absorb compress n state block = compress state block := by
  have hsame : absorb compress n state (block ++ []) = _ :=
    absorb_block_append hn hblock
  rwa [List.append_nil, absorb_nil] at hsame

theorem absorb_append (hn : 0 < n) {state : σ} {whole items : List α}
    (hwhole : n ∣ whole.length) :
    absorb compress n state (whole ++ items) =
      absorb compress n (absorb compress n state whole) items := by
  obtain ⟨count, hcount⟩ := hwhole
  induction count generalizing state whole with
  | zero =>
      rw [Nat.mul_zero, List.length_eq_zero_iff] at hcount
      rw [hcount, absorb_nil, List.nil_append]
  | succ count ih =>
      rw [Nat.mul_succ] at hcount
      have hblock : (whole.take n).length = n := by
        rw [List.length_take]
        omega
      have hrest : (whole.drop n).length = n * count := by
        rw [List.length_drop]
        omega
      rw [← List.take_append_drop n whole, List.append_assoc,
        absorb_block_append hn hblock, absorb_block_append hn hblock,
        ih hrest]

end Absorb

/-! ## Padding -/

section Zeros

variable {n length reserved : Nat}

theorem zeros_whole {whole : Nat} (hwhole : n ∣ whole) :
    zeros n (whole + length) reserved = zeros n length reserved := by
  obtain ⟨count, rfl⟩ := hwhole
  rw [zeros, zeros, Nat.add_assoc (n * count), Nat.add_assoc (n * count),
    Nat.mul_add_mod]

theorem zeros_eq_of_le (hfit : length + 1 + reserved ≤ n) :
    zeros n length reserved = n - (length + 1 + reserved) := by
  rcases Nat.lt_or_eq_of_le hfit with hlt | heq
  · rw [zeros, Nat.mod_eq_of_lt hlt, Nat.mod_eq_of_lt (by omega)]
  · rw [zeros, heq, Nat.mod_self, Nat.sub_zero, Nat.mod_self, Nat.sub_self]

variable (hn : 0 < n)

include hn

theorem zeros_lt : zeros n length reserved < n :=
  Nat.mod_lt _ hn

theorem dvd_padded_length :
    n ∣ length + 1 + zeros n length reserved + reserved := by
  have hrest := Nat.mod_lt (length + 1 + reserved) hn
  have hdiv := Nat.div_add_mod (length + 1 + reserved) n
  generalize (length + 1 + reserved) / n = count at hdiv
  by_cases hzero : (length + 1 + reserved) % n = 0
  · refine ⟨count, ?_⟩
    rw [zeros, hzero, Nat.sub_zero, Nat.mod_self]
    omega
  · refine ⟨count + 1, ?_⟩
    rw [zeros, Nat.mod_eq_of_lt (by omega), Nat.mul_succ]
    omega

/-- The padding is as short as it can be. -/
theorem zeros_le {other : Nat}
    (hother : n ∣ length + 1 + other + reserved) :
    zeros n length reserved ≤ other := by
  by_contra hless
  rw [Nat.not_le] at hless
  have hpadded : n ∣ length + 1 + zeros n length reserved + reserved :=
    dvd_padded_length hn
  have hsub := Nat.dvd_sub hpadded hother
  have hdiff : length + 1 + zeros n length reserved + reserved -
      (length + 1 + other + reserved) = zeros n length reserved - other := by
    omega
  rw [hdiff] at hsub
  have hle := Nat.le_of_dvd (by omega) hsub
  have hlt : zeros n length reserved < n := zeros_lt hn
  omega

theorem zeros_eq_of_lt (hover : n < length + 1 + reserved)
    (hfit : length + 1 + reserved ≤ 2 * n) :
    zeros n length reserved = 2 * n - (length + 1 + reserved) := by
  have hless : zeros n length reserved ≤
      2 * n - (length + 1 + reserved) :=
    zeros_le hn ⟨2, by omega⟩
  obtain ⟨count, hcount⟩ :
      n ∣ length + 1 + zeros n length reserved + reserved :=
    dvd_padded_length hn
  have htwo : 2 ≤ count := by
    by_contra hone
    have hle : n * count ≤ n * 1 := Nat.mul_le_mul_left n (by omega)
    omega
  have hle : n * 2 ≤ n * count := Nat.mul_le_mul_left n htwo
  omega

end Zeros

/-! ## The last blocks -/

section LastBlocks

variable {compress : σ → List α → σ} {n : Nat} {mark zero : α}
  {suffix whole rest : List α} (hn : 0 < n) (hwhole : n ∣ whole.length)

include hwhole

theorem padded_append :
    padded mark zero n suffix (whole ++ rest) =
      whole ++ padded mark zero n suffix rest := by
  rw [padded, padded, List.length_append, zeros_whole hwhole,
    List.append_assoc]

include hn

theorem absorb_padded_of_le (state : σ)
    (hfit : rest.length + 1 + suffix.length ≤ n) :
    absorb compress n state (padded mark zero n suffix (whole ++ rest)) =
      compress (absorb compress n state whole)
        (rest ++ mark ::
          (List.replicate (n - (rest.length + 1 + suffix.length)) zero ++
            suffix)) := by
  rw [padded_append hwhole, absorb_append hn hwhole, padded,
    zeros_eq_of_le hfit]
  apply absorb_block hn
  rw [List.length_append, List.length_cons, List.length_append,
    List.length_replicate]
  omega

theorem absorb_padded_of_lt (state : σ) (hrest : rest.length < n)
    (hsuffix : suffix.length ≤ n)
    (hover : n < rest.length + 1 + suffix.length) :
    absorb compress n state (padded mark zero n suffix (whole ++ rest)) =
      compress
        (compress (absorb compress n state whole)
          (rest ++ mark :: List.replicate (n - (rest.length + 1)) zero))
        (List.replicate (n - suffix.length) zero ++ suffix) := by
  have hsplit : 2 * n - (rest.length + 1 + suffix.length) =
      (n - (rest.length + 1)) + (n - suffix.length) := by
    omega
  have hblocks : rest ++ mark ::
        (List.replicate (2 * n - (rest.length + 1 + suffix.length)) zero ++
          suffix) =
      (rest ++ mark :: List.replicate (n - (rest.length + 1)) zero) ++
        (List.replicate (n - suffix.length) zero ++ suffix) := by
    rw [hsplit, ← List.replicate_append_replicate, List.append_assoc,
      List.append_assoc, List.cons_append]
  rw [padded_append hwhole, absorb_append hn hwhole, padded,
    zeros_eq_of_lt hn hover (by omega), hblocks, absorb_block_append hn,
    absorb_block hn]
  · rw [List.length_append, List.length_replicate]
    omega
  · rw [List.length_append, List.length_cons, List.length_replicate]
    omega

end LastBlocks

end IteratedHash
