import AsioForwarder.Sha256

/-!
# The client's SHA-256 is the standard's

The constants of the source are compared with the roots of the primes, the
three loops of `compress_block` with the schedule and the rounds, and the last
one or two blocks of `hash_bytes` with the padding of the whole message.
-/

namespace AsioForwarder

namespace Sha256

open Sha256Standard
open IteratedHash (absorb absorb_nil absorb_block_append padded
  absorb_padded_of_le absorb_padded_of_lt)

/-! ## The constants -/

def primes : Vector Nat 64 :=
  #v[2, 3, 5, 7, 11, 13, 17, 19, 23, 29, 31, 37, 41, 43, 47, 53, 59, 61, 67,
    71, 73, 79, 83, 89, 97, 101, 103, 107, 109, 113, 127, 131, 137, 139, 149,
    151, 157, 163, 167, 173, 179, 181, 191, 193, 197, 199, 211, 223, 227, 229,
    233, 239, 241, 251, 257, 263, 269, 271, 277, 281, 283, 293, 307, 311]

theorem primes_prime : ∀ t : Fin 64, Nat.Prime (primes.get t) := by
  decide +kernel

theorem primes_count :
    ∀ t : Fin 64, Nat.count Nat.Prime (primes.get t) = t.val := by
  decide +kernel

theorem prime_eq {t : Nat} (ht : t < 64) : prime t = primes[t] :=
  prime_eq_of_count (primes_prime ⟨t, ht⟩) (primes_count ⟨t, ht⟩)

/-- `whole` is the part of the root before the point. -/
def IsRoot (degree number whole : Nat) (x : UInt32) : Prop :=
  (whole * 2 ^ 32 + x.toNat) ^ degree ≤ number * (2 ^ 32) ^ degree ∧
    number * (2 ^ 32) ^ degree < (whole * 2 ^ 32 + x.toNat + 1) ^ degree

instance (degree number whole : Nat) (x : UInt32) :
    Decidable (IsRoot degree number whole x) :=
  inferInstanceAs (Decidable (_ ∧ _))

theorem IsRoot.rootBits_eq {degree number whole : Nat} {x : UInt32}
    (hroot : IsRoot degree number whole x) :
    rootBits degree number = x.toBitVec := by
  rw [rootBits_eq_of_root hroot.1 hroot.2]
  apply BitVec.eq_of_toNat_eq
  rw [BitVec.toNat_ofNat, Nat.mul_add_mod_of_lt x.toNat_lt]
  rfl

theorem k_isRoot :
    ∀ t : Fin 64, ∃ whole < 7, IsRoot 3 (primes.get t) whole (k.get t) := by
  decide +kernel

theorem roundConstant_eq {t : Nat} (ht : t < 64) :
    roundConstant t = k[t].toBitVec := by
  obtain ⟨whole, _, hroot⟩ := k_isRoot ⟨t, ht⟩
  rw [roundConstant, prime_eq ht]
  exact hroot.rootBits_eq

/-! ## Words -/

def toWords (h : Vector UInt32 8) : Words :=
  ⟨(h.get 0).toBitVec, (h.get 1).toBitVec, (h.get 2).toBitVec,
    (h.get 3).toBitVec, (h.get 4).toBitVec, (h.get 5).toBitVec,
    (h.get 6).toBitVec, (h.get 7).toBitVec⟩

def Locals.toWords (x : Locals) : Words :=
  ⟨x.a.toBitVec, x.b.toBitVec, x.c.toBitVec, x.d.toBitVec,
    x.e.toBitVec, x.f.toBitVec, x.g.toBitVec, x.h.toBitVec⟩

theorem toWords_initial :
    toWords #v[0x6a09e667, 0xbb67ae85, 0x3c6ef372, 0xa54ff53a,
      0x510e527f, 0x9b05688c, 0x1f83d9ab, 0x5be0cd19] = initial := by
  have hroot : ∀ t : Fin 8, ∀ x : UInt32,
      (∃ whole < 5, IsRoot 2 primes[t.val] whole x) →
      rootBits 2 (prime t.val) = x.toBitVec := by
    intro t x hexists
    obtain ⟨whole, _, hthis⟩ := hexists
    rw [prime_eq (by omega)]
    exact hthis.rootBits_eq
  apply Words.ext
  · exact (hroot 0 0x6a09e667 (by decide +kernel)).symm
  · exact (hroot 1 0xbb67ae85 (by decide +kernel)).symm
  · exact (hroot 2 0x3c6ef372 (by decide +kernel)).symm
  · exact (hroot 3 0xa54ff53a (by decide +kernel)).symm
  · exact (hroot 4 0x510e527f (by decide +kernel)).symm
  · exact (hroot 5 0x9b05688c (by decide +kernel)).symm
  · exact (hroot 6 0x1f83d9ab (by decide +kernel)).symm
  · exact (hroot 7 0x5be0cd19 (by decide +kernel)).symm

theorem toBitVec_rotr {x n : UInt32} (hpos : 0 < n.toNat)
    (hlt : n.toNat < 32) :
    (rotr x n).toBitVec = x.toBitVec.rotateRight n.toNat := by
  have hright : (n.toBitVec % 32).toNat = n.toNat := by
    rw [BitVec.toNat_umod]
    exact Nat.mod_eq_of_lt hlt
  have hleft : ((32 - n).toBitVec % 32).toNat = 32 - n.toNat := by
    have hsub : (32 - n).toBitVec.toNat = 32 - n.toNat :=
      UInt32.toNat_sub_of_le 32 n (UInt32.le_iff_toNat_le.mpr hlt.le)
    rw [BitVec.toNat_umod, hsub]
    exact Nat.mod_eq_of_lt (by change _ < 32; omega)
  rw [rotr, BitVec.rotateRight_def, Nat.mod_eq_of_lt hlt, UInt32.toBitVec_or,
    UInt32.toBitVec_shiftRight, UInt32.toBitVec_shiftLeft,
    BitVec.ushiftRight_eq', BitVec.shiftLeft_eq', hright, hleft]

theorem toBitVec_smallSigma0 (x : UInt32) :
    (rotr x 7 ^^^ rotr x 18 ^^^ (x >>> 3)).toBitVec =
      smallSigma0 x.toBitVec := by
  simp [smallSigma0, toBitVec_rotr]

theorem toBitVec_smallSigma1 (x : UInt32) :
    (rotr x 17 ^^^ rotr x 19 ^^^ (x >>> 10)).toBitVec =
      smallSigma1 x.toBitVec := by
  simp [smallSigma1, toBitVec_rotr]

theorem toBitVec_bigSigma0 (x : UInt32) :
    (rotr x 2 ^^^ rotr x 13 ^^^ rotr x 22).toBitVec =
      bigSigma0 x.toBitVec := by
  simp [bigSigma0, toBitVec_rotr]

theorem toBitVec_bigSigma1 (x : UInt32) :
    (rotr x 6 ^^^ rotr x 11 ^^^ rotr x 25).toBitVec =
      bigSigma1 x.toBitVec := by
  simp [bigSigma1, toBitVec_rotr]

theorem toBitVec_ch (x y z : UInt32) :
    ((x &&& y) ^^^ ((~~~x) &&& z)).toBitVec =
      ch x.toBitVec y.toBitVec z.toBitVec := rfl

theorem toBitVec_maj (x y z : UInt32) :
    ((x &&& y) ^^^ (x &&& z) ^^^ (y &&& z)).toBitVec =
      maj x.toBitVec y.toBitVec z.toBitVec := rfl

/-! ## Filling an array -/

theorem set_length_append {α : Type*} {front back : List α} (x y : α) :
    (front ++ x :: back).set front.length y = front ++ y :: back := by
  rw [List.set_append_right _ _ (Nat.le_refl _), Nat.sub_self,
    List.set_cons_zero]

/-- A loop which writes one entry after another. -/
theorem toList_fill {α : Type*} {m : Nat} (f : Nat → α) {front : List α}
    {buf : Vector α m} {back : List α} (hbuf : buf.toList = front ++ back)
    {n : Nat} (hn : n ≤ back.length) :
    ((List.range n).foldl
      (fun buf i => buf.setIfInBounds (front.length + i) (f i)) buf).toList =
      front ++ (List.range n).map f ++ back.drop n := by
  induction n with
  | zero =>
      rw [List.range_zero, List.foldl_nil, List.map_nil, List.append_nil,
        List.drop_zero]
      exact hbuf
  | succ n ih =>
      have hlength : front.length + n =
          (front ++ (List.range n).map f).length := by
        rw [List.length_append, List.length_map, List.length_range]
      rw [List.range_succ, List.foldl_append, List.foldl_cons, List.foldl_nil,
        Vector.toList_setIfInBounds, ih (by omega),
        List.drop_eq_getElem_cons (by omega), hlength, set_length_append,
        List.map_append, List.map_singleton, List.append_assoc,
        List.append_assoc, List.append_assoc]
      rfl

/-! ## `compress_block` -/

theorem toBitVec_bigEndian (b0 b1 b2 b3 : UInt8) :
    ((b0.toUInt32 <<< 24) ||| (b1.toUInt32 <<< 16) ||| (b2.toUInt32 <<< 8) |||
      b3.toUInt32).toBitVec =
    b0.toBitVec ++ b1.toBitVec ++ b2.toBitVec ++ b3.toBitVec := by
  have hshift : ∀ (b : UInt8) (n : Nat), n ≤ 24 →
      b.toNat <<< n % 2 ^ 32 = b.toNat <<< n := by
    intro b n hn
    apply Nat.mod_eq_of_lt
    rw [Nat.shiftLeft_eq]
    calc
      b.toNat * 2 ^ n < 2 ^ 8 * 2 ^ n :=
        Nat.mul_lt_mul_of_pos_right b.toNat_lt (Nat.two_pow_pos n)
      _ = 2 ^ (8 + n) := (Nat.pow_add 2 8 n).symm
      _ ≤ 2 ^ 32 := Nat.pow_le_pow_right (by decide) (by omega)
  have happend : (b0.toBitVec ++ b1.toBitVec ++ b2.toBitVec ++ b3.toBitVec :
        BitVec (8 + 8 + 8 + 8)).toNat =
      ((b0.toNat <<< 8 ||| b1.toNat) <<< 8 ||| b2.toNat) <<< 8 |||
        b3.toNat := by
    rw [BitVec.toNat_append, BitVec.toNat_append, BitVec.toNat_append]
    rfl
  apply BitVec.eq_of_toNat_eq
  refine Eq.trans ?_ happend.symm
  simp only [UInt32.toNat_toBitVec, UInt32.toNat_or, UInt32.toNat_shiftLeft,
    UInt8.toNat_toUInt32, UInt32.reduceToNat, Nat.reduceMod,
    Nat.shiftLeft_or_distrib, ← Nat.shiftLeft_add, Nat.reduceAdd]
  rw [hshift b0 24 (by decide), hshift b1 16 (by decide),
    hshift b2 8 (by decide)]

/-- The words of the schedule which have been stored. -/
def Scheduled (block : List UInt8) (w : Vector UInt32 64) (n : Nat) : Prop :=
  ∀ t, t < n → w[t]!.toBitVec = schedule block t

theorem getElem!_toList {α : Type*} [Inhabited α] {m : Nat} (v : Vector α m)
    (t : Nat) : v.toList[t]! = v[t]! := by
  by_cases ht : t < m
  · rw [getElem!_pos v t ht, getElem!_pos v.toList t (by simpa using ht),
      Vector.getElem_toList]
  · rw [getElem!_neg v t ht, getElem!_neg v.toList t (by simpa using ht)]

theorem scheduled_load (block : Vector UInt8 64) (w : Vector UInt32 64) :
    Scheduled block.toList ((List.range 16).foldl (load block) w) 16 := by
  intro t ht
  -- the loop is a fill of the front of the array
  have hfill := toList_fill
    (fun i => (block[i * 4 + 0]!.toUInt32 <<< 24) |||
      (block[i * 4 + 1]!.toUInt32 <<< 16) |||
      (block[i * 4 + 2]!.toUInt32 <<< 8) ||| block[i * 4 + 3]!.toUInt32)
    (List.nil_append w.toList).symm (n := 16)
    (by rw [Vector.length_toList]; decide)
  simp only [List.length_nil, Nat.zero_add, List.nil_append] at hfill
  have hword : ((List.range 16).foldl (load block) w).toList = _ := hfill
  rw [← getElem!_toList, hword, getElem!_pos _ t (by simp; omega),
    List.getElem_append_left (by simpa using ht), List.getElem_map,
    List.getElem_range, toBitVec_bigEndian, schedule, if_pos ht, wordAt,
    Nat.mul_comm 4 t]
  simp only [getElem!_toList, Nat.add_zero]

theorem Scheduled.extend {block : List UInt8} {w : Vector UInt32 64} {n : Nat}
    (hscheduled : Scheduled block w n) (hfirst : 16 ≤ n) (hn : n < 64) :
    Scheduled block (extend w n) (n + 1) := by
  intro t ht
  rw [getElem!_pos _ t (by omega), Sha256.extend]
  by_cases hlast : t = n
  · subst hlast
    rw [Vector.getElem_setIfInBounds_self, schedule, if_neg (by omega),
      UInt32.toBitVec_add, UInt32.toBitVec_add, UInt32.toBitVec_add,
      toBitVec_smallSigma0, toBitVec_smallSigma1,
      hscheduled (t - 2) (by omega), hscheduled (t - 7) (by omega),
      hscheduled (t - 15) (by omega), hscheduled (t - 16) (by omega)]
    ac_rfl
  · rw [Vector.getElem_setIfInBounds_ne _ (Ne.symm hlast),
      ← getElem!_pos _ t (by omega)]
    exact hscheduled t (by omega)

theorem Scheduled.extend_loop {block : List UInt8} {w : Vector UInt32 64}
    (hscheduled : Scheduled block w 16) {n : Nat} (hn : n ≤ 48) :
    Scheduled block ((List.range' 16 n).foldl Sha256.extend w) (16 + n) := by
  induction n with
  | zero => exact hscheduled
  | succ n ih =>
      rw [List.range'_concat, List.foldl_append, Nat.one_mul,
        List.foldl_cons, List.foldl_nil]
      exact (ih (by omega)).extend (by omega) (by omega)

theorem toWords_mix {block : List UInt8} {w : Vector UInt32 64} {t : Nat}
    (ht : t < 64) (hscheduled : Scheduled block w 64) (x : Locals) :
    (mix w x t).toWords = roundStep block x.toWords t := by
  have hk : k[t]!.toBitVec = roundConstant t := by
    rw [getElem!_pos k t ht, roundConstant_eq ht]
  simp only [mix, Locals.toWords, roundStep, UInt32.toBitVec_add,
    toBitVec_bigSigma0, toBitVec_bigSigma1, toBitVec_ch, toBitVec_maj, hk,
    hscheduled t ht]

theorem toWords_mix_loop {block : List UInt8} {w : Vector UInt32 64}
    (hscheduled : Scheduled block w 64) {n : Nat} (hn : n ≤ 64) (x : Locals) :
    ((List.range n).foldl (mix w) x).toWords =
      (List.range n).foldl (roundStep block) x.toWords := by
  induction n with
  | zero => rfl
  | succ n ih =>
      rw [List.range_succ, List.foldl_append, List.foldl_append,
        List.foldl_cons, List.foldl_nil, List.foldl_cons, List.foldl_nil,
        toWords_mix (by omega) hscheduled, ih (by omega)]

theorem toWords_addLocals (state : Vector UInt32 8) (x : Locals) :
    toWords (addLocals state x) = x.toWords.add (toWords state) := by
  apply Words.ext <;> exact BitVec.add_comm _ _

theorem toWords_compressBlock (w : Vector UInt32 64) (state : Vector UInt32 8)
    (block : Vector UInt8 64) :
    toWords (compressBlock w state block) =
      compress (toWords state) block.toList := by
  have hscheduled :=
    (scheduled_load block w).extend_loop (Nat.le_refl 48)
  rw [compressBlock, toWords_addLocals,
    toWords_mix_loop hscheduled (Nat.le_refl 64), compress]
  rfl

/-! ## `hash_bytes` -/

theorem getElem_of_toList {α : Type*} {m : Nat} {v : Vector α m}
    {items : List α} (hv : v.toList = items) {i : Nat} (hi : i < m)
    (hitems : i < items.length) : v[i] = items[i] := by
  subst hv
  rw [Vector.getElem_toList]

theorem getElem_blockAt {p : Bytes} {offset i : Nat} (hi : i < 64) :
    (blockAt p offset)[i] = p[offset + i]! :=
  Vector.getElem_ofFn hi

theorem getElem_memcpy {buf : Vector UInt8 64} {src : Bytes} {n i : Nat}
    (hi : i < 64) :
    (memcpy buf src n)[i] = if i < n then src[i]! else buf[i] :=
  Vector.getElem_ofFn hi

theorem getElem_memset {buf : Vector UInt8 64} {start n i : Nat}
    {value : UInt8} (hi : i < 64) :
    (memset buf start value n)[i] =
      if start ≤ i ∧ i < start + n then value else buf[i] :=
  Vector.getElem_ofFn hi

theorem toList_blockAt {p : Bytes} {offset : Nat}
    (hroom : offset + 64 ≤ p.length) :
    (blockAt p offset).toList = (p.drop offset).take 64 := by
  apply List.ext_getElem
  · rw [Vector.length_toList, List.length_take, List.length_drop]
    omega
  · intro i hleft hright
    rw [Vector.length_toList] at hleft
    rw [Vector.getElem_toList, getElem_blockAt hleft,
      getElem!_pos p (offset + i) (by omega), List.getElem_take,
      List.getElem_drop]

/-- The whole blocks have been folded, and less than a block is left. -/
theorem compressBlocks_spec (w : Vector UInt32 64) (p : Bytes)
    (h : Vector UInt32 8) (offset : Nat) :
    ∃ whole rest, p.drop offset = whole ++ rest ∧
      (compressBlocks w p h offset).2 = offset + whole.length ∧
      64 ∣ whole.length ∧ rest.length < 64 ∧
      toWords (compressBlocks w p h offset).1 =
        absorb compress 64 (toWords h) whole := by
  fun_induction compressBlocks w p h offset with
  | case1 h offset hmore ih =>
      obtain ⟨whole, rest, hsplit, hoffset, hwhole, hrest, hwords⟩ := ih
      have hblock : ((p.drop offset).take 64).length = 64 := by
        rw [List.length_take, List.length_drop]
        omega
      refine ⟨(p.drop offset).take 64 ++ whole, rest, ?_, ?_, ?_, hrest, ?_⟩
      · rw [List.append_assoc, ← hsplit, ← List.drop_drop,
          List.take_append_drop]
      · rw [hoffset, List.length_append, hblock, Nat.add_assoc]
      · rw [List.length_append, hblock]
        exact Nat.dvd_add (Nat.dvd_refl 64) hwhole
      · rw [hwords, toWords_compressBlock, toList_blockAt (by omega),
          absorb_block_append (by decide) hblock]
  | case2 h offset hlast =>
      refine ⟨[], p.drop offset, rfl, rfl, Nat.dvd_zero 64, ?_, ?_⟩
      · rw [List.length_drop]
        omega
      · rw [absorb_nil]

theorem toList_memcpy {buf : Vector UInt8 64} {src old back : Bytes}
    (hbuf : buf.toList = old ++ back) (hold : old.length = src.length) :
    (memcpy buf src src.length).toList = src ++ back := by
  have hlength := congrArg List.length hbuf
  rw [Vector.length_toList, List.length_append] at hlength
  apply List.ext_getElem
  · rw [Vector.length_toList, List.length_append]
    omega
  · intro i hleft hright
    rw [Vector.length_toList] at hleft
    rw [Vector.getElem_toList, getElem_memcpy hleft]
    split
    · rename_i hin
      rw [getElem!_pos src i hin, List.getElem_append_left hin]
    · rename_i hout
      rw [List.getElem_append_right (by omega),
        getElem_of_toList hbuf hleft (by rw [List.length_append]; omega),
        List.getElem_append_right (by omega)]
      simp only [hold]

theorem toList_memset {buf : Vector UInt8 64} {front old back : Bytes}
    {start n : Nat} (value : UInt8) (hbuf : buf.toList = front ++ old ++ back)
    (hfront : front.length = start) (hold : old.length = n) :
    (memset buf start value n).toList =
      front ++ List.replicate n value ++ back := by
  subst hfront hold
  have hlength := congrArg List.length hbuf
  rw [Vector.length_toList, List.length_append] at hlength
  apply List.ext_getElem
  · rw [Vector.length_toList, List.length_append, List.length_append,
      List.length_replicate, ← List.length_append]
    exact hlength
  · intro i hleft hright
    rw [Vector.length_toList] at hleft
    rw [Vector.getElem_toList, getElem_memset hleft,
      getElem_of_toList hbuf hleft (by rw [List.length_append]; omega)]
    grind

theorem toUInt8_octet {x : UInt32} {s : UInt32} (hs : s.toNat < 32) :
    ((x >>> s) &&& 0xFF).toUInt8 =
      UInt8.ofBitVec (x.toBitVec.extractLsb' s.toNat 8) := by
  apply UInt8.toNat_inj.mp
  rw [UInt32.toNat_toUInt8, UInt32.toNat_and, UInt32.toNat_shiftRight,
    UInt8.toNat_ofBitVec, BitVec.extractLsb'_toNat, Nat.mod_eq_of_lt hs,
    show (0xFF : UInt32).toNat = 2 ^ 8 - 1 from rfl,
    Nat.and_two_pow_sub_one_eq_mod, Nat.mod_mod]
  rfl

theorem toUInt8_octet_of_length {x : UInt64} {s : Nat} (hs : s < 64) :
    ((x >>> UInt64.ofNat s) &&& 0xFF).toUInt8 =
      UInt8.ofBitVec (x.toBitVec.extractLsb' s 8) := by
  have hshift : (UInt64.ofNat s).toNat = s := by
    rw [UInt64.toNat_ofNat']
    exact Nat.mod_eq_of_lt (by omega)
  apply UInt8.toNat_inj.mp
  rw [UInt64.toNat_toUInt8, UInt64.toNat_and, UInt64.toNat_shiftRight,
    UInt8.toNat_ofBitVec, BitVec.extractLsb'_toNat, hshift,
    Nat.mod_eq_of_lt hs, show (0xFF : UInt64).toNat = 2 ^ 8 - 1 from rfl,
    Nat.and_two_pow_sub_one_eq_mod, Nat.mod_mod]
  rfl

theorem toList_storeLength (message : Bytes) {buf : Vector UInt8 64}
    {front back : Bytes} (hbuf : buf.toList = front ++ back)
    (hfront : front.length = 56) :
    ((List.range 8).foldl
      (storeLength (UInt64.ofNat message.length * 8)) buf).toList =
      front ++ lengthOctets message := by
  have hback : back.length = 8 := by
    have hlength := congrArg List.length hbuf
    rw [Vector.length_toList, List.length_append] at hlength
    omega
  have hfill := toList_fill
    (fun i => ((UInt64.ofNat message.length * 8) >>>
      UInt64.ofNat (56 - i * 8) &&& 0xFF).toUInt8) hbuf hback.ge
  rw [List.drop_of_length_le hback.le, List.append_nil, hfront] at hfill
  have hbitlen : (UInt64.ofNat message.length * 8).toBitVec =
      BitVec.ofNat 64 (8 * message.length) := by
    rw [UInt64.toBitVec_mul, Nat.mul_comm, BitVec.ofNat_mul]
    rfl
  refine hfill.trans (congrArg (fun stored => front ++ stored) ?_)
  rw [lengthOctets, octets]
  apply List.map_congr_left
  intro i hi
  have hi := List.mem_range.mp hi
  rw [toUInt8_octet_of_length (by omega), hbitlen,
    show 56 - i * 8 = 8 * (8 - 1 - i) by omega]

theorem toList_storeWord {h : Vector UInt32 8} {out : Vector UInt8 32}
    {front back : Bytes} {x0 x1 x2 x3 : UInt8} {i : Nat}
    (hout : out.toList = front ++ x0 :: x1 :: x2 :: x3 :: back)
    (hfront : front.length = i * 4) :
    (storeWord h out i).toList =
      front ++ octets 4 h[i]!.toBitVec ++ back := by
  have hlast : (h[i]! &&& 0xFF).toUInt8 =
      UInt8.ofBitVec (h[i]!.toBitVec.extractLsb' 0 8) := by
    have hzero := toUInt8_octet (x := h[i]!) (s := 0) (by decide)
    rwa [UInt32.shiftRight_zero] at hzero
  have hoctets : octets 4 h[i]!.toBitVec =
      [((h[i]! >>> 24) &&& 0xFF).toUInt8, ((h[i]! >>> 16) &&& 0xFF).toUInt8,
        ((h[i]! >>> 8) &&& 0xFF).toUInt8, (h[i]! &&& 0xFF).toUInt8] := by
    rw [toUInt8_octet (by decide), toUInt8_octet (by decide),
      toUInt8_octet (by decide), hlast]
    rfl
  rw [storeWord, hoctets]
  simp only [Vector.toList_setIfInBounds, hout, ← hfront]
  simp

theorem toList_storeWord_loop (h : Vector UInt32 8) {n : Nat} (hn : n ≤ 8) :
    ((List.range n).foldl (storeWord h) (Vector.replicate 32 0)).toList =
      (List.range n).flatMap (fun i => octets 4 h[i]!.toBitVec) ++
        List.replicate (32 - n * 4) 0 := by
  induction n with
  | zero => exact Vector.toList_replicate
  | succ n ih =>
      have hback : List.replicate (32 - n * 4) (0 : UInt8) =
          0 :: 0 :: 0 :: 0 :: List.replicate (32 - (n + 1) * 4) 0 := by
        rw [show 32 - n * 4 = 32 - (n + 1) * 4 + 4 by omega]
        rfl
      have hfront : ((List.range n).flatMap
          (fun i => octets 4 h[i]!.toBitVec)).length = n * 4 := by
        simp [octets]
      rw [List.range_succ, List.foldl_append, List.foldl_cons, List.foldl_nil,
        toList_storeWord ((ih (by omega)).trans (congrArg _ hback)) hfront,
        List.flatMap_append, List.flatMap_singleton]

theorem digest_toWords (h : Vector UInt32 8) :
    (toWords h).digest =
      (List.range 8).flatMap (fun i => octets 4 h[i]!.toBitVec) := by
  rfl

/-! ## The last blocks -/

section LastBlocks

variable {buf : Vector UInt8 64} {rest back : Bytes}
  (hbuf : buf.toList = rest ++ 0x80 :: back)

include hbuf

theorem marked_length : rest.length + 1 + back.length = 64 := by
  have hlength := congrArg List.length hbuf
  rw [Vector.length_toList, List.length_append, List.length_cons] at hlength
  omega

/-- The message ends in this block, and so does its length. -/
theorem toList_onlyBlock (message : Bytes) (hfit : rest.length + 1 ≤ 56) :
    ((List.range 8).foldl (storeLength (UInt64.ofNat message.length * 8))
      (memset buf (rest.length + 1) 0 (56 - (rest.length + 1)))).toList =
    rest ++ 0x80 ::
      (List.replicate (64 - (rest.length + 1 + 8)) 0 ++
        lengthOctets message) := by
  have hback := marked_length hbuf
  have hsplit : buf.toList = (rest ++ [0x80]) ++
      back.take (56 - (rest.length + 1)) ++
      back.drop (56 - (rest.length + 1)) := by
    rw [hbuf, List.append_assoc, List.take_append_drop, List.append_assoc]
    rfl
  have hfront : (rest ++ [0x80]).length = rest.length + 1 :=
    List.length_append
  have hold : (back.take (56 - (rest.length + 1))).length =
      56 - (rest.length + 1) := by
    rw [List.length_take]
    omega
  have hcleared := toList_memset 0 hsplit hfront hold
  have hstored := toList_storeLength message hcleared
    (by rw [List.length_append, hfront, List.length_replicate]; omega)
  rw [hstored, List.append_assoc, List.append_assoc,
    show 64 - (rest.length + 1 + 8) = 56 - (rest.length + 1) by omega]
  rfl

/-- The message ends in this block, and its length comes in the next. -/
theorem toList_markedBlock :
    (memset buf (rest.length + 1) 0 (64 - (rest.length + 1))).toList =
      rest ++ 0x80 :: List.replicate (64 - (rest.length + 1)) 0 := by
  have hback := marked_length hbuf
  have hsplit : buf.toList = (rest ++ [0x80]) ++ back ++ [] := by
    rw [hbuf, List.append_nil, List.append_assoc]
    rfl
  have hfront : (rest ++ [0x80]).length = rest.length + 1 :=
    List.length_append
  rw [toList_memset 0 hsplit hfront (by omega), List.append_nil,
    List.append_assoc]
  rfl

end LastBlocks

theorem toList_lengthBlock (buf : Vector UInt8 64) (message : Bytes) :
    ((List.range 8).foldl (storeLength (UInt64.ofNat message.length * 8))
      (memset buf 0 0 56)).toList =
    List.replicate 56 0 ++ lengthOctets message := by
  have hsplit : buf.toList =
      [] ++ buf.toList.take 56 ++ buf.toList.drop 56 := by
    rw [List.nil_append, List.take_append_drop]
  have hold : (buf.toList.take 56).length = 56 := by
    rw [List.length_take, Vector.length_toList]
    rfl
  have hcleared := toList_memset 0 hsplit rfl hold
  rw [List.nil_append] at hcleared
  exact toList_storeLength message hcleared List.length_replicate

section Padding

variable {message whole rest : Bytes} (hsplit : message = whole ++ rest)
  (hwhole : 64 ∣ whole.length)

include hsplit hwhole

theorem absorb_pad_of_le (hfit : rest.length + 1 ≤ 56) :
    absorb compress 64 initial (pad message) =
      compress (absorb compress 64 initial whole)
        (rest ++ 0x80 ::
          (List.replicate (64 - (rest.length + 1 + 8)) 0 ++
            lengthOctets message)) := by
  have hlast : rest.length + 1 + (lengthOctets message).length ≤ 64 := by
    rw [lengthOctets_length]
    omega
  have hpadded : absorb compress 64 initial
      (padded 0x80 0 64 (lengthOctets message) (whole ++ rest)) = _ :=
    absorb_padded_of_le (by decide) hwhole initial hlast
  rwa [← hsplit, lengthOctets_length] at hpadded

theorem absorb_pad_of_lt (hrest : rest.length < 64)
    (hover : 56 < rest.length + 1) :
    absorb compress 64 initial (pad message) =
      compress
        (compress (absorb compress 64 initial whole)
          (rest ++ 0x80 :: List.replicate (64 - (rest.length + 1)) 0))
        (List.replicate 56 0 ++ lengthOctets message) := by
  have hlast : 64 < rest.length + 1 + (lengthOctets message).length := by
    rw [lengthOctets_length]
    omega
  have hpadded : absorb compress 64 initial
      (padded 0x80 0 64 (lengthOctets message) (whole ++ rest)) = _ :=
    absorb_padded_of_lt (by decide) hwhole initial hrest
      (by rw [lengthOctets_length]; decide) hlast
  rwa [← hsplit, lengthOctets_length] at hpadded

end Padding

theorem exists_append_cons {α : Type*} {items : List α} {n : Nat}
    (hn : n < items.length) :
    ∃ old last back, items = old ++ last :: back ∧ old.length = n := by
  refine ⟨items.take n, items[n], items.drop (n + 1), ?_, ?_⟩
  · rw [← List.drop_eq_getElem_cons hn, List.take_append_drop]
  · rw [List.length_take]
    omega

theorem hashBytes_eq_sha256 (w : Vector UInt32 64) (buf : Vector UInt8 64)
    (p : Bytes) : (hashBytes w buf p).toList = sha256 p := by
  obtain ⟨whole, rest, hsplit, hoffset, hwhole, hrest, hwords⟩ :=
    compressBlocks_spec w p
      #v[0x6a09e667, 0xbb67ae85, 0x3c6ef372, 0xa54ff53a,
        0x510e527f, 0x9b05688c, 0x1f83d9ab, 0x5be0cd19] 0
  rw [toWords_initial] at hwords
  rw [hashBytes]
  generalize compressBlocks w p _ 0 = done at hoffset hwords ⊢
  obtain ⟨h, offset⟩ := done
  rw [List.drop_zero] at hsplit
  rw [Nat.zero_add] at hoffset
  dsimp only at hoffset hwords ⊢
  subst hoffset
  have hdrop : p.drop whole.length = rest := by
    rw [hsplit, List.drop_left]
  have hrem : p.length - whole.length = rest.length := by
    rw [hsplit, List.length_append, Nat.add_sub_cancel_left]
  rw [hdrop, hrem]
  -- the rest of the message has been copied and marked
  obtain ⟨old, last, back, hbuf, hold⟩ := exists_append_cons
    (show rest.length < buf.toList.length by
      rw [Vector.length_toList]
      exact hrest)
  have hmarked : ((memcpy buf rest rest.length).setIfInBounds rest.length
      0x80).toList = rest ++ 0x80 :: back := by
    rw [Vector.toList_setIfInBounds, toList_memcpy hbuf hold,
      set_length_append]
  generalize (memcpy buf rest rest.length).setIfInBounds rest.length 0x80 =
    marked at hmarked ⊢
  rw [toList_storeWord_loop _ (Nat.le_refl 8), ← digest_toWords,
    toWords_compressBlock, List.replicate_zero, List.append_nil, sha256]
  by_cases hfit : rest.length + 1 ≤ 56
  · rw [if_pos hfit, toList_onlyBlock hmarked p hfit, hwords,
      absorb_pad_of_le hsplit hwhole hfit]
  · rw [if_neg hfit, toList_lengthBlock, toWords_compressBlock,
      toList_markedBlock hmarked, hwords,
      absorb_pad_of_lt hsplit hwhole hrest (by omega)]

end Sha256

end AsioForwarder
