import AsioForwarder.RelayClient
import Mathlib.Data.Nat.Digits.Defs
import Mathlib.Data.List.Infix

/-!
# A decoder for packed bodies

`unpackMsgpack` reads the calls of a packer back from the bytes they have
produced and builds the object from them.  It is the reading of the format on
which `msgpack::unpack` and `msgpack::packer` agree: `InvertsPack` says that
an object below 2^32 bytes is unpacked to what was packed, and `Slices` that a
string of an unpacked map is a part of the bytes.
-/

namespace AsioForwarder

/-! ## Bytes of one call -/

/-- The number with the given bytes, the most significant one first. -/
def fromBigEndian : Bytes → Nat
  | [] => 0
  | b :: rest => b.toNat * 256 ^ rest.length + fromBigEndian rest

theorem bigEndian_length (width n : Nat) :
    (bigEndian width n).length = width := by
  induction width with
  | zero => rfl
  | succ width ih => rw [bigEndian_succ, List.length_cons, ih]

theorem fromBigEndian_bigEndian (width n : Nat) :
    fromBigEndian (bigEndian width n) = n % 256 ^ width := by
  induction width with
  | zero => simp [bigEndian_zero, fromBigEndian, Nat.mod_one]
  | succ width ih =>
      have hbyte : (UInt8.ofNat (n / 256 ^ width)).toNat =
          n / 256 ^ width % 256 := by
        simp [UInt8.toNat_ofNat']
      rw [bigEndian_succ, fromBigEndian, bigEndian_length, ih, hbyte,
        Nat.mod_pow_succ]
      ring

def takeExact (n : Nat) (bytes : Bytes) : Option (Bytes × Bytes) :=
  if bytes.length < n then none else some (bytes.take n, bytes.drop n)

theorem takeExact_append (bytes rest : Bytes) :
    takeExact bytes.length (bytes ++ rest) = some (bytes, rest) := by
  have hfits : ¬(bytes ++ rest).length < bytes.length := by
    rw [List.length_append]
    omega
  rw [takeExact, if_neg hfits, List.take_left, List.drop_left]

theorem takeExact_length {n : Nat} {bytes taken rest : Bytes}
    (htake : takeExact n bytes = some (taken, rest)) :
    taken.length + rest.length = bytes.length := by
  unfold takeExact at htake
  split at htake
  · cases htake
  · cases htake
    rw [List.length_take, List.length_drop]
    omega

def lexNat (width : Nat) (bytes : Bytes) : Option (Nat × Bytes) :=
  (takeExact width bytes).map (fun read => (fromBigEndian read.1, read.2))

theorem lexNat_bigEndian {width n : Nat} (hn : n < 256 ^ width)
    (rest : Bytes) :
    lexNat width (bigEndian width n ++ rest) = some (n, rest) := by
  have htake := takeExact_append (bigEndian width n) rest
  rw [bigEndian_length] at htake
  rw [lexNat, htake, Option.map_some, fromBigEndian_bigEndian,
    Nat.mod_eq_of_lt hn]

def lexCounted (kind : Nat → Tok) (width : Nat) (bytes : Bytes) :
    Option (Tok × Bytes) :=
  (lexNat width bytes).map (fun read => (kind read.1, read.2))

def lexBytes (kind : Bytes → Tok) (size : Nat) (bytes : Bytes) :
    Option (Tok × Bytes) :=
  (takeExact size bytes).map (fun read => (kind read.1, read.2))

def lexSized (kind : Bytes → Tok) (width : Nat) (bytes : Bytes) :
    Option (Tok × Bytes) :=
  (lexNat width bytes).bind (fun read => lexBytes kind read.1 read.2)

theorem lexCounted_bigEndian (kind : Nat → Tok) (width : Nat) {n : Nat}
    (hn : n < 256 ^ width) (rest : Bytes) :
    lexCounted kind width (bigEndian width n ++ rest) =
      some (kind n, rest) := by
  rw [lexCounted, lexNat_bigEndian hn, Option.map_some]

theorem lexBytes_append (kind : Bytes → Tok) (value rest : Bytes) :
    lexBytes kind value.length (value ++ rest) = some (kind value, rest) := by
  rw [lexBytes, takeExact_append, Option.map_some]

theorem lexSized_bigEndian (kind : Bytes → Tok) (width : Nat) {value : Bytes}
    (hsize : value.length < 256 ^ width) (rest : Bytes) :
    lexSized kind width (bigEndian width value.length ++ value ++ rest) =
      some (kind value, rest) := by
  rw [List.append_assoc, lexSized, lexNat_bigEndian hsize, Option.bind_some,
    lexBytes_append]

def lexTok : Bytes → Option (Tok × Bytes)
  | [] => none
  | b :: rest =>
      if b.toNat < 0x80 then some (.uint b.toNat, rest)
      else if b.toNat < 0x90 then some (.map (b.toNat - 0x80), rest)
      else if b.toNat < 0xa0 then some (.array (b.toNat - 0x90), rest)
      else if b.toNat < 0xc0 then lexBytes .str (b.toNat - 0xa0) rest
      else if b = 0xc2 then some (.bool false, rest)
      else if b = 0xc3 then some (.bool true, rest)
      else if b = 0xc4 then lexSized .bin 1 rest
      else if b = 0xc5 then lexSized .bin 2 rest
      else if b = 0xc6 then lexSized .bin 4 rest
      else if b = 0xcc then lexCounted .uint 1 rest
      else if b = 0xcd then lexCounted .uint 2 rest
      else if b = 0xce then lexCounted .uint 4 rest
      else if b = 0xcf then lexCounted .uint 8 rest
      else if b = 0xd9 then lexSized .str 1 rest
      else if b = 0xda then lexSized .str 2 rest
      else if b = 0xdb then lexSized .str 4 rest
      else if b = 0xdc then lexCounted .array 2 rest
      else if b = 0xdd then lexCounted .array 4 rest
      else if b = 0xde then lexCounted .map 2 rest
      else if b = 0xdf then lexCounted .map 4 rest
      else none

/-- The values for which a packer has a format. -/
def Tok.InRange : Tok → Prop
  | .map size => size < 2 ^ 32
  | .array size => size < 2 ^ 32
  | .str value => value.length < 2 ^ 32
  | .bin value => value.length < 2 ^ 32
  | .uint value => value < 2 ^ 64
  | .bool _ => True

instance : DecidablePred Tok.InRange
  | .map size => inferInstanceAs (Decidable (size < 2 ^ 32))
  | .array size => inferInstanceAs (Decidable (size < 2 ^ 32))
  | .str value => inferInstanceAs (Decidable (value.length < 2 ^ 32))
  | .bin value => inferInstanceAs (Decidable (value.length < 2 ^ 32))
  | .uint value => inferInstanceAs (Decidable (value < 2 ^ 64))
  | .bool _ => inferInstanceAs (Decidable True)

theorem lexTok_encode {tok : Tok} (hrange : tok.InRange) (rest : Bytes) :
    lexTok (tok.encode ++ rest) = some (tok, rest) := by
  have hbyte : ∀ n, n < 256 → (UInt8.ofNat n).toNat = n := fun n hn => by
    rw [UInt8.toNat_ofNat', Nat.mod_eq_of_lt hn]
  cases tok with
  | map n =>
      simp only [Tok.InRange] at hrange
      simp only [Tok.encode]
      split_ifs with hfix hshort
      · simp only [List.cons_append, List.nil_append, lexTok,
          hbyte (0x80 + n) (by omega)]
        rw [if_neg (by omega), if_pos (by omega), Nat.add_sub_cancel_left]
      · exact lexCounted_bigEndian Tok.map 2 (by omega) rest
      · exact lexCounted_bigEndian Tok.map 4 (by omega) rest
  | array n =>
      simp only [Tok.InRange] at hrange
      simp only [Tok.encode]
      split_ifs with hfix hshort
      · simp only [List.cons_append, List.nil_append, lexTok,
          hbyte (0x90 + n) (by omega)]
        rw [if_neg (by omega), if_neg (by omega), if_pos (by omega),
          Nat.add_sub_cancel_left]
      · exact lexCounted_bigEndian Tok.array 2 (by omega) rest
      · exact lexCounted_bigEndian Tok.array 4 (by omega) rest
  | str value =>
      simp only [Tok.InRange] at hrange
      simp only [Tok.encode]
      split_ifs with hfix hbyte' hshort
      · simp only [List.cons_append, List.nil_append, lexTok,
          hbyte (0xa0 + value.length) (by omega)]
        rw [if_neg (by omega), if_neg (by omega), if_neg (by omega),
          if_pos (by omega), Nat.add_sub_cancel_left, lexBytes_append]
      · exact lexSized_bigEndian Tok.str 1 (by omega) rest
      · exact lexSized_bigEndian Tok.str 2 (by omega) rest
      · exact lexSized_bigEndian Tok.str 4 (by omega) rest
  | bin value =>
      simp only [Tok.InRange] at hrange
      simp only [Tok.encode]
      split_ifs with hbyte' hshort
      · exact lexSized_bigEndian Tok.bin 1 (by omega) rest
      · exact lexSized_bigEndian Tok.bin 2 (by omega) rest
      · exact lexSized_bigEndian Tok.bin 4 (by omega) rest
  | uint n =>
      simp only [Tok.InRange] at hrange
      simp only [Tok.encode]
      split_ifs with hfix hbyte' hshort hlong
      · simp only [List.cons_append, List.nil_append, lexTok,
          hbyte n (by omega)]
        rw [if_pos (by omega)]
      · exact lexCounted_bigEndian Tok.uint 1 (by omega) rest
      · exact lexCounted_bigEndian Tok.uint 2 (by omega) rest
      · exact lexCounted_bigEndian Tok.uint 4 (by omega) rest
      · exact lexCounted_bigEndian Tok.uint 8 (by omega) rest
  | bool value => cases value <;> rfl

def Tok.strLength : Tok → Nat
  | .str value => value.length
  | _ => 0

theorem lexCounted_strLength {kind : Nat → Tok}
    (hkind : ∀ n, (kind n).strLength = 0) {width : Nat} {bytes : Bytes} :
    ∀ tok rest, lexCounted kind width bytes = some (tok, rest) →
      tok.strLength + rest.length ≤ bytes.length := by
  intro tok rest hlex
  simp only [lexCounted, lexNat, Option.map_eq_some_iff, Prod.mk.injEq]
    at hlex
  obtain ⟨read, ⟨taken, htake, rfl⟩, rfl, rfl⟩ := hlex
  have hlength := takeExact_length htake
  rw [hkind]
  dsimp only
  omega

theorem lexBytes_strLength {kind : Bytes → Tok}
    (hkind : ∀ value, (kind value).strLength ≤ value.length) {size : Nat}
    {bytes : Bytes} :
    ∀ tok rest, lexBytes kind size bytes = some (tok, rest) →
      tok.strLength + rest.length ≤ bytes.length := by
  intro tok rest hlex
  simp only [lexBytes, Option.map_eq_some_iff, Prod.mk.injEq] at hlex
  obtain ⟨taken, htake, rfl, rfl⟩ := hlex
  have hlength := takeExact_length htake
  have hvalue := hkind taken.1
  omega

theorem lexSized_strLength {kind : Bytes → Tok}
    (hkind : ∀ value, (kind value).strLength ≤ value.length) {width : Nat}
    {bytes : Bytes} :
    ∀ tok rest, lexSized kind width bytes = some (tok, rest) →
      tok.strLength + rest.length ≤ bytes.length := by
  intro tok rest hlex
  simp only [lexSized, lexNat, Option.bind_eq_some_iff,
    Option.map_eq_some_iff] at hlex
  obtain ⟨read, ⟨taken, htake, rfl⟩, hlex⟩ := hlex
  have hlength := takeExact_length htake
  have hlater := lexBytes_strLength hkind tok rest hlex
  dsimp only at hlater
  omega

theorem lex_ite {test : Prop} [Decidable test]
    {first second : Option (Tok × Bytes)} {bound : Nat}
    (hfirst : ∀ tok rest, first = some (tok, rest) →
      tok.strLength + rest.length ≤ bound)
    (hsecond : ∀ tok rest, second = some (tok, rest) →
      tok.strLength + rest.length ≤ bound) :
    ∀ tok rest, (if test then first else second) = some (tok, rest) →
      tok.strLength + rest.length ≤ bound := by
  split
  · exact hfirst
  · exact hsecond

theorem lexTok_strLength (bytes : Bytes) :
    ∀ tok rest, lexTok bytes = some (tok, rest) →
      tok.strLength + rest.length ≤ bytes.length := by
  cases bytes with
  | nil =>
      intro tok rest hlex
      cases hlex
  | cons b later =>
      have hscalar : ∀ scalar : Tok, scalar.strLength = 0 → ∀ tok rest,
          some (scalar, later) = some (tok, rest) →
          tok.strLength + rest.length ≤ later.length := by
        intro scalar hzero tok rest hlex
        cases hlex
        omega
      have hbound : ∀ tok rest, lexTok (b :: later) = some (tok, rest) →
          tok.strLength + rest.length ≤ later.length := by
        unfold lexTok
        apply lex_ite (hscalar _ rfl)
        apply lex_ite (hscalar _ rfl)
        apply lex_ite (hscalar _ rfl)
        apply lex_ite (lexBytes_strLength (fun _ => Nat.le_refl _))
        apply lex_ite (hscalar _ rfl)
        apply lex_ite (hscalar _ rfl)
        iterate 3
          apply lex_ite (lexSized_strLength (fun _ => Nat.zero_le _))
        iterate 4
          apply lex_ite (lexCounted_strLength (fun _ => rfl))
        iterate 3
          apply lex_ite (lexSized_strLength (fun _ => Nat.le_refl _))
        iterate 4
          apply lex_ite (lexCounted_strLength (fun _ => rfl))
        intro tok rest hlex
        cases hlex
      intro tok rest hlex
      exact Nat.le_succ_of_le (hbound tok rest hlex)

/-! ## All calls -/

/-- The packer calls which have produced the bytes. -/
def lexAll : Nat → Bytes → Option (List Tok)
  | _, [] => some []
  | 0, _ :: _ => none
  | fuel + 1, b :: rest =>
      (lexTok (b :: rest)).bind (fun read =>
        (lexAll fuel read.2).map (fun later => read.1 :: later))

theorem encode_ne_nil (tok : Tok) : tok.encode ≠ [] := by
  cases tok with
  | bool value => cases value <;> simp [Tok.encode]
  | _ =>
      simp only [Tok.encode]
      split_ifs <;> simp

theorem lexAll_packAll {toks : List Tok} (hrange : ∀ tok ∈ toks, tok.InRange)
    {fuel : Nat} (hfuel : (packAll toks).length ≤ fuel) :
    lexAll fuel (packAll toks) = some toks := by
  induction toks generalizing fuel with
  | nil => cases fuel <;> rfl
  | cons tok later ih =>
      have hbytes : packAll (tok :: later) = tok.encode ++ packAll later := by
        simp [packAll]
      have htok := lexTok_encode (hrange tok (by simp)) (packAll later)
      have hpos := List.length_pos_iff.mpr (encode_ne_nil tok)
      rw [hbytes] at hfuel ⊢
      rw [List.length_append] at hfuel
      cases hcons : tok.encode ++ packAll later with
      | nil =>
          rw [List.append_eq_nil_iff] at hcons
          exact absurd hcons.1 (encode_ne_nil tok)
      | cons b rest =>
          rw [hcons] at htok
          cases fuel with
          | zero => omega
          | succ fuel =>
              have hlater := ih
                (fun other hother =>
                  hrange other (List.mem_cons_of_mem _ hother))
                (show (packAll later).length ≤ fuel by omega)
              rw [lexAll, htok, Option.bind_some, hlater, Option.map_some]

theorem lexAll_strLength {fuel : Nat} {bytes : Bytes} {toks : List Tok}
    (hlex : lexAll fuel bytes = some toks) :
    ∀ tok ∈ toks, tok.strLength ≤ bytes.length := by
  induction fuel generalizing bytes toks with
  | zero =>
      cases bytes with
      | nil =>
          cases hlex
          simp
      | cons b rest => cases hlex
  | succ fuel ih =>
      cases bytes with
      | nil =>
          cases hlex
          simp
      | cons b rest =>
          simp only [lexAll, Option.bind_eq_some_iff,
            Option.map_eq_some_iff] at hlex
          obtain ⟨⟨first, after⟩, hfirst, later, hlater, rfl⟩ := hlex
          have hbound := lexTok_strLength _ first after hfirst
          intro tok htok
          rcases List.mem_cons.mp htok with rfl | htok
          · omega
          · have hle := ih hlater tok htok
            dsimp only at hle
            omega

/-! ## Objects -/

/-- What reading calls returns: a suffix of them, and strings that are among
them. -/
def ReadsFrom (toks : List Tok) (obj : Obj) (rest : List Tok) : Prop :=
  rest <:+ toks ∧ ∀ value, obj = .str value → .str value ∈ toks

theorem readsFrom_cons {tok : Tok} {obj : Obj} {toks rest : List Tok}
    (hrest : rest <:+ toks) (hobj : ∀ value, obj = .str value →
      .str value = tok) : ReadsFrom (tok :: toks) obj rest := by
  refine ⟨hrest.trans (List.suffix_cons tok toks), ?_⟩
  intro value hvalue
  rw [hobj value hvalue]
  exact List.mem_cons_self

theorem readTok_cases {fuel : Nat} {toks rest : List Tok} {obj : Obj}
    (hread : readTok fuel toks = some (obj, rest)) :
    ∃ below tok later, fuel = below + 1 ∧ toks = tok :: later ∧
      ((rest = later ∧ ∀ value, obj = .str value → .str value = tok) ∨
        (∃ size elements, obj = .array elements ∧
          readElements below size later = some (elements, rest)) ∨
        ∃ size entries, obj = .map entries ∧
          readEntries below size later = some (entries, rest)) := by
  cases fuel with
  | zero => simp [readTok] at hread
  | succ below =>
      cases toks with
      | nil => simp [readTok] at hread
      | cons tok later =>
          refine ⟨below, tok, later, rfl, rfl, ?_⟩
          cases tok with
          | array size =>
              simp only [readTok, Option.map_eq_some_iff,
                Prod.mk.injEq] at hread
              obtain ⟨read, hread, rfl, rfl⟩ := hread
              exact .inr (.inl ⟨size, read.1, rfl, hread⟩)
          | map size =>
              simp only [readTok, Option.map_eq_some_iff,
                Prod.mk.injEq] at hread
              obtain ⟨read, hread, rfl, rfl⟩ := hread
              exact .inr (.inr ⟨size, read.1, rfl, hread⟩)
          | _ =>
              simp only [readTok, Option.some.injEq, Prod.mk.injEq] at hread
              obtain ⟨rfl, rfl⟩ := hread
              exact .inl ⟨rfl, fun _ hvalue => by cases hvalue <;> rfl⟩

theorem readElements_cases {fuel size : Nat} {toks rest : List Tok}
    {elements : List Obj}
    (hread : readElements fuel size toks = some (elements, rest)) :
    rest = toks ∨
      ∃ below fewer element after later, fuel = below + 1 ∧
        readTok below toks = some (element, after) ∧
        readElements below fewer after = some (later, rest) := by
  cases size with
  | zero =>
      simp only [readElements, Option.some.injEq, Prod.mk.injEq] at hread
      exact .inl hread.2.symm
  | succ fewer =>
      cases fuel with
      | zero => simp [readElements] at hread
      | succ below =>
          rw [readElements] at hread
          cases hfirst : readTok below toks with
          | none =>
              rw [hfirst] at hread
              cases hread
          | some read =>
              obtain ⟨element, after⟩ := read
              rw [hfirst] at hread
              simp only [Option.map_eq_some_iff, Prod.mk.injEq] at hread
              obtain ⟨later, hlater, -, rfl⟩ := hread
              exact .inr ⟨below, fewer, element, after, later.1, rfl, hfirst,
                hlater⟩

theorem readEntries_cases {fuel size : Nat} {toks rest : List Tok}
    {entries : ObjMap}
    (hread : readEntries fuel size toks = some (entries, rest)) :
    (entries = [] ∧ rest = toks) ∨
      ∃ below fewer key value afterKey after later, fuel = below + 1 ∧
        readTok below toks = some (key, afterKey) ∧
        readTok below afterKey = some (value, after) ∧
        readEntries below fewer after = some (later, rest) ∧
        entries = (key, value) :: later := by
  cases size with
  | zero =>
      simp only [readEntries, Option.some.injEq, Prod.mk.injEq] at hread
      exact .inl ⟨hread.1.symm, hread.2.symm⟩
  | succ fewer =>
      cases fuel with
      | zero => simp [readEntries] at hread
      | succ below =>
          rw [readEntries_succ] at hread
          simp only [Option.bind_eq_some_iff, Option.map_eq_some_iff,
            Prod.mk.injEq, Prod.exists] at hread
          obtain ⟨key, afterKey, hkey, value, after, hvalue, later, last,
            hlater, rfl, rfl⟩ := hread
          exact .inr ⟨below, fewer, key, value, afterKey, after, later, rfl,
            hkey, hvalue, hlater, rfl⟩

theorem read_suffix (fuel : Nat) :
    (∀ toks obj rest, readTok fuel toks = some (obj, rest) →
      ReadsFrom toks obj rest) ∧
    (∀ size toks elements rest,
      readElements fuel size toks = some (elements, rest) → rest <:+ toks) ∧
    (∀ size toks entries rest,
      readEntries fuel size toks = some (entries, rest) → rest <:+ toks ∧
        ∀ key value, (key, Obj.str value) ∈ entries → .str value ∈ toks) := by
  induction fuel using Nat.strong_induction_on with
  | _ fuel ih =>
      refine ⟨?_, ?_, ?_⟩
      · intro toks obj rest hread
        obtain ⟨below, tok, later, hfuel, rfl, ⟨rfl, hobj⟩ |
          ⟨size, elements, rfl, hlater⟩ | ⟨size, entries, rfl, hlater⟩⟩ :=
          readTok_cases hread
        · exact readsFrom_cons List.suffix_rfl hobj
        · obtain ⟨_, helements, _⟩ := ih below (by omega)
          exact readsFrom_cons (helements size later elements rest hlater)
            (fun _ hvalue => by cases hvalue)
        · obtain ⟨_, _, hentries⟩ := ih below (by omega)
          exact readsFrom_cons (hentries size later entries rest hlater).1
            (fun _ hvalue => by cases hvalue)
      · intro size toks elements rest hread
        obtain rfl | ⟨below, fewer, element, after, later, hfuel, hfirst,
          hlater⟩ := readElements_cases hread
        · exact List.suffix_rfl
        · obtain ⟨htok, helements, _⟩ := ih below (by omega)
          exact (helements fewer after later rest hlater).trans
            (htok toks element after hfirst).1
      · intro size toks entries rest hread
        obtain ⟨rfl, rfl⟩ | ⟨below, fewer, key, value, afterKey, after, later,
          hfuel, hfirst, hsecond, hlater, rfl⟩ := readEntries_cases hread
        · exact ⟨List.suffix_rfl, fun _ _ hmem => by cases hmem⟩
        · obtain ⟨htok, _, hentries⟩ := ih below (by omega)
          have hkey := htok toks key afterKey hfirst
          have hvalue := htok afterKey value after hsecond
          obtain ⟨hsuffix, hmem⟩ := hentries fewer after later rest hlater
          refine ⟨(hsuffix.trans hvalue.1).trans hkey.1, ?_⟩
          intro other found hfound
          rcases List.mem_cons.mp hfound with heq | hfound
          · obtain ⟨rfl, rfl⟩ := Prod.mk.inj heq
            exact hkey.1.subset (hvalue.2 found rfl)
          · exact (hvalue.1.trans hkey.1).subset (hmem other found hfound)

theorem mapGetStr_mem {mp : ObjMap} {key value : Bytes}
    (hget : mapGetStr mp key = some value) :
    (Obj.str key, Obj.str value) ∈ mp := by
  fun_induction mapGetStr mp key with
  | case1 => cases hget
  | case2 =>
      cases hget
      exact List.mem_cons_self
  | case3 _ _ _ _ _ ih => exact List.mem_cons_of_mem _ (ih hget)
  | case4 _ _ _ _ ih => exact List.mem_cons_of_mem _ (ih hget)

/-- The object packed in the bytes. -/
def unpackMsgpack (bytes : Bytes) : Option Obj :=
  (lexAll bytes.length bytes).bind unpackToks

/-! ## What is relied on of `msgpack::unpack` -/

/-- Unpacking gives back the packed object if it has fewer than 2^32
bytes. -/
def InvertsPack (unpack : Bytes → Option Obj) : Prop :=
  ∀ toks obj, (∀ tok ∈ toks, tok.InRange) → unpackToks toks = some obj →
    (packAll toks).length < UInt32.size → unpack (packAll toks) = some obj

/-- A string of an unpacked map is no longer than the bytes it was unpacked
from. -/
def Slices (unpack : Bytes → Option Obj) : Prop :=
  ∀ bytes mp key value, unpack bytes = some (.map mp) →
    mapGetStr mp key = some value → value.length ≤ bytes.length

theorem invertsPack_unpackMsgpack : InvertsPack unpackMsgpack := by
  intro toks obj hrange hobj _
  rw [unpackMsgpack, lexAll_packAll hrange (Nat.le_refl _), Option.bind_some,
    hobj]

theorem slices_unpackMsgpack : Slices unpackMsgpack := by
  intro bytes mp key value hunpack hget
  simp only [unpackMsgpack, unpackToks, Option.bind_eq_some_iff,
    Option.map_eq_some_iff] at hunpack
  obtain ⟨toks, hlex, ⟨obj, rest⟩, hread, hobj⟩ := hunpack
  dsimp only at hobj
  subst hobj
  cases toks with
  | nil => cases hread
  | cons tok later =>
      have hlength : 2 * (tok :: later).length = 2 * later.length + 1 + 1 := by
        rw [List.length_cons]
        omega
      rw [hlength] at hread
      cases tok with
      | map size =>
          simp only [readTok, Option.map_eq_some_iff, Prod.mk.injEq] at hread
          obtain ⟨read, hread, hmap, rfl⟩ := hread
          cases hmap
          have hmem := ((read_suffix _).2.2 size later _ _ hread).2 _ _
            (mapGetStr_mem hget)
          exact lexAll_strLength hlex _ (List.mem_cons_of_mem _ hmem)
      | array size =>
          simp only [readTok, Option.map_eq_some_iff, Prod.mk.injEq] at hread
          obtain ⟨read, hread, hmap, rfl⟩ := hread
          cases hmap
      | _ => simp [readTok] at hread

end AsioForwarder
