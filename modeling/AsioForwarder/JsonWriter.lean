import AsioForwarder.JsonText
import Mathlib.Tactic.IntervalCases

/-!
# JSON texts put together by hand

A document of flags, natural numbers, strings, lists and records is written
without white space, every string through a given escaping function.  What it
denotes depends on the function only through the contents it leaves.
-/

namespace JsonText

/-! ## Numbers -/

def decimal (n : Nat) : List UInt8 :=
  (Nat.toDigits 10 n).map (fun digit => UInt8.ofNat digit.toNat)

def digit (n : Nat) : UInt8 :=
  UInt8.ofNat (0x30 + n)

theorem digitChar_toNat {n : Nat} (hn : n < 10) :
    UInt8.ofNat n.digitChar.toNat = digit n := by
  interval_cases n <;> rfl

theorem decimal_of_lt {n : Nat} (hn : n < 10) : decimal n = [digit n] := by
  rw [decimal, Nat.toDigits_of_lt_base hn, List.map_singleton,
    digitChar_toNat hn]

theorem decimal_of_le {n : Nat} (hn : 10 ≤ n) :
    decimal n = decimal (n / 10) ++ [digit (n % 10)] := by
  rw [decimal, Nat.toDigits_of_base_le (by decide) hn, List.map_append,
    List.map_singleton, digitChar_toNat (Nat.mod_lt n (by decide))]
  rfl

theorem isDigit_digit {n : Nat} (hn : n < 10) : isDigit (digit n) = true := by
  interval_cases n <;> rfl

theorem digit_sub {n : Nat} (hn : n < 10) :
    (digit n).toNat - 0x30 = n := by
  interval_cases n <;> rfl

theorem isDigit_of_mem_decimal (n : Nat) :
    ∀ b ∈ decimal n, isDigit b = true := by
  induction n using Nat.strong_induction_on with
  | _ n ih =>
      intro b hb
      rcases Nat.lt_or_ge n 10 with hlt | hge
      · rw [decimal_of_lt hlt, List.mem_singleton] at hb
        rw [hb, isDigit_digit hlt]
      · rw [decimal_of_le hge, List.mem_append, List.mem_singleton] at hb
        rcases hb with hb | rfl
        · exact ih (n / 10) (by omega) b hb
        · exact isDigit_digit (Nat.mod_lt n (by decide))

theorem natOf_append_singleton (digits : List UInt8) (b : UInt8) :
    natOf (digits ++ [b]) = 10 * natOf digits + (b.toNat - 0x30) := by
  rw [natOf, List.foldl_append]
  rfl

theorem natOf_decimal (n : Nat) : natOf (decimal n) = n := by
  induction n using Nat.strong_induction_on with
  | _ n ih =>
      rcases Nat.lt_or_ge n 10 with hlt | hge
      · rw [decimal_of_lt hlt, ← List.nil_append [digit n],
          natOf_append_singleton, digit_sub hlt]
        exact Nat.zero_add n
      · rw [decimal_of_le hge, natOf_append_singleton,
          ih (n / 10) (by omega), digit_sub (Nat.mod_lt n (by decide))]
        exact Nat.div_add_mod n 10

/-- Only zero is written with a zero in front. -/
theorem decimal_head (n : Nat) :
    ∃ b more, decimal n = b :: more ∧ isDigit b = true ∧
      (b = 0x30 → more = []) := by
  induction n using Nat.strong_induction_on with
  | _ n ih =>
      rcases Nat.lt_or_ge n 10 with hlt | hge
      · exact ⟨digit n, [], decimal_of_lt hlt, isDigit_digit hlt,
          fun _ => rfl⟩
      · obtain ⟨b, more, hdecimal, hdigit, hzero⟩ :=
          ih (n / 10) (by omega)
        refine ⟨b, more ++ [digit (n % 10)], ?_, hdigit, ?_⟩
        · rw [decimal_of_le hge, hdecimal, List.cons_append]
        · intro hb
          -- a quotient that begins with a zero would be zero
          have hvalue := natOf_decimal (n / 10)
          rw [hdecimal, hzero hb, hb] at hvalue
          have hquotient : n / 10 = 0 := hvalue.symm
          omega

/-- The bytes do not go on with a number. -/
def EndsNumber (rest : List UInt8) : Prop :=
  ∀ b more, rest = b :: more →
    isDigit b = false ∧ b ≠ 0x2e ∧ b ≠ 0x45 ∧ b ≠ 0x65

theorem readDigits_append {digits rest : List UInt8}
    (hdigits : ∀ b ∈ digits, isDigit b = true) (hne : digits ≠ [])
    (hends : EndsNumber rest) :
    readDigits (digits ++ rest) = some (digits, rest) := by
  have htake : rest.takeWhile isDigit = [] ∧
      rest.dropWhile isDigit = rest := by
    cases rest with
    | nil => exact ⟨rfl, rfl⟩
    | cons b more =>
        have hb := (hends b more rfl).1
        exact ⟨List.takeWhile_cons_of_neg (by rw [hb]; decide),
          List.dropWhile_cons_of_neg (by rw [hb]; decide)⟩
  rw [readDigits, List.takeWhile_append_of_pos hdigits,
    List.dropWhile_append_of_pos hdigits, htake.1, htake.2, List.append_nil,
    if_neg hne]

theorem exists_digit {b : UInt8} (hdigit : isDigit b = true) :
    ∃ n < 10, b = digit n := by
  rw [isDigit, Bool.and_eq_true, decide_eq_true_eq, decide_eq_true_eq,
    UInt8.le_iff_toNat_le, UInt8.le_iff_toNat_le] at hdigit
  obtain ⟨hlow, hhigh⟩ := hdigit
  change 48 ≤ b.toNat at hlow
  change b.toNat ≤ 57 at hhigh
  refine ⟨b.toNat - 48, by omega, UInt8.toNat_inj.mp ?_⟩
  rw [digit, UInt8.toNat_ofNat']
  omega

theorem nextToken_digit {b : UInt8} (hdigit : isDigit b = true)
    (input : List UInt8) :
    nextToken (b :: input) = (readUnsigned (b :: input)).map
      (fun read => (.number read.1.1 read.1.2, read.2)) := by
  obtain ⟨n, hn, rfl⟩ := exists_digit hdigit
  interval_cases n <;> rfl

theorem readWhole_decimal (n : Nat) {rest : List UInt8}
    (hends : EndsNumber rest) :
    readWhole (decimal n ++ rest) = some (decimal n, rest) := by
  obtain ⟨b, more, hdecimal, hdigit, hzero⟩ := decimal_head n
  have hread : readDigits (decimal n ++ rest) = some (decimal n, rest) :=
    readDigits_append (isDigit_of_mem_decimal n) (by rw [hdecimal]; simp)
      hends
  rw [hdecimal] at hread ⊢
  obtain ⟨m, hm, rfl⟩ := exists_digit hdigit
  rcases Nat.eq_zero_or_pos m with rfl | hpos
  · rw [hzero rfl]
    rfl
  · rw [← hread]
    interval_cases m <;> rfl

theorem readFraction_of_ends {rest : List UInt8} (hends : EndsNumber rest) :
    readFraction rest = some ([], rest) := by
  unfold readFraction
  split
  · rename_i more
    exact absurd rfl (hends _ more rfl).2.1
  · rfl

theorem readExponent_of_ends {rest : List UInt8} (hends : EndsNumber rest) :
    readExponent rest = some (0, rest) := by
  unfold readExponent
  split
  · rename_i more
    exact absurd rfl (hends _ more rfl).2.2.1
  · rename_i more
    exact absurd rfl (hends _ more rfl).2.2.2
  · rfl

theorem nextToken_decimal (n : Nat) {rest : List UInt8}
    (hends : EndsNumber rest) :
    nextToken (decimal n ++ rest) = some (.number n 0, rest) := by
  have hread : readUnsigned (decimal n ++ rest) = some ((n, 0), rest) := by
    rw [readUnsigned, readWhole_decimal n hends]
    simp only [Option.bind_eq_bind, Option.bind_some,
      readFraction_of_ends hends, readExponent_of_ends hends]
    rw [List.append_nil, natOf_decimal]
    rfl
  obtain ⟨b, more, hdecimal, hdigit, _⟩ := decimal_head n
  rw [hdecimal, List.cons_append] at hread ⊢
  rw [nextToken_digit hdigit, hread]
  rfl

/-! ## Documents -/

inductive Doc where
  | flag (value : Bool)
  | nat (value : Nat)
  | text (contents : List UInt8)
  | list (elements : List Doc)
  | record (fields : List (List UInt8 × Doc))

section Write

variable (escape : List UInt8 → List UInt8)

def writeString (contents : List UInt8) : List UInt8 :=
  0x22 :: (escape contents ++ [0x22])

def writeFlag (value : Bool) : List UInt8 :=
  if value then [0x74, 0x72, 0x75, 0x65] else [0x66, 0x61, 0x6c, 0x73, 0x65]

mutual

def Doc.write : Doc → List UInt8
  | .flag value => writeFlag value
  | .nat value => decimal value
  | .text contents => writeString escape contents
  | .list elements => 0x5b :: (writeElements elements ++ [0x5d])
  | .record fields => 0x7b :: (writeFields fields ++ [0x7d])

def writeElements : List Doc → List UInt8
  | [] => []
  | d :: ds => d.write ++ writeMoreElements ds

def writeMoreElements : List Doc → List UInt8
  | [] => []
  | d :: ds => 0x2c :: (d.write ++ writeMoreElements ds)

def writeFields : List (List UInt8 × Doc) → List UInt8
  | [] => []
  | (key, d) :: fields =>
      writeString escape key ++ 0x3a :: (d.write ++ writeMoreFields fields)

def writeMoreFields : List (List UInt8 × Doc) → List UInt8
  | [] => []
  | (key, d) :: fields =>
      0x2c :: (writeString escape key ++
        0x3a :: (d.write ++ writeMoreFields fields))

end

end Write

section Value

variable (clean : List UInt8 → List UInt8)

mutual

/-- The value of a document whose strings are cleaned. -/
def Doc.value : Doc → Json
  | .flag value => .bool value
  | .nat value => .number value 0
  | .text contents => .string (clean contents)
  | .list elements => .array (elementValues elements)
  | .record fields => .object (fieldValues fields)

def elementValues : List Doc → List Json
  | [] => []
  | d :: ds => d.value :: elementValues ds

def fieldValues : List (List UInt8 × Doc) → List (List UInt8 × Json)
  | [] => []
  | (key, d) :: fields => (clean key, d.value) :: fieldValues fields

end

end Value

/-! ## What a document denotes -/

theorem endsNumber_cons {b : UInt8} {rest : List UInt8}
    (hb : b = 0x2c ∨ b = 0x5d ∨ b = 0x7d) : EndsNumber (b :: rest) := by
  intro c more hcons
  cases hcons
  rcases hb with rfl | rfl | rfl <;> decide

/-- An escaped string read back leaves the cleaned one. -/
def Leaves (escape clean : List UInt8 → List UInt8) : Prop :=
  ∀ contents rest,
    readString (escape contents ++ 0x22 :: rest) = some (clean contents, rest)

theorem endsNumber_nil : EndsNumber [] := by
  intro b more hcons
  cases hcons

theorem endsNumber_moreElements {escape : List UInt8 → List UInt8}
    (ds : List Doc) (rest : List UInt8) :
    EndsNumber (writeMoreElements escape ds ++ 0x5d :: rest) := by
  cases ds with
  | nil =>
      rw [writeMoreElements]
      exact endsNumber_cons (Or.inr (Or.inl rfl))
  | cons d ds =>
      rw [writeMoreElements]
      exact endsNumber_cons (Or.inl rfl)

theorem endsNumber_moreFields {escape : List UInt8 → List UInt8}
    (fields : List (List UInt8 × Doc)) (rest : List UInt8) :
    EndsNumber (writeMoreFields escape fields ++ 0x7d :: rest) := by
  cases fields with
  | nil =>
      rw [writeMoreFields]
      exact endsNumber_cons (Or.inr (Or.inr rfl))
  | cons field fields =>
      rw [writeMoreFields]
      exact endsNumber_cons (Or.inl rfl)

section Denotes

variable {escape clean : List UInt8 → List UInt8}

theorem nextToken_writeString (hescape : Leaves escape clean)
    (contents rest : List UInt8) :
    nextToken (writeString escape contents ++ rest) =
      some (.string (clean contents), rest) := by
  have hread := hescape contents rest
  rw [writeString, List.cons_append, List.append_assoc]
  change (readString (escape contents ++ 0x22 :: rest)).map _ = _
  rw [hread]
  rfl

mutual

theorem Doc.reads_write (hescape : Leaves escape clean) (d : Doc)
    {rest : List UInt8} {more : List Token} (hends : EndsNumber rest)
    (hrest : Lexes rest more) :
    ∃ toks, Lexes (d.write escape ++ rest) toks ∧
      Reads (.value (d.value clean)) toks more := by
  cases d with
  | flag value =>
      rw [Doc.write, Doc.value]
      refine ⟨.bool value :: more, .token ?_ hrest, .bool⟩
      cases value <;> rfl
  | nat value =>
      rw [Doc.write, Doc.value]
      exact ⟨_, .token (nextToken_decimal value hends) hrest, .number⟩
  | text contents =>
      rw [Doc.write, Doc.value]
      exact ⟨_, .token (nextToken_writeString hescape contents rest) hrest,
        .string⟩
  | list elements =>
      obtain ⟨toks, hlexes, hreads⟩ := reads_elements hescape elements hrest
      rw [Doc.write, Doc.value, List.cons_append, List.append_assoc]
      exact ⟨_, .token rfl hlexes, .array hreads⟩
  | record fields =>
      obtain ⟨toks, hlexes, hreads⟩ := reads_fields hescape fields hrest
      rw [Doc.write, Doc.value, List.cons_append, List.append_assoc]
      exact ⟨_, .token rfl hlexes, .object hreads⟩

theorem reads_elements (hescape : Leaves escape clean) (ds : List Doc)
    {rest : List UInt8} {more : List Token} (hrest : Lexes rest more) :
    ∃ toks, Lexes (writeElements escape ds ++ 0x5d :: rest) toks ∧
      Reads (.elements (elementValues clean ds)) toks more := by
  cases ds with
  | nil =>
      rw [writeElements, elementValues]
      exact ⟨_, .token rfl hrest, .noElement⟩
  | cons d ds =>
      obtain ⟨toks, hlexes, hmore⟩ := reads_moreElements hescape ds hrest
      obtain ⟨toks', hlexes', hvalue⟩ :=
        d.reads_write hescape (endsNumber_moreElements ds rest) hlexes
      rw [writeElements, elementValues, List.append_assoc]
      exact ⟨toks', hlexes', .firstElement hvalue hmore⟩

theorem reads_moreElements (hescape : Leaves escape clean) (ds : List Doc)
    {rest : List UInt8} {more : List Token} (hrest : Lexes rest more) :
    ∃ toks, Lexes (writeMoreElements escape ds ++ 0x5d :: rest) toks ∧
      Reads (.moreElements (elementValues clean ds)) toks more := by
  cases ds with
  | nil =>
      rw [writeMoreElements, elementValues]
      exact ⟨_, .token rfl hrest, .lastElement⟩
  | cons d ds =>
      obtain ⟨toks, hlexes, hmore⟩ := reads_moreElements hescape ds hrest
      obtain ⟨toks', hlexes', hvalue⟩ :=
        d.reads_write hescape (endsNumber_moreElements ds rest) hlexes
      rw [writeMoreElements, elementValues, List.cons_append,
        List.append_assoc]
      exact ⟨_, .token rfl hlexes', .nextElement hvalue hmore⟩

theorem reads_fields (hescape : Leaves escape clean)
    (fields : List (List UInt8 × Doc)) {rest : List UInt8}
    {more : List Token} (hrest : Lexes rest more) :
    ∃ toks, Lexes (writeFields escape fields ++ 0x7d :: rest) toks ∧
      Reads (.members (fieldValues clean fields)) toks more := by
  cases fields with
  | nil =>
      rw [writeFields, fieldValues]
      exact ⟨_, .token rfl hrest, .noMember⟩
  | cons field fields =>
      obtain ⟨key, d⟩ := field
      obtain ⟨toks, hlexes, hmore⟩ := reads_moreFields hescape fields hrest
      obtain ⟨toks', hlexes', hvalue⟩ :=
        d.reads_write hescape (endsNumber_moreFields fields rest) hlexes
      rw [writeFields, fieldValues, List.append_assoc, List.cons_append,
        List.append_assoc]
      exact ⟨_, .token (nextToken_writeString hescape key _)
        (.token rfl hlexes'), .firstMember hvalue hmore⟩

theorem reads_moreFields (hescape : Leaves escape clean)
    (fields : List (List UInt8 × Doc)) {rest : List UInt8}
    {more : List Token} (hrest : Lexes rest more) :
    ∃ toks, Lexes (writeMoreFields escape fields ++ 0x7d :: rest) toks ∧
      Reads (.moreMembers (fieldValues clean fields)) toks more := by
  cases fields with
  | nil =>
      rw [writeMoreFields, fieldValues]
      exact ⟨_, .token rfl hrest, .lastMember⟩
  | cons field fields =>
      obtain ⟨key, d⟩ := field
      obtain ⟨toks, hlexes, hmore⟩ := reads_moreFields hescape fields hrest
      obtain ⟨toks', hlexes', hvalue⟩ :=
        d.reads_write hescape (endsNumber_moreFields fields rest) hlexes
      rw [writeMoreFields, fieldValues, List.cons_append, List.append_assoc,
        List.cons_append, List.append_assoc]
      exact ⟨_, .token rfl (.token (nextToken_writeString hescape key _)
        (.token rfl hlexes')), .nextMember hvalue hmore⟩

end

theorem Doc.denotes_write (hescape : Leaves escape clean) (d : Doc) :
    Denotes (d.write escape) (d.value clean) := by
  obtain ⟨toks, hlexes, hreads⟩ :=
    d.reads_write hescape endsNumber_nil .done
  rw [List.append_nil] at hlexes
  exact ⟨toks, hlexes, hreads⟩

/-- The text of a document denotes its value and nothing else. -/
theorem Doc.denotes_write_iff (hescape : Leaves escape clean) (d : Doc)
    (v : Json) :
    Denotes (d.write escape) v ↔ v = d.value clean := by
  constructor
  · intro hdenotes
    exact hdenotes.unique (d.denotes_write hescape)
  · rintro rfl
    exact d.denotes_write hescape

end Denotes

end JsonText
