import Mathlib.Data.Nat.Digits.Defs
import Mathlib.Tactic.Common

/-!
# JSON texts as bytes

A text is split into tokens, as far as each of them reaches, and the tokens
are read by the grammar of values.  The contents of a string are bytes; an
escape stands for the UTF-8 encoding of its character.  A text has at most one
value.
-/

namespace JsonText

/-- A number is its mantissa times a power of ten. -/
inductive Json where
  | null
  | bool (value : Bool)
  | number (mantissa exponent : Int)
  | string (contents : List UInt8)
  | array (elements : List Json)
  | object (members : List (List UInt8 × Json))

inductive Token where
  | leftBrace
  | rightBrace
  | leftBracket
  | rightBracket
  | colon
  | comma
  | null
  | bool (value : Bool)
  | number (mantissa exponent : Int)
  | string (contents : List UInt8)

/-! ## Strings -/

def hexValue (b : UInt8) : Option Nat :=
  if 0x30 ≤ b ∧ b ≤ 0x39 then some (b.toNat - 0x30)
  else if 0x41 ≤ b ∧ b ≤ 0x46 then some (b.toNat - 0x37)
  else if 0x61 ≤ b ∧ b ≤ 0x66 then some (b.toNat - 0x57)
  else none

def hex4 (a b c d : UInt8) : Option Nat := do
  let a ← hexValue a
  let b ← hexValue b
  let c ← hexValue c
  let d ← hexValue d
  return ((a * 16 + b) * 16 + c) * 16 + d

def utf8 (codePoint : Nat) : List UInt8 :=
  String.utf8EncodeChar (Char.ofNat codePoint)

/-- What a backslash before the byte stands for. -/
def escaped (b : UInt8) : Option UInt8 :=
  if b = 0x22 ∨ b = 0x5c ∨ b = 0x2f then some b
  else if b = 0x62 then some 0x08
  else if b = 0x66 then some 0x0c
  else if b = 0x6e then some 0x0a
  else if b = 0x72 then some 0x0d
  else if b = 0x74 then some 0x09
  else none

def prepend (bytes : List UInt8) (read : List UInt8 × List UInt8) :
    List UInt8 × List UInt8 :=
  (bytes ++ read.1, read.2)

/-- The contents of a string whose opening quote has been read, and the bytes
after its closing quote.  A surrogate counts only as one of a pair. -/
def readString : List UInt8 → Option (List UInt8 × List UInt8)
  | [] => none
  | b :: rest =>
      if b = 0x22 then some ([], rest)
      else if b = 0x5c then
        match rest with
        | [] => none
        | e :: rest =>
            if e = 0x75 then
              match rest with
              | a :: b :: c :: d :: rest =>
                  match hex4 a b c d with
                  | none => none
                  | some unit =>
                      if 0xd800 ≤ unit ∧ unit < 0xdc00 then
                        match rest with
                        | s :: u :: a :: b :: c :: d :: rest =>
                            match hex4 a b c d with
                            | none => none
                            | some low =>
                                if s = 0x5c ∧ u = 0x75 ∧ 0xdc00 ≤ low ∧
                                    low < 0xe000 then
                                  (readString rest).map (prepend (utf8
                                    (0x10000 + (unit - 0xd800) * 0x400 +
                                      (low - 0xdc00))))
                                else none
                        | _ => none
                      else if 0xdc00 ≤ unit ∧ unit < 0xe000 then none
                      else (readString rest).map (prepend (utf8 unit))
              | _ => none
            else
              match escaped e with
              | none => none
              | some b => (readString rest).map (prepend [b])
      else if b < 0x20 then none
      else (readString rest).map (prepend [b])

theorem readString_quote (rest : List UInt8) :
    readString (0x22 :: rest) = some ([], rest) := by
  rw [readString.eq_def]
  rfl

theorem readString_escaped {e b : UInt8} (hnot : e ≠ 0x75)
    (hescaped : escaped e = some b) (rest : List UInt8) :
    readString (0x5c :: e :: rest) =
      (readString rest).map (prepend [b]) := by
  rw [readString.eq_def]
  dsimp only
  rw [if_neg (by decide), if_pos rfl, if_neg hnot, hescaped]

theorem readString_plain {b : UInt8} (hquote : b ≠ 0x22)
    (hslash : b ≠ 0x5c) (hcontrol : ¬b < 0x20) (rest : List UInt8) :
    readString (b :: rest) = (readString rest).map (prepend [b]) := by
  rw [readString.eq_def]
  dsimp only
  rw [if_neg hquote, if_neg hslash, if_neg hcontrol]

/-! ## Numbers -/

def isDigit (b : UInt8) : Bool :=
  decide (0x30 ≤ b) && decide (b ≤ 0x39)

def natOf (digits : List UInt8) : Nat :=
  digits.foldl (fun n digit => 10 * n + (digit.toNat - 0x30)) 0

/-- The longest run of digits; there must be one. -/
def readDigits (input : List UInt8) : Option (List UInt8 × List UInt8) :=
  if input.takeWhile isDigit = [] then none
  else some (input.takeWhile isDigit, input.dropWhile isDigit)

/-- A zero stands alone. -/
def readWhole : List UInt8 → Option (List UInt8 × List UInt8)
  | 0x30 :: rest => some ([0x30], rest)
  | input => readDigits input

def readFraction : List UInt8 → Option (List UInt8 × List UInt8)
  | 0x2e :: rest => readDigits rest
  | input => some ([], input)

def readSigned (input : List UInt8) : Option (Int × List UInt8) :=
  match input with
  | 0x2d :: rest =>
      (readDigits rest).map (fun read => (-(natOf read.1 : Int), read.2))
  | 0x2b :: rest =>
      (readDigits rest).map (fun read => ((natOf read.1 : Int), read.2))
  | rest => (readDigits rest).map (fun read => ((natOf read.1 : Int), read.2))

def readExponent : List UInt8 → Option (Int × List UInt8)
  | 0x45 :: rest => readSigned rest
  | 0x65 :: rest => readSigned rest
  | input => some (0, input)

def readUnsigned (input : List UInt8) :
    Option ((Nat × Int) × List UInt8) := do
  let (whole, rest) ← readWhole input
  let (fraction, rest) ← readFraction rest
  let (exponent, rest) ← readExponent rest
  return ((natOf (whole ++ fraction), exponent - fraction.length), rest)

def readNumber : List UInt8 → Option (Token × List UInt8)
  | 0x2d :: rest =>
      (readUnsigned rest).map
        (fun read => (.number (-(read.1.1 : Int)) read.1.2, read.2))
  | input =>
      (readUnsigned input).map
        (fun read => (.number read.1.1 read.1.2, read.2))

/-! ## Tokens -/

def isSpace (b : UInt8) : Bool :=
  b = 0x20 || b = 0x09 || b = 0x0a || b = 0x0d

/-- The token which the bytes begin with, and the bytes after it. -/
def nextToken : List UInt8 → Option (Token × List UInt8)
  | 0x7b :: rest => some (.leftBrace, rest)
  | 0x7d :: rest => some (.rightBrace, rest)
  | 0x5b :: rest => some (.leftBracket, rest)
  | 0x5d :: rest => some (.rightBracket, rest)
  | 0x3a :: rest => some (.colon, rest)
  | 0x2c :: rest => some (.comma, rest)
  | 0x22 :: rest =>
      (readString rest).map (fun read => (.string read.1, read.2))
  | 0x6e :: 0x75 :: 0x6c :: 0x6c :: rest => some (.null, rest)
  | 0x74 :: 0x72 :: 0x75 :: 0x65 :: rest => some (.bool true, rest)
  | 0x66 :: 0x61 :: 0x6c :: 0x73 :: 0x65 :: rest => some (.bool false, rest)
  | input => readNumber input

inductive Lexes : List UInt8 → List Token → Prop where
  | done : Lexes [] []
  | space {b : UInt8} {rest : List UInt8} {toks : List Token}
      (hspace : isSpace b = true) (hrest : Lexes rest toks) :
      Lexes (b :: rest) toks
  | token {input rest : List UInt8} {tok : Token} {toks : List Token}
      (hnext : nextToken input = some (tok, rest))
      (hrest : Lexes rest toks) : Lexes input (tok :: toks)

/-! ## The grammar -/

inductive Part where
  | value (v : Json)
  | elements (vs : List Json)
  | moreElements (vs : List Json)
  | members (ms : List (List UInt8 × Json))
  | moreMembers (ms : List (List UInt8 × Json))

/-- The tokens begin with the part and go on with the second list. -/
inductive Reads : Part → List Token → List Token → Prop where
  | null {rest} : Reads (.value .null) (.null :: rest) rest
  | bool {b rest} : Reads (.value (.bool b)) (.bool b :: rest) rest
  | number {m e rest} :
      Reads (.value (.number m e)) (.number m e :: rest) rest
  | string {s rest} : Reads (.value (.string s)) (.string s :: rest) rest
  | array {vs toks rest} (helements : Reads (.elements vs) toks rest) :
      Reads (.value (.array vs)) (.leftBracket :: toks) rest
  | object {ms toks rest} (hmembers : Reads (.members ms) toks rest) :
      Reads (.value (.object ms)) (.leftBrace :: toks) rest
  | noElement {rest} : Reads (.elements []) (.rightBracket :: rest) rest
  | firstElement {v vs toks more rest} (hvalue : Reads (.value v) toks more)
      (hmore : Reads (.moreElements vs) more rest) :
      Reads (.elements (v :: vs)) toks rest
  | lastElement {rest} :
      Reads (.moreElements []) (.rightBracket :: rest) rest
  | nextElement {v vs toks more rest} (hvalue : Reads (.value v) toks more)
      (hmore : Reads (.moreElements vs) more rest) :
      Reads (.moreElements (v :: vs)) (.comma :: toks) rest
  | noMember {rest} : Reads (.members []) (.rightBrace :: rest) rest
  | firstMember {k v ms toks more rest} (hvalue : Reads (.value v) toks more)
      (hmore : Reads (.moreMembers ms) more rest) :
      Reads (.members ((k, v) :: ms)) (.string k :: .colon :: toks) rest
  | lastMember {rest} : Reads (.moreMembers []) (.rightBrace :: rest) rest
  | nextMember {k v ms toks more rest} (hvalue : Reads (.value v) toks more)
      (hmore : Reads (.moreMembers ms) more rest) :
      Reads (.moreMembers ((k, v) :: ms))
        (.comma :: .string k :: .colon :: toks) rest

/-- The text is a JSON text of the value. -/
def Denotes (text : List UInt8) (v : Json) : Prop :=
  ∃ toks, Lexes text toks ∧ Reads (.value v) toks []

/-! ## A text has one value -/

theorem nextToken_space {b : UInt8} {rest : List UInt8}
    (hspace : isSpace b = true) : nextToken (b :: rest) = none := by
  simp only [isSpace, Bool.or_eq_true, decide_eq_true_eq] at hspace
  rcases hspace with ((rfl | rfl) | rfl) | rfl <;> rfl

theorem Lexes.unique {text : List UInt8} {toks toks' : List Token}
    (hlexes : Lexes text toks) (hlexes' : Lexes text toks') :
    toks = toks' := by
  induction hlexes generalizing toks' with
  | done =>
      cases hlexes' with
      | done => rfl
      | token hnext _ => cases hnext
  | space hspace _ ih =>
      cases hlexes' with
      | space _ hrest => exact ih hrest
      | token hnext _ =>
          rw [nextToken_space hspace] at hnext
          cases hnext
  | token hnext _ ih =>
      cases hlexes' with
      | done => cases hnext
      | space hspace _ =>
          rw [nextToken_space hspace] at hnext
          cases hnext
      | token hnext' hrest =>
          rw [hnext, Option.some.injEq, Prod.mk.injEq] at hnext'
          obtain ⟨rfl, rfl⟩ := hnext'
          rw [ih hrest]

def Part.kind : Part → Nat
  | .value _ => 0
  | .elements _ => 1
  | .moreElements _ => 2
  | .members _ => 3
  | .moreMembers _ => 4

theorem Reads.unique {p p' : Part} {toks rest rest' : List Token}
    (hreads : Reads p toks rest) (hreads' : Reads p' toks rest')
    (hkind : p.kind = p'.kind) : p = p' ∧ rest = rest' := by
  induction hreads generalizing p' rest' with
  | null | bool | number | string | lastElement | noMember | lastMember =>
      cases hreads' <;> first | exact ⟨rfl, rfl⟩ | cases hkind
  | array _ ih | object _ ih =>
      cases hreads' <;> try cases hkind
      rename_i hparts
      obtain ⟨hsame, rfl⟩ := ih hparts rfl
      cases hsame
      exact ⟨rfl, rfl⟩
  | noElement =>
      cases hreads' with
      | noElement => exact ⟨rfl, rfl⟩
      | firstElement hvalue _ => cases hvalue
      | _ => cases hkind
  | firstElement hvalue _ ihvalue ihmore =>
      cases hreads' with
      | noElement => cases hvalue
      | firstElement hvalue' hmore' =>
          obtain ⟨hsame, rfl⟩ := ihvalue hvalue' rfl
          cases hsame
          obtain ⟨hsame, rfl⟩ := ihmore hmore' rfl
          cases hsame
          exact ⟨rfl, rfl⟩
      | _ => cases hkind
  | nextElement _ _ ihvalue ihmore | firstMember _ _ ihvalue ihmore
  | nextMember _ _ ihvalue ihmore =>
      cases hreads' <;> try cases hkind
      rename_i hvalue' hmore'
      obtain ⟨hsame, rfl⟩ := ihvalue hvalue' rfl
      cases hsame
      obtain ⟨hsame, rfl⟩ := ihmore hmore' rfl
      cases hsame
      exact ⟨rfl, rfl⟩

theorem Denotes.unique {text : List UInt8} {v v' : Json}
    (hdenotes : Denotes text v) (hdenotes' : Denotes text v') : v = v' := by
  obtain ⟨toks, hlexes, hreads⟩ := hdenotes
  obtain ⟨toks', hlexes', hreads'⟩ := hdenotes'
  have hsame := hlexes.unique hlexes'
  subst hsame
  cases (hreads.unique hreads' rfl).1
  rfl

end JsonText
