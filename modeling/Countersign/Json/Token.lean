import Countersign.Json.Basic
import Countersign.Json.Quoted

/-!
# Tokens of JSON text

A machine gives a token out with the byte that completes it, a numeral with the byte after it.  The
first byte that cannot be part of any JSON text gives `bad`, and nothing more is read.  A string
token without a text is one whose bytes or surrogates are ill-formed.
-/

namespace Countersign.Json

inductive Token where
  | openObject
  | closeObject
  | openArray
  | closeArray
  | colon
  | comma
  | null
  | bool (value : Bool)
  | number (numeral : Numeral)
  | string (text : Option String)
  | bad
  deriving DecidableEq, Repr

namespace Token

/-! ## Numerals -/

inductive Place where
  | sign
  | zero
  | whole
  | point
  | fraction
  | mark
  | markSign
  | exponent
  deriving DecidableEq, Repr

inductive NumeralStep where
  | more (place : Place) (numeral : Numeral)
  | complete
  | broken

def Place.complete : Place → Bool
  | .zero | .whole | .fraction | .exponent => true
  | .sign | .point | .mark | .markSign => false

def addWhole (n : Numeral) (d : Nat) : Numeral := { n with whole := n.whole ++ [d] }

def addFraction (n : Numeral) (d : Nat) : Numeral := { n with fraction := n.fraction ++ [d] }

def addExponent (n : Numeral) (d : Nat) : Numeral :=
  { n with exponent := n.exponent.map fun (down, ds) => (down, ds ++ [d]) }

def isPoint (c : UInt8) : Bool := c == 46

def isExponentMark (c : UInt8) : Bool := c == 101 || c == 69

def stepNumeral (place : Place) (n : Numeral) (c : UInt8) : NumeralStep :=
  match Decimal.ofByte? c with
  | some d =>
      match place with
      | .sign => .more (if d = 0 then .zero else .whole) (addWhole n d)
      | .zero => .broken
      | .whole => .more .whole (addWhole n d)
      | .point | .fraction => .more .fraction (addFraction n d)
      | .mark | .markSign | .exponent => .more .exponent (addExponent n d)
  | none =>
      match place with
      | .zero | .whole =>
          if isPoint c then .more .point n
          else if isExponentMark c then .more .mark { n with exponent := some (false, []) }
          else .complete
      | .fraction =>
          if isExponentMark c then .more .mark { n with exponent := some (false, []) }
          else .complete
      | .mark =>
          if c = 43 then .more .markSign n
          else if c = 45 then .more .markSign { n with exponent := some (true, []) }
          else .broken
      | .exponent => .complete
      | .sign | .point | .markSign => .broken

/-! ## The machine -/

inductive Mode where
  | gap
  | word (left : Bytes) (token : Token)
  | number (place : Place) (numeral : Numeral)
  | text (pieces : List Piece)
  | escape (pieces : List Piece)
  | hex (pieces : List Piece) (digits value : Nat)
  | dead

def isBlank (c : UInt8) : Bool := c == 32 || c == 9 || c == 10 || c == 13

def fail : List Token × Mode := ([.bad], .dead)

def stepGap (c : UInt8) : List Token × Mode :=
  if isBlank c then ([], .gap)
  else if c = 123 then ([.openObject], .gap)
  else if c = 125 then ([.closeObject], .gap)
  else if c = 91 then ([.openArray], .gap)
  else if c = 93 then ([.closeArray], .gap)
  else if c = 58 then ([.colon], .gap)
  else if c = 44 then ([.comma], .gap)
  else if c = 34 then ([], .text [])
  else if c = 110 then ([], .word [117, 108, 108] .null)
  else if c = 116 then ([], .word [114, 117, 101] (.bool true))
  else if c = 102 then ([], .word [97, 108, 115, 101] (.bool false))
  else if c = 45 then ([], .number .sign ⟨true, [], [], none⟩)
  else
    match Decimal.ofByte? c with
    | some d => ([], .number (if d = 0 then .zero else .whole) ⟨false, [d], [], none⟩)
    | none => fail

def stepWord (left : Bytes) (token : Token) (c : UInt8) : List Token × Mode :=
  match left with
  | [] => fail
  | [last] => if c = last then ([token], .gap) else fail
  | next :: rest => if c = next then ([], .word rest token) else fail

/-- Reads a byte between quotes; `pieces` are those before it, the last one first. -/
def stepText (pieces : List Piece) (c : UInt8) : List Token × Mode :=
  if c = 34 then ([.string (Quoted.text? pieces.reverse)], .gap)
  else if c = 92 then ([], .escape pieces)
  else if c < 32 then fail
  else ([], .text (.byte c :: pieces))

def stepEscape (pieces : List Piece) (c : UInt8) : List Token × Mode :=
  if c = 117 then ([], .hex pieces 0 0)
  else
    match Quoted.shortEscape? c with
    | some b => ([], .text (.byte b :: pieces))
    | none => fail

def stepHex (pieces : List Piece) (digits value : Nat) (c : UInt8) : List Token × Mode :=
  match hexValue? c with
  | none => fail
  | some h =>
      if digits = 3 then ([], .text (.unit (value * 16 + h) :: pieces))
      else ([], .hex pieces (digits + 1) (value * 16 + h))

def Mode.step (mode : Mode) (c : UInt8) : List Token × Mode :=
  match mode with
  | .gap => stepGap c
  | .word left token => stepWord left token c
  | .number place n =>
      match stepNumeral place n c with
      | .more place n => ([], .number place n)
      | .complete => let (out, mode) := stepGap c; (.number n :: out, mode)
      | .broken => fail
  | .text pieces => stepText pieces c
  | .escape pieces => stepEscape pieces c
  | .hex pieces digits value => stepHex pieces digits value c
  | .dead => ([], .dead)

def Mode.finish : Mode → List Token
  | .gap | .dead => []
  | .number place n => if place.complete then [.number n] else [.bad]
  | .word _ _ | .text _ | .escape _ | .hex _ _ _ => [.bad]

def scanFrom : Mode → Bytes → List Token
  | mode, [] => mode.finish
  | mode, c :: rest => (mode.step c).1 ++ scanFrom (mode.step c).2 rest

def scan (text : Bytes) : List Token := scanFrom .gap text

end Token

end Countersign.Json
