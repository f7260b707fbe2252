import Countersign.Bytes

/-!
# Quoted texts

A quote, a backslash and the control characters are escaped when written; a reader also takes the
other short escapes and `\u` units, whose surrogates must come in pairs.
-/

namespace Countersign.Json

/-- What one element between the quotes contributes: a byte, or a unit of sixteen bits. -/
inductive Piece where
  | byte (b : UInt8)
  | unit (u : Nat)
  deriving DecidableEq, Repr

namespace Quoted

def isHighSurrogate (u : Nat) : Bool := 0xD800 ≤ u && u < 0xDC00

def isLowSurrogate (u : Nat) : Bool := 0xDC00 ≤ u && u < 0xE000

def pairUp (high low : Nat) : Char :=
  Char.ofNat (0x10000 + (high - 0xD800) * 0x400 + (low - 0xDC00))

def join? : List Piece → Option Bytes
  | [] => some []
  | .byte b :: rest => (join? rest).map (b :: ·)
  | .unit u :: .unit v :: rest =>
      if isHighSurrogate u then
        if isLowSurrogate v then
          (join? rest).map (String.utf8EncodeChar (pairUp u v) ++ ·)
        else none
      else if isLowSurrogate u then none
      else (join? (.unit v :: rest)).map (String.utf8EncodeChar (Char.ofNat u) ++ ·)
  | .unit u :: rest =>
      if isHighSurrogate u || isLowSurrogate u then none
      else (join? rest).map (String.utf8EncodeChar (Char.ofNat u) ++ ·)

def text? (pieces : List Piece) : Option String := (join? pieces).bind ofUtf8?

def shortEscape? (c : UInt8) : Option UInt8 :=
  if c = 34 ∨ c = 92 ∨ c = 47 then some c
  else if c = 98 then some 8
  else if c = 102 then some 12
  else if c = 110 then some 10
  else if c = 114 then some 13
  else if c = 116 then some 9
  else none

def escape (c : Char) : String :=
  if c = '"' then "\\\""
  else if c = '\\' then "\\\\"
  else if c = '\n' then "\\n"
  else if c = '\r' then "\\r"
  else if c = '\t' then "\\t"
  else if c.toNat = 8 then "\\b"
  else if c.toNat = 12 then "\\f"
  else if c.toNat < 32 then
    "\\u00" ++ String.ofList [hexDigit (c.toNat / 16), hexDigit (c.toNat % 16)]
  else String.singleton c

def escapeAll (cs : List Char) : String := String.join (cs.map escape)

end Quoted

def quote (s : String) : String := "\"" ++ Quoted.escapeAll s.toList ++ "\""

end Countersign.Json
