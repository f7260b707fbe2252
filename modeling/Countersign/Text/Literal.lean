import Countersign.Key.Record
import Countersign.Text.Unprintable

/-!
# Texts and keys as they are shown to people

A shown text stands between quotes with escapes for what cannot be printed.  A shown key never gives
its private half away.
-/

namespace Countersign

namespace Text

def showChar (c : Char) : String :=
  if c = '"' then "\\\""
  else if c = '\\' then "\\\\"
  else if c = '\n' then "\\n"
  else if c = '\r' then "\\r"
  else if c = '\t' then "\\t"
  else if c.toNat = 0 then "\\0"
  else if isUnprintable c then "\\u\x7b" ++ KeyFlags.hexText c.toNat ++ "\x7d"
  else String.singleton c

def showText (s : String) : String := "\"" ++ String.join (s.toList.map showChar) ++ "\""

def showBytes (b : Bytes) : String :=
  "[" ++ ", ".intercalate (b.map fun c => Decimal.text c.toNat) ++ "]"

def showBrief (name : String) (b : Bytes) : String := name ++ "(" ++ hex (b.take 8) ++ "...)"

end Text

def Key.describe (k : Key) : String :=
  "KeyModel \x7b key_id: " ++ Text.showText k.kid ++
    ", fleet_id: " ++ Text.showText k.fleetId ++
    ", key_data: KeyData(" ++ Decimal.text k.secret.length ++ " bytes)" ++
    ", public_key: " ++
      (match k.material with
        | some m => "Some(" ++ Text.showBytes m ++ ")"
        | none => "None") ++
    ", flags: " ++ k.flags.describe ++ " \x7d"

end Countersign
