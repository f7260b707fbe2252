import Countersign.Json.Basic
import Countersign.Json.Quoted

/-!
# Compact JSON text

No blanks, members in the order in which the object lists them.
-/

namespace Countersign.Json

mutual

def render : Json → String
  | .null => "null"
  | .bool b => if b then "true" else "false"
  | .number n => n.numeral.text
  | .string s => quote s
  | .array items => "[" ++ renderItems items ++ "]"
  | .object members => "\x7b" ++ renderMembers members ++ "\x7d"

def renderItems : List Json → String
  | [] => ""
  | [v] => render v
  | v :: rest => render v ++ "," ++ renderItems rest

def renderMembers : List (String × Json) → String
  | [] => ""
  | [(name, v)] => quote name ++ ":" ++ render v
  | (name, v) :: rest => quote name ++ ":" ++ render v ++ "," ++ renderMembers rest

end

end Countersign.Json
