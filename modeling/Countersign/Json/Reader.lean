import Countersign.Base64Url
import Countersign.Json.Draft
import Countersign.Table

/-!
# Reading values and records from drafts

A reader reports the first fault in text order; of a container with the wrong type that is its first
byte.  A record is an object, which may have more members, or the array of its fields in order.
What is missing is reported at the end, first field first.
-/

namespace Countersign.Json

inductive ReadError where
  | malformed
  | wrongType
  | wrongValue
  | wrongLength
  | missing (field : String)
  | duplicate (field : String)
  | bytes (cause : Base64Url.DecodeError)
  deriving DecidableEq, Repr

abbrev Reader (α : Type) := Draft → Except ReadError α

def Draft.mismatch : Draft → ReadError
  | .broken | .number none | .string none => .malformed
  | _ => .wrongType

def readText : Reader String
  | .string (some s) => .ok s
  | d => .error d.mismatch

def readInt (low high : Int) : Reader Int
  | .number (some (.int i)) => if low ≤ i ∧ i ≤ high then .ok i else .error .wrongValue
  | d => .error d.mismatch

def readInt64 : Reader Int64 := fun d =>
  Int64.ofInt <$> readInt Int64.minValue.toInt Int64.maxValue.toInt d

def readWord32 : Reader (BitVec 32) := fun d => BitVec.ofInt 32 <$> readInt 0 0xFFFFFFFF d

def readBytes : Reader Bytes := fun d => do
  let text ← readText d
  (Base64Url.decode text).mapError .bytes

def optional {α : Type} (read : Reader α) : Reader (Option α)
  | .null => .ok none
  | d => some <$> read d

def readList {α : Type} (read : Reader α) : Reader (List α)
  | .array items closed => do
      let values ← items.mapM read
      if closed then return values else throw .malformed
  | d => .error d.mismatch

structure RecordField (σ : Type) where
  name : String
  required : Bool
  present : σ → Bool
  read : σ → Reader σ

variable {σ : Type}

def readMembers (fields : List (RecordField σ)) :
    σ → List (Option String × Draft) → Except ReadError σ
  | parts, [] => .ok parts
  | _, (none, _) :: _ => .error .malformed
  | parts, (some name, d) :: rest =>
      match fields.find? (·.name == name) with
      | none => if d.complete then readMembers fields parts rest else .error .malformed
      | some field =>
          if field.present parts then .error (.duplicate name)
          else do readMembers fields (← field.read parts d) rest

/-- Reads the fields in order from the items of an array; `surplus` is what items beyond the last
field mean. -/
def readItems (surplus : ReadError) (closed : Bool) : List (RecordField σ) → σ → List Draft →
    Except ReadError σ
  | [], _, _ :: _ => .error surplus
  | [], parts, [] => if closed then .ok parts else .error .malformed
  | fields, parts, [] =>
      if !closed then .error .malformed
      else if fields.any (·.required) then .error .wrongLength else .ok parts
  | field :: fields, parts, d :: items => do
      readItems surplus closed fields (← field.read parts d) items

def record (fields : List (RecordField σ)) (surplus : ReadError) (start : σ) : Reader σ
  | .object members closed => do
      let parts ← readMembers fields start members
      if !closed then
        throw .malformed
      match fields.find? fun field => field.required && !field.present parts with
      | some field => throw (.missing field.name)
      | none => return parts
  | .array items closed => readItems surplus closed fields start items
  | d => .error d.mismatch

def readDocument {α : Type} (read : Reader α) (text : Bytes) : Except ReadError α := do
  let document := Draft.Document.ofBytes text
  let value ← read document.value
  if document.trailing then throw .malformed else return value

mutual

/-- The value of a draft without a fault, if containers nest at most `depth` deep in it.  Of members
of one name the last one counts, and members are put in ascending order. -/
def ofDraft? (depth : Nat) : Draft → Option Json
  | .null => some .null
  | .bool b => some (.bool b)
  | .number n => n.map .number
  | .string s => s.map .string
  | .array items closed =>
      match depth with
      | 0 => none
      | depth + 1 => if closed then (ofDrafts? depth items).map .array else none
  | .object members closed =>
      match depth with
      | 0 => none
      | depth + 1 =>
          if closed then
            (ofDraftMembers? depth members).map fun ms => .object (Table.ofList ms).entries
          else none
  | .broken => none

def ofDrafts? (depth : Nat) : List Draft → Option (List Json)
  | [] => some []
  | d :: rest => do return (← ofDraft? depth d) :: (← ofDrafts? depth rest)

def ofDraftMembers? (depth : Nat) : List (Option String × Draft) → Option (List (String × Json))
  | [] => some []
  | (none, _) :: _ => none
  | (some name, d) :: rest => do
      return (name, ← ofDraft? depth d) :: (← ofDraftMembers? depth rest)

end

def maxDepth : Nat := 127

def readAny : Reader Json := fun d =>
  match ofDraft? maxDepth d with
  | some v => .ok v
  | none => .error .malformed

def parse (text : String) : Except ReadError Json := readDocument readAny (utf8 text)

end Countersign.Json
