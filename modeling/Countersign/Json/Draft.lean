import Countersign.Json.Token

/-!
# Drafts: what a JSON text holds up to its first fault

What a reader finds wrong with the beginning of a text counts before a fault further on.  So a draft
keeps everything in front of the first fault: containers still open there are not `closed`, and a
member whose value never came has the value `broken`.
-/

namespace Countersign.Json

/-- A `number` without a value is a numeral beyond all doubles, a `string` without a text one that
is ill-formed. -/
inductive Draft where
  | null
  | bool (value : Bool)
  | number (value : Option Number)
  | string (text : Option String)
  | array (items : List Draft) (closed : Bool)
  | object (members : List (Option String × Draft)) (closed : Bool)
  | broken
  deriving Repr, Inhabited

namespace Draft

/-- Whether there is no fault in or right after the value.  A fault leaves every container around it
open. -/
def complete : Draft → Bool
  | .null | .bool _ | .number _ | .string _ => true
  | .array _ closed => closed
  | .object _ closed => closed
  | .broken => false

/-! ## Building a draft from tokens -/

inductive Frame where
  | array (items : List Draft)
  | object (members : List (Option String × Draft)) (key : Option (Option String))

inductive Expect where
  | value
  | valueOrClose
  | key
  | keyOrClose
  | colon
  | separator
  deriving DecidableEq

structure Building where
  stack : List Frame
  expect : Expect

structure Document where
  value : Draft
  trailing : Bool

inductive Progress where
  | building (state : Building)
  | ready (value : Draft)

def deliver (d : Draft) : List Frame → Progress
  | [] => .ready d
  | .array items :: rest => .building ⟨.array (d :: items) :: rest, .separator⟩
  | .object members key :: rest =>
      .building ⟨.object ((key.getD none, d) :: members) none :: rest, .separator⟩

def abandon : List Frame → Draft
  | [] => .broken
  | frames => go frames none
where
  go : List Frame → Option Draft → Draft
    | [], inner => inner.getD .broken
    | .array items :: rest, inner =>
        go rest (some (.array (inner.toList ++ items).reverse false))
    | .object members key :: rest, inner =>
        let last := match key with
          | some k => [(k, inner.getD .broken)]
          | none => []
        go rest (some (.object (last ++ members).reverse false))

def Building.step? (b : Building) (t : Token) : Option Progress :=
  let scalar (d : Draft) : Option Progress :=
    match b.expect with
    | .value | .valueOrClose => some (deliver d b.stack)
    | _ => none
  match t with
  | .null => scalar .null
  | .bool v => scalar (.bool v)
  | .number n => scalar (.number n.value?)
  | .string s =>
      match b.expect, b.stack with
      | .key, .object members _ :: rest | .keyOrClose, .object members _ :: rest =>
          some (.building ⟨.object members (some s) :: rest, .colon⟩)
      | _, _ => scalar (.string s)
  | .openArray =>
      match b.expect with
      | .value | .valueOrClose => some (.building ⟨.array [] :: b.stack, .valueOrClose⟩)
      | _ => none
  | .openObject =>
      match b.expect with
      | .value | .valueOrClose => some (.building ⟨.object [] none :: b.stack, .keyOrClose⟩)
      | _ => none
  | .closeArray =>
      match b.expect, b.stack with
      | .valueOrClose, .array items :: rest | .separator, .array items :: rest =>
          some (deliver (.array items.reverse true) rest)
      | _, _ => none
  | .closeObject =>
      match b.expect, b.stack with
      | .keyOrClose, .object members _ :: rest | .separator, .object members _ :: rest =>
          some (deliver (.object members.reverse true) rest)
      | _, _ => none
  | .colon => if b.expect = .colon then some (.building ⟨b.stack, .value⟩) else none
  | .comma =>
      match b.expect, b.stack with
      | .separator, .array _ :: _ => some (.building ⟨b.stack, .value⟩)
      | .separator, .object _ _ :: _ => some (.building ⟨b.stack, .key⟩)
      | _, _ => none
  | .bad => none

def build (b : Building) : List Token → Document
  | [] => ⟨abandon b.stack, false⟩
  | t :: rest =>
      match b.step? t with
      | none => ⟨abandon b.stack, true⟩
      | some (.building b) => build b rest
      | some (.ready d) => ⟨d, !rest.isEmpty⟩

def Document.ofTokens (ts : List Token) : Document := build ⟨[], .value⟩ ts

def Document.ofBytes (text : Bytes) : Document := .ofTokens (Token.scan text)

end Draft

/-! ## Values as drafts -/

mutual

def draft : Json → Draft
  | .null => .null
  | .bool b => .bool b
  | .number n => .number (some n)
  | .string s => .string (some s)
  | .array items => .array (draftItems items) true
  | .object members => .object (draftMembers members) true

def draftItems : List Json → List Draft
  | [] => []
  | v :: rest => draft v :: draftItems rest

def draftMembers : List (String × Json) → List (Option String × Draft)
  | [] => []
  | (name, v) :: rest => (some name, draft v) :: draftMembers rest

end

end Countersign.Json
