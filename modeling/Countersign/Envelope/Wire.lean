import Countersign.Envelope.Basic

/-!
# Envelopes as text

Reading takes more spellings than the compact one that is written, but every base64url text in an
accepted envelope decodes and every header reads.
-/

namespace Countersign

open Json

namespace Layer

def json (l : Layer) : Json :=
  .object [("protected", .string l.headerText), ("signature", .string l.signature)]

structure Parts where
  header : Option String
  signature : Option String

def fields : List (RecordField Parts) :=
  [⟨"protected", true, (·.header.isSome), fun p d => do return { p with header := ← readText d }⟩,
    ⟨"signature", true, (·.signature.isSome),
      fun p d => do return { p with signature := ← readText d }⟩]

def read : Reader Layer := fun d => do
  let p ← record fields .malformed ⟨none, none⟩ d
  return ⟨p.header.getD "", p.signature.getD ""⟩

def check (l : Layer) : Result Unit := do
  let _ ← l.header
  let _ ← l.signatureBytes

end Layer

namespace Envelope

def json (e : Envelope) : Json :=
  .object <|
    (e.payload.map fun text => ("payload", Json.string text)).toList ++
      [("signatures", .array (e.layers.map Layer.json))]

def text (e : Envelope) : String := e.json.render

structure Parts where
  payload : Option (Option String)
  layers : Option (List Layer)

def fields : List (RecordField Parts) :=
  [⟨"payload", false, (·.payload.isSome),
      fun p d => do return { p with payload := some (← optional readText d) }⟩,
    ⟨"signatures", true, (·.layers.isSome),
      fun p d => do return { p with layers := some (← readList Layer.read d) }⟩]

def read : Reader Envelope := fun d => do
  let p ← record fields .malformed ⟨none, none⟩ d
  return ⟨p.payload.join, p.layers.getD []⟩

def check (e : Envelope) : Result Unit := do
  if let some payload := e.payload then
    let _ ← decodeText payload
  e.layers.forM Layer.check

def parse (text : String) : Result Envelope := do
  let e ← (readDocument read (utf8 text)).mapError fun e => Error.format (.envelope e)
  e.check
  return e

end Envelope

end Countersign
