import Countersign.Json.Draft
import Countersign.Json.Render
import Countersign.Proofs.Json.Numeral
import Countersign.Proofs.Json.Quoted

/-!
# Values are read back from their text

The text of a value is a list of tokens, and the tokens build the draft of the value again.  The
draft keeps the order of members and every text; a number is what its numeral is read as.
-/

namespace Countersign.Json

open Token

/-! ## The tokens of a value -/

mutual

def tokens : Json → List Token
  | .null => [.null]
  | .bool b => [.bool b]
  | .number n => [.number n.numeral]
  | .string s => [.string (some s)]
  | .array items => .openArray :: (itemTokens items ++ [.closeArray])
  | .object members => .openObject :: (memberTokens members ++ [.closeObject])

def itemTokens : List Json → List Token
  | [] => []
  | [v] => tokens v
  | v :: rest => tokens v ++ .comma :: itemTokens rest

def memberTokens : List (String × Json) → List Token
  | [] => []
  | [(name, v)] => .string (some name) :: .colon :: tokens v
  | (name, v) :: rest =>
      .string (some name) :: .colon :: (tokens v ++ .comma :: memberTokens rest)

end

/-! ## From text to tokens -/

/-- A byte that no numeral goes on with: a comma, a closing bracket and so on. -/
theorem ends_cons {c : UInt8} (h : c = 44 ∨ c = 93 ∨ c = 125) (rest : Bytes) : Ends (c :: rest) := by
  rintro d ⟨⟩
  rcases h with rfl | rfl | rfl <;> decide

theorem ends_nil : Ends [] := by
  rintro d ⟨⟩

private theorem scan_word {c : UInt8} {left : Bytes} {token : Token}
    (start : stepGap c = ([], .word left token)) (some : left ≠ []) (rest : Bytes) :
    scanFrom .gap (c :: (left ++ rest)) = token :: scanFrom .gap rest := by
  have inside (left : Bytes) (some : left ≠ []) :
      scanFrom (.word left token) (left ++ rest) = token :: scanFrom .gap rest := by
    induction left with
    | nil => exact absurd rfl some
    | cons d left ih =>
        cases left with
        | nil => simp [scanFrom, Mode.step, stepWord]
        | cons e left => simpa [scanFrom, Mode.step, stepWord] using ih (by simp)
  simpa [scanFrom, Mode.step, start] using inside left some

private theorem scan_mark {c : UInt8} {token : Token} (start : stepGap c = ([token], .gap))
    (rest : Bytes) : scanFrom .gap (c :: rest) = token :: scanFrom .gap rest := by
  simp [scanFrom, Mode.step, start]

private theorem utf8_null : utf8 "null" = 110 :: [117, 108, 108] := by decide
private theorem utf8_true : utf8 "true" = 116 :: [114, 117, 101] := by decide
private theorem utf8_false : utf8 "false" = 102 :: [97, 108, 115, 101] := by decide
private theorem utf8_openArray : utf8 "[" = [91] := by decide
private theorem utf8_closeArray : utf8 "]" = [93] := by decide
private theorem utf8_openObject : utf8 "\x7b" = [123] := by decide
private theorem utf8_closeObject : utf8 "\x7d" = [125] := by decide
private theorem utf8_colon : utf8 ":" = [58] := by decide
private theorem utf8_comma : utf8 "," = [44] := by decide

private theorem scan_openArray (rest : Bytes) :
    scanFrom .gap (91 :: rest) = .openArray :: scanFrom .gap rest := scan_mark rfl rest

private theorem scan_closeArray (rest : Bytes) :
    scanFrom .gap (93 :: rest) = .closeArray :: scanFrom .gap rest := scan_mark rfl rest

private theorem scan_openObject (rest : Bytes) :
    scanFrom .gap (123 :: rest) = .openObject :: scanFrom .gap rest := scan_mark rfl rest

private theorem scan_closeObject (rest : Bytes) :
    scanFrom .gap (125 :: rest) = .closeObject :: scanFrom .gap rest := scan_mark rfl rest

private theorem scan_colon (rest : Bytes) :
    scanFrom .gap (58 :: rest) = .colon :: scanFrom .gap rest := scan_mark rfl rest

private theorem scan_comma (rest : Bytes) :
    scanFrom .gap (44 :: rest) = .comma :: scanFrom .gap rest := scan_mark rfl rest

mutual

theorem scan_render (v : Json) {rest : Bytes} (ends : Ends rest) :
    scanFrom .gap (utf8 v.render ++ rest) = v.tokens ++ scanFrom .gap rest := by
  match v with
  | .null =>
      rw [render, utf8_null]
      exact scan_word rfl (by simp) rest
  | .bool true =>
      rw [render, if_pos rfl, utf8_true]
      exact scan_word rfl (by simp) rest
  | .bool false =>
      rw [render, if_neg (by simp), utf8_false]
      exact scan_word rfl (by simp) rest
  | .number n => exact scan_numeral n.lawful_numeral ends
  | .string s => exact scan_quote s rest
  | .array items =>
      have inside := scan_renderItems items rest
      simp [render, tokens, utf8_openArray, utf8_closeArray, scan_openArray, inside]
  | .object members =>
      have inside := scan_renderMembers members rest
      simp [render, tokens, utf8_openObject, utf8_closeObject, scan_openObject, inside]

theorem scan_renderItems (items : List Json) (rest : Bytes) :
    scanFrom .gap (utf8 (renderItems items) ++ 93 :: rest) =
      itemTokens items ++ .closeArray :: scanFrom .gap rest := by
  match items with
  | [] => exact scan_closeArray rest
  | [v] =>
      have first := scan_render v (ends_cons (.inr (.inl rfl)) rest)
      rw [renderItems, itemTokens, first, scan_closeArray]
  | v :: w :: more =>
      have others := scan_renderItems (w :: more) rest
      have first := scan_render v
        (ends_cons (.inl rfl) (utf8 (renderItems (w :: more)) ++ 93 :: rest))
      simp only [renderItems, itemTokens, utf8_append, utf8_comma, List.append_assoc,
        List.cons_append, List.nil_append] at others first ⊢
      rw [first, scan_comma, others]

theorem scan_renderMembers (members : List (String × Json)) (rest : Bytes) :
    scanFrom .gap (utf8 (renderMembers members) ++ 125 :: rest) =
      memberTokens members ++ .closeObject :: scanFrom .gap rest := by
  match members with
  | [] => exact scan_closeObject rest
  | [(name, v)] =>
      have value := scan_render v (ends_cons (.inr (.inr rfl)) rest)
      simp only [renderMembers, memberTokens, utf8_append, utf8_colon, List.append_assoc,
        List.cons_append, List.nil_append]
      rw [scan_quote, scan_colon, value, scan_closeObject]
  | (name, v) :: m :: more =>
      have others := scan_renderMembers (m :: more) rest
      have value := scan_render v
        (ends_cons (.inl rfl) (utf8 (renderMembers (m :: more)) ++ 125 :: rest))
      simp only [renderMembers, memberTokens, utf8_append, utf8_colon, utf8_comma,
        List.append_assoc, List.cons_append, List.nil_append] at others value ⊢
      rw [scan_quote, scan_colon, value, scan_comma, others]

end

/-! ## From tokens to drafts -/

mutual

/-- The draft that the text of a value has.  It is `draft`, save for numbers. -/
def textDraft : Json → Draft
  | .null => .null
  | .bool b => .bool b
  | .number n => .number n.numeral.value?
  | .string s => .string (some s)
  | .array items => .array (textDraftItems items) true
  | .object members => .object (textDraftMembers members) true

def textDraftItems : List Json → List Draft
  | [] => []
  | v :: rest => textDraft v :: textDraftItems rest

def textDraftMembers : List (String × Json) → List (Option String × Draft)
  | [] => []
  | (name, v) :: rest => (some name, textDraft v) :: textDraftMembers rest

end

theorem textDraft_eq_null {v : Json} : v.textDraft = .null ↔ v = .null := by
  cases v <;> simp [textDraft]

theorem textDraft_eq_string {v : Json} {s : String} :
    v.textDraft = .string (some s) ↔ v = .string s := by
  cases v <;> simp [textDraft]

theorem textDraft_eq_int {v : Json} {i : Int} (low : -0x8000000000000000 ≤ i)
    (high : i < 0x10000000000000000) :
    v.textDraft = .number (some (.int i)) ↔ v = Json.int i := by
  constructor
  · intro h
    cases v with
    | number n =>
        simp only [textDraft, Draft.number.injEq] at h
        rw [eq_int_of_value? h, Json.int]
    | _ => simp [textDraft] at h
  · rintro rfl
    rw [Json.int, textDraft, value?_int low high]

namespace Draft

def resume : Progress → List Token → Document
  | .building b, rest => build b rest
  | .ready d, rest => ⟨d, !rest.isEmpty⟩

theorem build_cons {b : Building} {t : Token} {p : Progress} (step : b.step? t = some p)
    (rest : List Token) : build b (t :: rest) = resume p rest := by
  cases p <;> simp [build, step, resume]

mutual

theorem build_tokens (v : Json) {expect : Expect} (h : expect = .value ∨ expect = .valueOrClose)
    (stack : List Frame) (rest : List Token) :
    build ⟨stack, expect⟩ (v.tokens ++ rest) = resume (deliver v.textDraft stack) rest := by
  match v with
  | .null => exact build_cons (by rcases h with rfl | rfl <;> rfl) rest
  | .bool b => exact build_cons (by rcases h with rfl | rfl <;> rfl) rest
  | .number n => exact build_cons (by rcases h with rfl | rfl <;> rfl) rest
  | .string s => exact build_cons (by rcases h with rfl | rfl <;> rfl) rest
  | .array items =>
      have opened : Building.step? ⟨stack, expect⟩ .openArray =
          some (.building ⟨.array [] :: stack, .valueOrClose⟩) := by
        rcases h with rfl | rfl <;> rfl
      rw [tokens, List.cons_append, build_cons opened, List.append_assoc, resume]
      by_cases empty : items = []
      · subst empty
        exact build_cons rfl rest
      · exact build_itemTokens items empty (.inr rfl) [] stack rest
  | .object members =>
      have opened : Building.step? ⟨stack, expect⟩ .openObject =
          some (.building ⟨.object [] none :: stack, .keyOrClose⟩) := by
        rcases h with rfl | rfl <;> rfl
      rw [tokens, List.cons_append, build_cons opened, List.append_assoc, resume]
      by_cases empty : members = []
      · subst empty
        exact build_cons rfl rest
      · exact build_memberTokens members empty (.inr rfl) [] stack rest

theorem build_itemTokens (items : List Json) (some : items ≠ []) {expect : Expect}
    (h : expect = .value ∨ expect = .valueOrClose) (before : List Draft) (stack : List Frame)
    (rest : List Token) :
    build ⟨.array before :: stack, expect⟩ (itemTokens items ++ .closeArray :: rest) =
      resume (deliver (.array (before.reverse ++ textDraftItems items) true) stack) rest := by
  match items with
  | [] => exact absurd rfl some
  | [v] =>
      rw [itemTokens, build_tokens v h, deliver, resume, build_cons rfl]
      simp [textDraftItems]
  | v :: w :: more =>
      have others := build_itemTokens (w :: more) (List.cons_ne_nil w more) (.inl rfl)
        (v.textDraft :: before) stack rest
      rw [itemTokens, List.append_assoc, build_tokens v h, deliver, resume, List.cons_append,
        build_cons rfl, resume, others]
      · simp [textDraftItems]
      · simp

theorem build_memberTokens (members : List (String × Json)) (some : members ≠ [])
    {expect : Expect} (h : expect = .key ∨ expect = .keyOrClose)
    (before : List (Option String × Draft)) (stack : List Frame) (rest : List Token) :
    build ⟨.object before none :: stack, expect⟩ (memberTokens members ++ .closeObject :: rest) =
      resume (deliver (.object (before.reverse ++ textDraftMembers members) true) stack) rest := by
  have key (name : String) : Building.step? ⟨.object before none :: stack, expect⟩
      (.string (.some name)) =
      .some (.building ⟨.object before (.some (.some name)) :: stack, .colon⟩) := by
    rcases h with rfl | rfl <;> rfl
  match members with
  | [] => exact absurd rfl some
  | [(name, v)] =>
      rw [memberTokens, List.cons_append, build_cons (key name), resume, List.cons_append,
        build_cons rfl, resume, build_tokens v (.inl rfl), deliver, resume, build_cons rfl]
      simp [textDraftMembers]
  | (name, v) :: m :: more =>
      have others := build_memberTokens (m :: more) (List.cons_ne_nil m more) (.inl rfl)
        ((.some name, v.textDraft) :: before) stack rest
      rw [memberTokens, List.cons_append, build_cons (key name), resume, List.cons_append,
        build_cons rfl, resume, List.append_assoc, build_tokens v (.inl rfl), deliver, resume,
        List.cons_append, build_cons rfl, resume]
      · refine others.trans ?_
        simp [textDraftMembers]
      · simp

end

theorem Document.ofBytes_render (v : Json) :
    Document.ofBytes (utf8 v.render) = ⟨v.textDraft, false⟩ := by
  have scanned : scan (utf8 v.render) = v.tokens := by
    simpa [scan, scanFrom, Mode.finish] using scan_render v ends_nil
  have built := build_tokens v (.inl rfl) [] []
  rw [List.append_nil] at built
  rw [ofBytes, scanned]
  exact built

end Draft

end Countersign.Json
