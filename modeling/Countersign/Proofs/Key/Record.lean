import Countersign.Key.Record
import Countersign.Proofs.Canonical
import Countersign.Proofs.Json.Records

/-!
# Key records are read back

Whatever texts, material and flags a record holds, its text and the value that is kept of it in a
store both give it back: absent material stays absent, empty material stays empty, and no bit of the
flags is lost.
-/

namespace Countersign

open Json

theorem readBytes_encode (b : Bytes) : readBytes (.string (some (Base64Url.encode b))) = .ok b := by
  have decodes := Base64Url.decode_eq_ok_iff.2 (rfl : Base64Url.encode b = Base64Url.encode b)
  simp [readBytes, readText, decodes]

theorem readWord32_toNat (w : BitVec 32) : readWord32 (.number (some (.int w.toNat))) = .ok w := by
  have inRange : (0 : Int) ≤ w.toNat ∧ (w.toNat : Int) ≤ 0xFFFFFFFF := by
    have := w.isLt
    omega
  rw [readWord32, readInt, if_pos inRange, map_ok, BitVec.ofInt_natCast, BitVec.ofNat_toNat,
    BitVec.setWidth_eq]

namespace Key

theorem read_object {surplus : ReadError} {members : List (Option String × Draft)} {parts : Parts}
    (walked : readMembers fields .none members = .ok parts)
    (whole : fields.find? (fun field => field.required && !field.present parts) = none) :
    read surplus (.object members true) = .ok (ofParts parts) := by
  simp [read, record, walked, whole]

section Walking

variable {p : Parts}

theorem readMembers_kid (absent : p.kid = none) (kid : String)
    (rest : List (Option String × Draft)) :
    readMembers fields p ((some "kid", .string (some kid)) :: rest) =
      readMembers fields { p with kid := some kid } rest :=
  readMembers_known rfl (by simp [absent]) rfl rest

theorem readMembers_fleetId (absent : p.fleetId = none) (fleetId : String)
    (rest : List (Option String × Draft)) :
    readMembers fields p ((some "fleetId", .string (some fleetId)) :: rest) =
      readMembers fields { p with fleetId := some fleetId } rest :=
  readMembers_known rfl (by simp [absent]) rfl rest

theorem readMembers_secret (absent : p.secret = none) (secret : Bytes)
    (rest : List (Option String × Draft)) :
    readMembers fields p ((some "keyData", .string (some (Base64Url.encode secret))) :: rest) =
      readMembers fields { p with secret := some secret } rest :=
  readMembers_known rfl (by simp [absent]) (by simp [readBytes_encode]) rest

theorem readMembers_material (absent : p.material = none) (m : Bytes)
    (rest : List (Option String × Draft)) :
    readMembers fields p ((some "publicKey", .string (some (Base64Url.encode m))) :: rest) =
      readMembers fields { p with material := some (some m) } rest :=
  readMembers_known rfl (by simp [absent]) (by simp [Json.optional, readBytes_encode]) rest

theorem readMembers_flags (absent : p.flags = none) {d : Draft} {w : BitVec 32}
    (reads : readWord32 d = .ok w) (rest : List (Option String × Draft)) :
    readMembers fields p ((some "flags", d) :: rest) =
      readMembers fields { p with flags := some ⟨w⟩ } rest :=
  readMembers_known rfl (by simp [absent]) (by simp [reads]) rest

end Walking

theorem read_stored (surplus : ReadError) (k : Key) : read surplus k.storedJson.draft = .ok k := by
  obtain ⟨kid, fleetId, secret, material, ⟨bits⟩⟩ := k
  have walked (last : List (Option String × Draft)) :=
    readMembers_fleetId (p := .none) rfl fleetId _ |>.trans
      (readMembers_flags rfl (readWord32_toNat bits) _) |>.trans
      (readMembers_secret rfl secret _) |>.trans (readMembers_kid rfl kid last)
  cases material with
  | none => exact read_object (walked []) rfl
  | some m => exact read_object ((walked _).trans (readMembers_material rfl m [])) rfl

theorem readWord32_textDraft (w : BitVec 32) : readWord32 (Json.int w.toNat).textDraft = .ok w := by
  have small := w.isLt
  rw [Json.int, textDraft, value?_int (by omega) (by omega), readWord32_toNat]

theorem read_textDraft (surplus : ReadError) (k : Key) : read surplus k.json.textDraft = .ok k := by
  obtain ⟨kid, fleetId, secret, material, ⟨bits⟩⟩ := k
  have walked (rest : List (Option String × Draft)) :=
    readMembers_kid (p := .none) rfl kid _ |>.trans (readMembers_fleetId rfl fleetId _) |>.trans
      (readMembers_secret rfl secret rest)
  have flags := readWord32_textDraft bits
  cases material with
  | none => exact read_object ((walked _).trans (readMembers_flags rfl flags [])) rfl
  | some m =>
      exact read_object ((walked _).trans <| (readMembers_material rfl m _).trans
        (readMembers_flags rfl flags [])) rfl

theorem parse_text (k : Key) : parse k.text = .ok k := by
  simp [parse, text, readDocument_render, read_textDraft]

theorem listOfJson_stored (keys : List Key) :
    listOfJson (.array (keys.map storedJson)) = .ok keys := by
  have items : (draftItems (keys.map storedJson)).mapM (read .wrongLength) = .ok keys := by
    induction keys with
    | nil => rfl
    | cons k keys ih =>
        rw [List.map_cons, draftItems, List.mapM_cons, read_stored, ih]
        rfl
  simp [listOfJson, draft, readList, items]

end Key

end Countersign
