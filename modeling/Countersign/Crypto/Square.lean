import Countersign.Bytes

/-!
# Squares of words

Sixteen words in four rows of four, which ChaCha20 and BLAKE3 mix in rounds: first the columns, then
the diagonals.
-/

namespace Countersign.Crypto

def wordAt (b : Bytes) (i : Nat) : UInt32 := UInt32.ofNat (littleEndian ((b.drop (4 * i)).take 4))

def wordBytes (ws : List UInt32) : Bytes := ws.flatMap fun w => toLittleEndian 4 w.toNat

theorem length_wordBytes (ws : List UInt32) : (wordBytes ws).length = 4 * ws.length := by
  induction ws with
  | nil => rfl
  | cons w ws ih =>
    rw [wordBytes, List.flatMap_cons, List.length_append, length_toLittleEndian, ← wordBytes, ih,
      List.length_cons]
    omega

abbrev Square := Vector UInt32 16

namespace Square

def put (s : Square) (i : Fin 16) (w : UInt32) : Square := s.set i w

/-- Mixes the words at four places, in one of the eight steps of a round. -/
abbrev Quarter := Fin 8 → Square → (a b c d : Fin 16) → Square

def mix (quarter : Quarter) (s : Square) : Square :=
  let s := quarter 0 s 0 4 8 12
  let s := quarter 1 s 1 5 9 13
  let s := quarter 2 s 2 6 10 14
  let s := quarter 3 s 3 7 11 15
  let s := quarter 4 s 0 5 10 15
  let s := quarter 5 s 1 6 11 12
  let s := quarter 6 s 2 7 8 13
  quarter 7 s 3 4 9 14

end Square

end Countersign.Crypto
