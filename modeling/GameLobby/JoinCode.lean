import GameLobby.Failure
import GameLobby.Supply
import GameLobby.Text.Upper

/-!
# Join codes

A join code has six characters from `A` to `Z` and `0` to `9`. Each is drawn from one random byte,
taken modulo the size of the alphabet; the slight preference for the first letters is accepted. What
a player types is measured as it was typed and then upper-cased, which can change its length.
-/

namespace GameLobby.JoinCode

/-- The characters of join codes. -/
def alphabet : List Char :=
  "ABCDEFGHIJKLMNOPQRSTUVWXYZ0123456789".toList

/-- The number of characters in a join code. -/
def size : Nat := 6

/-- The character that a random byte stands for. -/
def letter (b : Nat) : Char :=
  alphabet.getD (b % 36) 'A'

/-- A code of the given length. -/
def random (length : Nat) (e : Entropy) : Text × Entropy :=
  let (bytes, e) := e.take length
  (bytes.map (.scalar ∘ letter), e)

/-- The code that a typed text stands for, if it has the length of one. -/
def normalize (typed : Text) : Except Refusal Text :=
  if typed.length = size then .ok typed.upper else .error RefusalClass.invalidJoinCode.refusal

/-- A typed text that stands for a code has the length of one, and stands for its upper-case
form. -/
theorem normalize_ok {typed code : Text} (h : normalize typed = .ok code) :
    typed.length = size ∧ code = typed.upper := by
  rw [normalize] at h
  split at h
  · next hlength =>
    cases h
    exact ⟨hlength, rfl⟩
  · cases h

/-- There are ten digits and twenty-six letters. -/
theorem length_alphabet : alphabet.length = 36 := by decide +kernel

/-- Every letter that is drawn belongs to the alphabet. -/
theorem letter_mem (b : Nat) : letter b ∈ alphabet := by
  have h : b % 36 < alphabet.length := by rw [length_alphabet]; exact Nat.mod_lt _ (by decide)
  simp [letter, List.getD, List.getElem?_eq_getElem h]

end GameLobby.JoinCode
