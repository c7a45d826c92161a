import GameLobby.Text.UpperTable

/-!
# Upper-casing

Upper-casing replaces each code point by its upper-case form and needs no context. The form can be
longer than the code point, so upper-casing can lengthen a text.
-/

namespace GameLobby.Text

/-- The code points of the upper-case form of a number. -/
def upperNumber (n : Nat) : List Nat :=
  match upperRanges.find? (·.maps n) with
  | some r => [(n + r.shift).toNat]
  | none => (upperExpansions.lookup n).getD [n]

/-- The upper-case form of one character. -/
def upperChar (c : Char) : List Char :=
  (upperNumber c.toNat).map Char.ofNat

/-- The upper-case form of one code point; a surrogate has no other case. -/
def upperPoint : CodePoint → Text
  | .scalar c => (upperChar c).map .scalar
  | .surrogate n => [.surrogate n]

/-- The upper-case form of a text. -/
def upper (t : Text) : Text :=
  t.flatMap upperPoint

@[simp] theorem upper_nil : upper [] = [] := rfl

@[simp] theorem upper_cons (c : CodePoint) (t : Text) : upper (c :: t) = upperPoint c ++ upper t :=
  rfl

example : upper (ofString "aßı1") = ofString "ASSI1" := by decide +kernel

end GameLobby.Text
