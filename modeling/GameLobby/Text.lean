/-!
# Texts

A text is a list of code points. It differs from a `String` in one respect: an escape in a JSON body
can name half of a surrogate pair, so a text may hold surrogates that stand alone. Such a text has a
length and an upper-case form like any other, but no character encoding can carry it, which is what
`Text.toString?` decides.
-/

namespace GameLobby

/-- A code point of a text: a Unicode scalar value, or the surrogate `0xD800 + offset`. -/
inductive CodePoint where
  | scalar (c : Char)
  | surrogate (offset : Fin 0x800)
  deriving DecidableEq, Repr

namespace CodePoint

/-- The number of a code point. -/
def value : CodePoint → Nat
  | scalar c => c.toNat
  | surrogate n => 0xD800 + n

/-- The code point of a number below `0x110000`. -/
def ofNat? (n : Nat) : Option CodePoint :=
  if h : 0xD800 ≤ n ∧ n < 0xE000 then some (surrogate ⟨n - 0xD800, by omega⟩)
  else if n < 0x110000 then some (scalar (Char.ofNat n))
  else none

/-- No character has the number of a surrogate. -/
theorem toNat_char_valid (c : Char) :
    c.toNat < 0xD800 ∨ 0xDFFF < c.toNat ∧ c.toNat < 0x110000 :=
  c.valid

/-- A character is the code point of its number. -/
theorem ofNat?_toNat (c : Char) : ofNat? c.toNat = some (scalar c) := by
  have hvalid := toNat_char_valid c
  rw [ofNat?, dif_neg (by omega), if_pos (by omega), Char.ofNat_toNat]

end CodePoint

/-- A sequence of code points. -/
abbrev Text := List CodePoint

namespace Text

/-- The code points of a string. -/
def ofString (s : String) : Text :=
  s.toList.map .scalar

instance : Coe String Text := ⟨ofString⟩

/-- The scalar values of a text that has no surrogate. -/
def toChars? : Text → Option (List Char)
  | [] => some []
  | .scalar c :: rest => (toChars? rest).map (c :: ·)
  | .surrogate _ :: _ => none

/-- The string of a text that has no surrogate. -/
def toString? (t : Text) : Option String :=
  t.toChars?.map String.ofList

/-- The first run of surrogates: the positions of its first and its last one, and the first one. -/
def firstSurrogates? (t : Text) : Option (Nat × Nat × CodePoint) :=
  let isScalar : CodePoint → Bool := fun
    | .scalar _ => true
    | .surrogate _ => false
  match t.dropWhile isScalar with
  | [] => none
  | p :: rest =>
    let start := (t.takeWhile isScalar).length
    some (start, start + (rest.takeWhile (!isScalar ·)).length, p)

/-- A text without its leading and trailing code points of a class. -/
def trim (blank : CodePoint → Bool) (t : Text) : Text :=
  ((t.dropWhile blank).reverse.dropWhile blank).reverse

/-- Characters are taken out of a text as they were put in. -/
theorem toChars?_map_scalar (cs : List Char) : toChars? (cs.map .scalar) = some cs := by
  induction cs with
  | nil => rfl
  | cons c cs ih => simp [toChars?, ih]

/-- A text without surrogates is made of its characters. -/
theorem eq_map_scalar_of_toChars? {t : Text} {cs : List Char} (h : t.toChars? = some cs) :
    t = cs.map .scalar := by
  induction t generalizing cs with
  | nil =>
    cases h
    rfl
  | cons p t ih =>
    cases p with
    | surrogate n => cases h
    | scalar c =>
      obtain ⟨rest, hrest, rfl⟩ := Option.map_eq_some_iff.1 h
      rw [ih hrest, List.map_cons]

end Text

end GameLobby
