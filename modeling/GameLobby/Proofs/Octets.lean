import GameLobby.Text.Encoding

/-!
# Texts as bytes

The bytes of a character are those of its UTF-8 form (`Text.utf8Char_eq`), which the reader of UTF-8
takes for the character again, whatever follows (`Text.utf8Head?_utf8Char`). So a string is read
back from its bytes. A document that begins with two ASCII characters is taken for UTF-8
(`Text.ofDocument?_ascii`), as every JSON text in UTF-8 does that is an object.
-/

namespace GameLobby.Text

/-! ## One character -/

/-- The bytes of a character are those of its UTF-8 form. -/
theorem utf8Char_eq (c : Char) : utf8Char c = String.utf8EncodeChar c := by
  have hvalid := CodePoint.toNat_char_valid c
  have hval : c.val.toNat = c.toNat := rfl
  simp only [utf8Char, String.utf8EncodeChar, hval, Nat.add_comm 0x80]
  by_cases hone : c.toNat < 0x80
  · rw [if_pos hone, if_pos (by omega)]
  by_cases htwo : c.toNat < 0x800
  · have hlead : 0xC0 + c.toNat / 0x40 = c.toNat / 64 % 32 + 192 := by omega
    rw [if_neg hone, if_pos htwo, if_neg (by omega), if_pos (by omega), hlead]
  by_cases hthree : c.toNat < 0x10000
  · have hlead : 0xE0 + c.toNat / 0x1000 = c.toNat / 4096 % 16 + 224 := by omega
    rw [if_neg hone, if_neg htwo, if_pos hthree, if_neg (by omega), if_neg (by omega),
      if_pos (by omega), hlead]
  · have hlead : 0xF0 + c.toNat / 0x40000 = c.toNat / 262144 % 8 + 240 := by omega
    rw [if_neg hone, if_neg htwo, if_neg hthree, if_neg (by omega), if_neg (by omega),
      if_neg (by omega), hlead]

theorem toNat_byte {k : Nat} (h : k < 0x100) : (UInt8.ofNat k).toNat = k :=
  UInt8.toNat_ofNat_of_lt' h

/-- The six bits of a continuation byte are read back. -/
theorem continuation?_ofNat {k : Nat} (h : k < 0x40) :
    continuation? (UInt8.ofNat (0x80 + k)) = some k := by
  rw [continuation?, toNat_byte (by omega), if_pos (by omega), Nat.add_sub_cancel_left]

/-- The code point at the head of the bytes of a character is the character. -/
theorem utf8Head?_utf8Char (c : Char) (rest : List UInt8) :
    utf8Head? (utf8Char c ++ rest) = some (.scalar c, rest) := by
  have hvalid := CodePoint.toNat_char_valid c
  have hpoint := CodePoint.ofNat?_toNat c
  have low : ∀ n : Nat, continuation? (UInt8.ofNat (0x80 + n % 0x40)) = some (n % 0x40) :=
    fun n => continuation?_ofNat (Nat.mod_lt _ (by decide))
  rw [utf8Char]
  dsimp only
  by_cases hone : c.toNat < 0x80
  · rw [if_pos hone, List.singleton_append]
    unfold utf8Head?
    dsimp only
    rw [toNat_byte (by omega), if_pos hone, hpoint]
    rfl
  by_cases htwo : c.toNat < 0x800
  · have hnumber : (0xC0 + c.toNat / 0x40 - 0xC0) * 0x40 + c.toNat % 0x40 = c.toNat := by omega
    rw [if_neg hone, if_pos htwo, List.cons_append, List.singleton_append, utf8Head?]
    simp only [low, Option.bind_eq_bind, Option.bind_some]
    rw [toNat_byte (by omega), if_neg (by omega), if_neg (by omega), if_pos (by omega), hnumber,
      if_neg hone, hpoint]
    rfl
  by_cases hthree : c.toNat < 0x10000
  · have hnumber : ((0xE0 + c.toNat / 0x1000 - 0xE0) * 0x40 + c.toNat / 0x40 % 0x40) * 0x40 +
        c.toNat % 0x40 = c.toNat := by omega
    rw [if_neg hone, if_neg htwo, if_pos hthree, List.cons_append, List.cons_append,
      List.singleton_append, utf8Head?]
    simp only [low, Option.bind_eq_bind, Option.bind_some]
    rw [toNat_byte (by omega), if_neg (by omega), if_neg (by omega), if_neg (by omega),
      if_pos (by omega), hnumber, if_neg htwo, hpoint]
    rfl
  · have hnumber : (((0xF0 + c.toNat / 0x40000 - 0xF0) * 0x40 + c.toNat / 0x1000 % 0x40) * 0x40 +
        c.toNat / 0x40 % 0x40) * 0x40 + c.toNat % 0x40 = c.toNat := by omega
    rw [if_neg hone, if_neg htwo, if_neg hthree, List.cons_append, List.cons_append,
      List.cons_append, List.singleton_append, utf8Head?]
    simp only [low, Option.bind_eq_bind, Option.bind_some]
    rw [toNat_byte (by omega), if_neg (by omega), if_neg (by omega), if_neg (by omega),
      if_neg (by omega), if_pos (by omega), hnumber, if_neg hthree, hpoint]
    rfl

/-! ## Texts -/

/-- The bytes of a text are read after each other. -/
theorem ofUtf8?_of_head {bytes rest : List UInt8} {p : CodePoint}
    (h : utf8Head? bytes = some (p, rest)) : ofUtf8? bytes = (ofUtf8? rest).map (p :: ·) := by
  cases bytes with
  | nil => cases h
  | cons b tail =>
    rw [ofUtf8?]
    split
    next hnone =>
      rw [h] at hnone
      cases hnone
    next hsome =>
      rw [h] at hsome
      cases hsome
      rfl

/-- Characters are read back from their bytes. -/
theorem ofUtf8?_flatMap_utf8Char (cs : List Char) :
    ofUtf8? (cs.flatMap utf8Char) = some (cs.map .scalar) := by
  induction cs with
  | nil => rw [List.flatMap_nil, ofUtf8?, List.map_nil]
  | cons c cs ih =>
    rw [List.flatMap_cons, ofUtf8?_of_head (utf8Head?_utf8Char c _), ih, List.map_cons,
      Option.map_some]

/-- The bytes of characters are those of their string. -/
theorem toByteArray_flatMap_utf8Char (cs : List Char) :
    (cs.flatMap utf8Char).toByteArray = (String.ofList cs).toUTF8 := by
  rw [funext utf8Char_eq, String.toUTF8_eq_toByteArray, String.toByteArray_ofList, List.utf8Encode]

/-! ## Documents -/

/-- A document that begins with two bytes of ASCII other than zero is read as UTF-8. -/
theorem ofDocument?_ascii {a b : UInt8} (rest : List UInt8) (ha : a < 0x80) (hzero : a ≠ 0)
    (hb : b ≠ 0) : ofDocument? (a :: b :: rest) = ofUtf8? (a :: b :: rest) := by
  have hmark : Encoding.marked? (a :: b :: rest) = none := by
    unfold Encoding.marked?
    split <;> simp_all
  have hform : Encoding.unmarked (a :: b :: rest) = .utf8 := by
    unfold Encoding.unmarked
    split <;> simp_all
  rw [ofDocument?, hmark]
  dsimp only
  rw [hform, Encoding.decode?]

/-- Characters are read back from their bytes, where they begin like a JSON object that is not
empty. -/
theorem ofDocument?_object {cs : List Char} {t : Text}
    (h : cs.map .scalar = .scalar '\x7b' :: .scalar '"' :: t) :
    ofDocument? (cs.flatMap utf8Char) = some (cs.map .scalar) := by
  obtain ⟨c, cs, rfl, hc, htail⟩ := List.map_eq_cons_iff.1 h
  obtain ⟨d, cs, rfl, hd, -⟩ := List.map_eq_cons_iff.1 htail
  cases hc
  cases hd
  have hstart : ('\x7b' :: '"' :: cs).flatMap utf8Char = 0x7B :: 0x22 :: cs.flatMap utf8Char := rfl
  rw [← ofUtf8?_flatMap_utf8Char, hstart]
  exact ofDocument?_ascii _ (by decide) (by decide) (by decide)

end GameLobby.Text
