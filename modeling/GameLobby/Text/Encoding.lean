import GameLobby.Text

/-!
# Character encodings

A text is carried by bytes in one of five encodings. The readers let a lone surrogate through, so
every text that a JSON body can spell is read; the writer `utf8?` refuses one, because what is
stored or sent has to be proper UTF-8. The encoding of a JSON document shows from its mark
(`Encoding.marked?`) or from where the zero bytes among its first four stand (`Encoding.unmarked`),
since a JSON document starts with an ASCII character.
-/

namespace GameLobby.Text

/-! ## UTF-8 -/

/-- The six low bits of a continuation byte. -/
def continuation? (b : UInt8) : Option Nat :=
  if 0x80 ≤ b.toNat ∧ b.toNat < 0xC0 then some (b.toNat - 0x80) else none

/-- The code point at the head of a byte list, in its shortest form, and the bytes after it. -/
def utf8Head? : List UInt8 → Option (CodePoint × List UInt8)
  | [] => none
  | b :: rest =>
    let lead := b.toNat
    if lead < 0x80 then (CodePoint.ofNat? lead).map (·, rest)
    else if lead < 0xC0 then none
    else if lead < 0xE0 then
      match rest with
      | b₁ :: rest => do
        let n := (lead - 0xC0) * 0x40 + (← continuation? b₁)
        if n < 0x80 then none else (CodePoint.ofNat? n).map (·, rest)
      | _ => none
    else if lead < 0xF0 then
      match rest with
      | b₁ :: b₂ :: rest => do
        let n := ((lead - 0xE0) * 0x40 + (← continuation? b₁)) * 0x40 + (← continuation? b₂)
        if n < 0x800 then none else (CodePoint.ofNat? n).map (·, rest)
      | _ => none
    else if lead < 0xF8 then
      match rest with
      | b₁ :: b₂ :: b₃ :: rest => do
        let n := (((lead - 0xF0) * 0x40 + (← continuation? b₁)) * 0x40 + (← continuation? b₂))
          * 0x40 + (← continuation? b₃)
        if n < 0x10000 then none else (CodePoint.ofNat? n).map (·, rest)
      | _ => none
    else none

/-- Reading a code point takes at least one byte. -/
theorem length_lt_of_utf8Head? {bytes rest : List UInt8} {p : CodePoint}
    (h : utf8Head? bytes = some (p, rest)) : rest.length < bytes.length := by
  unfold utf8Head? at h
  split at h
  · simp at h
  · rename_i b tail
    have one : ∀ {n : Nat} {tail : List UInt8} {r : CodePoint × List UInt8},
        (CodePoint.ofNat? n).map (·, tail) = some r → r.2 = tail := by
      intro n tail r hr
      obtain ⟨_, _, rfl⟩ := Option.map_eq_some_iff.1 hr
      rfl
    dsimp only at h
    split at h
    · have := one h
      grind
    · split at h
      · simp at h
      · split at h
        · split at h
          · simp only [bind, Option.bind_eq_some_iff] at h
            obtain ⟨_, _, h⟩ := h
            split at h
            · simp at h
            · have := one h
              grind
          · simp at h
        · split at h
          · split at h
            · simp only [bind, Option.bind_eq_some_iff] at h
              obtain ⟨_, _, _, _, h⟩ := h
              split at h
              · simp at h
              · have := one h
                grind
            · simp at h
          · split at h
            · split at h
              · simp only [bind, Option.bind_eq_some_iff] at h
                obtain ⟨_, _, _, _, _, _, h⟩ := h
                split at h
                · simp at h
                · have := one h
                  grind
              · simp at h
            · simp at h

/-- The text that a byte list holds in UTF-8. -/
def ofUtf8? (bytes : List UInt8) : Option Text :=
  match bytes with
  | [] => some []
  | b :: tail =>
    match _h : utf8Head? (b :: tail) with
    | none => none
    | some (p, rest) => (ofUtf8? rest).map (p :: ·)
  termination_by bytes.length
  decreasing_by exact length_lt_of_utf8Head? _h

/-- The UTF-8 form of a character. -/
def utf8Char (c : Char) : List UInt8 :=
  let n := c.toNat
  let byte (k : Nat) : UInt8 := UInt8.ofNat k
  if n < 0x80 then [byte n]
  else if n < 0x800 then [byte (0xC0 + n / 0x40), byte (0x80 + n % 0x40)]
  else if n < 0x10000 then
    [byte (0xE0 + n / 0x1000), byte (0x80 + n / 0x40 % 0x40), byte (0x80 + n % 0x40)]
  else
    [byte (0xF0 + n / 0x40000), byte (0x80 + n / 0x1000 % 0x40), byte (0x80 + n / 0x40 % 0x40),
      byte (0x80 + n % 0x40)]

/-- The UTF-8 form of a text without surrogates. -/
def utf8? (t : Text) : Option (List UInt8) :=
  t.toChars?.map (·.flatMap utf8Char)

/-! ## Wider units -/

/-- The order of the bytes within a unit. -/
inductive ByteOrder where
  | little
  | big
  deriving DecidableEq, Repr

/-- The number that a list of bytes stands for. -/
def ByteOrder.number : ByteOrder → List UInt8 → Nat
  | big, bytes => bytes.foldl (fun n b => n * 0x100 + b.toNat) 0
  | little, bytes => bytes.foldr (fun b n => b.toNat + 0x100 * n) 0

/-- The sixteen-bit units of a byte list of even length. -/
def units16? (order : ByteOrder) : List UInt8 → Option (List Nat)
  | [] => some []
  | [_] => none
  | a :: b :: rest => (units16? order rest).map (order.number [a, b] :: ·)

/-- The code points of sixteen-bit units, a high unit and a low one making one code point. -/
def ofUnits16? : List Nat → Option Text
  | [] => some []
  | high :: rest =>
    if 0xD800 ≤ high ∧ high < 0xDC00 then
      match rest with
      | low :: rest' =>
        if 0xDC00 ≤ low ∧ low < 0xE000 then do
          let p ← CodePoint.ofNat? (0x10000 + (high - 0xD800) * 0x400 + (low - 0xDC00))
          (ofUnits16? rest').map (p :: ·)
        else do (ofUnits16? (low :: rest')).map ((← CodePoint.ofNat? high) :: ·)
      | [] => do some [← CodePoint.ofNat? high]
    else do (ofUnits16? rest).map ((← CodePoint.ofNat? high) :: ·)

/-- The code points of a byte list in units of four bytes. -/
def ofUtf32? (order : ByteOrder) : List UInt8 → Option Text
  | [] => some []
  | a :: b :: c :: d :: rest => do
    let p ← CodePoint.ofNat? (order.number [a, b, c, d])
    (ofUtf32? order rest).map (p :: ·)
  | _ => none

/-! ## Detection -/

/-- A character encoding. -/
inductive Encoding where
  | utf8
  | utf16 (order : ByteOrder)
  | utf32 (order : ByteOrder)
  deriving DecidableEq, Repr

namespace Encoding

/-- The text that a byte list holds in an encoding. -/
def decode? : Encoding → List UInt8 → Option Text
  | utf8, bytes => ofUtf8? bytes
  | utf16 order, bytes => (units16? order bytes).bind ofUnits16?
  | utf32 order, bytes => ofUtf32? order bytes

/-- The encoding that a mark at the start names, with the bytes after the mark. -/
def marked? : List UInt8 → Option (Encoding × List UInt8)
  | 0x00 :: 0x00 :: 0xFE :: 0xFF :: rest => some (utf32 .big, rest)
  | 0xFF :: 0xFE :: 0x00 :: 0x00 :: rest => some (utf32 .little, rest)
  | 0xFE :: 0xFF :: rest => some (utf16 .big, rest)
  | 0xFF :: 0xFE :: rest => some (utf16 .little, rest)
  | 0xEF :: 0xBB :: 0xBF :: rest => some (utf8, rest)
  | _ => none

/-- The encoding of a document without a mark, by the zero bytes among its first four. -/
def unmarked : List UInt8 → Encoding
  | a :: b :: c :: d :: _ =>
    if a = 0 then if b = 0 then utf32 .big else utf16 .big
    else if b = 0 then if c = 0 ∧ d = 0 then utf32 .little else utf16 .little
    else utf8
  | [a, b] => if a = 0 then utf16 .big else if b = 0 then utf16 .little else utf8
  | _ => utf8

end Encoding

/-- The text of a JSON document, in whichever encoding it is. -/
def ofDocument? (bytes : List UInt8) : Option Text :=
  match Encoding.marked? bytes with
  | some (encoding, rest) => encoding.decode? rest
  | none => (Encoding.unmarked bytes).decode? bytes

end GameLobby.Text
