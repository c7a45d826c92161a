import GameLobby.Uuid
import Mathlib.Data.List.Induction

/-!
# Spellings of an identifier

An identifier is spelled by its thirty-two digits in either case, with hyphens between the five
groups or without, and the whole may stand in braces or behind `urn:uuid:` (`Uuid.Spells`). The
reader of the fixed shapes takes nothing but spellings (`Uuid.spells_of_ofChars?`), the canonical
form among them (`Uuid.ofChars?_chars`), and the loose reader takes all of them for the identifier
that they spell (`Uuid.Spells.ofLooseChars?`). So wherever both readers accept a text they agree,
although the loose one accepts much that is no spelling.
-/

namespace GameLobby

/-- Entries of a class are taken away up to the first one that does not belong to it. -/
theorem dropWhile_append_of_head {α : Type} {p : α → Bool} {front rest : List α}
    (hfront : ∀ a ∈ front, p a = true) (hhead : ∀ a ∈ rest.head?, p a = false) :
    (front ++ rest).dropWhile p = rest := by
  rw [List.dropWhile_append_of_pos hfront]
  cases rest with
  | nil => rfl
  | cons a rest => exact List.dropWhile_cons_of_neg (by simp [hhead a rfl])

/-- What stands between entries of a class is left when these are taken away at both ends, unless it
starts or ends with one itself. -/
theorem dropWhile_surrounded {α : Type} {p : α → Bool} {front mid back : List α} (hne : mid ≠ [])
    (hfront : ∀ a ∈ front, p a = true) (hback : ∀ a ∈ back, p a = true)
    (hhead : ∀ a ∈ mid.head?, p a = false) (hlast : ∀ a ∈ mid.getLast?, p a = false) :
    (((front ++ mid ++ back).dropWhile p).reverse.dropWhile p).reverse = mid := by
  have hstart : ∀ a ∈ (mid ++ back).head?, p a = false := by
    obtain ⟨a, mid, rfl⟩ := List.exists_cons_of_ne_nil hne
    exact hhead
  have hend : ∀ a ∈ mid.reverse.head?, p a = false := by
    rwa [List.head?_reverse]
  have hback' : ∀ a ∈ back.reverse, p a = true := fun a ha => hback a (List.mem_reverse.1 ha)
  rw [List.append_assoc, dropWhile_append_of_head hfront hstart, List.reverse_append,
    dropWhile_append_of_head hback' hend, List.reverse_reverse]

namespace Text

/-- Nothing is taken away where no character belongs to the class. -/
theorem trimChars_of_forall {blank : Char → Bool} {cs : List Char} (h : ∀ c ∈ cs, blank c = false) :
    trimChars blank cs = cs := by
  have hkeep : ∀ ds : List Char, (∀ c ∈ ds, blank c = false) → ds.dropWhile blank = ds := by
    intro ds hds
    cases ds with
    | nil => rfl
    | cons c ds => exact List.dropWhile_cons_of_neg (by simp [hds c (.head _)])
  rw [trimChars, hkeep cs h, hkeep cs.reverse fun c hc => h c (List.mem_reverse.1 hc),
    List.reverse_reverse]

/-- A statement about the characters up to a number is one about the numbers up to it. -/
theorem forall_of_toNat_lt {b : Nat} {P : Char → Prop} (h : ∀ n < b, P (Char.ofNat n)) (c : Char)
    (hc : c.toNat < b) : P c := by
  have hn := h c.toNat hc
  rwa [Char.ofNat_toNat] at hn

/-! ## Digits of either case -/

/-- The characters that are hexadecimal digits. -/
def hexAlphabet : List Char := "0123456789abcdefABCDEF".toList

/-- What has a value as a digit is one of the twenty-two characters. -/
theorem mem_hexAlphabet {c : Char} {d : Nat} (h : hexDigit? c = some d) : c ∈ hexAlphabet := by
  have hall := forall_of_toNat_lt (b := 0x67) (P := fun c => (hexDigit? c).isSome → c ∈ hexAlphabet)
    (by decide +kernel)
  have hlow : c.toNat < 0x67 := by
    have bound : ∀ {a b : Char}, a ≤ b → a.toNat ≤ b.toNat := fun h => h
    unfold hexDigit? at h
    split at h
    · next hc => exact Nat.lt_of_le_of_lt (bound hc.2) (by decide)
    split at h
    · next hc => exact Nat.lt_of_le_of_lt (bound hc.2) (by decide)
    split at h
    · next hc => exact Nat.lt_of_le_of_lt (bound hc.2) (by decide)
    · cases h
  exact hall c hlow (by rw [h]; rfl)

/-- The lower-case form of a digit is the one that is written for its value. -/
theorem toLower_of_hexDigit? {c : Char} {d : Nat} (h : hexDigit? c = some d) :
    c.toLower = hexDigit d := by
  have hall : hexAlphabet.all fun c => (hexDigit? c).map hexDigit == some c.toLower := by
    decide +kernel
  have hc := eq_of_beq (List.all_eq_true.1 hall c (mem_hexAlphabet h))
  rw [h] at hc
  exact (Option.some.inj hc).symm

/-- Digits that spell a number are in lower case the ones that are written for it. -/
theorem map_toLower_of_hexNumber? {cs : List Char} {n : Nat} (h : hexNumber? cs = some n) :
    cs.map Char.toLower = hexDigits cs.length n := by
  induction cs using List.reverseRecOn generalizing n with
  | nil => rfl
  | append_singleton cs c ih =>
    rw [hexNumber?_concat] at h
    obtain ⟨m, hm, h⟩ := Option.bind_eq_some_iff.1 h
    obtain ⟨d, hd, rfl⟩ := Option.map_eq_some_iff.1 h
    have hlt := hexDigit?_lt hd
    rw [List.length_append, List.length_singleton, hexDigits, List.map_append, ih hm,
      List.map_singleton, toLower_of_hexDigit? hd, show (16 * m + d) / 16 = m by omega,
      show (16 * m + d) % 16 = d by omega]

/-- Whatever spells a number consists of digits. -/
theorem mem_hexAlphabet_of_hexNumber? {cs : List Char} {n : Nat} (h : hexNumber? cs = some n) :
    ∀ c ∈ cs, c ∈ hexAlphabet := by
  induction cs using List.reverseRecOn generalizing n with
  | nil => nofun
  | append_singleton cs c ih =>
    rw [hexNumber?_concat] at h
    obtain ⟨m, hm, h⟩ := Option.bind_eq_some_iff.1 h
    obtain ⟨d, hd, -⟩ := Option.map_eq_some_iff.1 h
    intro b hb
    rcases List.mem_append.1 hb with hb | hb
    · exact ih hm b hb
    · rw [List.mem_singleton.1 hb]
      exact mem_hexAlphabet hd

/-- A digit has the same value in either case. -/
theorem hexDigit?_toLower (c : Char) : hexDigit? c.toLower = hexDigit? c := by
  by_cases hc : c.val ≥ 'A'.val ∧ c.val ≤ 'Z'.val
  · have hlow : c.toNat ≤ 0x5A := hc.2
    exact forall_of_toNat_lt (P := fun c => hexDigit? c.toLower = hexDigit? c) (by decide +kernel) c
      (Nat.lt_succ_of_le hlow)
  · have hkept : c.toLower = c := dif_neg hc
    rw [hkept]

/-- The number that digits spell does not depend on their case. -/
theorem hexNumber?_map_toLower (cs : List Char) :
    hexNumber? (cs.map Char.toLower) = hexNumber? cs := by
  simp only [hexNumber?, List.foldlM_map, hexDigit?_toLower]

end Text

namespace Uuid

/-- The thirty-two digits of an identifier, each in either case. -/
def Digits (u : Uuid) (cs : List Char) : Prop :=
  cs.map Char.toLower = u.hex

/-- The digits of an identifier, with hyphens between their groups or without. -/
inductive Grouped (u : Uuid) : List Char → Prop
  | plain {cs : List Char} (digits : u.Digits cs) : Grouped u cs
  | hyphenated {cs : List Char} (digits : u.Digits cs) : Grouped u (hyphenate cs)

/-- The spellings of an identifier: its digits alone, in braces, or behind `urn:uuid:`. -/
inductive Spells (u : Uuid) : List Char → Prop
  | bare {cs : List Char} (grouped : u.Grouped cs) : Spells u cs
  | braced {cs : List Char} (grouped : u.Grouped cs) : Spells u ('\x7b' :: cs ++ ['\x7d'])
  | named {cs : List Char} (grouped : u.Grouped cs) : Spells u ("urn:uuid:".toList ++ cs)

section
variable {u : Uuid} {cs : List Char}

/-! ## Digits -/

/-- An identifier has thirty-two digits. -/
theorem Digits.length (h : u.Digits cs) : cs.length = 32 := by
  have hlength := congrArg List.length h
  rwa [List.length_map, hex, Text.length_hexDigits] at hlength

/-- The digits of an identifier spell its number. -/
theorem Digits.hexNumber? (h : u.Digits cs) : Text.hexNumber? cs = some u.number := by
  rw [← Text.hexNumber?_map_toLower, h, hex, Text.hexNumber?_hexDigits]
  exact congrArg some (Nat.mod_eq_of_lt u.isLt)

/-- The canonical digits are in lower case. -/
theorem digits_hex (u : Uuid) : u.Digits u.hex := by
  have hnumber : Text.hexNumber? u.hex = some u.number := by
    rw [hex, Text.hexNumber?_hexDigits]
    exact congrArg some (Nat.mod_eq_of_lt u.isLt)
  rw [Digits, Text.map_toLower_of_hexNumber? hnumber, hex, Text.length_hexDigits]

/-- The canonical form is a spelling. -/
theorem spells_chars (u : Uuid) : u.Spells u.chars :=
  .bare (.hyphenated u.digits_hex)

/-! ## The fixed shapes -/

/-- What is read as an identifier from digits is made of its digits. -/
theorem digits_of_ofHex? (h : ofHex? cs = some u) : u.Digits cs := by
  rw [ofHex?] at h
  split at h
  · next hlength =>
    split at h
    · next n hn =>
      cases h
      rw [Digits, Text.map_toLower_of_hexNumber? hn, hlength]
      rfl
    · cases h
  · cases h

/-- What is read as an identifier from groups is made of its digits in these groups. -/
theorem grouped_of_ofHyphenated? (h : ofHyphenated? cs = some u) : u.Grouped cs := by
  rw [ofHyphenated?] at h
  split at h
  · next hshape =>
    rw [← hshape]
    exact .hyphenated (digits_of_ofHex? h)
  · cases h

/-- Whatever has one of the fixed shapes is a spelling. -/
theorem spells_of_ofChars? (h : ofChars? cs = some u) : u.Spells cs := by
  rw [ofChars?] at h
  split at h
  · exact .bare (.plain (digits_of_ofHex? h))
  · exact .bare (grouped_of_ofHyphenated? h)
  · split at h
    · next hbraces =>
      obtain ⟨rest, rfl⟩ := List.head?_eq_some_iff.1 hbraces.1
      have hlast : rest.getLast? = some '\x7d' := by
        cases rest with
        | nil => cases hbraces.2
        | cons c rest => simpa using hbraces.2
      obtain ⟨inside, rfl⟩ := List.getLast?_eq_some_iff.1 hlast
      rw [List.drop_one, List.tail_cons, List.dropLast_concat] at h
      exact .braced (grouped_of_ofHyphenated? h)
    · cases h
  · split at h
    · next hname =>
      rw [← List.take_append_drop 9 cs, hname]
      exact .named (grouped_of_ofHyphenated? h)
    · cases h
  · cases h

/-- The digits of an identifier are read as it. -/
theorem Digits.ofHex? (h : u.Digits cs) : ofHex? cs = some u := by
  rw [Uuid.ofHex?, dif_pos h.length]
  split
  · next n hn =>
    cases h.hexNumber?.symm.trans hn
    rfl
  · next hn => cases h.hexNumber?.symm.trans hn

/-! ## The loose reading -/

/-- A digit is none of the characters that the loose reading looks for. -/
theorem of_mem_hexAlphabet {c : Char} (h : c ∈ Text.hexAlphabet) :
    c ≠ '-' ∧ c ≠ '_' ∧ c ≠ '+' ∧ c ≠ 'x' ∧ c ≠ 'X' ∧ c ≠ 'u' ∧ c ≠ '\x7b' ∧ c ≠ '\x7d' ∧
      c.toNat < 0x80 ∧ isPadding c = false := by
  have hall : Text.hexAlphabet.all fun c =>
      decide (c ≠ '-' ∧ c ≠ '_' ∧ c ≠ '+' ∧ c ≠ 'x' ∧ c ≠ 'X' ∧ c ≠ 'u' ∧ c ≠ '\x7b' ∧ c ≠ '\x7d' ∧
        c.toNat < 0x80 ∧ isPadding c = false) := by decide +kernel
  exact of_decide_eq_true (List.all_eq_true.1 hall c h)

theorem Digits.mem_hexAlphabet (h : u.Digits cs) : ∀ c ∈ cs, c ∈ Text.hexAlphabet :=
  Text.mem_hexAlphabet_of_hexNumber? h.hexNumber?

/-- Grouping adds nothing but hyphens. -/
theorem mem_hyphenate {c : Char} (hc : c ∈ hyphenate cs) : c ∈ cs ∨ c = '-' := by
  have htake : ∀ {k n : Nat}, c ∈ (cs.drop k).take n → c ∈ cs :=
    fun h => List.mem_of_mem_drop (List.mem_of_mem_take h)
  simp only [hyphenate, List.mem_append, List.mem_cons, or_assoc] at hc
  rcases hc with h | rfl | h | rfl | h | rfl | h | rfl | h
  · exact .inl (List.mem_of_mem_take h)
  · exact .inr rfl
  · exact .inl (htake h)
  · exact .inr rfl
  · exact .inl (htake h)
  · exact .inr rfl
  · exact .inl (htake h)
  · exact .inr rfl
  · exact .inl (List.mem_of_mem_drop h)

/-- The five groups make up the digits. -/
theorem append_groups (cs : List Char) :
    cs.take 8 ++ ((cs.drop 8).take 4 ++
      ((cs.drop 12).take 4 ++ ((cs.drop 16).take 4 ++ cs.drop 20))) = cs := by
  have hjoin : ∀ k n : Nat, (cs.drop k).take n ++ cs.drop (k + n) = cs.drop k := fun k n => by
    rw [← List.drop_drop, List.take_append_drop]
  rw [hjoin 16 4, hjoin 12 4, hjoin 8 4, List.take_append_drop]

/-- Hyphens that are put in can be taken out again. -/
theorem filter_hyphenate (h : '-' ∉ cs) : (hyphenate cs).filter (· ≠ '-') = cs := by
  have hpart : ∀ {part : List Char}, part.Sublist cs → part.filter (· ≠ '-') = part := by
    intro part hpart
    refine List.filter_eq_self.2 fun c hc => ?_
    simpa using ne_of_mem_of_not_mem (hpart.subset hc) h
  have hgroup : ∀ k n : Nat, ((cs.drop k).take n).filter (· ≠ '-') = (cs.drop k).take n :=
    fun k n => hpart ((List.take_sublist n _).trans (List.drop_sublist k cs))
  have hyphen : ∀ rest : List Char, ('-' :: rest).filter (· ≠ '-') = rest.filter (· ≠ '-') :=
    fun rest => List.filter_cons_of_neg (by decide)
  simp only [hyphenate, List.filter_append, hyphen, hgroup, hpart (List.take_sublist 8 cs),
    hpart (List.drop_sublist 20 cs), List.append_assoc]
  exact append_groups cs

/-- Digits with hyphens between their groups are read as the digits. -/
theorem ofHyphenated?_hyphenate (h : cs.length = 32) :
    ofHyphenated? (hyphenate cs) = ofHex? cs := by
  have hgroups : (hyphenate cs).take 8 ++ ((hyphenate cs).drop 9).take 4 ++
      ((hyphenate cs).drop 14).take 4 ++ ((hyphenate cs).drop 19).take 4 ++
        (hyphenate cs).drop 24 = cs := by
    refine Eq.trans ?_ (append_groups cs)
    simp [hyphenate, List.drop_append, List.drop_take, h]
  rw [ofHyphenated?, hgroups]
  exact if_pos rfl

/-- The canonical form has one of the fixed shapes. -/
theorem ofChars?_chars (u : Uuid) : ofChars? u.chars = some u := by
  have hlength : u.chars.length = 36 := by
    simp [chars, hyphenate, hex]
  simp only [ofChars?, hlength]
  rw [chars, ofHyphenated?_hyphenate u.digits_hex.length, u.digits_hex.ofHex?]

/-- Between the digits of an identifier stand hyphens at most. -/
theorem Grouped.mem (h : u.Grouped cs) {c : Char} (hc : c ∈ cs) :
    c ∈ Text.hexAlphabet ∨ c = '-' := by
  cases h with
  | plain digits => exact .inl (digits.mem_hexAlphabet c hc)
  | hyphenated digits => exact (mem_hyphenate hc).imp_left (digits.mem_hexAlphabet c)

/-- Without its hyphens, an identifier has its digits alone. -/
theorem Grouped.filter (h : u.Grouped cs) : u.Digits (cs.filter (· ≠ '-')) := by
  have hhyphen : ∀ {ds : List Char}, u.Digits ds → '-' ∉ ds :=
    fun digits hmem => (of_mem_hexAlphabet (digits.mem_hexAlphabet _ hmem)).1 rfl
  cases h with
  | plain digits =>
    rwa [List.filter_eq_self.2]
    intro c hc
    simpa using ne_of_mem_of_not_mem hc (hhyphen digits)
  | hyphenated digits => rwa [filter_hyphenate (hhyphen digits)]

/-- A pattern is not found in a text without its first character. -/
theorem withoutFrom_of_notMem {c : Char} (pattern : List Char) (h : c ∉ cs) :
    withoutFrom (c :: pattern) 0 cs = cs := by
  induction cs with
  | nil => rfl
  | cons b cs ih =>
    obtain ⟨hb, hcs⟩ := not_or.1 (mt List.mem_cons.2 h)
    rw [withoutFrom, if_neg (by simp [List.isPrefixOf, hb]), ih hcs]

/-- Where every underscore stands is fine if there is none. -/
theorem separatorsOk_of_notMem (h : '_' ∉ cs) : separatorsOk cs = true := by
  induction cs with
  | nil => rfl
  | cons c cs ih =>
    obtain ⟨hc, hcs⟩ := not_or.1 (mt List.mem_cons.2 h)
    cases cs with
    | nil => simp [separatorsOk, Ne.symm hc]
    | cons b cs =>
      rw [separatorsOk]
      · exact ih hcs
      · exact nofun
      · rintro _ rfl
        exact absurd rfl hc

/-- Digits have neither a sign nor a mark of the base in front. -/
theorem Digits.unsigned (h : u.Digits cs) : unsigned cs = cs := by
  have hdigit := fun c hc => of_mem_hexAlphabet (h.mem_hexAlphabet c hc)
  have hsign : ¬ (cs.head? = some '+' ∨ cs.head? = some '-') := by
    rintro (hhead | hhead)
    · exact (hdigit _ (List.mem_of_head? hhead)).2.2.1 rfl
    · exact (hdigit _ (List.mem_of_head? hhead)).1 rfl
  rw [Uuid.unsigned, if_neg hsign]
  split
  · exact absurd rfl (hdigit 'x' (by simp)).2.2.2.1
  · exact absurd rfl (hdigit 'X' (by simp)).2.2.2.2.1
  · rfl

/-- Digits are read as they stand. -/
theorem Digits.looseNumber? (h : u.Digits cs) : looseNumber? cs = some u.number := by
  have hdigit := fun c hc => of_mem_hexAlphabet (h.mem_hexAlphabet c hc)
  have hunder : '_' ∉ cs := fun hmem => (hdigit _ hmem).2.1 rfl
  have hne : cs ≠ [] := by
    rintro rfl
    exact absurd h.length (by decide)
  have hhead : cs.head? ≠ some '_' := fun hhead => hunder (List.mem_of_head? hhead)
  have hfilter : cs.filter (· ≠ '_') = cs :=
    List.filter_eq_self.2 fun c hc => by simpa using ne_of_mem_of_not_mem hc hunder
  rw [Uuid.looseNumber?, Text.trimChars_of_forall, h.unsigned]
  · rw [if_neg, hfilter, h.hexNumber?]
    simp [hne, hhead, separatorsOk_of_notMem hunder]
  · intro c hc
    obtain ⟨-, -, -, -, -, -, -, -, hascii, hpadding⟩ := hdigit c hc
    simp [hpadding, Nat.not_le.2 hascii]

/-- Digits in groups hold neither the first letter of a mark nor a brace. -/
theorem Grouped.notMem (h : u.Grouped cs) : 'u' ∉ cs ∧ '\x7b' ∉ cs ∧ '\x7d' ∉ cs := by
  have hother : ∀ c ∈ cs, c ≠ 'u' ∧ c ≠ '\x7b' ∧ c ≠ '\x7d' := by
    intro c hc
    rcases h.mem hc with hdigit | rfl
    · obtain ⟨-, -, -, -, -, hu, hopen, hclose, -⟩ := of_mem_hexAlphabet hdigit
      exact ⟨hu, hopen, hclose⟩
    · decide
  exact ⟨fun hmem => (hother _ hmem).1 rfl, fun hmem => (hother _ hmem).2.1 rfl,
    fun hmem => (hother _ hmem).2.2 rfl⟩

/-- The marks are not found in a text without the letter that both of them start with. -/
theorem without_of_notMem (h : 'u' ∉ cs) : without "uuid:" (without "urn:" cs) = cs := by
  have hurn : without "urn:" cs = cs := withoutFrom_of_notMem _ h
  rw [hurn]
  exact withoutFrom_of_notMem _ h

/-- Both marks are taken away. -/
theorem without_named (h : 'u' ∉ cs) :
    without "uuid:" (without "urn:" ("urn:uuid:".toList ++ cs)) = cs := by
  have hurn : without "urn:" ("urn:uuid:".toList ++ cs) = "uuid:".toList ++ cs := by
    simp [without, withoutFrom, List.isPrefixOf, withoutFrom_of_notMem _ h]
  have huuid : without "uuid:" ("uuid:".toList ++ cs) = cs := by
    simp [without, withoutFrom, List.isPrefixOf, withoutFrom_of_notMem _ h]
  rw [hurn, huuid]

/-- Without marks and braces, a spelling has the digits in their groups alone. -/
theorem Spells.grouped (h : u.Spells cs) :
    u.Grouped (Text.trimChars (fun c => c = '\x7b' || c = '\x7d')
      (without "uuid:" (without "urn:" cs))) := by
  have hother : ∀ {ds : List Char}, u.Grouped ds →
      ∀ c ∈ ds, (c = '\x7b' || c = '\x7d') = false := by
    intro ds hds c hc
    simp [ne_of_mem_of_not_mem hc hds.notMem.2.1, ne_of_mem_of_not_mem hc hds.notMem.2.2]
  cases h with
  | bare grouped =>
    rwa [without_of_notMem grouped.notMem.1, Text.trimChars_of_forall (hother grouped)]
  | @braced ds grouped =>
    have hu : 'u' ∉ '\x7b' :: ds ++ ['\x7d'] := by simpa using grouped.notMem.1
    have hne : ds ≠ [] := by
      rintro rfl
      exact absurd grouped.filter.length (by decide)
    have htrim : Text.trimChars (fun c => c = '\x7b' || c = '\x7d') (['\x7b'] ++ ds ++ ['\x7d']) =
        ds :=
      dropWhile_surrounded hne (by simp) (by simp)
        (fun c hc => hother grouped c (List.mem_of_head? hc))
        fun c hc => hother grouped c (List.mem_of_getLast? hc)
    rw [without_of_notMem hu]
    exact htrim.symm ▸ grouped
  | named grouped =>
    rwa [without_named grouped.notMem.1, Text.trimChars_of_forall (hother grouped)]

/-- The loose reader takes every spelling for the identifier that it spells. -/
theorem Spells.ofLooseChars? (h : u.Spells cs) : ofLooseChars? cs = some u := by
  have hdigits := h.grouped.filter
  rw [Uuid.ofLooseChars?, if_pos hdigits.length, hdigits.looseNumber?, Option.bind_some,
    dif_pos u.isLt]

end

end Uuid

end GameLobby
