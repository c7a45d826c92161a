import GameLobby.Proofs.Candidates

/-!
# Spellings of a join code

A typed text is upper-cased before it is compared with join codes. Upper-casing never shortens a
text (`Text.length_le_length_upper`), so a text as long as its upper-case form is upper-cased one
code point at a time. A look at the table (`Text.of_upperNumber_singleton`) shows which code points
become a character of the alphabet of join codes: those of the alphabet, the small ASCII letters,
and the two others that `CodePoint.CanSpell` names. In the other direction, texts that differ from a
join code in the case of ASCII letters alone have the code as their upper-case form
(`Text.upper_of_sameButCase`).
-/

namespace GameLobby

/-- A code point that can stand in a typed join code: an ASCII letter or digit, the dotless `ı`, or
the long `ſ`. -/
def CodePoint.CanSpell (p : CodePoint) : Prop :=
  ∃ c : Char, p = .scalar c ∧ (c.isAlphanum ∨ c.toNat = 0x131 ∨ c.toNat = 0x17F)

/-- A code point with an ASCII letter made a capital one. -/
def CodePoint.capital : CodePoint → CodePoint
  | .scalar c => .scalar c.toUpper
  | .surrogate n => .surrogate n

/-- Two texts differ in the case of ASCII letters alone. -/
def Text.SameButCase (t u : Text) : Prop :=
  t.map CodePoint.capital = u.map CodePoint.capital

/-- A text that has the form of a join code. -/
structure JoinCode.Formed (code : Text) : Prop where
  length : code.length = size
  letters : ∀ p ∈ code, ∃ c ∈ alphabet, p = .scalar c

/-- A candidate has the form of a join code. -/
theorem JoinCode.formed_candidate (e : Entropy) (i : Nat) : Formed (candidate e i) := by
  refine ⟨by simp [candidate], fun p hp => ?_⟩
  obtain ⟨j, -, rfl⟩ := List.mem_map.1 hp
  exact ⟨_, letter_mem _, rfl⟩

/-- What is drawn as a join code has the form of one. -/
theorem JoinCode.formed_random (e : Entropy) : Formed (random size e).1 := by
  rw [random_eq]
  exact formed_candidate e 0

/-- The characters of the alphabet stand between `0` and `Z` in the order of code points, and are
capital letters and digits. -/
theorem JoinCode.of_mem_alphabet {c : Char} (h : c ∈ alphabet) :
    0x30 ≤ c.toNat ∧ c.toNat ≤ 0x5A ∧ c.isAlphanum ∧ c.toUpper = c := by
  have hall : alphabet.all fun c =>
      decide (0x30 ≤ c.toNat ∧ c.toNat ≤ 0x5A ∧ c.isAlphanum ∧ c.toUpper = c) := by
    decide +kernel
  exact of_decide_eq_true (List.all_eq_true.1 hall c h)

namespace Text

/-! ## The table -/

/-- A number has its upper-case form from a range, from an expansion, or is its own. -/
theorem upperNumber_cases (n : Nat) :
    (∃ r ∈ upperRanges, r.first ≤ n ∧ n ≤ r.last ∧ upperNumber n = [(n + r.shift).toNat]) ∨
      (∃ form, (n, form) ∈ upperExpansions ∧ upperNumber n = form) ∨ upperNumber n = [n] := by
  rw [upperNumber]
  split
  · next r hr =>
    have hmaps : r.maps n = true := by simpa using List.find?_some hr
    simp only [UpperRange.maps, Bool.and_eq_true, decide_eq_true_eq] at hmaps
    exact .inl ⟨r, List.mem_of_find?_eq_some hr, hmaps.1.1, hmaps.1.2, rfl⟩
  · cases h : upperExpansions.lookup n with
    | none => exact .inr (.inr rfl)
    | some form =>
      obtain ⟨before, behind, happend, -⟩ := List.lookup_eq_some_iff.1 h
      refine .inr (.inl ⟨form, ?_, rfl⟩)
      rw [happend]
      exact List.mem_append_right _ (.head _)

/-- Of the ranges, only the small ASCII letters and two single code points have their upper-case
forms among the code points up to `Z`. -/
theorem upperRanges_above : ∀ r ∈ upperRanges,
    (0x61 ≤ r.first ∧ r.last ≤ 0x7A) ∨ (r.first = 0x131 ∧ r.last = 0x131) ∨
      (r.first = 0x17F ∧ r.last = 0x17F) ∨ (0x5A : Int) < r.first + r.shift := by
  decide +kernel

/-- The forms of the expansions are longer than one code point. -/
theorem upperExpansions_long : ∀ p ∈ upperExpansions, 2 ≤ p.2.length := by
  decide +kernel

/-- The small letters are the only ASCII characters with an upper-case form of their own. -/
theorem upperRanges_ascii : ∀ r ∈ upperRanges, r.first < 128 → r.first = 0x61 ∧ r.last = 0x7A := by
  decide +kernel

/-- No character of ASCII has an upper-case form in the table of expansions. -/
theorem upperExpansions_ascii : ∀ p ∈ upperExpansions, 128 ≤ p.1 := by
  decide +kernel

/-- The upper-case forms of the small letters of ASCII are the capitals. -/
theorem upperNumber_small :
    ∀ n < 0x7B, 0x61 ≤ n → upperNumber n = [(Char.ofNat n).toUpper.toNat] := by
  decide +kernel

/-- The small letters of ASCII are alphanumeric. -/
theorem isAlphanum_small : ∀ n < 0x7B, 0x61 ≤ n → (Char.ofNat n).isAlphanum := by
  decide +kernel

/-- The other characters of ASCII are their own upper-case form. -/
theorem upperNumber_of_ascii {n : Nat} (h : n < 128) (hsmall : ¬ (0x61 ≤ n ∧ n ≤ 0x7A)) :
    upperNumber n = [n] := by
  rcases upperNumber_cases n with ⟨r, hr, hfirst, hlast, -⟩ | ⟨form, hmem, -⟩ | hform
  · obtain ⟨h61, h7A⟩ := upperRanges_ascii r hr (Nat.lt_of_le_of_lt hfirst h)
    exact absurd ⟨h61 ▸ hfirst, h7A ▸ hlast⟩ hsmall
  · exact absurd h (Nat.not_lt.2 (upperExpansions_ascii _ hmem))
  · exact hform

/-- No number has an empty upper-case form. -/
theorem length_upperNumber_pos (n : Nat) : 0 < (upperNumber n).length := by
  rcases upperNumber_cases n with ⟨r, -, -, -, h⟩ | ⟨form, hmem, h⟩ | h
  · simp [h]
  · have hlong := upperExpansions_long _ hmem
    rw [h]
    exact Nat.lt_of_lt_of_le Nat.two_pos hlong
  · simp [h]

/-- The numbers whose upper-case form is a single one up to that of `Z`. -/
theorem of_upperNumber_singleton {n m : Nat} (h : upperNumber n = [m]) (hm : m ≤ 0x5A) :
    n = m ∨ (0x61 ≤ n ∧ n ≤ 0x7A) ∨ n = 0x131 ∨ n = 0x17F := by
  rcases upperNumber_cases n with ⟨r, hr, hfirst, hlast, hform⟩ | ⟨form, hmem, hform⟩ | hform
  · have hshift : (n + r.shift).toNat = m := List.singleton_inj.1 (hform.symm.trans h)
    have habove := upperRanges_above r hr
    omega
  · have hlong := upperExpansions_long _ hmem
    rw [← hform, h] at hlong
    cases hlong with
    | step hlong => cases hlong
  · exact .inl (List.singleton_inj.1 (hform.symm.trans h))

/-! ## Code points -/

/-- No code point has an empty upper-case form. -/
theorem length_upperPoint_pos (p : CodePoint) : 0 < (upperPoint p).length := by
  cases p with
  | scalar c =>
    rw [upperPoint, upperChar, List.length_map, List.length_map]
    exact length_upperNumber_pos c.toNat
  | surrogate n => exact Nat.one_pos

/-- Upper-casing makes an ASCII letter a capital one and leaves the other ASCII characters alone. -/
theorem upperPoint_ascii {c : Char} (h : c.toNat < 128) :
    upperPoint (.scalar c) = [(CodePoint.scalar c).capital] := by
  rw [upperPoint, upperChar, CodePoint.capital]
  by_cases hsmall : 0x61 ≤ c.toNat ∧ c.toNat ≤ 0x7A
  · rw [upperNumber_small _ (Nat.lt_succ_of_le hsmall.2) hsmall.1, Char.ofNat_toNat,
      List.map_singleton, Char.ofNat_toNat]
    rfl
  · have hkept : c.toUpper = c := dif_neg hsmall
    rw [upperNumber_of_ascii h hsmall, hkept, List.map_singleton, Char.ofNat_toNat]
    rfl

/-- A code point with a character of the alphabet as its upper-case form can stand in a code. -/
theorem canSpell_of_upperPoint {p : CodePoint} {a : Char} (ha : a ∈ JoinCode.alphabet)
    (h : upperPoint p = [.scalar a]) : p.CanSpell := by
  cases p with
  | surrogate n => cases h
  | scalar c =>
    obtain ⟨m, hform, hm⟩ : ∃ m, upperNumber c.toNat = [m] ∧ Char.ofNat m = a := by
      rw [upperPoint, upperChar, List.map_map, List.map_eq_singleton_iff] at h
      obtain ⟨m, hform, hm⟩ := h
      exact ⟨m, hform, CodePoint.scalar.inj hm⟩
    obtain ⟨hfrom, hto, halnum, -⟩ := JoinCode.of_mem_alphabet ha
    have ham : a.toNat = m := by
      subst hm
      by_cases hvalid : m.isValidChar
      · rw [Char.ofNat, dif_pos hvalid]
        rfl
      · simp [Char.ofNat, hvalid] at hfrom
    refine ⟨c, rfl, ?_⟩
    rcases of_upperNumber_singleton hform (ham ▸ hto) with hc | ⟨hfirst, hlast⟩ | hc | hc
    · have hca : c = a := Char.toNat_inj.1 (hc.trans ham.symm)
      exact .inl (hca ▸ halnum)
    · have hsmall := isAlphanum_small c.toNat (Nat.lt_succ_of_le hlast) hfirst
      rw [Char.ofNat_toNat] at hsmall
      exact .inl hsmall
    · exact .inr (.inl hc)
    · exact .inr (.inr hc)

/-- A code point that differs from a character of the alphabet in case alone has it as its
upper-case form. -/
theorem upperPoint_of_capital {p : CodePoint} {a : Char} (ha : a ∈ JoinCode.alphabet)
    (h : p.capital = (CodePoint.scalar a).capital) : upperPoint p = [.scalar a] := by
  obtain ⟨-, hto, -, hcapital⟩ := JoinCode.of_mem_alphabet ha
  rw [CodePoint.capital, hcapital] at h
  cases p with
  | surrogate n => cases h
  | scalar c =>
    have hca : c.toUpper = a := CodePoint.scalar.inj h
    have hascii : c.toNat < 128 := by
      refine Nat.not_le.1 fun hc => ?_
      have hkept : c.toUpper = c := by
        refine dif_neg fun hsmall => ?_
        have hlast : c.toNat ≤ 0x7A := hsmall.2
        omega
      rw [← hca, hkept] at hto
      omega
    rw [upperPoint_ascii hascii, CodePoint.capital, hca]

/-! ## Texts -/

/-- Upper-casing does not shorten a text. -/
theorem length_le_length_upper (t : Text) : t.length ≤ t.upper.length := by
  induction t with
  | nil => exact Nat.le_refl 0
  | cons p t ih =>
    have hp := length_upperPoint_pos p
    rw [upper_cons, List.length_cons, List.length_append]
    omega

/-- A text as long as its upper-case form has a single code point there for each of its own. -/
theorem upperPoint_eq_singleton {t : Text} (h : t.upper.length = t.length) :
    ∀ p ∈ t, ∃ q ∈ t.upper, upperPoint p = [q] := by
  induction t with
  | nil => exact fun p hp => absurd hp List.not_mem_nil
  | cons p t ih =>
    have hp := length_upperPoint_pos p
    have ht := length_le_length_upper t
    rw [upper_cons, List.length_append, List.length_cons] at h
    obtain ⟨q, hq⟩ := List.length_eq_one_iff.1 (show (upperPoint p).length = 1 by omega)
    intro r hr
    rw [upper_cons, hq]
    rcases List.mem_cons.1 hr with rfl | hr
    · exact ⟨q, .head _, hq⟩
    · obtain ⟨q', hq', hr'⟩ := ih (by omega) r hr
      exact ⟨q', .tail _ hq', hr'⟩

/-- Each code point of a text that spells a join code can do so. -/
theorem canSpell_of_upper {t : Text} (hlength : t.length = JoinCode.size)
    (h : JoinCode.Formed t.upper) : ∀ p ∈ t, p.CanSpell := by
  intro p hp
  obtain ⟨q, hq, hform⟩ := upperPoint_eq_singleton (h.length.trans hlength.symm) p hp
  obtain ⟨a, ha, rfl⟩ := h.letters q hq
  exact canSpell_of_upperPoint ha hform

/-- A spelling of a join code with some of its letters small has the code as its upper-case form. -/
theorem upper_of_sameButCase {t code : Text}
    (hcode : ∀ p ∈ code, ∃ c ∈ JoinCode.alphabet, p = .scalar c) (h : t.SameButCase code) :
    t.upper = code := by
  induction code generalizing t with
  | nil => rw [List.map_eq_nil_iff.1 h, upper_nil]
  | cons q code ih =>
    obtain ⟨p, t, rfl, hp, ht⟩ := List.map_eq_cons_iff.1 h
    obtain ⟨a, ha, rfl⟩ := hcode q (.head _)
    rw [upper_cons, upperPoint_of_capital ha hp, ih (fun p hp => hcode p (.tail _ hp)) ht,
      List.singleton_append]

/-- Texts that differ in case alone have the same length. -/
theorem SameButCase.length_eq {t u : Text} (h : t.SameButCase u) : t.length = u.length := by
  have hlength := congrArg List.length h
  rwa [List.length_map, List.length_map] at hlength

end Text

end GameLobby
