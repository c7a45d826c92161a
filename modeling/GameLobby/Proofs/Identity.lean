import GameLobby.Http.Identity
import GameLobby.Proofs.Capitals
import GameLobby.Proofs.Spellings

/-!
# The identity headers

Which header is meant does not depend on the case of its name (`Http.header?_eq_of_firstNamed`), and
which caller two headers name is told by two questions: which identifier the one spells, and what is
left of the other without the blanks around it (`Http.caller_eq_ok_iff`). From them follows that
every caller can be named by headers, in many ways, and that every caller that headers name can be
named in the plainest way (`Http.identity_round_trips`).
-/

namespace GameLobby

namespace Text

/-- A text of ASCII characters. -/
def Ascii (t : Text) : Prop :=
  ∀ p ∈ t, p.value < 0x80

instance (t : Text) : Decidable t.Ascii :=
  inferInstanceAs (Decidable (∀ p ∈ t, p.value < 0x80))

instance (t u : Text) : Decidable (t.SameButCase u) :=
  inferInstanceAs (Decidable (t.map CodePoint.capital = u.map CodePoint.capital))

/-- A text that neither starts nor ends with a code point of a class. -/
structure Trimmed (blank : CodePoint → Bool) (t : Text) : Prop where
  start : ∀ p ∈ t.head?, blank p = false
  ending : ∀ p ∈ t.getLast?, blank p = false

/-- The number of a capital letter of ASCII. -/
theorem toNat_toUpper (c : Char) :
    c.toUpper.toNat = if 0x61 ≤ c.toNat ∧ c.toNat ≤ 0x7A then c.toNat - 0x20 else c.toNat := by
  split
  · next h =>
    have hall := forall_of_toNat_lt (b := 0x7B)
      (P := fun c => 0x61 ≤ c.toNat → c.toUpper.toNat = c.toNat - 0x20) (by decide +kernel)
    exact hall c (Nat.lt_succ_of_le h.2) h.1
  · next h => exact congrArg Char.toNat (dif_neg h)

/-- Texts differ in case only if they do so character by character. -/
theorem sameButCase_cons_iff {p q : CodePoint} {t u : Text} :
    SameButCase (p :: t) (q :: u) ↔ p.capital = q.capital ∧ SameButCase t u := by
  simp [SameButCase]

section
variable {blank : CodePoint → Bool} {t : Text}

/-- What is trimmed off a text is gone. -/
theorem trimmed_trim (blank : CodePoint → Bool) (t : Text) : (t.trim blank).Trimmed blank := by
  constructor
  · intro p hp
    obtain ⟨rest, hrest⟩ : t.trim blank <+: t.dropWhile blank := by
      rw [← List.reverse_suffix, trim, List.reverse_reverse]
      exact List.dropWhile_suffix blank
    have hstart : (t.dropWhile blank).head? = some p := by
      rw [← hrest, List.head?_append, Option.mem_def.1 hp, Option.some_or]
    have hnot := List.head?_dropWhile_not blank t
    rw [hstart] at hnot
    exact hnot
  · intro p hp
    have hnot := List.head?_dropWhile_not blank (t.dropWhile blank).reverse
    rw [Option.mem_def, trim, List.getLast?_reverse] at hp
    rw [hp] at hnot
    exact hnot

/-- Trimming brings a text back from among blanks. -/
theorem Trimmed.trim_surrounded {front back : Text} (h : t.Trimmed blank) (hne : t ≠ [])
    (hfront : ∀ p ∈ front, blank p = true) (hback : ∀ p ∈ back, blank p = true) :
    (front ++ t ++ back).trim blank = t :=
  dropWhile_surrounded hne hfront hback h.start h.ending

end

end Text

namespace Http

/-! ## Names of headers -/

/-- The number of a small letter, for the first 256 characters. -/
theorem toNat_lowerChar (c : Char) : (lowerChar c).toNat =
    if (0x41 ≤ c.toNat ∧ c.toNat ≤ 0x5A) ∨ (0xC0 ≤ c.toNat ∧ c.toNat ≤ 0xDE ∧ c.toNat ≠ 0xD7) then
      c.toNat + 0x20 else c.toNat := by
  rw [lowerChar]
  split
  · next h =>
    have hvalid : (c.toNat + 0x20).isValidChar := .inl (by omega)
    rw [Char.ofNat, dif_pos hvalid]
    rfl
  · rfl

/-- A character is told from an ASCII character in lower case just if it is in upper case. -/
theorem lowerChar_eq_iff {c d : Char} (hascii : d.toNat < 0x80) :
    lowerChar c = lowerChar d ↔ c.toUpper = d.toUpper := by
  rw [← Char.toNat_inj, ← Char.toNat_inj, toNat_lowerChar, toNat_lowerChar, Text.toNat_toUpper,
    Text.toNat_toUpper]
  split_ifs <;> omega

/-- Texts in lower case are compared character by character. -/
theorem lower_cons_eq_iff {p q : CodePoint} {t u : Text} :
    lower (p :: t) = lower (q :: u) ↔ lower [p] = lower [q] ∧ lower t = lower u := by
  simp [lower]

/-- A code point is told from an ASCII character in lower case just if it is in upper case. -/
theorem lower_singleton_eq_iff {p q : CodePoint} (hascii : q.value < 0x80) :
    lower [p] = lower [q] ↔ p.capital = q.capital := by
  cases q with
  | surrogate m =>
    have hhigh : 0xD800 + m.val < 0x80 := hascii
    omega
  | scalar d =>
    cases p with
    | surrogate n => simp [lower, CodePoint.capital]
    | scalar c => simp [lower, CodePoint.capital, lowerChar_eq_iff hascii]

/-- Names of headers are compared without regard to the case of letters. -/
theorem lower_eq_iff {t name : Text} (hascii : name.Ascii) :
    lower t = lower name ↔ t.SameButCase name := by
  induction name generalizing t with
  | nil => simp [lower, Text.SameButCase]
  | cons q name ih =>
    cases t with
    | nil => simp [lower, Text.SameButCase]
    | cons p t =>
      rw [lower_cons_eq_iff, lower_singleton_eq_iff (hascii q (.head _)),
        ih fun q hq => hascii q (.tail _ hq), Text.sameButCase_cons_iff]

/-- The first header of a name, whatever the case of its letters, has a value. -/
inductive FirstNamed (name value : Text) : Headers → Prop
  | here {given : Text} {rest : Headers} (named : given.SameButCase name) :
      FirstNamed name value ((given, value) :: rest)
  | later {given other : Text} {rest : Headers} (unnamed : ¬ given.SameButCase name)
      (first : FirstNamed name value rest) : FirstNamed name value ((given, other) :: rest)

/-- The first header of a name is the one that is found. -/
theorem header?_eq_of_firstNamed {headers : Headers} {name value : Text} (hascii : name.Ascii)
    (h : FirstNamed name value headers) : header? headers name = some value := by
  induction h with
  | here named =>
    rw [header?, List.find?_cons_of_pos (by simpa using (lower_eq_iff hascii).2 named)]
    rfl
  | later unnamed first ih =>
    rw [header?, List.find?_cons_of_neg (by simpa using mt (lower_eq_iff hascii).1 unnamed)]
    exact ih

/-! ## Callers -/

/-- The form of a user name: one to twenty characters, without a blank at either end. -/
structure IsUsername (name : Text) : Prop where
  nonempty : name ≠ []
  short : name.length ≤ maxNameLength
  trimmed : name.Trimmed isBlankPoint

section
variable {s : Settings} {headers : Headers} {c : Caller}

/-- Headers name a caller if the one spells the identifier and the other has the name among
blanks. -/
theorem caller_eq_ok_iff : caller s headers = .ok c ↔
    looseUuid? ((header? headers s.userIdHeader).getD []) = some c.userId ∧
      ((header? headers s.usernameHeader).getD []).trim isBlankPoint = c.username ∧
      c.username ≠ [] ∧ c.username.length ≤ maxNameLength := by
  rw [caller]
  generalize (header? headers s.userIdHeader).getD [] = userId
  generalize ((header? headers s.usernameHeader).getD []).trim isBlankPoint = name
  constructor
  · intro h
    split at h
    · cases h
    next hgiven =>
    split at h
    · cases h
    next id hid =>
    split at h
    · cases h
    next hshort =>
    cases h
    exact ⟨hid, rfl, (not_or.1 hgiven).2, Nat.not_lt.1 hshort⟩
  · rintro ⟨hid, rfl, hne, hshort⟩
    have hgiven : ¬ (userId = [] ∨ c.username = []) := by
      rintro (rfl | hnil)
      · exact absurd hid nofun
      · exact hne hnil
    rw [if_neg hgiven, hid]
    exact if_neg (Nat.not_lt.2 hshort)

/-- The name of a caller has the form of a user name. -/
theorem isUsername_of_caller (h : caller s headers = .ok c) : IsUsername c.username := by
  obtain ⟨-, hname, hne, hshort⟩ := caller_eq_ok_iff.1 h
  exact ⟨hne, hshort, hname ▸ Text.trimmed_trim isBlankPoint _⟩

/-- A text is read as the identifier that it spells. -/
theorem looseUuid?_spelled {u : Uuid} {spelled : List Char} (h : u.Spells spelled) :
    looseUuid? (spelled.map .scalar) = some u := by
  rw [looseUuid?, Text.toChars?_map_scalar, Option.bind_some, h.ofLooseChars?]

/-- A spelling of an identifier in the one header and a user name among blanks in the other name the
caller. -/
theorem caller_of_firstNamed {u : Uuid} {spelled : List Char} {name front back : Text}
    (hids : s.userIdHeader.Ascii) (hnames : s.usernameHeader.Ascii) (hspelled : u.Spells spelled)
    (hname : IsUsername name) (hfront : ∀ p ∈ front, isBlankPoint p = true)
    (hback : ∀ p ∈ back, isBlankPoint p = true)
    (hid : FirstNamed s.userIdHeader (spelled.map .scalar) headers)
    (hpadded : FirstNamed s.usernameHeader (front ++ name ++ back) headers) :
    caller s headers = .ok ⟨u, name⟩ := by
  rw [caller_eq_ok_iff, header?_eq_of_firstNamed hids hid, header?_eq_of_firstNamed hnames hpadded]
  exact ⟨looseUuid?_spelled hspelled, hname.trimmed.trim_surrounded hname.nonempty hfront hback,
    hname.nonempty, hname.short⟩

end

/--
Identity headers go back and forth. Whatever other headers there are, a spelling of an identifier
and a user name among blanks name exactly the caller of these two; and a caller that any headers
name has an identifier of 128 bits and a user name of the right form, so that the canonical form of
the one and the other as it is name the same caller again.
-/
theorem identity_round_trips {s : Settings} (hids : s.userIdHeader.Ascii)
    (hnames : s.usernameHeader.Ascii) (hdiffer : ¬ s.userIdHeader.SameButCase s.usernameHeader) :
    (∀ (headers : Headers) (u : Uuid) (spelled : List Char) (name front back : Text),
      u.Spells spelled → IsUsername name →
      (∀ p ∈ front, isBlankPoint p = true) → (∀ p ∈ back, isBlankPoint p = true) →
      FirstNamed s.userIdHeader (spelled.map .scalar) headers →
      FirstNamed s.usernameHeader (front ++ name ++ back) headers →
      caller s headers = .ok ⟨u, name⟩) ∧
    ∀ (headers : Headers) (c : Caller), caller s headers = .ok c →
      c.userId.number < Nat.pow 2 128 ∧ IsUsername c.username ∧
      caller s [(s.userIdHeader, c.userId.chars.map .scalar), (s.usernameHeader, c.username)] =
        .ok c := by
  constructor
  · intro headers u spelled name front back hspelled hname hfront hback hid hpadded
    exact caller_of_firstNamed hids hnames hspelled hname hfront hback hid hpadded
  · intro headers c hc
    have hname := isUsername_of_caller hc
    refine ⟨c.userId.isLt, hname, ?_⟩
    have hpadded : FirstNamed s.usernameHeader ([] ++ c.username ++ [])
        [(s.userIdHeader, c.userId.chars.map .scalar), (s.usernameHeader, c.username)] := by
      rw [List.nil_append, List.append_nil]
      exact .later hdiffer (.here rfl)
    exact caller_of_firstNamed hids hnames c.userId.spells_chars hname (List.forall_mem_nil _)
      (List.forall_mem_nil _) (.here rfl) hpadded

/-- An identifier in capital letters and braces, with a second one behind it, and a name with a
blank inside and several around it. -/
theorem identity_round_trips_braced :
    let u : Uuid := .ofNat 0x0123456789ABCDEF0123456789ABCDEF
    let headers : Headers :=
      [("accept", "*/*"), ("x-USERNAME", " \t Ann B\x1c "),
        ("X-USER-ID", "\x7b01234567-89AB-CDEF-0123-456789ABCDEF\x7d"), ("X-User-ID", "0")]
    caller {} headers = .ok ⟨u, "Ann B"⟩ ∧
      caller {} [("X-User-ID", u.chars.map .scalar), ("X-Username", "Ann B")] =
        .ok ⟨u, "Ann B"⟩ := by
  intro u headers
  obtain ⟨hforth, hback⟩ := identity_round_trips (s := {}) (by decide +kernel) (by decide +kernel)
    (by decide +kernel)
  have hdigits : u.Digits "0123456789ABCDEF0123456789ABCDEF".toList := by
    unfold Uuid.Digits
    decide +kernel
  have hcaller : caller {} headers = .ok ⟨u, "Ann B"⟩ := by
    refine hforth headers u _ _ " \t " "\x1c " (.braced (.hyphenated hdigits))
      ⟨by decide +kernel, by decide +kernel, by decide +kernel, by decide +kernel⟩
      (by decide +kernel) (by decide +kernel) ?_ ?_
    · exact .later (by decide +kernel) (.later (by decide +kernel) (.here (by decide +kernel)))
    · exact .later (by decide +kernel) (.here (by decide +kernel))
  exact ⟨hcaller, (hback headers _ hcaller).2.2⟩

end Http

end GameLobby
