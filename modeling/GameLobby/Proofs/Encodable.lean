import GameLobby.Database.Primitive
import GameLobby.JoinCode

/-!
# Texts that can be stored

A text can be stored or compared with a stored one exactly when it has no lone surrogate
(`encodable_iff`). Upper-casing neither makes nor removes a surrogate (`Text.hasSurrogate_upper`),
and a random join code has none.
-/

namespace GameLobby

/-- Whether a text has a lone surrogate. -/
def Text.HasSurrogate (t : Text) : Prop :=
  ∃ n, CodePoint.surrogate n ∈ t

namespace Text

theorem hasSurrogate_nil : ¬ HasSurrogate [] := by
  rintro ⟨n, hn⟩
  cases hn

theorem hasSurrogate_scalar_cons (c : Char) (t : Text) :
    HasSurrogate (.scalar c :: t) ↔ HasSurrogate t := by
  simp [HasSurrogate]

theorem hasSurrogate_surrogate_cons (n : Fin 0x800) (t : Text) :
    HasSurrogate (.surrogate n :: t) :=
  ⟨n, .head _⟩

/-- A surrogate in two texts together is in one of them. -/
theorem hasSurrogate_append (t u : Text) :
    HasSurrogate (t ++ u) ↔ HasSurrogate t ∨ HasSurrogate u := by
  simp only [HasSurrogate, List.mem_append, exists_or]

/-- Scalar values are no surrogates. -/
theorem hasSurrogate_map_scalar (cs : List Char) : ¬ HasSurrogate (cs.map .scalar) := by
  rintro ⟨n, hn⟩
  obtain ⟨c, -, hc⟩ := List.mem_map.1 hn
  cases hc

/-- Upper-casing a text neither makes nor removes a surrogate. -/
theorem hasSurrogate_upper (t : Text) : HasSurrogate t.upper ↔ HasSurrogate t := by
  induction t with
  | nil => rfl
  | cons p t ih =>
    rw [upper_cons, hasSurrogate_append, ih]
    cases p with
    | scalar c =>
      rw [hasSurrogate_scalar_cons]
      exact or_iff_right (hasSurrogate_map_scalar _)
    | surrogate n =>
      exact iff_of_true (.inl (hasSurrogate_surrogate_cons n [])) (hasSurrogate_surrogate_cons n t)

/-- The first run of surrogates is missing only where there are none. -/
theorem firstSurrogates?_eq_none_iff (t : Text) : t.firstSurrogates? = none ↔ ¬ t.HasSurrogate := by
  induction t with
  | nil => exact iff_of_true rfl hasSurrogate_nil
  | cons p t ih =>
    cases p with
    | scalar c =>
      rw [hasSurrogate_scalar_cons, ← ih]
      simp only [firstSurrogates?, List.dropWhile_cons_of_pos]
      split <;> simp
    | surrogate n =>
      refine iff_of_false ?_ (not_not_intro (hasSurrogate_surrogate_cons n t))
      simp [firstSurrogates?]

/-- A text with a surrogate has a first run of them. -/
theorem HasSurrogate.exists_first {t : Text} (h : t.HasSurrogate) :
    ∃ first last point, t.firstSurrogates? = some (first, last, point) := by
  have hne : t.firstSurrogates? ≠ none := fun hnone => t.firstSurrogates?_eq_none_iff.1 hnone h
  obtain ⟨⟨first, last, point⟩, hfirst⟩ := Option.ne_none_iff_exists'.1 hne
  exact ⟨first, last, point, hfirst⟩

end Text

/-- A text can be stored exactly when it has no lone surrogate. -/
theorem encodable_iff (t : Text) : encodable t = .ok () ↔ ¬ t.HasSurrogate := by
  rw [← t.firstSurrogates?_eq_none_iff, encodable]
  split <;> simp_all

/-- A text that can not be stored is reported by its first run of surrogates. -/
theorem encodable_of_firstSurrogates? {t : Text} {first last : Nat} {point : CodePoint}
    (h : t.firstSurrogates? = some (first, last, point)) :
    encodable t = .error (.unencodable first last point) := by
  rw [encodable, h]

/-- A random join code can be stored. -/
theorem JoinCode.encodable_random (n : Nat) (e : Entropy) :
    encodable (JoinCode.random n e).1 = .ok () := by
  have h : (JoinCode.random n e).1 = ((e.take n).1.map JoinCode.letter).map .scalar := by
    simp only [JoinCode.random, List.map_map]
  rw [h, encodable_iff]
  exact Text.hasSurrogate_map_scalar _

end GameLobby
