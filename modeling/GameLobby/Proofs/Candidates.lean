import GameLobby.Proofs.Running

/-!
# Candidates for a join code

Entropy is a stream of bytes (`Entropy.byte`): those laid out in advance, and the filler behind
them. The candidates for a join code are the blocks of six of it, one after another
(`JoinCode.candidate`). The search for a free code finds the first of them that no lobby has, if it
comes in time (`Tables.freeCode_of_first`), and has drawn all blocks up to that one and no byte
beyond.
-/

namespace GameLobby

namespace Entropy

/-- The byte with a number; the next one has the number zero. -/
def byte (e : Entropy) (n : Nat) : Nat :=
  e.bytes.getD n (filler (e.drawn + (n - e.bytes.length)))

/-- The source after a number of bytes. -/
def drop (e : Entropy) (n : Nat) : Entropy :=
  ⟨e.bytes.drop n, e.drawn + (n - e.bytes.length)⟩

@[simp] theorem drop_zero (e : Entropy) : e.drop 0 = e := by
  simp [drop]

/-- A draw gives the byte in front and passes over it. -/
theorem next_eq (e : Entropy) : e.next = (e.byte 0, e.drop 1) := by
  obtain ⟨bytes, drawn⟩ := e
  cases bytes with
  | nil => rfl
  | cons b bytes => simp [next, byte, drop]

theorem drop_drop (e : Entropy) (m n : Nat) : (e.drop m).drop n = e.drop (m + n) := by
  have hdrawn : e.drawn + (m - e.bytes.length) + (n - (e.bytes.length - m)) =
      e.drawn + (m + n - e.bytes.length) := by omega
  simp [drop, hdrawn]

/-- Behind bytes that have been passed over, the others stand as they stood, and behind those laid
out in advance the filler goes on. -/
theorem byte_drop (e : Entropy) (m n : Nat) : (e.drop m).byte n = e.byte (m + n) := by
  simp only [byte, drop, List.getD_eq_getElem?_getD, List.getElem?_drop, List.length_drop]
  by_cases h : m + n < e.bytes.length
  · rw [List.getElem?_eq_getElem h]
    rfl
  · have hdrawn : e.drawn + (m - e.bytes.length) + (n - (e.bytes.length - m)) =
        e.drawn + (m + n - e.bytes.length) := by omega
    rw [List.getElem?_eq_none (Nat.not_lt.1 h), hdrawn]

/-- Drawing a number of bytes gives those with the next numbers. -/
theorem take_eq (n : Nat) (e : Entropy) : e.take n = ((List.range n).map e.byte, e.drop n) := by
  induction n generalizing e with
  | zero => simp [take]
  | succ n ih =>
    have hbytes : (List.range n).map (e.drop 1).byte = (List.range n).map fun i => e.byte (i + 1) :=
      List.map_congr_left fun i _ => by rw [byte_drop, Nat.add_comm]
    rw [take, next_eq]
    dsimp only
    rw [ih, drop_drop, hbytes, List.range_succ_eq_map, List.map_cons, List.map_map, Nat.add_comm]
    rfl

end Entropy

/-- The candidate with a number: the code of the bytes in a block of the stream. -/
def JoinCode.candidate (e : Entropy) (i : Nat) : Text :=
  (List.range size).map fun j => .scalar (letter (e.byte (size * i + j)))

/-- A candidate is drawn as the next block. -/
theorem JoinCode.random_eq (e : Entropy) : random size e = (candidate e 0, e.drop size) := by
  rw [random, Entropy.take_eq]
  simp [candidate, Function.comp_def]

/-- The candidates behind a number of others. -/
theorem JoinCode.candidate_drop_mul (e : Entropy) (n i : Nat) :
    candidate (e.drop (size * n)) i = candidate e (n + i) := by
  have hbyte : ∀ j, (e.drop (size * n)).byte (size * i + j) = e.byte (size * (n + i) + j) := by
    intro j
    rw [Entropy.byte_drop, Nat.mul_add, Nat.add_assoc]
  simp only [candidate, hbyte]

/-- The candidates behind the first one. -/
theorem JoinCode.candidate_drop (e : Entropy) (i : Nat) :
    candidate (e.drop size) i = candidate e (i + 1) := by
  rw [Nat.add_comm i 1]
  exact candidate_drop_mul e 1 i

/-- Of the first numbers, all have a property or one is the first without it. -/
theorem forall_or_first (p : Nat → Prop) (n : Nat) :
    (∀ i < n, p i) ∨ ∃ k < n, ¬ p k ∧ ∀ i < k, p i := by
  induction n with
  | zero => exact .inl fun i hi => absurd hi (Nat.not_lt_zero i)
  | succ n ih =>
    rcases ih with hall | ⟨k, hk, hfirst⟩
    · by_cases hn : p n
      · refine .inl fun i hi => ?_
        rcases Nat.lt_succ_iff_lt_or_eq.1 hi with hi | rfl
        · exact hall i hi
        · exact hn
      · exact .inr ⟨n, Nat.lt_succ_self n, hn, hall⟩
    · exact .inr ⟨k, Nat.lt_succ_of_lt hk, hfirst⟩

namespace Tables

/-- A lobby has a join code. -/
def Uses (t : Tables) (code : Text) : Prop :=
  ∃ l ∈ t.lobbies, l.joinCode = code

instance (t : Tables) (code : Text) : Decidable (t.Uses code) :=
  inferInstanceAs (Decidable (∃ l ∈ t.lobbies, l.joinCode = code))

/-- A code is in use if the question for its lobby finds one. -/
theorem uses_iff {t : Tables} {code : Text} : t.Uses code ↔ (t.lobbyByCode? code).isSome := by
  simp [Uses, lobbyByCode?]

/-- The candidate with a number is the first one that no lobby has. -/
structure FirstFree (t : Tables) (e : Entropy) (k : Nat) : Prop where
  free : ¬ t.Uses (JoinCode.candidate e k)
  taken : ∀ i < k, t.Uses (JoinCode.candidate e i)

/-- Among a number of candidates one is the first that no lobby has, unless lobbies have all of
them. -/
theorem taken_or_firstFree (t : Tables) (e : Entropy) (n : Nat) :
    (∀ i < n, t.Uses (JoinCode.candidate e i)) ∨ ∃ k < n, t.FirstFree e k := by
  refine (forall_or_first _ n).imp_right ?_
  rintro ⟨k, hk, hfree, htaken⟩
  exact ⟨k, hk, hfree, htaken⟩

section
variable {t : Tables} {n : Nat} {e : Entropy}

/-- One step of the search. -/
theorem freeCode_succ (t : Tables) (n : Nat) (e : Entropy) :
    t.freeCode (n + 1) e =
      if t.Uses (JoinCode.candidate e 0) then t.freeCode n (e.drop JoinCode.size)
      else (some (JoinCode.candidate e 0), e.drop JoinCode.size) := by
  rw [freeCode, JoinCode.random_eq]
  simp only [← uses_iff]

/-- Where lobbies have all candidates, the search ends without a code. -/
theorem freeCode_of_taken (h : ∀ i < n, t.Uses (JoinCode.candidate e i)) :
    t.freeCode n e = (none, e.drop (JoinCode.size * n)) := by
  induction n generalizing e with
  | zero => simp [freeCode]
  | succ n ih =>
    have hrest : ∀ i < n, t.Uses (JoinCode.candidate (e.drop JoinCode.size) i) := by
      intro i hi
      rw [JoinCode.candidate_drop]
      exact h (i + 1) (Nat.succ_lt_succ hi)
    rw [freeCode_succ, if_pos (h 0 (Nat.succ_pos n)), ih hrest, Entropy.drop_drop, Nat.mul_succ,
      Nat.add_comm]

/-- The first candidate that no lobby has is found, if it comes in time. -/
theorem freeCode_of_first {k : Nat} (h : t.FirstFree e k) (hk : k < n) :
    t.freeCode n e = (some (JoinCode.candidate e k), e.drop (JoinCode.size * (k + 1))) := by
  induction n generalizing e k with
  | zero => cases hk
  | succ n ih =>
    rw [freeCode_succ]
    cases k with
    | zero => rw [if_neg h.free, Nat.zero_add, Nat.mul_one]
    | succ k =>
      have hrest : t.FirstFree (e.drop JoinCode.size) k := by
        refine ⟨?_, fun i hi => ?_⟩
        · rw [JoinCode.candidate_drop]
          exact h.free
        · rw [JoinCode.candidate_drop]
          exact h.taken (i + 1) (Nat.succ_lt_succ hi)
      rw [if_pos (h.taken 0 (Nat.succ_pos k)), ih hrest (Nat.lt_of_succ_lt_succ hk),
        Entropy.drop_drop, JoinCode.candidate_drop, Nat.mul_succ _ (k + 1),
        Nat.add_comm (JoinCode.size * (k + 1))]

end

end Tables

end GameLobby
