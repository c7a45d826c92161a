import GameLobby.Database.Service
import GameLobby.Proofs.Draws
import GameLobby.Proofs.Encodable

/-!
# Running programs on a world

Running goes along with sequencing (`World.runProgram_bind_ok`, `World.runProgram_bind_error`), so a
run is followed one question at a time. On a world whose supplies are those of the start after some
draws (`Supply.drawn`), every question has one equation that says what it answers, what it writes
and what it draws. The search for a join code does not depend on the store but through the codes in
use; `Tables.freeCode` is that search on tables alone.
-/

namespace GameLobby

open Program

section
variable {α β : Type} {c : Conditions}

namespace World

/-! ## Mapped results -/

theorem of_map_ok {r : Except Failure α} {g : α → β} {b : β} (h : r.map g = .ok b) :
    ∃ a, r = .ok a ∧ g a = b := by
  cases r with
  | error f => cases h
  | ok a => exact ⟨a, rfl, Except.ok.inj h⟩

theorem of_map_error {r : Except Failure α} {g : α → β} {f : Failure} (h : r.map g = .error f) :
    r = .error f := by
  cases r with
  | error e => exact congrArg _ (Except.error.inj h)
  | ok a => cases h

/-- A list of outcomes that come about, and that leaves no case out, is the list of what comes
about. -/
theorem outcome_iff {Outcome : α → β → Prop} {run : α × β}
    (comes : ∀ {a b}, Outcome a b → run = (a, b)) (total : ∃ a b, Outcome a b) (a : α) (b : β) :
    Outcome a b ↔ run = (a, b) := by
  constructor
  · exact comes
  · intro hrun
    obtain ⟨a₀, b₀, houtcome⟩ := total
    rw [comes houtcome] at hrun
    cases hrun
    exact houtcome

/-! ## Sequencing -/

/-- A program that ends well hands its answer and its world to what follows. -/
theorem runProgram_bind_ok {p : Program α} {f : α → Program β} {w w' : World} {a : α}
    (h : runProgram c p w = (.ok a, w')) :
    runProgram c (p >>= f) w = runProgram c (f a) w' := by
  change runProgram c (p.bind f) w = _
  induction p generalizing w with
  | done result => cases h; rfl
  | draw next ih => exact ih _ h
  | ask q next ih =>
    simp only [Program.bind, runProgram] at h ⊢
    split at h
    · cases h
    · next hc => rw [if_neg hc]; exact ih _ h

/-- A program that fails ends what follows. -/
theorem runProgram_bind_error {p : Program α} {f : α → Program β} {w w' : World} {e : Failure}
    (h : runProgram c p w = (.error e, w')) :
    runProgram c (p >>= f) w = (.error e, w') := by
  change runProgram c (p.bind f) w = _
  induction p generalizing w with
  | done result => cases h; rfl
  | draw next ih => exact ih _ h
  | ask q next ih =>
    simp only [Program.bind, runProgram] at h ⊢
    split at h
    · next hc => rw [if_pos hc]; cases h; rfl
    · next hc => rw [if_neg hc]; exact ih _ h

/-- An answer that is not needed is dropped. -/
theorem runProgram_discard_ok {p : Program α} {w w' : World} {a : α}
    (h : runProgram c p w = (.ok a, w')) : runProgram c (discard p) w = (.ok (), w') :=
  runProgram_bind_ok h

/-- A program whose answer is not needed fails as it would. -/
theorem runProgram_discard_error {p : Program α} {w w' : World} {e : Failure}
    (h : runProgram c p w = (.error e, w')) : runProgram c (discard p) w = (.error e, w') :=
  runProgram_bind_error h

@[simp] theorem runProgram_pure (a : α) (w : World) : runProgram c (pure a) w = (.ok a, w) := rfl

/-- A refusal ends a program where it stands. -/
theorem runProgram_refuse (r : Refusal) (w : World) :
    runProgram c (refuse r : Program α) w = (.error (.refused r), w) :=
  rfl

/-! ## Questions -/

/-- With no table missing, a question is answered. -/
theorem consult_nil (w : World) (q : Query) : w.consult [] q = w.answer q := by
  have h : (w.looksAt q).find? (([] : List Table).contains ·) = none :=
    List.find?_eq_none.2 fun _ _ => by simp
  simp only [consult, h]

/-- A question hands its answer and its world to what follows. -/
theorem runProgram_ask {q : Query} {f : Except Failure q.Reply → Program α} {w w' : World}
    {r : Except Failure q.Reply} (h : w.answer q = (r, w')) :
    runProgram {} (ask q f) w = runProgram {} (f r) w' := by
  rw [runProgram, if_neg Bool.false_ne_true, consult_nil, h]

/-- A program of one question runs as the question is answered. -/
theorem runProgram_query (q : Query) (w : World) : runProgram {} (query q) w = w.answer q :=
  runProgram_ask rfl

/-- Past the deadline the first question of a program ends it. -/
theorem runProgram_ask_expired (h : c.expired = true) (q : Query)
    (f : Except Failure q.Reply → Program α) (w : World) :
    runProgram c (ask q f) w = (.error (.timedOut []), w.spend q) := by
  simp only [runProgram, h, ↓reduceIte]

/-- An answer is handed to what follows. -/
theorem runProgram_query_ok {q : Query} {f : q.Reply → Program α} {w w' : World} {r : q.Reply}
    (h : w.answer q = (.ok r, w')) :
    runProgram {} (query q >>= f) w = runProgram {} (f r) w' :=
  runProgram_bind_ok ((runProgram_query q w).trans h)

/-- A question that fails ends the program. -/
theorem runProgram_query_error {q : Query} {f : q.Reply → Program α} {w w' : World} {e : Failure}
    (h : w.answer q = (.error e, w')) :
    runProgram {} (query q >>= f) w = (.error e, w') :=
  runProgram_bind_error ((runProgram_query q w).trans h)

/-! ## Past the deadline -/

/-- Drawing from the supplies leaves the tables alone. -/
theorem spend_tables (w : World) (q : Query) : (w.spend q).tables = w.tables := by
  unfold spend
  split <;> rfl

/-- Past the deadline no program changes the tables. -/
theorem runProgram_tables_of_expired (h : c.expired = true) (p : Program α) (w : World) :
    (runProgram c p w).2.tables = w.tables := by
  induction p generalizing w with
  | done result => rfl
  | draw next ih => exact ih _ _
  | ask q next ih => rw [runProgram_ask_expired h]; exact spend_tables w q

/-- Past the deadline an operation is stopped at its first question. -/
theorem perform_ask_of_expired (h : c.expired = true) (q : Query)
    (next : Except Failure q.Reply → Program (Closing α)) (w : World) :
    w.perform c (.transact (ask q next)) =
      (.error (.timedOut []), ⟨w.tables, (w.spend q).supply⟩) := by
  rw [perform, runProgram_ask_expired h]
  rfl

/-- Past the deadline no operation changes the tables. -/
theorem perform_tables_of_expired (h : c.expired = true) (op : Operation α) (w : World) :
    (w.perform c op).2.tables = w.tables := by
  cases op with
  | refused r => rfl
  | transact body =>
    have hrun := runProgram_tables_of_expired h body w
    rw [perform]
    split
    · rfl
    · next heq => rw [heq] at hrun; exact hrun

end World

end

/-! ## Free join codes -/

/-- The first of a number of candidates that is not in use, with the entropy behind the candidates
that were drawn. -/
def Tables.freeCode (t : Tables) : Nat → Entropy → Option Text × Entropy
  | 0, e => (none, e)
  | n + 1, e =>
    let drawn := JoinCode.random JoinCode.size e
    if (t.lobbyByCode? drawn.1).isSome then t.freeCode n drawn.2 else (some drawn.1, drawn.2)

/-- A code that is found is not in use. -/
theorem Tables.freeCode_fresh {t : Tables} {n : Nat} {e e' : Entropy} {code : Text}
    (h : t.freeCode n e = (some code, e')) : t.lobbyByCode? code = none := by
  induction n generalizing e with
  | zero => cases h
  | succ n ih =>
    simp only [Tables.freeCode] at h
    split at h
    · exact ih h
    · next hfree => cases h; exact Option.not_isSome_iff_eq_none.1 hfree

/-- A code that is found is a candidate. -/
theorem Tables.freeCode_eq_random {t : Tables} {n : Nat} {e e' : Entropy} {code : Text}
    (h : t.freeCode n e = (some code, e')) : ∃ e₀, code = (JoinCode.random JoinCode.size e₀).1 := by
  induction n generalizing e with
  | zero => cases h
  | succ n ih =>
    simp only [Tables.freeCode] at h
    split at h
    · exact ih h
    · cases h; exact ⟨e, rfl⟩

/-- The search does not look beyond the lobbies. -/
theorem Tables.freeCode_congr {t t' : Tables} (h : t'.lobbies = t.lobbies) (n : Nat) (e : Entropy) :
    t'.freeCode n e = t.freeCode n e := by
  have hcode : ∀ code, t'.lobbyByCode? code = t.lobbyByCode? code := fun code => by
    rw [Tables.lobbyByCode?, h, Tables.lobbyByCode?]
  induction n generalizing e with
  | zero => rfl
  | succ n ih => simp only [Tables.freeCode, hcode, ih]

/-! ## The search for a join code -/

namespace World

/-- A candidate is looked up among the codes in use. -/
theorem answer_codeExists {code : Text} (h : encodable code = .ok ()) (w : World) :
    w.answer (.codeExists code) = (.ok (w.tables.lobbyByCode? code).isSome, w) := by
  simp only [answer, codeExists, h, Except.map]

/-- A candidate is drawn from the bytes at hand. -/
theorem runProgram_draw {α : Type} (next : Text → Program α) (t : Tables) (s : Supply) (a b : Nat)
    (e : Entropy) :
    runProgram {} (draw next) ⟨t, s.drawn a b e⟩ =
      runProgram {} (next (JoinCode.random JoinCode.size e).1)
        ⟨t, s.drawn a b (JoinCode.random JoinCode.size e).2⟩ :=
  rfl

/-- The search for a join code is the one on tables, and draws nothing but entropy. -/
theorem runProgram_claimFrom (t : Tables) (s : Supply) (a b attempts left : Nat) (e : Entropy) :
    runProgram {} (claimFrom attempts left) ⟨t, s.drawn a b e⟩ =
      match t.freeCode left e with
      | (some code, e') => (.ok code, ⟨t, s.drawn a b e'⟩)
      | (none, e') => (.error (.refused (allTaken attempts)), ⟨t, s.drawn a b e'⟩) := by
  induction left generalizing e with
  | zero => rfl
  | succ left ih =>
    have hask := answer_codeExists (JoinCode.encodable_random JoinCode.size e)
      ⟨t, s.drawn a b (JoinCode.random JoinCode.size e).2⟩
    rw [claimFrom, runProgram_draw, runProgram_ask hask, Tables.freeCode]
    cases ht : (t.lobbyByCode? (JoinCode.random JoinCode.size e).1).isSome with
    | false => simp only [Bool.false_eq_true, ↓reduceIte, runProgram_pure]
    | true => simp only [↓reduceIte]; exact ih _

/-- The search for a join code claims the first free candidate, or refuses when the attempts are
used up. -/
theorem runProgram_claimCode (t : Tables) (s : Supply) (a b : Nat) (maxRetries : Int)
    (e : Entropy) :
    runProgram {} (claimCode maxRetries) ⟨t, s.drawn a b e⟩ =
      if maxRetries < 1 then (.error .noAttempts, ⟨t, s.drawn a b e⟩)
      else
        match t.freeCode maxRetries.toNat e with
        | (some code, e') => (.ok code, ⟨t, s.drawn a b e'⟩)
        | (none, e') =>
          (.error (.refused (allTaken maxRetries.toNat)), ⟨t, s.drawn a b e'⟩) := by
  rw [claimCode]
  by_cases h : maxRetries < 1
  · have hn : attempts maxRetries = .error .noAttempts := if_pos h
    rw [if_pos h, hn, runProgram_bind_error rfl]
  · have hn : attempts maxRetries = .ok maxRetries.toNat := if_neg h
    rw [if_neg h, hn, runProgram_bind_ok rfl, runProgram_claimFrom]

end World

end GameLobby
