import GameLobby.Proofs.Capitals
import GameLobby.Json
import GameLobby.Script

/-!
# A generator of join codes

A generator draws candidates and asks an oracle about each until one is free or a number of attempts
is used up. An oracle is a sequence of answers (`Oracle`), and a generator may be called any number
of times, also after a call that has failed (`Script.calls`). `Oracle.CallOutcome` lists the ways in
which one call can end. Whatever is drawn is asked about at once, so the questions asked by all
calls so far count the blocks of entropy and the answers that are used up: a call begins where the
one before it has ended (`Oracle.Calls`), and nothing is used twice or passed over.
-/

namespace GameLobby

open Program

/-! ## Sequencing on a script -/

namespace Program

variable {α β γ : Type}

theorem bind_done (p : Program α) : p.bind (fun a => done (.ok a)) = p := by
  induction p with
  | done result => cases result <;> rfl
  | draw next ih => exact congrArg draw (funext ih)
  | ask q next ih => exact congrArg (ask q) (funext ih)

theorem bind_assoc (p : Program α) (f : α → Program β) (g : β → Program γ) :
    (p.bind f).bind g = p.bind fun a => (f a).bind g := by
  induction p with
  | done result => cases result <;> rfl
  | draw next ih => exact congrArg draw (funext ih)
  | ask q next ih => exact congrArg (ask q) (funext ih)

instance : LawfulMonad Program :=
  LawfulMonad.mk' Program bind_done (fun _ _ => rfl) bind_assoc

end Program

namespace Script

variable {α β : Type} (s : Script) (trace : List Event) (e : Entropy)

/-- What follows a program runs behind it if it ends well, and not at all otherwise. -/
theorem runProgram_bind (p : Program α) (f : α → Program β) :
    s.runProgram (p >>= f) trace e =
      match s.runProgram p trace e with
      | (.ok a, trace, e) => s.runProgram (f a) trace e
      | (.error f, trace, e) => (.error f, trace, e) := by
  change s.runProgram (p.bind f) trace e = _
  induction p generalizing trace e with
  | done result => cases result <;> rfl
  | draw next ih => exact ih _ _ _
  | ask q next ih =>
    simp only [Program.bind, Script.runProgram]
    cases s.tell trace q with
    | answers a => exact ih _ _ _
    | fails f => exact ih _ _ _
    | hangs => rfl

/-- Calls of a generator one after another, behind the events so far: their results, the events and
the entropy that is left. A call that fails does not keep the next one from being made. -/
def calls (maxRetries : Int) :
    (n : Nat) → List Event → Entropy → List (Except Failure Text) × List Event × Entropy
  | 0, trace, e => ([], trace, e)
  | n + 1, trace, e =>
    let (r, trace, e) := s.runProgram (claimCode maxRetries) trace e
    let (rs, trace, e) := calls maxRetries n trace e
    (r :: rs, trace, e)

end Script

/-- Claiming a code is a search with as many attempts as there may be. -/
theorem Program.claimCode_of_pos {maxRetries : Int} (h : 1 ≤ maxRetries) :
    claimCode maxRetries = claimFrom maxRetries.toNat maxRetries.toNat := by
  rw [claimCode, attempts, if_neg (Int.not_lt.2 h)]
  rfl

/-- Claiming several codes is claiming one code several times. -/
theorem Program.claimCodes_of_pos {maxRetries : Int} (h : 1 ≤ maxRetries) (n : Nat) :
    claimCodes maxRetries n = (List.replicate n ()).mapM fun _ => claimCode maxRetries := by
  rw [claimCodes, claimCode_of_pos h, attempts, if_neg (Int.not_lt.2 h)]
  rfl

/-- Claiming several codes makes the calls up to the first one that fails. -/
theorem Script.runProgram_claimCodes (s : Script) {maxRetries : Int} (h : 1 ≤ maxRetries) (n : Nat)
    (trace : List Event) (e : Entropy) :
    ∃ m ≤ n, s.runProgram (claimCodes maxRetries n) trace e =
        ((s.calls maxRetries m trace e).1.mapM id, (s.calls maxRetries m trace e).2) ∧
      (m = n ∨ ∃ f, (s.calls maxRetries m trace e).1.mapM id = .error f) := by
  rw [claimCodes_of_pos h]
  induction n generalizing trace e with
  | zero => exact ⟨0, Nat.le_refl 0, rfl, .inl rfl⟩
  | succ n ih =>
    rw [List.replicate_succ, List.mapM_cons, runProgram_bind]
    cases hcall : s.runProgram (claimCode maxRetries) trace e with | mk r rest =>
    obtain ⟨trace', e'⟩ := rest
    cases r with
    | error f =>
      have hone : s.calls maxRetries 1 trace e = ([.error f], trace', e') := by
        simp only [calls, hcall]
      refine ⟨1, Nat.succ_le_succ (Nat.zero_le n), ?_⟩
      rw [hone]
      exact ⟨rfl, .inr ⟨f, rfl⟩⟩
    | ok code =>
      obtain ⟨m, hm, hrun, hend⟩ := ih trace' e'
      have hmore : s.calls maxRetries (m + 1) trace e =
          (.ok code :: (s.calls maxRetries m trace' e').1, (s.calls maxRetries m trace' e').2) := by
        simp only [calls, hcall]
      refine ⟨m + 1, Nat.succ_le_succ hm, ?_⟩
      dsimp only
      rw [hmore, runProgram_bind, hrun, List.mapM_cons]
      cases hcodes : (s.calls maxRetries m trace' e').1.mapM id with
      | error f => exact ⟨rfl, .inr ⟨f, rfl⟩⟩
      | ok codes =>
        refine ⟨rfl, .inl ?_⟩
        rcases hend with rfl | ⟨f, hf⟩
        · rfl
        · rw [hcodes] at hf
          cases hf

/-! ## Oracles -/

/-- An oracle: its answers to one question after another, each a value or a failure, and which
values say that a code is in use. -/
structure Oracle (Value : Type) where
  affirms : Value → Bool
  answer : Nat → Except Failure Value

namespace Oracle

variable {Value : Type}

/-- What the question with a number is told: whether the code is in use, or a failure. -/
def reply (o : Oracle Value) (n : Nat) : Except Failure Bool :=
  (o.answer n).map o.affirms

/-- The store whose only answers are those of the oracle, in their order. -/
def script (o : Oracle Value) : Script where
  tell past q := match q with
    | .codeExists _ =>
      match o.reply past.length with
      | .ok taken => .answers taken
      | .error f => .fails f
    | _ => .hangs
  tellDetail _ _ := .hangs

/-- The questions about a number of candidates. -/
def questions (e : Entropy) (n : Nat) : List Event :=
  (List.range n).map fun i => .asked (.codeExists (JoinCode.candidate e i))

/-- The ways in which a call can end that begins behind a number of questions: its result, and how
many questions it asks. -/
inductive CallOutcome (o : Oracle Value) (e : Entropy) (attempts before : Nat) :
    Except Failure Text → Nat → Prop
  | found (k : Nat) (inTime : k < attempts) (taken : ∀ i < k, o.reply (before + i) = .ok true)
      (free : o.reply (before + k) = .ok false) :
      CallOutcome o e attempts before (.ok (JoinCode.candidate e (before + k))) (k + 1)
  | failed (k : Nat) (inTime : k < attempts) (taken : ∀ i < k, o.reply (before + i) = .ok true)
      (f : Failure) (fails : o.answer (before + k) = .error f) :
      CallOutcome o e attempts before (.error (.refused (lookupFailed f))) (k + 1)
  | allTaken (taken : ∀ i < attempts, o.reply (before + i) = .ok true) :
      CallOutcome o e attempts before (.error (.refused (Program.allTaken attempts))) attempts

/-- Calls one after another, from a number of questions to another: each begins where the one before
it has ended. -/
inductive Calls (o : Oracle Value) (e : Entropy) (attempts : Nat) :
    Nat → List (Except Failure Text) → Nat → Prop
  | nil (before : Nat) : Calls o e attempts before [] before
  | cons {before asked after : Nat} {r : Except Failure Text} {rs : List (Except Failure Text)}
      (call : o.CallOutcome e attempts before r asked)
      (rest : Calls o e attempts (before + asked) rs after) :
      Calls o e attempts before (r :: rs) after

section
variable (o : Oracle Value) (e : Entropy) {attempts before : Nat}

/-! ## One question -/

@[simp] theorem length_questions (n : Nat) : (questions e n).length = n := by
  simp [questions]

/-- One more question is about the next candidate. -/
theorem questions_succ (n : Nat) :
    questions e (n + 1) = questions e n ++ [.asked (.codeExists (JoinCode.candidate e n))] := by
  simp [questions, List.range_succ]

/-- Behind a number of questions, what is drawn next is the candidate with that number, and the
question about it is told the answer with that number. -/
theorem runProgram_draw_ask {α : Type} (next : Text → Except Failure Bool → Program α) (n : Nat) :
    o.script.runProgram (draw fun code => ask (.codeExists code) (next code)) (questions e n)
        (e.drop (JoinCode.size * n)) =
      o.script.runProgram (next (JoinCode.candidate e n) (o.reply n)) (questions e (n + 1))
        (e.drop (JoinCode.size * (n + 1))) := by
  have hdraw : JoinCode.random JoinCode.size (e.drop (JoinCode.size * n)) =
      (JoinCode.candidate e n, e.drop (JoinCode.size * (n + 1))) := by
    rw [JoinCode.random_eq, JoinCode.candidate_drop_mul, Entropy.drop_drop, Nat.mul_succ,
      Nat.add_zero]
  have htold : o.script.tell (questions e n) (.codeExists (JoinCode.candidate e n)) =
      match o.reply n with
      | .ok taken => .answers taken
      | .error f => .fails f := by
    simp only [script, length_questions]
  rw [Script.runProgram, hdraw, questions_succ]
  dsimp only
  rw [Script.runProgram, htold]
  cases o.reply n <;> rfl

/-- The search goes on behind candidates that are in use. -/
theorem runProgram_claimFrom_taken (attempts : Nat) {k : Nat} (left : Nat)
    (taken : ∀ i < k, o.reply (before + i) = .ok true) :
    o.script.runProgram (claimFrom attempts (left + k)) (questions e before)
        (e.drop (JoinCode.size * before)) =
      o.script.runProgram (claimFrom attempts left) (questions e (before + k))
        (e.drop (JoinCode.size * (before + k))) := by
  induction k generalizing left with
  | zero => rfl
  | succ k ih =>
    have hleft : left + (k + 1) = left + 1 + k := by omega
    rw [hleft, ih (left + 1) fun i hi => taken i (Nat.lt_succ_of_lt hi), claimFrom,
      runProgram_draw_ask, taken k (Nat.lt_succ_self k)]
    rfl

/-! ## One call -/

/-- A call that ends in one of the ways does so. -/
theorem CallOutcome.run {r : Except Failure Text} {asked : Nat}
    (h : o.CallOutcome e attempts before r asked) :
    o.script.runProgram (claimFrom attempts attempts) (questions e before)
        (e.drop (JoinCode.size * before)) =
      (r, questions e (before + asked), e.drop (JoinCode.size * (before + asked))) := by
  cases h with
  | found k inTime taken free =>
    obtain ⟨left, hleft⟩ : ∃ left, attempts = left + 1 + k := ⟨attempts - (k + 1), by omega⟩
    have hrun := runProgram_claimFrom_taken o e attempts (left + 1) taken
    rw [← hleft, claimFrom, runProgram_draw_ask, free] at hrun
    exact hrun
  | failed k inTime taken f fails =>
    obtain ⟨left, hleft⟩ : ∃ left, attempts = left + 1 + k := ⟨attempts - (k + 1), by omega⟩
    have hreply : o.reply (before + k) = .error f := by rw [reply, fails]; rfl
    have hrun := runProgram_claimFrom_taken o e attempts (left + 1) taken
    rw [← hleft, claimFrom, runProgram_draw_ask, hreply] at hrun
    exact hrun
  | allTaken taken =>
    have hrun := runProgram_claimFrom_taken o e attempts 0 taken
    rw [Nat.zero_add] at hrun
    rw [hrun]
    rfl

/-- Every call ends in one of the ways. -/
theorem CallOutcome.total (attempts before : Nat) :
    ∃ r asked, o.CallOutcome e attempts before r asked := by
  rcases forall_or_first (fun i => o.reply (before + i) = .ok true) attempts with
    taken | ⟨k, inTime, stop, taken⟩
  · exact ⟨_, _, .allTaken taken⟩
  · cases hanswer : o.answer (before + k) with
    | error f => exact ⟨_, _, .failed k inTime taken f hanswer⟩
    | ok v =>
      have hreply : o.reply (before + k) = .ok (o.affirms v) := by rw [reply, hanswer]; rfl
      have hfree : o.reply (before + k) = .ok false := by
        rw [hreply] at stop ⊢
        simpa using stop
      exact ⟨_, _, .found k inTime taken hfree⟩

/-! ## Calls one after another -/

/-- Calls begin where the ones before them have ended. -/
theorem calls_run {maxRetries : Int} (h : 1 ≤ maxRetries) (n before : Nat) :
    ∃ after rs, o.Calls e maxRetries.toNat before rs after ∧ rs.length = n ∧
      o.script.calls maxRetries n (questions e before) (e.drop (JoinCode.size * before)) =
        (rs, questions e after, e.drop (JoinCode.size * after)) := by
  induction n generalizing before with
  | zero => exact ⟨before, [], .nil before, rfl, rfl⟩
  | succ n ih =>
    obtain ⟨r, asked, hcall⟩ := CallOutcome.total o e maxRetries.toNat before
    obtain ⟨after, rs, hrest, hlength, hrun⟩ := ih (before + asked)
    refine ⟨after, r :: rs, .cons hcall hrest, congrArg Nat.succ hlength, ?_⟩
    rw [Script.calls, claimCode_of_pos h, hcall.run]
    dsimp only
    rw [hrun]

end

/-- The characters of a candidate are those of the alphabet with the numbers of the bytes in its
block, modulo the size of the alphabet. -/
theorem getElem?_candidate (e : Entropy) (i : Nat) {j : Nat} (hj : j < JoinCode.size) :
    (JoinCode.candidate e i)[j]? =
      (JoinCode.alphabet[e.byte (JoinCode.size * i + j) % 36]?).map .scalar := by
  have hletter : e.byte (JoinCode.size * i + j) % 36 < JoinCode.alphabet.length := by
    rw [JoinCode.length_alphabet]
    exact Nat.mod_lt _ (by decide)
  simp [JoinCode.candidate, JoinCode.letter, hj, List.getElem?_eq_getElem hletter]

/-- However often a generator that allows at least one attempt is called, and whatever the oracle
answers, each call ends as it should (`CallOutcome`) and begins with the candidate, and with the
answer, behind those of the calls before it. The questions are about the blocks of entropy in their
order, and all of the entropy that has been drawn is in these. Claiming several codes at once is the
same up to the first call that fails. -/
theorem calls_exact (o : Oracle Value) (e : Entropy) {maxRetries : Int} (h : 1 ≤ maxRetries)
    (n : Nat) :
    (∃ asked rs, o.Calls e maxRetries.toNat 0 rs asked ∧ rs.length = n ∧
      o.script.calls maxRetries n [] e =
        (rs, questions e asked, e.drop (JoinCode.size * asked))) ∧
    (∀ i, JoinCode.Formed (JoinCode.candidate e i) ∧ ∀ j < JoinCode.size,
      (JoinCode.candidate e i)[j]? =
        (JoinCode.alphabet[e.byte (JoinCode.size * i + j) % 36]?).map .scalar) ∧
    ∃ m ≤ n, o.script.runProgram (claimCodes maxRetries n) [] e =
        ((o.script.calls maxRetries m [] e).1.mapM id, (o.script.calls maxRetries m [] e).2) ∧
      (m = n ∨ ∃ f, (o.script.calls maxRetries m [] e).1.mapM id = .error f) := by
  refine ⟨?_, fun i => ⟨JoinCode.formed_candidate e i, fun j hj => getElem?_candidate e i hj⟩,
    o.script.runProgram_claimCodes h n [] e⟩
  obtain ⟨asked, rs, hcalls, hlength, hrun⟩ := calls_run o e h n 0
  rw [Nat.mul_zero, Entropy.drop_zero] at hrun
  exact ⟨asked, rs, hcalls, hlength, hrun⟩

/-- Four calls of a generator with two attempts: the second candidate is free, the look-up fails,
both candidates are in use, and the first candidate is free. Together they ask six questions. -/
theorem calls_exact_four :
    let answers : List (Except Failure Json) :=
      [.ok (.str "x"), .ok .null, .error (.disconnected "lost"), .ok (.int 1), .ok (.bool true)]
    let o : Oracle Json := ⟨Json.isTruthy, fun n => answers[n]?.getD (.ok (.int 0))⟩
    let e : Entropy := ⟨[], 0⟩
    (1 : Int) ≤ 2 ∧
    ∃ rs, o.Calls e 2 0 rs 6 ∧
      rs.map Except.toOption =
        [some (JoinCode.candidate e 1), none, none, some (JoinCode.candidate e 5)] ∧
      o.script.calls 2 4 [] e = (rs, questions e 6, e.drop (JoinCode.size * 6)) := by
  intro answers o e
  obtain ⟨⟨asked, rs, hcalls, -, hrun⟩, -⟩ := calls_exact o e (show (1 : Int) ≤ 2 by decide) 4
  have hresults : (o.script.calls 2 4 [] e).1.map Except.toOption =
      [some (JoinCode.candidate e 1), none, none, some (JoinCode.candidate e 5)] := by
    decide +kernel
  have hlength : (o.script.calls 2 4 [] e).2.1.length = 6 := by decide +kernel
  rw [hrun] at hresults hlength
  obtain rfl : asked = 6 := by simpa using hlength
  exact ⟨by decide, rs, hcalls, hresults, hrun⟩

end Oracle

end GameLobby
