import GameLobby.Script

/-!
# When a transaction goes wrong

Three things end a transaction on a store that answers as it likes: the store hangs, the store
fails, or a check of the command objects to an answer (`Command.objection`). `Script.trouble` says
for a question behind some events whether one of these happens to it, and what is reported. A
program that attends to that (`Script.Attends`) ends with the first question in trouble and asks
nothing after it.
-/

namespace GameLobby

open Program

/-- Whether an event is the look-up of a candidate for a join code. -/
def Event.isLookup : Event → Bool
  | .asked (.codeExists _) => true
  | _ => false

/-- What the checks of a command object to in an answer. How many candidates have been looked up
before counts where all are taken. -/
def Command.objection (rules : Rules) (past : List Event) :
    Command → (q : Query) → q.Reply → Option Failure
  | .create _ => fun
    | .upsertUser .., _ => if rules.maxRetries < 1 then some .noAttempts else none
    | .codeExists _, taken =>
      if taken ∧ rules.maxRetries ≤ past.countP Event.isLookup + 1 then
        some (.refused (allTaken rules.maxRetries.toNat))
      else none
    | .createLobby .., none => some (.unanswered .newLobby)
    | _, _ => none
  | .join _ _ => fun
    | .lobbyByCode code, none => some (.refused (Operation.noLobbyWith code))
    | .lobbyByCode _, some lobby =>
      if lobby.isJoinable then none else some (.refused RefusalClass.lobbyNotJoinable.refusal)
    | .activeCount _, none => some (.unanswered .activeCount)
    | .activeCount _, some n =>
      if rules.maxPlayers ≤ n then some (.refused (Operation.full rules.maxPlayers)) else none
    | .isActiveMember .., there =>
      if there then some (.refused RefusalClass.alreadyInLobby.refusal) else none
    | _, _ => none
  | .read _ _ => fun
    | .leader _, none => some (.refused RefusalClass.lobbyNotFound.refusal)
    | .hasMembership .., there =>
      if there then none
      else some (.refused (RefusalClass.forbidden.saying "You are not a member of this lobby"))
    | _, _ => none
  | .kick caller _ _ => fun
    | .leader _, none => some (.refused RefusalClass.lobbyNotFound.refusal)
    | .leader _, some leader =>
      if caller.userId = leader then none
      else some (.refused (RefusalClass.forbidden.saying "Only the lobby leader can do this"))
    | .isActiveMember .., there =>
      if there then none else some (.refused RefusalClass.playerNotInLobby.refusal)
    | _, _ => none
  | .setActive _ _ _ => fun
    | .leader _, none => some (.refused RefusalClass.lobbyNotFound.refusal)
    | .isActiveMembership .., there =>
      if there then none else some (.refused RefusalClass.playerNotFound.refusal)
    | .setMemberActive .., there =>
      if there then none else some (.refused RefusalClass.playerNotFound.refusal)
    | _, _ => none

/-- What a failure of the store at a question is reported as. At the look-up of a candidate it is
reported as a failed look-up. -/
def Query.report : Query → Failure → Failure
  | .codeExists _, f => .refused (lookupFailed f)
  | _, f => f

namespace Script

variable {α β : Type} {s : Script} {rules : Rules} {c : Command}

/-- What ends the transaction of a command at a question behind some events, if anything does. -/
def trouble (s : Script) (rules : Rules) (c : Command) (past : List Event) (q : Query) :
    Option Failure :=
  match s.tell past q with
  | .answers a => c.objection rules past q a
  | .fails f => some (q.report f)
  | .hangs => some expired

/-- A transaction has begun, and none of the questions that it has asked is in trouble. -/
structure Smooth (s : Script) (rules : Rules) (c : Command) (trace : List Event) : Prop where
  opened : ∃ qs : List Query, trace = .began :: qs.map .asked
  untroubled : ∀ {past q}, past ++ [.asked q] <+: trace → s.trouble rules c past q = none

/-- A program that attends to trouble behind some events: it ends with the first question in
trouble, reporting what is wrong, and what it ends well with is as `post` says. -/
inductive Attends (s : Script) (rules : Rules) (c : Command) (post : List Event → α → Prop) :
    List Event → Program α → Prop
  | done {past : List Event} {a : α} (holds : post past a) :
      Attends s rules c post past (.done (.ok a))
  | draw {past : List Event} {next : Text → Program α}
      (goesOn : ∀ code, Attends s rules c post past (next code)) :
      Attends s rules c post past (.draw next)
  | ask {past : List Event} {q : Query} {next : Except Failure q.Reply → Program α}
      (fails : ∀ f, next (.error f) = .done (.error (q.report f)))
      (objects : ∀ a f, c.objection rules past q a = some f → next (.ok a) = .done (.error f))
      (goesOn : ∀ a, s.tell past q = .answers a → c.objection rules past q a = none →
        Attends s rules c post (past ++ [.asked q]) (next (.ok a))) :
      Attends s rules c post past (.ask q next)

/-- How a transaction ends: well, after questions without trouble, or with the first question that
is in trouble. -/
inductive Ends (s : Script) (rules : Rules) (c : Command) (post : List Event → α → Prop) :
    Except Failure α → List Event → Prop
  | well {trace : List Event} {a : α} (smooth : s.Smooth rules c trace) (holds : post trace a) :
      Ends s rules c post (.ok a) trace
  | badly {past : List Event} {q : Query} {f : Failure} (smooth : s.Smooth rules c past)
      (wrong : s.trouble rules c past q = some f) :
      Ends s rules c post (.error f) (past ++ [.asked q])

/-- The questions of a trace with one more event are those before it and the event itself. -/
theorem concat_prefix_concat {past trace : List Event} {x y : Event} :
    past ++ [x] <+: trace ++ [y] ↔ (past = trace ∧ x = y) ∨ past ++ [x] <+: trace := by
  rw [List.prefix_concat_iff, List.append_singleton_inj]

/-- A transaction that has only begun has met no trouble. -/
theorem smooth_began : s.Smooth rules c [.began] where
  opened := ⟨[], rfl⟩
  untroubled := by
    intro past q h
    rcases (@concat_prefix_concat past [] _ _).1 h with ⟨-, heq⟩ | h
    · cases heq
    · exact absurd (List.prefix_nil.1 h) (by simp)

/-- A transaction goes on smoothly with a question that is not in trouble. -/
theorem Smooth.concat {trace : List Event} {q : Query} (h : s.Smooth rules c trace)
    (hq : s.trouble rules c trace q = none) : s.Smooth rules c (trace ++ [.asked q]) where
  opened := by
    obtain ⟨qs, rfl⟩ := h.opened
    exact ⟨qs ++ [q], by simp⟩
  untroubled := by
    intro past q' hpast
    rcases concat_prefix_concat.1 hpast with ⟨rfl, heq⟩ | hpast
    · cases heq
      exact hq
    · exact h.untroubled hpast

/-! ## Programs that attend to trouble -/

/-- One program that attends to trouble and then another. -/
theorem Attends.bind {mid : List Event → α → Prop} {post : List Event → β → Prop}
    {past : List Event} {p : Program α} {f : α → Program β} (h : Attends s rules c mid past p)
    (hf : ∀ {past a}, mid past a → Attends s rules c post past (f a)) :
    Attends s rules c post past (p >>= f) := by
  change Attends s rules c post past (p.bind f)
  induction h with
  | done holds => exact hf holds
  | draw goesOn ih => exact .draw ih
  | ask fails objects goesOn ih =>
    refine .ask (fun e => ?_) (fun a e h => ?_) ih
    · rw [fails]; rfl
    · rw [objects a e h]; rfl

/-- An answer that is not needed is dropped. -/
theorem Attends.discard {mid : List Event → α → Prop} {past : List Event} {p : Program α}
    (h : Attends s rules c mid past p) :
    Attends s rules c (fun _ _ => True) past (discard p) :=
  h.bind fun _ => .done trivial

/-- A question with the check of its answer: whatever the answer is, the program ends with the
objection to it or, if there is none, goes on. -/
theorem Attends.check {post : List Event → α → Prop} {past : List Event} {q : Query}
    {next : Except Failure q.Reply → Program α}
    (fails : ∀ f, next (.error f) = .done (.error (q.report f)))
    (answers : ∀ a, (∃ f, c.objection rules past q a = some f ∧ next (.ok a) = .done (.error f)) ∨
      c.objection rules past q a = none ∧
        (s.tell past q = .answers a → Attends s rules c post (past ++ [.asked q]) (next (.ok a)))) :
    Attends s rules c post past (.ask q next) := by
  refine .ask fails (fun a f h => ?_) fun a htell h => ?_
  · rcases answers a with ⟨f', hf', hnext⟩ | ⟨hnone, -⟩
    · rw [hf'] at h
      cases h
      exact hnext
    · rw [hnone] at h
      cases h
  · rcases answers a with ⟨f', hf', -⟩ | ⟨-, hgo⟩
    · rw [hf'] at h
      cases h
    · exact hgo htell

/-- A question to whose answer nothing objects. -/
theorem attends_query {past : List Event} {q : Query} (hreport : ∀ f, q.report f = f)
    (hobjects : ∀ a, c.objection rules past q a = none) :
    Attends s rules c
      (fun trace a => trace = past ++ [.asked q] ∧ s.tell past q = .answers a) past (query q) := by
  refine .ask (fun f => by rw [hreport]) (fun a f h => ?_) fun a ha _ => .done ⟨rfl, ha⟩
  rw [hobjects] at h
  cases h

/-- A program that attends to trouble makes for a transaction that ends with the first. -/
theorem Attends.ends {post : List Event → α → Prop} {past : List Event} {p : Program α}
    (h : Attends s rules c post past p) (hpast : s.Smooth rules c past) (e : Entropy) :
    Ends s rules c post (s.runProgram p past e).1 (s.runProgram p past e).2.1 := by
  induction h generalizing e with
  | done holds => exact .well hpast holds
  | draw goesOn ih => exact ih _ hpast _
  | @ask past q next fails objects goesOn ih =>
    rw [runProgram]
    cases htell : s.tell past q with
    | hangs => exact .badly hpast (by rw [trouble, htell])
    | fails f =>
      dsimp only
      rw [fails]
      exact .badly hpast (by rw [trouble, htell])
    | answers a =>
      dsimp only
      have htrouble : s.trouble rules c past q = c.objection rules past q a := by
        rw [trouble, htell]
      cases hobjection : c.objection rules past q a with
      | some f =>
        rw [objects a f hobjection]
        exact .badly hpast (htrouble.trans hobjection)
      | none => exact ih a htell hobjection (hpast.concat (htrouble.trans hobjection)) e

end Script

end GameLobby
