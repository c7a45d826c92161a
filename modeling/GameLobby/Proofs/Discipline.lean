import GameLobby.Proofs.Conduct
import GameLobby.Proofs.Moves

/-!
# The discipline of transactions

Whatever a store answers, a command leaves a bracketed trace: a beginning, questions, one end, and
behind the end of a join one more read (`Command.Bracketed`). The transaction is rolled back exactly
if something goes wrong inside it, and then at once. `Script.Disciplined` collects what holds of the
answer and the trace of every command on every script (`Script.execute_disciplined`).

A commit is not undone. A command can still be answered with a failure behind it, where the lobby
that it has to tell of cannot be told (`Script.FailsLate`), and nowhere else.
-/

namespace GameLobby

/-- The traces of a command that runs a transaction. -/
inductive Command.Bracketed (c : Command) : List Event → Prop
  | rolledBack (qs : List Query) : Bracketed c (.began :: qs.map .asked ++ [.rolledBack])
  | committed (qs : List Query) : Bracketed c (.began :: qs.map .asked ++ [.committed])
  | reread (qs : List Query) (lobby : Uuid) (join : c.operation = .join) :
      Bracketed c (.began :: qs.map .asked ++ [.committed] ++ [.read lobby])

namespace Script

variable {s : Script} {rules : Rules} {c : Command} {r : Except Failure Result}
  {trace past : List Event} {q : Query} {f : Failure} {lobby : Uuid}

/-- What a command answers and its trace keep the discipline of transactions. -/
structure Disciplined (s : Script) (rules : Rules) (c : Command) (r : Except Failure Result)
    (trace : List Event) : Prop where
  silent : trace = [] ↔ c.RefusedOutright
  bracketed : trace = [] ∨ c.Bracketed trace
  rolledBack : .rolledBack ∈ trace ↔
    ∃ past q, past ++ [.asked q] <+: trace ∧ s.trouble rules c past q ≠ none
  /-- Nothing is asked between what goes wrong and the end of the transaction. -/
  atOnce : ∀ past q f, past ++ [.asked q] <+: trace → s.trouble rules c past q = some f →
    trace = past ++ [.asked q] ++ [.rolledBack] ∧ r = .error f
  success : ∀ a, r = .ok a → .committed ∈ trace
  deadline : ∀ past q, past ++ [.asked q] <+: trace → s.tell past q = .hangs → r = .error expired
  lateDeadline : ∀ past lobby, past ++ [.read lobby] <+: trace → s.tellDetail past lobby = .hangs →
    r = .error expired
  /-- The look-up of a candidate that fails, be it by a time-out of its own, is reported as such. -/
  lookup : ∀ past code f, past ++ [.asked (.codeExists code)] <+: trace →
    s.tell past (.codeExists code) = .fails f →
    ∃ refusal, r = .error (.refused refusal) ∧ refusal.refusalClass = .joinCodeLookup ∧
      refusal.cause = some f.kind

/-! ## Events of a course -/

/-- A transaction that is under way has begun and asked questions, and that is all. -/
theorem Smooth.false_of_mem {x : Event} (h : s.Smooth rules c past) (hx : x ∈ past)
    (hbegan : x ≠ .began) (hasked : ∀ q, x ≠ .asked q) : False := by
  obtain ⟨qs, rfl⟩ := h.opened
  rcases List.mem_cons.1 hx with rfl | hx
  · exact hbegan rfl
  · obtain ⟨q, -, rfl⟩ := List.mem_map.1 hx
    exact hasked q rfl

/-- While all goes well, nothing is rolled back. -/
theorem Smooth.rolledBack_notMem (h : s.Smooth rules c past) : .rolledBack ∉ past := fun hx =>
  h.false_of_mem hx nofun nofun

/-- An event other than the last one of a trace stands before it. -/
theorem prefix_of_prefix_concat {x y : Event} (h : past ++ [x] <+: trace ++ [y]) (hne : x ≠ y) :
    past ++ [x] <+: trace :=
  (concat_prefix_concat.1 h).resolve_left fun h => hne h.2

/-- The first question in trouble is the last one, and the command is answered with what is
wrong. -/
theorem Course.trouble_last (h : s.Course rules c r trace) (hq : past ++ [.asked q] <+: trace)
    (hf : s.trouble rules c past q = some f) :
    trace = past ++ [.asked q] ++ [.rolledBack] ∧ r = .error f := by
  have hcontra {before : List Event} (hsmooth : s.Smooth rules c before)
      (hq : past ++ [.asked q] <+: before) : False := by
    rw [hsmooth.untroubled hq] at hf
    cases hf
  cases h with
  | refused refusal outright => exact absurd (List.prefix_nil.1 hq) (by simp)
  | undone admitted smooth wrong =>
    rcases concat_prefix_concat.1 (prefix_of_prefix_concat hq nofun) with ⟨rfl, heq⟩ | hq
    · cases heq
      rw [wrong] at hf
      cases hf
      exact ⟨rfl, rfl⟩
    · exact (hcontra smooth hq).elim
  | done _ smooth _ | told _ smooth _ _ =>
    exact (hcontra smooth (prefix_of_prefix_concat hq nofun)).elim
  | reread lobby admitted smooth join =>
    exact (hcontra smooth (prefix_of_prefix_concat (prefix_of_prefix_concat hq nofun) nofun)).elim

/-- A transaction that is rolled back has come upon trouble. -/
theorem Course.trouble_of_rolledBack (h : s.Course rules c r trace) (hback : .rolledBack ∈ trace) :
    ∃ past q, past ++ [.asked q] <+: trace ∧ s.trouble rules c past q ≠ none := by
  cases h with
  | refused refusal outright => cases hback
  | @undone past q f admitted smooth wrong =>
    refine ⟨past, q, List.prefix_append .., ?_⟩
    rw [wrong]
    exact Option.some_ne_none f
  | done _ smooth _ | told _ smooth _ _ | reread _ _ smooth _ =>
    exact (smooth.rolledBack_notMem (by simpa using hback)).elim

/-- A course is empty, or one transaction from its beginning to its end. -/
theorem Course.bracketed (h : s.Course rules c r trace) : trace = [] ∨ c.Bracketed trace := by
  cases h with
  | refused refusal outright => exact .inl rfl
  | @undone past q f admitted smooth wrong =>
    obtain ⟨qs, rfl⟩ := smooth.opened
    have h := Command.Bracketed.rolledBack (c := c) (qs ++ [q])
    exact .inr (by simpa using h)
  | done admitted smooth silent =>
    obtain ⟨qs, rfl⟩ := smooth.opened
    exact .inr (.committed qs)
  | told admitted smooth telling answered =>
    obtain ⟨qs, hqs⟩ := smooth.opened
    rw [hqs]
    exact .inr (.committed qs)
  | reread lobby admitted smooth join =>
    obtain ⟨qs, rfl⟩ := smooth.opened
    exact .inr (.reread qs lobby join)

/-- There is no event at all exactly in a command that is refused outright. -/
theorem Course.silent_iff (h : s.Course rules c r trace) : trace = [] ↔ c.RefusedOutright := by
  cases h with
  | refused refusal outright => exact iff_of_true rfl outright
  | undone admitted _ _ | done admitted _ _ | told admitted _ _ _ | reread _ admitted _ _ =>
    exact iff_of_false (by simp) admitted

/-- A command that succeeds has committed. -/
theorem Course.committed_of_ok {a : Result} (h : s.Course rules c r trace) (hr : r = .ok a) :
    .committed ∈ trace := by
  cases h with
  | refused | undone => cases hr
  | done | told | reread => simp

/-- Only a join reads a lobby after the commit, and it is answered with what comes of that. -/
theorem Course.reread_last (h : s.Course rules c r trace)
    (hread : past ++ [.read lobby] <+: trace) :
    r = (s.reread past lobby).map .detail := by
  have hcontra {before : List Event} (hsmooth : s.Smooth rules c before)
      (hread : past ++ [.read lobby] <+: before) : False :=
    hsmooth.false_of_mem (hread.subset (List.mem_append_right _ List.mem_cons_self)) nofun nofun
  cases h with
  | refused refusal outright => exact absurd (List.prefix_nil.1 hread) (by simp)
  | undone admitted smooth wrong =>
    exact (hcontra smooth
      (prefix_of_prefix_concat (prefix_of_prefix_concat hread nofun) nofun)).elim
  | done _ smooth _ | told _ smooth _ _ =>
    exact (hcontra smooth (prefix_of_prefix_concat hread nofun)).elim
  | reread lobby' admitted smooth join =>
    rcases concat_prefix_concat.1 hread with ⟨rfl, heq⟩ | hread
    · cases heq
      rfl
    · exact (hcontra smooth (prefix_of_prefix_concat hread nofun)).elim

/-! ## Every command -/

/-- Every command keeps the discipline of transactions on every script. -/
theorem execute_disciplined (s : Script) (rules : Rules) (c : Command) (e : Entropy) :
    s.Disciplined rules c (s.execute rules c e).1 (s.execute rules c e).2 := by
  have h := s.execute_course rules c e
  generalize (s.execute rules c e).1 = r at h ⊢
  generalize (s.execute rules c e).2 = trace at h ⊢
  exact {
    silent := h.silent_iff
    bracketed := h.bracketed
    rolledBack := by
      refine ⟨h.trouble_of_rolledBack, ?_⟩
      rintro ⟨past, q, hq, hne⟩
      obtain ⟨f, hf⟩ := Option.ne_none_iff_exists'.1 hne
      rw [(h.trouble_last hq hf).1]
      simp
    atOnce := fun past q f => h.trouble_last
    success := fun a => h.committed_of_ok
    deadline := by
      intro past q hq hhang
      exact (h.trouble_last hq (by rw [trouble, hhang])).2
    lateDeadline := by
      intro past lobby hread hhang
      rw [h.reread_last hread, reread, hhang]
      rfl
    lookup := by
      intro past code f hq hfail
      have hf : s.trouble rules c past (.codeExists code) =
          some (.refused (Program.lookupFailed f)) := by
        rw [trouble, hfail]
        rfl
      exact ⟨_, (h.trouble_last hq hf).2, rfl, rfl⟩ }

end Script

namespace Sample

/-- A waiting lobby of Ann's. -/
def waiting : Lobby :=
  ⟨.ofNat 10, "LMNOPQ", ann.userId, .waiting, .naive 0, .naive 0⟩

/-- A store that lets everything pass, with the given answers to the look-up of a candidate, to the
detail of a lobby and to the reading of a lobby after a commit. -/
def willing (taken : Outcome Bool) (detail reread : Outcome (Option LobbyDetail)) : Script where
  tell _ q := match q with
    | .upsertUser .. | .addMember .. | .deactivateMember .. => .answers ()
    | .createLobby .. | .lobbyByCode .. => .answers (some waiting)
    | .codeExists .. => taken
    | .isActiveMember .. => .answers false
    | .hasMembership .. | .isActiveMembership .. | .setMemberActive .. => .answers true
    | .activeCount .. => .answers (some 1)
    | .detail .. => detail
    | .leader .. => .answers (some ann.userId)
  tellDetail _ _ := reread

/-- A store whose connection breaks once a join has committed. -/
def cutOff : Script :=
  willing (.answers false) (.answers none) (.fails (.disconnected "lost"))

end Sample

namespace Script

open Sample

/-- A look-up that keeps a creation waiting ends it at the deadline; one that fails because it has
timed out by itself ends it with the report of a failed look-up. -/
theorem execute_disciplined_lookup :
    ((willing .hangs .hangs .hangs).execute {} (.create ann) ⟨[], 0⟩).1 = .error expired ∧
      ∃ refusal,
        ((willing (.fails (.timedOut [])) .hangs .hangs).execute {} (.create ann) ⟨[], 0⟩).1 =
          .error (.refused refusal) ∧ refusal.refusalClass = .joinCodeLookup ∧
        refusal.cause = some .timeout := by
  have hanging := execute_disciplined (willing .hangs .hangs .hangs) {} (.create ann) ⟨[], 0⟩
  have failing :=
    execute_disciplined (willing (.fails (.timedOut [])) .hangs .hangs) {} (.create ann) ⟨[], 0⟩
  let past : List Event := [.began, .asked (.upsertUser ann.userId ann.username)]
  exact ⟨hanging.deadline past (.codeExists "LMNOPQ") (by decide +kernel) rfl,
    failing.lookup past "LMNOPQ" _ (by decide +kernel) rfl⟩

/-! ## Failures behind a commit -/

/-- How a command fails behind a commit, although nothing has gone wrong in its transaction: a join
cannot read the lobby again, or a creation or a reading has been told that the lobby is not
there. -/
inductive FailsLate (s : Script) (rules : Rules) (c : Command) : Failure → List Event → Prop
  | unread {past : List Event} {lobby : Uuid} {f : Failure} (join : c.operation = .join)
      (smooth : s.Smooth rules c past) (fails : s.reread (past ++ [.committed]) lobby = .error f) :
      FailsLate s rules c f (past ++ [.committed] ++ [.read lobby])
  | untold {past : List Event} {lobby : Uuid}
      (telling : c.operation = .create ∨ c.operation = .read)
      (smooth : s.Smooth rules c (past ++ [.asked (.detail lobby)]))
      (absent : s.tell past (.detail lobby) = .answers none) :
      FailsLate s rules c (.refused RefusalClass.lobbyNotFound.refusal)
        (past ++ [.asked (.detail lobby)] ++ [.committed])

/-- A command that fails has committed nothing, unless it fails behind its commit. -/
theorem failed_uncommitted_unless_late (s : Script) (rules : Rules) (c : Command) (e : Entropy)
    (f : Failure) (hfail : (s.execute rules c e).1 = .error f)
    (hcommitted : .committed ∈ (s.execute rules c e).2) :
    s.FailsLate rules c f (s.execute rules c e).2 := by
  have h := s.execute_course rules c e
  generalize (s.execute rules c e).1 = r at h hfail
  generalize (s.execute rules c e).2 = trace at h hcommitted ⊢
  cases h with
  | refused refusal outright => cases hcommitted
  | @undone past q f admitted smooth wrong =>
    have hmem : .committed ∈ past := by simpa using hcommitted
    exact (smooth.false_of_mem hmem nofun nofun).elim
  | done admitted smooth silent => cases hfail
  | @told past lobby detail admitted smooth telling answered =>
    cases detail with
    | none =>
      cases hfail
      exact .untold telling smooth answered
    | some detail => cases hfail
  | @reread past lobby admitted smooth join =>
    refine .unread join smooth ?_
    cases hread : s.reread (past ++ [.committed]) lobby with
    | error f' =>
      rw [hread] at hfail
      cases hfail
      rfl
    | ok detail =>
      rw [hread] at hfail
      cases hfail

/-- A join that has committed and then loses its connection. -/
theorem failed_uncommitted_unless_late_join :
    (cutOff.execute {} (.join bob "LMNOPQ") ⟨[], 0⟩).1 = .error (.disconnected "lost") ∧
      .committed ∈ (cutOff.execute {} (.join bob "LMNOPQ") ⟨[], 0⟩).2 ∧
      cutOff.FailsLate {} (.join bob "LMNOPQ") (.disconnected "lost")
        (cutOff.execute {} (.join bob "LMNOPQ") ⟨[], 0⟩).2 := by
  have hfail : (cutOff.execute {} (.join bob "LMNOPQ") ⟨[], 0⟩).1 = .error (.disconnected "lost") :=
    rfl
  have hcommitted : .committed ∈ (cutOff.execute {} (.join bob "LMNOPQ") ⟨[], 0⟩).2 := by
    decide +kernel
  exact ⟨hfail, hcommitted, failed_uncommitted_unless_late _ _ _ _ _ hfail hcommitted⟩

/-- A failure does not mean that nothing has been committed. -/
theorem committed_though_failed :
    ¬ ∀ (s : Script) (rules : Rules) (c : Command) (e : Entropy) (f : Failure),
      (s.execute rules c e).1 = .error f → .committed ∉ (s.execute rules c e).2 := fun h =>
  h cutOff {} (.join bob "LMNOPQ") ⟨[], 0⟩ (.disconnected "lost") rfl (by decide +kernel)

end Script

end GameLobby
