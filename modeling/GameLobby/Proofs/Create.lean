import GameLobby.Proofs.Candidates
import GameLobby.Proofs.Rollback

/-!
# What comes of a creation

`CreateOutcome` lists the ways in which creating a lobby can end, each with its conditions and the
tables that it leaves. A creation ends in one of them (`CreateOutcome.execute`), and in no other
way, since together they cover every case (`CreateOutcome.total`).

The code of the new lobby is the first candidate that no lobby has, so entering it cannot fail for
the code. The identifiers are drawn unseen, and either of them may turn out to be in use. A name
with a lone surrogate comes first of all, before any code is drawn.
-/

namespace GameLobby

/-- The ways in which a creation can end: what is answered, and the tables after it. -/
inductive CreateOutcome (w : World) (rules : Rules) (caller : Caller) :
    Except Failure Result → Tables → Prop
  /-- The entry of a user whose name has a lone surrogate fails. -/
  | unencodableName (surrogate : caller.username.HasSurrogate) (first last : Nat)
      (point : CodePoint) (at_ : caller.username.firstSurrogates? = some (first, last, point)) :
      CreateOutcome w rules caller (.error (.unencodable first last point)) w.tables
  | noAttempts (stored : ¬ caller.username.HasSurrogate) (retries : rules.maxRetries < 1) :
      CreateOutcome w rules caller (.error .noAttempts) w.tables
  | allTaken (stored : ¬ caller.username.HasSurrogate) (attempts : 1 ≤ rules.maxRetries)
      (taken : ∀ i : Nat, (i : Int) < rules.maxRetries →
        w.tables.Uses (JoinCode.candidate w.supply.entropy i)) :
      CreateOutcome w rules caller
        (.error (.refused (Program.allTaken rules.maxRetries.toNat))) w.tables
  | usedLobby (stored : ¬ caller.username.HasSurrogate) (k : Nat)
      (inTime : (k : Int) < rules.maxRetries) (code : w.tables.FirstFree w.supply.entropy k)
      (used : ∃ l ∈ w.tables.lobbies, l.id = w.supply.id 0) :
      CreateOutcome w rules caller (.error (.broken (.unique .lobbies "id"))) w.tables
  | usedMembership (stored : ¬ caller.username.HasSurrogate) (k : Nat)
      (inTime : (k : Int) < rules.maxRetries) (code : w.tables.FirstFree w.supply.entropy k)
      (new : ¬ ∃ l ∈ w.tables.lobbies, l.id = w.supply.id 0)
      (used : ∃ m ∈ w.tables.members, m.id = w.supply.id 1) :
      CreateOutcome w rules caller (.error (.broken (.unique .members "id"))) w.tables
  /-- One waiting lobby and one active membership are entered, and the user unless the identifier is
  known. -/
  | created (stored : ¬ caller.username.HasSurrogate) (k : Nat)
      (inTime : (k : Int) < rules.maxRetries) (code : w.tables.FirstFree w.supply.entropy k)
      (newLobby : ¬ ∃ l ∈ w.tables.lobbies, l.id = w.supply.id 0)
      (newMembership : ¬ ∃ m ∈ w.tables.members, m.id = w.supply.id 1) {t' : Tables}
      (users : t'.users =
        if ∃ u ∈ w.tables.users, u.id = caller.userId then w.tables.users
        else w.tables.users ++ [⟨caller.userId, caller.username, w.supply.time 0⟩])
      (lobbies : t'.lobbies = w.tables.lobbies ++
        [⟨w.supply.id 0, JoinCode.candidate w.supply.entropy k, caller.userId,
          Status.waiting.label, w.supply.time 1, w.supply.time 1⟩])
      (members : t'.members = w.tables.members ++
        [⟨w.supply.id 1, w.supply.id 0, caller.userId, w.supply.time 2, true, none⟩]) :
      CreateOutcome w rules caller
        (.ok (.detail ⟨⟨w.supply.id 0, JoinCode.candidate w.supply.entropy k, caller.userId,
          .waiting, w.supply.time 1, w.supply.time 1⟩, t'.playersOf (w.supply.id 0)⟩)) t'

/-! ## Steps of a creation -/

/-- A caller who creates a lobby is entered as a user unless the identifier is known. -/
theorem Tables.withLobby_users (t : Tables) (s : Supply) (caller : Caller) (code : Text) :
    (t.withLobby s caller code).users =
      if ∃ u ∈ t.users, u.id = caller.userId then t.users
      else t.users ++ [⟨caller.userId, caller.username, s.time 0⟩] := by
  rw [withLobby, addMember_users, addLobby_users, putUser_users]
  simp only [List.mem_map]

section
variable {w : World} {rules : Rules} {caller : Caller}

/-- Before the deadline a creation is performed unhindered. -/
theorem World.execute_create (hexp : rules.expired = false) :
    w.execute rules [] (.create caller) =
      ((w.perform {} (.create rules caller)).1.map Result.detail,
        (w.perform {} (.create rules caller)).2) := by
  simp only [execute, conditions_of_not_expired hexp]

/-- A creation that finds a code enters a lobby with it, unless one of the identifiers is in use. -/
theorem World.execute_create_found (hexp : rules.expired = false)
    (hname : ¬ caller.username.HasSurrogate) {k : Nat} (hk : (k : Int) < rules.maxRetries)
    (hcode : w.tables.FirstFree w.supply.entropy k) :
    w.execute rules [] (.create caller) =
      let code := JoinCode.candidate w.supply.entropy k
      let e := w.supply.entropy.drop (JoinCode.size * (k + 1))
      if (w.tables.lobby? (w.supply.id 0)).isSome then
        (.error (.broken (.unique .lobbies "id")), ⟨w.tables, w.supply.drawn 2 1 e⟩)
      else if w.tables.members.any (·.id = w.supply.id 1) then
        (.error (.broken (.unique .members "id")), ⟨w.tables, w.supply.drawn 3 2 e⟩)
      else
        (.ok (.detail ⟨⟨w.supply.id 0, code, caller.userId, .waiting, w.supply.time 1,
            w.supply.time 1⟩,
            (w.tables.withLobby w.supply caller code).playersOf (w.supply.id 0)⟩),
          ⟨w.tables.withLobby w.supply caller code, w.supply.drawn 3 2 e⟩) := by
  have hattempts : ¬ rules.maxRetries < 1 := by omega
  have hfound := Tables.freeCode_of_first hcode (n := rules.maxRetries.toNat) (by omega)
  rw [execute_create hexp, perform_create, (encodable_iff _).2 hname]
  dsimp only
  rw [if_neg hattempts, hfound]
  dsimp only
  split
  · rfl
  split <;> rfl

/-! ## The ways are exactly these -/

/-- A creation that ends in one of the ways does so. -/
theorem CreateOutcome.execute (hexp : rules.expired = false) {r : Except Failure Result}
    {t' : Tables} (h : CreateOutcome w rules caller r t') :
    (w.execute rules [] (.create caller)).1 = r ∧
      (w.execute rules [] (.create caller)).2.tables = t' := by
  cases h with
  | unencodableName surrogate first last point at_ =>
    rw [World.execute_create hexp, World.perform_create, encodable_of_firstSurrogates? at_]
    exact ⟨rfl, rfl⟩
  | noAttempts stored retries =>
    rw [World.execute_create hexp, World.perform_create, (encodable_iff _).2 stored]
    dsimp only
    rw [if_pos retries]
    exact ⟨rfl, rfl⟩
  | allTaken stored attempts taken =>
    have hattempts : ¬ rules.maxRetries < 1 := Int.not_lt.2 attempts
    have htaken : ∀ i < rules.maxRetries.toNat,
        w.tables.Uses (JoinCode.candidate w.supply.entropy i) :=
      fun i hi => taken i (by omega)
    rw [World.execute_create hexp, World.perform_create, (encodable_iff _).2 stored]
    dsimp only
    rw [if_neg hattempts, Tables.freeCode_of_taken htaken]
    exact ⟨rfl, rfl⟩
  | usedLobby stored k inTime code used =>
    rw [World.execute_create_found hexp stored inTime code]
    dsimp only
    rw [if_pos (Tables.isSome_lobby?_iff.2 used)]
    exact ⟨rfl, rfl⟩
  | usedMembership stored k inTime code new used =>
    have hused : w.tables.members.any (·.id = w.supply.id 1) = true := by simpa using used
    rw [World.execute_create_found hexp stored inTime code]
    dsimp only
    rw [if_neg (mt Tables.isSome_lobby?_iff.1 new), if_pos hused]
    exact ⟨rfl, rfl⟩
  | created stored k inTime code newLobby newMembership users lobbies members =>
    have hnew : ¬ w.tables.members.any (·.id = w.supply.id 1) = true := by
      simpa using newMembership
    have htables : w.tables.withLobby w.supply caller
        (JoinCode.candidate w.supply.entropy k) = t' :=
      Tables.ext ((Tables.withLobby_users ..).trans users.symm)
        ((congrArg (· ++ _) (Tables.putUser_lobbies ..)).trans lobbies.symm)
        ((congrArg (· ++ _) (Tables.putUser_members ..)).trans members.symm)
    rw [World.execute_create_found hexp stored inTime code]
    dsimp only
    rw [if_neg (mt Tables.isSome_lobby?_iff.1 newLobby), if_neg hnew, htables]
    exact ⟨rfl, rfl⟩

/-- Every creation ends in one of the ways. -/
theorem CreateOutcome.total (w : World) (rules : Rules) (caller : Caller) :
    ∃ r t', CreateOutcome w rules caller r t' := by
  by_cases stored : caller.username.HasSurrogate
  case pos =>
    obtain ⟨first, last, point, hfirst⟩ := stored.exists_first
    exact ⟨_, _, .unencodableName stored first last point hfirst⟩
  by_cases attempts : rules.maxRetries < 1
  case pos => exact ⟨_, _, .noAttempts stored attempts⟩
  rcases w.tables.taken_or_firstFree w.supply.entropy rules.maxRetries.toNat with
    taken | ⟨k, hk, code⟩
  · exact ⟨_, _, .allTaken stored (Int.not_lt.1 attempts) fun i hi => taken i (by omega)⟩
  have inTime : (k : Int) < rules.maxRetries := by omega
  by_cases usedLobby : ∃ l ∈ w.tables.lobbies, l.id = w.supply.id 0
  case pos => exact ⟨_, _, .usedLobby stored k inTime code usedLobby⟩
  by_cases usedMembership : ∃ m ∈ w.tables.members, m.id = w.supply.id 1
  case pos => exact ⟨_, _, .usedMembership stored k inTime code usedLobby usedMembership⟩
  let t' : Tables :=
    ⟨if ∃ u ∈ w.tables.users, u.id = caller.userId then w.tables.users
      else w.tables.users ++ [⟨caller.userId, caller.username, w.supply.time 0⟩],
      w.tables.lobbies ++ [⟨w.supply.id 0, JoinCode.candidate w.supply.entropy k, caller.userId,
        Status.waiting.label, w.supply.time 1, w.supply.time 1⟩],
      w.tables.members ++
        [⟨w.supply.id 1, w.supply.id 0, caller.userId, w.supply.time 2, true, none⟩]⟩
  exact ⟨_, t', .created stored k inTime code usedLobby usedMembership rfl rfl rfl⟩

/-- A creation that is refused is refused for want of a code. -/
theorem CreateOutcome.eq_allTaken {r : Refusal} {t' : Tables}
    (h : CreateOutcome w rules caller (.error (.refused r)) t') :
    r = Program.allTaken rules.maxRetries.toNat := by
  cases h
  rfl

/-- Before its deadline, a creation ends in exactly the ways that are listed. No refusal is for a
code in use, or for a question about codes that went wrong. -/
theorem World.execute_create_iff (hexp : rules.expired = false) :
    (∀ r t', CreateOutcome w rules caller r t' ↔
      (w.execute rules [] (.create caller)).1 = r ∧
        (w.execute rules [] (.create caller)).2.tables = t') ∧
    ∀ r, (w.execute rules [] (.create caller)).1 = .error (.refused r) →
      r.refusalClass = .joinCodeCollision := by
  have hiff : ∀ r t', CreateOutcome w rules caller r t' ↔
      (w.execute rules [] (.create caller)).1 = r ∧
        (w.execute rules [] (.create caller)).2.tables = t' := by
    intro r t'
    constructor
    · exact CreateOutcome.execute hexp
    · rintro ⟨rfl, rfl⟩
      obtain ⟨r, t', houtcome⟩ := CreateOutcome.total w rules caller
      obtain ⟨rfl, rfl⟩ := houtcome.execute hexp
      exact houtcome
  refine ⟨hiff, fun r hr => ?_⟩
  rw [((hiff _ _).2 ⟨hr, rfl⟩).eq_allTaken]
  rfl

end

open Sample in
/-- With one attempt Bob gets no code, since the first candidate is that of Ann's lobby. With more
he gets the second one, and either an identifier of Ann's for his membership or a lobby of his
own. -/
theorem World.execute_create_iff_clashing :
    let freed : World := ⟨opened.tables, { Sample.supply with ids := ⟨[.ofNat 77, .ofNat 78], 0⟩ }⟩
    ({ maxRetries := 1 } : Rules).expired = false ∧ ({} : Rules).expired = false ∧
      CreateOutcome clashing { maxRetries := 1 } bob
        (.error (.refused (Program.allTaken 1))) clashing.tables ∧
      CreateOutcome clashing {} bob (.error (.broken (.unique .members "id"))) clashing.tables ∧
      ∃ r t', CreateOutcome freed {} bob r t' ∧ r.isOk ∧ t'.lobbies.length = 2 := by
  intro freed
  have hone : ({ maxRetries := 1 } : Rules).expired = false := by decide +kernel
  have hmany : ({} : Rules).expired = false := by decide +kernel
  refine ⟨hone, hmany, ?_, ?_, ?_⟩
  · rw [(World.execute_create_iff hone).1]
    exact ⟨by decide +kernel, by decide +kernel⟩
  · rw [(World.execute_create_iff hmany).1]
    exact ⟨by decide +kernel, by decide +kernel⟩
  · refine ⟨_, _, ((World.execute_create_iff hmany).1 _ _).2 ⟨rfl, rfl⟩, ?_, ?_⟩
    · decide +kernel
    · decide +kernel

/-- A caller whose name is a lone surrogate gets no lobby in empty tables, although the first
candidate is free in time and both identifiers are new. -/
theorem World.execute_create_surrogate :
    let caller : Caller := ⟨.ofNat 1, [.surrogate 0]⟩
    let before : World := ⟨.empty, Sample.supply⟩
    before.tables.Reachable ∧ ({} : Rules).expired = false ∧ (0 : Int) < ({} : Rules).maxRetries ∧
      before.tables.FirstFree before.supply.entropy 0 ∧
      (¬ ∃ l ∈ before.tables.lobbies, l.id = before.supply.id 0) ∧
      (¬ ∃ m ∈ before.tables.members, m.id = before.supply.id 1) ∧
      (before.execute {} [] (.create caller)).1 = .error (.unencodable 0 0 (.surrogate 0)) ∧
      ¬ ∃ a, (before.execute {} [] (.create caller)).1 = .ok a := by
  intro caller before
  have hfail : (before.execute {} [] (.create caller)).1 =
      .error (.unencodable 0 0 (.surrogate 0)) := by
    decide +kernel
  have hfree : before.tables.FirstFree before.supply.entropy 0 :=
    ⟨by simp [before, Tables.empty, Tables.Uses], fun i hi => absurd hi (Nat.not_lt_zero i)⟩
  refine ⟨⟨{}, Sample.supply, [], rfl⟩, by decide +kernel, by decide +kernel, hfree,
    by simp [before, Tables.empty], by simp [before, Tables.empty], hfail, ?_⟩
  rintro ⟨a, ha⟩
  rw [hfail] at ha
  cases ha

end GameLobby
