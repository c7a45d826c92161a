import GameLobby.Proofs.Continuity
import GameLobby.Proofs.Leaders

/-!
# Who may read a lobby

A lobby is read by whoever has, or had, a membership in it, and by nobody else. `ReadOutcome` lists
the four ways in which a read can end, and a read ends in exactly those (`World.execute_read_iff`).
The guard lets the leader pass without looking for a membership; since the leader of a lobby always
has one, a guard that makes no such exception (`Guard.requireEntry`) gives the same answers. A
membership is never forgotten, so whoever may read a lobby may do so ever after.
-/

namespace GameLobby

open Program

/-- The refusal of a caller who never was in the lobby. -/
def Guard.stranger : Refusal :=
  RefusalClass.forbidden.saying "You are not a member of this lobby"

/-- The ways in which a read can end. Both refusals say nothing but whether there is such a
lobby. -/
inductive ReadOutcome (t : Tables) (caller : Caller) (lobby : Uuid) : Except Failure Result → Prop
  | unknownLobby (unknown : ¬ ∃ l ∈ t.lobbies, l.id = lobby) :
      ReadOutcome t caller lobby (.error (.refused RefusalClass.lobbyNotFound.refusal))
  | stranger (known : ∃ l ∈ t.lobbies, l.id = lobby)
      (never : ¬ ∃ m ∈ t.members, m.lobbyId = lobby ∧ m.userId = caller.userId) :
      ReadOutcome t caller lobby (.error (.refused Guard.stranger))
  | unknownStage (l : LobbyRow) (known : l ∈ t.lobbies) (named : l.id = lobby)
      (entered : ∃ m ∈ t.members, m.lobbyId = lobby ∧ m.userId = caller.userId)
      (unknown : ∀ stage : Status, l.status ≠ Text.ofString stage.label) :
      ReadOutcome t caller lobby (.error (.unknownStatus l.status))
  | told (l : LobbyRow) (known : l ∈ t.lobbies) (named : l.id = lobby)
      (entered : ∃ m ∈ t.members, m.lobbyId = lobby ∧ m.userId = caller.userId)
      (stage : Status) (status : l.status = Text.ofString stage.label) :
      ReadOutcome t caller lobby
        (.ok (.detail ⟨⟨l.id, l.joinCode, l.leaderId, stage, l.createdAt, l.updatedAt⟩,
          t.playersOf lobby⟩))

/-- A read that is refused: there is no such lobby, or the caller never was in it. -/
def ReadRefused (r : Except Failure Result) : Prop :=
  r = .error (.refused RefusalClass.lobbyNotFound.refusal) ∨ r = .error (.refused Guard.stranger)

instance (r : Except Failure Result) : Decidable (ReadRefused r) :=
  inferInstanceAs (Decidable (_ ∨ _))

/-! ## The exception for the leader -/

/-- The guard without the exception for the leader: the caller has, or had, a membership. -/
def Guard.requireEntry (caller : Caller) (lobby : Uuid) : Program Uuid := do
  let leader ← resolveLeader lobby
  if ← query (.hasMembership lobby caller.userId) then pure leader else refuse stranger

/-- Read a lobby behind a guard. -/
def Operation.readBehind (guard : Program Uuid) (lobby : Uuid) : Operation LobbyDetail :=
  .transact do
    discard guard
    let detail ← query (.detail lobby)
    pure (.answer (found detail))

namespace Tables

/-- In whatever tables a history leads to, the leader of a lobby has, or had, a membership in it. -/
theorem Reachable.hasMembership_leader {t : Tables} (h : t.Reachable) {l : LobbyRow}
    (hl : l ∈ t.lobbies) : t.hasMembership l.id l.leaderId := by
  obtain ⟨rules, supply, steps, rfl⟩ := h
  have hled : ((Service.fresh rules supply).after steps).world.tables.Led l.id false :=
    Service.led_after (s := Service.fresh rules supply) Sound.empty (fun _ h => nomatch h) steps
      fun h => nomatch h
  obtain ⟨m, hm, hinside, hleads, -⟩ := hled l hl rfl
  exact hasMembership_iff.2 ⟨m, hm, hinside, hleads⟩

end Tables

namespace World

/-- Where leaders have memberships, the exception for them makes no difference. -/
theorem runProgram_requireEntry {w : World} (caller : Caller) (lobby : Uuid)
    (hleader : ∀ l ∈ w.tables.lobbies, w.tables.hasMembership l.id l.leaderId) :
    runProgram {} (Guard.requireEntry caller lobby) w =
      runProgram {} (Guard.requireMember caller lobby) w := by
  have hresolve := runProgram_resolveLeader lobby w
  rw [runProgram_requireMember, Guard.requireEntry]
  cases hrow : w.tables.lobby? lobby with
  | none =>
    rw [hrow] at hresolve
    exact runProgram_bind_error hresolve
  | some row =>
    rw [hrow] at hresolve
    have hask : w.answer (.hasMembership lobby caller.userId) =
        (.ok (w.tables.hasMembership lobby caller.userId), w) := rfl
    rw [runProgram_bind_ok hresolve, runProgram_query_ok hask]
    dsimp only
    have hentered : caller.userId = row.leaderId → w.tables.hasMembership lobby caller.userId := by
      intro hleads
      obtain ⟨hknown, rfl⟩ := Tables.mem_of_lobby? hrow
      rw [hleads]
      exact hleader row hknown
    cases hmember : w.tables.hasMembership lobby caller.userId with
    | true => simp
    | false =>
      have hother : caller.userId ≠ row.leaderId := by
        intro hleads
        rw [hentered hleads] at hmember
        cases hmember
      simp [hother, Guard.stranger, runProgram_refuse]

/-- Guards that run alike let the same callers read. -/
theorem perform_readBehind_congr {w : World} {guard guard' : Program Uuid}
    (h : runProgram {} guard w = runProgram {} guard' w) (lobby : Uuid) :
    w.perform {} (.readBehind guard lobby) = w.perform {} (.readBehind guard' lobby) := by
  rw [Operation.readBehind, Operation.readBehind, perform, perform]
  cases hguard : runProgram {} guard' w with | mk r w' =>
  rw [hguard] at h
  cases r with
  | error f =>
    rw [runProgram_bind_error (runProgram_discard_error h),
      runProgram_bind_error (runProgram_discard_error hguard)]
  | ok leader =>
    rw [runProgram_bind_ok (runProgram_discard_ok h),
      runProgram_bind_ok (runProgram_discard_ok hguard)]

end World

/-! ## What comes of a read -/

section
variable {w : World} {rules : Rules} {caller : Caller} {lobby : Uuid}

/-- Before its deadline, a read is settled by the memberships. -/
theorem World.execute_read (h : w.tables.Reachable) (hexp : rules.expired = false) :
    w.execute rules [] (.read caller lobby) =
      match w.tables.lobby? lobby with
      | none => (.error (.refused RefusalClass.lobbyNotFound.refusal), w)
      | some row =>
        if w.tables.hasMembership lobby caller.userId then
          (row.lobby?.map fun l => .detail ⟨l, w.tables.playersOf lobby⟩, w)
        else (.error (.refused Guard.stranger), w) := by
  obtain ⟨t, s⟩ := w
  simp only [execute, conditions_of_not_expired hexp, perform_read]
  cases hrow : t.lobby? lobby with
  | none => rfl
  | some row =>
    obtain ⟨hknown, rfl⟩ := Tables.mem_of_lobby? hrow
    have hleader : caller.userId = row.leaderId → t.hasMembership row.id caller.userId := by
      intro hleads
      rw [hleads]
      exact h.hasMembership_leader hknown
    dsimp only
    by_cases hentered : t.hasMembership row.id caller.userId
    · rw [if_pos (.inr hentered), if_pos hentered]
      cases row.lobby? <;> rfl
    · have hother : ¬ (caller.userId = row.leaderId ∨ t.hasMembership row.id caller.userId) :=
        not_or.2 ⟨mt hleader hentered, hentered⟩
      rw [if_neg hother, if_neg hentered]
      rfl

/-- A read that ends in one of the ways does so, and changes nothing. -/
theorem ReadOutcome.execute (h : w.tables.Reachable) (hexp : rules.expired = false)
    {r : Except Failure Result} (houtcome : ReadOutcome w.tables caller lobby r) :
    w.execute rules [] (.read caller lobby) = (r, w) := by
  rw [World.execute_read h hexp]
  cases houtcome with
  | unknownLobby unknown =>
    rw [Tables.lobby?_of_unknown unknown]
  | stranger known never =>
    obtain ⟨l, hl, rfl⟩ := known
    have hnever : ¬ w.tables.hasMembership l.id caller.userId := mt Tables.hasMembership_iff.1 never
    rw [h.sound.lobby?_of_mem hl]
    dsimp only
    rw [if_neg hnever]
  | unknownStage l known named entered unknown =>
    subst named
    rw [h.sound.lobby?_of_mem known]
    dsimp only
    rw [if_pos (Tables.hasMembership_iff.2 entered), LobbyRow.lobby?_of_unknown unknown]
    rfl
  | told l known named entered stage status =>
    subst named
    rw [h.sound.lobby?_of_mem known]
    dsimp only
    rw [if_pos (Tables.hasMembership_iff.2 entered), LobbyRow.lobby?_of_status status]
    rfl

/-- Every read ends in one of the ways. -/
theorem ReadOutcome.total (t : Tables) (caller : Caller) (lobby : Uuid) :
    ∃ r, ReadOutcome t caller lobby r := by
  by_cases known : ∃ l ∈ t.lobbies, l.id = lobby
  case neg => exact ⟨_, .unknownLobby known⟩
  by_cases entered : ∃ m ∈ t.members, m.lobbyId = lobby ∧ m.userId = caller.userId
  case neg => exact ⟨_, .stranger known entered⟩
  obtain ⟨l, hl, hid⟩ := known
  by_cases status : ∃ stage : Status, l.status = Text.ofString stage.label
  case neg => exact ⟨_, .unknownStage l hl hid entered (not_exists.1 status)⟩
  obtain ⟨stage, hstage⟩ := status
  exact ⟨_, .told l hl hid entered stage hstage⟩

/-- Before its deadline, a read ends in exactly the ways that are listed. -/
theorem World.execute_read_iff (h : w.tables.Reachable) (hexp : rules.expired = false)
    (r : Except Failure Result) :
    ReadOutcome w.tables caller lobby r ↔ w.execute rules [] (.read caller lobby) = (r, w) := by
  constructor
  · exact ReadOutcome.execute h hexp
  · intro hread
    obtain ⟨r', houtcome⟩ := ReadOutcome.total w.tables caller lobby
    obtain rfl : r' = r := congrArg Prod.fst ((houtcome.execute h hexp).symm.trans hread)
    exact houtcome

/-- Which refusal it is says whether there is such a lobby. -/
theorem ReadOutcome.of_refused {t : Tables} {r : Except Failure Result}
    (houtcome : ReadOutcome t caller lobby r) (hrefused : ReadRefused r) :
    ((∃ l ∈ t.lobbies, l.id = lobby) ∧ r = .error (.refused Guard.stranger)) ∨
      ((¬ ∃ l ∈ t.lobbies, l.id = lobby) ∧
        r = .error (.refused RefusalClass.lobbyNotFound.refusal)) := by
  cases houtcome with
  | unknownLobby unknown => exact .inr ⟨unknown, rfl⟩
  | stranger known never => exact .inl ⟨known, rfl⟩
  | unknownStage => rcases hrefused with h | h <;> cases h
  | told => rcases hrefused with h | h <;> cases h

/-- A read is refused to whoever never was in the lobby, and to nobody else. -/
theorem ReadOutcome.refused_iff {t : Tables} (h : t.Sound) {r : Except Failure Result}
    (houtcome : ReadOutcome t caller lobby r) :
    ReadRefused r ↔ ¬ ∃ m ∈ t.members, m.lobbyId = lobby ∧ m.userId = caller.userId := by
  cases houtcome with
  | unknownLobby unknown =>
    refine iff_of_true (.inl rfl) ?_
    rintro ⟨m, hm, rfl, -⟩
    exact unknown (List.mem_map.1 (h.memberLobbies m hm))
  | stranger known never => exact iff_of_true (.inr rfl) never
  | unknownStage l known named entered unknown => simp [ReadRefused, entered]
  | told l known named entered stage status => simp [ReadRefused, entered]

end

namespace Service

/-! ## Along a history -/

/-- Whoever has, or had, a membership in a lobby has or had it at any later time. -/
theorem hasMembership_after {s : Service} (h : s.world.tables.Sound) {lobby user : Uuid}
    (hentered : ∃ m ∈ s.world.tables.members, m.lobbyId = lobby ∧ m.userId = user)
    (steps : List Step) :
    ∃ m ∈ (s.after steps).world.tables.members, m.lobbyId = lobby ∧ m.userId = user := by
  obtain ⟨m, hm, rfl, rfl⟩ := hentered
  obtain ⟨m', hm', hsame⟩ := (continues_after h steps).members.exists_of_mem hm
  exact ⟨m', hm', hsame.lobbyId, hsame.userId⟩

/-- Before the deadline, a read ends in exactly the ways that are listed, and the service stays as
it is. -/
theorem step_read_iff {s : Service} (h : s.world.tables.Reachable) (hexp : s.rules.expired = false)
    (caller : Caller) (lobby : Uuid) (r : Except Failure Result) :
    ReadOutcome s.world.tables caller lobby r ↔
      s.step (.command (.read caller lobby)) = (r, s) := by
  rw [World.execute_read_iff h hexp, step_command_iff]
  constructor
  · exact fun hread => ⟨s.world, hread, rfl⟩
  · rintro ⟨w, hread, hs⟩
    have hw : s.world = w := congrArg Service.world hs
    rw [hread, hw]

/-- What a read answers is one of the ways in which it can end. -/
theorem readOutcome_step {s : Service} (h : s.world.tables.Reachable)
    (hexp : s.rules.expired = false) (caller : Caller) (lobby : Uuid) :
    ReadOutcome s.world.tables caller lobby (s.step (.command (.read caller lobby))).1 := by
  obtain ⟨r, houtcome⟩ := ReadOutcome.total s.world.tables caller lobby
  rw [(step_read_iff h hexp caller lobby r).1 houtcome]
  exact houtcome

/-- Whatever has happened before, a read before its deadline ends in one of the four ways and
changes nothing, and a guard that goes by memberships alone, the leader's too, answers the same.
What is told to a caller who is refused depends on nothing but whether there is such a lobby, and
whoever is admitted is admitted at any later time. -/
theorem lobby_open_to_members {s : Service} (h : s.Reachable)
    (hexp : s.rules.expired = false) (caller : Caller) (lobby : Uuid) :
    (∀ r, ReadOutcome s.world.tables caller lobby r ↔
      s.step (.command (.read caller lobby)) = (r, s)) ∧
    s.world.perform {} (.readBehind (Guard.requireEntry caller lobby) lobby) =
      s.world.perform {} (.read caller lobby) ∧
    (∀ (s' : Service) caller' lobby', s'.Reachable → s'.rules.expired = false →
      ReadRefused (s.step (.command (.read caller lobby))).1 →
      ReadRefused (s'.step (.command (.read caller' lobby'))).1 →
      ((∃ l ∈ s.world.tables.lobbies, l.id = lobby) ↔
        ∃ l ∈ s'.world.tables.lobbies, l.id = lobby') →
      (s.step (.command (.read caller lobby))).1 = (s'.step (.command (.read caller' lobby'))).1) ∧
    (¬ ReadRefused (s.step (.command (.read caller lobby))).1 →
      ∀ steps, (s.after steps).rules.expired = false →
        ¬ ReadRefused ((s.after steps).step (.command (.read caller lobby))).1) := by
  have htables := h.tables
  have houtcome := readOutcome_step htables hexp caller lobby
  refine ⟨step_read_iff htables hexp caller lobby, ?_, ?_, ?_⟩
  · refine World.perform_readBehind_congr ?_ lobby
    exact World.runProgram_requireEntry caller lobby fun l hl => htables.hasMembership_leader hl
  · intro s' caller' lobby' h' hexp' hrefused hrefused' hknown
    have houtcome' := readOutcome_step h'.tables hexp' caller' lobby'
    rcases houtcome.of_refused hrefused with ⟨hthere, hr⟩ | ⟨hthere, hr⟩ <;>
      rcases houtcome'.of_refused hrefused' with ⟨hthere', hr'⟩ | ⟨hthere', hr'⟩
    · rw [hr, hr']
    · exact absurd (hknown.1 hthere) hthere'
    · exact absurd (hknown.2 hthere') hthere
    · rw [hr, hr']
  · intro hadmitted steps hlater
    rw [houtcome.refused_iff htables.sound, not_not] at hadmitted
    have hreachable := (h.after steps).tables
    rw [(readOutcome_step hreachable hlater caller lobby).refused_iff hreachable.sound, not_not]
    exact hasMembership_after htables.sound hadmitted steps

open Sample in
/-- Bob joins Ann's lobby and is kicked. He may still look at it, and Cleo may not. -/
theorem lobby_open_to_members_kicked :
    let lobby := IdSource.serial 1
    let s := (fresh {} supply).after [.command (.create ann), .command (.join bob "LMNOPQ")]
    let kick : List Step := [.command (.kick ann lobby bob.userId)]
    s.Reachable ∧ s.rules.expired = false ∧ (s.after kick).rules.expired = false ∧
      ¬ ReadRefused (s.step (.command (.read bob lobby))).1 ∧
      (s.after kick).world.tables.isActiveMember lobby bob.userId = false ∧
      ¬ ReadRefused ((s.after kick).step (.command (.read bob lobby))).1 ∧
      ReadOutcome s.world.tables cleo lobby (.error (.refused Guard.stranger)) := by
  intro lobby s kick
  have hs : s.Reachable := ⟨_, _, _, rfl⟩
  have hexp : s.rules.expired = false := by decide +kernel
  have hlater : (s.after kick).rules.expired = false := by decide +kernel
  have hadmitted : ¬ ReadRefused (s.step (.command (.read bob lobby))).1 := by decide +kernel
  obtain ⟨-, -, -, hstays⟩ := lobby_open_to_members hs hexp bob lobby
  obtain ⟨hends, -⟩ := lobby_open_to_members hs hexp cleo lobby
  exact ⟨hs, hexp, hlater, hadmitted, by decide +kernel, hstays hadmitted kick hlater,
    (hends _).2 (by decide +kernel)⟩

end Service

end GameLobby
