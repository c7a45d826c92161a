import GameLobby.Proofs.Rollback

/-!
# What comes of a join

`JoinOutcome` lists the ten ways in which a join can end, each with its conditions on the tables and
the tables that it leaves. A join ends in one of them (`JoinOutcome.execute`), and in no other way,
since together they cover every case (`JoinOutcome.total`). The checks count in a fixed order, which
the conditions follow: a lobby that is full and already started is refused for having started, and a
player of a full lobby is told that it is full.

Two of the ways are not for a reason of lobbies. A code with a lone surrogate breaks the look-up,
although no lobby has such a code and the join could be refused for that, and a name with one breaks
the entry of the user.
-/

namespace GameLobby

/-- A typed code leads to a lobby: it has the length of a code and can be looked up, and the lobby
has its upper-case form. -/
structure Tables.LeadsTo (t : Tables) (typed : Text) (l : LobbyRow) : Prop where
  length : typed.length = JoinCode.size
  stored : ¬ typed.HasSurrogate
  known : l ∈ t.lobbies
  code : l.joinCode = typed.upper

/-- A typed code leads to a lobby, and the lobby takes the caller in. -/
structure Tables.Admits (t : Tables) (rules : Rules) (caller : Caller) (typed : Text)
    (l : LobbyRow) : Prop extends t.LeadsTo typed l where
  waiting : l.status = Text.ofString Status.waiting.label
  seat : t.activeCount l.id < rules.maxPlayers
  absent : ¬ ∃ m ∈ t.members, m.lobbyId = l.id ∧ m.userId = caller.userId ∧ m.isActive

/-- The ways in which a join can end: what is answered, and the tables after it. -/
inductive JoinOutcome (w : World) (rules : Rules) (caller : Caller) (typed : Text) :
    Except Failure Result → Tables → Prop
  | wrongLength (length : typed.length ≠ JoinCode.size) :
      JoinOutcome w rules caller typed
        (.error (.refused RefusalClass.invalidJoinCode.refusal)) w.tables
  /-- The look-up of a code with a lone surrogate fails. -/
  | unencodableCode (length : typed.length = JoinCode.size) (surrogate : typed.HasSurrogate)
      (first last : Nat) (point : CodePoint)
      (at_ : typed.upper.firstSurrogates? = some (first, last, point)) :
      JoinOutcome w rules caller typed (.error (.unencodable first last point)) w.tables
  | unknownCode (length : typed.length = JoinCode.size) (stored : ¬ typed.HasSurrogate)
      (unknown : ¬ ∃ l ∈ w.tables.lobbies, l.joinCode = typed.upper) :
      JoinOutcome w rules caller typed
        (.error (.refused (Operation.noLobbyWith typed.upper))) w.tables
  | unknownStage (l : LobbyRow) (leads : w.tables.LeadsTo typed l)
      (unknown : ∀ stage : Status, l.status ≠ Text.ofString stage.label) :
      JoinOutcome w rules caller typed (.error (.unknownStatus l.status)) w.tables
  | notWaiting (l : LobbyRow) (leads : w.tables.LeadsTo typed l) (stage : Status)
      (status : l.status = Text.ofString stage.label) (started : stage ≠ .waiting) :
      JoinOutcome w rules caller typed
        (.error (.refused RefusalClass.lobbyNotJoinable.refusal)) w.tables
  | full (l : LobbyRow) (leads : w.tables.LeadsTo typed l)
      (waiting : l.status = Text.ofString Status.waiting.label)
      (noSeat : rules.maxPlayers ≤ w.tables.activeCount l.id) :
      JoinOutcome w rules caller typed
        (.error (.refused (Operation.full rules.maxPlayers))) w.tables
  | alreadyThere (l : LobbyRow) (leads : w.tables.LeadsTo typed l)
      (waiting : l.status = Text.ofString Status.waiting.label)
      (seat : w.tables.activeCount l.id < rules.maxPlayers)
      (there : ∃ m ∈ w.tables.members, m.lobbyId = l.id ∧ m.userId = caller.userId ∧ m.isActive) :
      JoinOutcome w rules caller typed
        (.error (.refused RefusalClass.alreadyInLobby.refusal)) w.tables
  /-- The entry of a user whose name has a lone surrogate fails. -/
  | unencodableName (l : LobbyRow) (admits : w.tables.Admits rules caller typed l)
      (surrogate : caller.username.HasSurrogate) (first last : Nat) (point : CodePoint)
      (at_ : caller.username.firstSurrogates? = some (first, last, point)) :
      JoinOutcome w rules caller typed (.error (.unencodable first last point)) w.tables
  | usedIdentifier (l : LobbyRow) (admits : w.tables.Admits rules caller typed l)
      (stored : ¬ caller.username.HasSurrogate)
      (used : ∃ m ∈ w.tables.members, m.id = w.supply.id 0) :
      JoinOutcome w rules caller typed (.error (.broken (.unique .members "id"))) w.tables
  /-- One active membership is entered, and the user unless the identifier is known. -/
  | joined (l : LobbyRow) (admits : w.tables.Admits rules caller typed l)
      (stored : ¬ caller.username.HasSurrogate)
      (new : ¬ ∃ m ∈ w.tables.members, m.id = w.supply.id 0) {t' : Tables}
      (users : t'.users =
        if ∃ u ∈ w.tables.users, u.id = caller.userId then w.tables.users
        else w.tables.users ++ [⟨caller.userId, caller.username, w.supply.time 0⟩])
      (lobbies : t'.lobbies = w.tables.lobbies)
      (members : t'.members = w.tables.members ++
        [⟨w.supply.id 0, l.id, caller.userId, w.supply.time 1, true, none⟩]) :
      JoinOutcome w rules caller typed
        (.ok (.detail ⟨⟨l.id, l.joinCode, l.leaderId, .waiting, l.createdAt, l.updatedAt⟩,
          t'.playersOf l.id⟩)) t'

/-! ## Where a code leads -/

section
variable {t : Tables} {rules : Rules} {caller : Caller} {typed : Text} {l : LobbyRow}

/-- A text that leads to a lobby has the length of a code. -/
theorem Tables.LeadsTo.normalize (h : t.LeadsTo typed l) :
    JoinCode.normalize typed = .ok typed.upper :=
  if_pos h.length

/-- The upper-case form of a text without surrogates can be looked up. -/
theorem encodable_upper (h : ¬ typed.HasSurrogate) : encodable typed.upper = .ok () := by
  rwa [encodable_iff, Text.hasSurrogate_upper]

/-- In sound tables, the lobby that a code leads to is the one that the look-up of the code
finds. -/
theorem Tables.LeadsTo.lobbyByCode? (h : t.LeadsTo typed l) (hsound : t.Sound) :
    t.lobbyByCode? typed.upper = some l := by
  rw [← h.code]
  exact hsound.lobbyByCode?_of_mem h.known

/-- The checks of a join, for a lobby at a stage that does not exist. -/
theorem Tables.LeadsTo.admission_of_unknown (h : t.LeadsTo typed l) (hsound : t.Sound)
    (hstage : ∀ stage : Status, l.status ≠ Text.ofString stage.label) (rules : Rules)
    (caller : Caller) :
    t.admission rules caller typed.upper = .error (.unknownStatus l.status) := by
  simp only [admission, encodable_upper h.stored, h.lobbyByCode? hsound,
    LobbyRow.lobby?_of_unknown hstage]

/-- The checks of a join, for a lobby at a stage. -/
theorem Tables.LeadsTo.admission_of_status (h : t.LeadsTo typed l) (hsound : t.Sound)
    {stage : Status} (hstage : l.status = Text.ofString stage.label) (rules : Rules)
    (caller : Caller) :
    t.admission rules caller typed.upper =
      if stage ≠ .waiting then .error (.refused RefusalClass.lobbyNotJoinable.refusal)
      else if rules.maxPlayers ≤ t.activeCount l.id then
        .error (.refused (Operation.full rules.maxPlayers))
      else if t.isActiveMember l.id caller.userId then
        .error (.refused RefusalClass.alreadyInLobby.refusal)
      else .ok ⟨l.id, l.joinCode, l.leaderId, stage, l.createdAt, l.updatedAt⟩ := by
  simp only [admission, encodable_upper h.stored, h.lobbyByCode? hsound,
    LobbyRow.lobby?_of_status hstage, Lobby.isJoinable, Status.isJoinable]
  cases stage <;> rfl

/-- The checks of a join with a code that no lobby has. -/
theorem Tables.admission_of_unknownCode (hstored : ¬ typed.HasSurrogate)
    (hunknown : ¬ ∃ l ∈ t.lobbies, l.joinCode = typed.upper) (rules : Rules) (caller : Caller) :
    t.admission rules caller typed.upper =
      .error (.refused (Operation.noLobbyWith typed.upper)) := by
  have hnone : t.lobbyByCode? typed.upper = none := by
    rw [lobbyByCode?_eq_none_iff]
    simpa using hunknown
  simp only [admission, encodable_upper hstored, hnone]

/-- A player who joins is entered as a user unless the identifier is known. -/
theorem Tables.withPlayer_users (t : Tables) (s : Supply) (caller : Caller) (lobby : Uuid) :
    (t.withPlayer s caller lobby).users =
      if ∃ u ∈ t.users, u.id = caller.userId then t.users
      else t.users ++ [⟨caller.userId, caller.username, s.time 0⟩] := by
  rw [withPlayer, addMember_users, putUser_users]
  simp only [List.mem_map]

/-- A lobby that takes the caller in passes the checks. -/
theorem Tables.Admits.admission (h : t.Admits rules caller typed l) (hsound : t.Sound) :
    t.admission rules caller typed.upper =
      .ok ⟨l.id, l.joinCode, l.leaderId, .waiting, l.createdAt, l.updatedAt⟩ := by
  have habsent : ¬ t.isActiveMember l.id caller.userId := mt isActiveMember_iff.1 h.absent
  rw [h.toLeadsTo.admission_of_status hsound h.waiting rules caller, if_neg (not_not_intro rfl),
    if_neg (Int.not_le.2 h.seat), if_neg habsent]

end

/-! ## The ways are exactly these -/

section
variable {w : World} {rules : Rules} {caller : Caller} {typed : Text}

/-- Before the deadline a join is performed unhindered. -/
theorem World.execute_join (hexp : rules.expired = false) :
    w.execute rules [] (.join caller typed) =
      ((w.perform {} (.join rules caller typed)).1.map Result.detail,
        (w.perform {} (.join rules caller typed)).2) := by
  simp only [execute, conditions_of_not_expired hexp]

/-- A join that is refused by one of the checks changes nothing at all. -/
theorem World.execute_join_refused (hexp : rules.expired = false) {code : Text} {f : Failure}
    (hcode : JoinCode.normalize typed = .ok code)
    (h : w.tables.admission rules caller code = .error f) :
    w.execute rules [] (.join caller typed) = (.error f, w) := by
  rw [execute_join hexp, perform_join]
  simp only [hcode, h]
  rfl

/-- A join of a lobby that takes the caller in fails with one of its two writes or not at all. -/
theorem World.execute_join_admitted (hexp : rules.expired = false) (hsound : w.tables.Sound)
    {l : LobbyRow} (h : w.tables.Admits rules caller typed l) :
    w.execute rules [] (.join caller typed) =
      match encodable caller.username with
      | .error f => (.error f, ⟨w.tables, w.supply.drawn 1 0 w.supply.entropy⟩)
      | .ok () =>
        if w.tables.members.any (·.id = w.supply.id 0) then
          (.error (.broken (.unique .members "id")),
            ⟨w.tables, w.supply.drawn 2 1 w.supply.entropy⟩)
        else
          (.ok (.detail ⟨⟨l.id, l.joinCode, l.leaderId, .waiting, l.createdAt, l.updatedAt⟩,
            (w.tables.withPlayer w.supply caller l.id).playersOf l.id⟩),
            ⟨w.tables.withPlayer w.supply caller l.id,
              w.supply.drawn 2 1 w.supply.entropy⟩) := by
  have hread := hsound.detail?_withPlayer (h.lobbyByCode? hsound)
    (LobbyRow.lobby?_of_status h.waiting) w.supply caller
  rw [execute_join hexp, perform_join]
  simp only [h.normalize, h.admission hsound]
  cases encodable caller.username with
  | error f => rfl
  | ok _ =>
    dsimp only at hread ⊢
    rw [hread]
    split <;> rfl

/-- A caller whom a lobby takes in, and whose name cannot be stored, does not get in. -/
theorem World.execute_join_unencodable (hexp : rules.expired = false) (hsound : w.tables.Sound)
    {l : LobbyRow} (h : w.tables.Admits rules caller typed l) {first last : Nat} {point : CodePoint}
    (hname : caller.username.firstSurrogates? = some (first, last, point)) :
    w.execute rules [] (.join caller typed) =
      (.error (.unencodable first last point),
        ⟨w.tables, w.supply.drawn 1 0 w.supply.entropy⟩) := by
  rw [execute_join_admitted hexp hsound h, encodable_of_firstSurrogates? hname]

/-- A caller whom a lobby takes in, and who can be entered, gets in. -/
theorem World.execute_join_seated (hexp : rules.expired = false) (hsound : w.tables.Sound)
    {l : LobbyRow} (h : w.tables.Admits rules caller typed l)
    (hname : ¬ caller.username.HasSurrogate)
    (hnew : ¬ ∃ m ∈ w.tables.members, m.id = w.supply.id 0) :
    w.execute rules [] (.join caller typed) =
      (.ok (.detail ⟨⟨l.id, l.joinCode, l.leaderId, .waiting, l.createdAt, l.updatedAt⟩,
        (w.tables.withPlayer w.supply caller l.id).playersOf l.id⟩),
        ⟨w.tables.withPlayer w.supply caller l.id, w.supply.drawn 2 1 w.supply.entropy⟩) := by
  have hfree : ¬ w.tables.members.any (·.id = w.supply.id 0) = true := by simpa using hnew
  rw [execute_join_admitted hexp hsound h, (encodable_iff _).2 hname]
  dsimp only
  rw [if_neg hfree]

/-- A join that ends in one of the ways does so. -/
theorem JoinOutcome.execute (hsound : w.tables.Sound) (hexp : rules.expired = false)
    {r : Except Failure Result} {t' : Tables} (h : JoinOutcome w rules caller typed r t') :
    (w.execute rules [] (.join caller typed)).1 = r ∧
      (w.execute rules [] (.join caller typed)).2.tables = t' := by
  cases h with
  | wrongLength length =>
    have hlength : JoinCode.normalize typed = .error RefusalClass.invalidJoinCode.refusal :=
      if_neg length
    rw [World.execute_join hexp, World.perform_join, hlength]
    exact ⟨rfl, rfl⟩
  | unencodableCode length surrogate first last point at_ =>
    have hfail : w.tables.admission rules caller typed.upper =
        .error (.unencodable first last point) := by
      rw [Tables.admission, encodable_of_firstSurrogates? at_]
    rw [World.execute_join_refused hexp (if_pos length) hfail]
    exact ⟨rfl, rfl⟩
  | unknownCode length stored unknown =>
    have hfail := Tables.admission_of_unknownCode stored unknown rules caller
    rw [World.execute_join_refused hexp (if_pos length) hfail]
    exact ⟨rfl, rfl⟩
  | unknownStage l leads unknown =>
    have hfail := leads.admission_of_unknown hsound unknown rules caller
    rw [World.execute_join_refused hexp leads.normalize hfail]
    exact ⟨rfl, rfl⟩
  | notWaiting l leads stage status started =>
    have hfail := leads.admission_of_status hsound status rules caller
    rw [if_pos started] at hfail
    rw [World.execute_join_refused hexp leads.normalize hfail]
    exact ⟨rfl, rfl⟩
  | full l leads waiting noSeat =>
    have hfail := leads.admission_of_status hsound waiting rules caller
    rw [if_neg (not_not_intro rfl), if_pos noSeat] at hfail
    rw [World.execute_join_refused hexp leads.normalize hfail]
    exact ⟨rfl, rfl⟩
  | alreadyThere l leads waiting seat there =>
    have hfail := leads.admission_of_status hsound waiting rules caller
    rw [if_neg (not_not_intro rfl), if_neg (Int.not_le.2 seat),
      if_pos (Tables.isActiveMember_iff.2 there)] at hfail
    rw [World.execute_join_refused hexp leads.normalize hfail]
    exact ⟨rfl, rfl⟩
  | unencodableName l admits surrogate first last point at_ =>
    rw [World.execute_join_unencodable hexp hsound admits at_]
    exact ⟨rfl, rfl⟩
  | usedIdentifier l admits stored used =>
    have hused : w.tables.members.any (·.id = w.supply.id 0) = true := by simpa using used
    rw [World.execute_join_admitted hexp hsound admits, (encodable_iff _).2 stored]
    dsimp only
    rw [if_pos hused]
    exact ⟨rfl, rfl⟩
  | joined l admits stored new users lobbies members =>
    have htables : w.tables.withPlayer w.supply caller l.id = t' :=
      Tables.ext ((Tables.withPlayer_users ..).trans users.symm)
        ((Tables.putUser_lobbies ..).trans lobbies.symm)
        ((congrArg (· ++ _) (Tables.putUser_members ..)).trans members.symm)
    rw [World.execute_join_seated hexp hsound admits stored new, htables]
    exact ⟨rfl, rfl⟩

/-- Every join ends in one of the ways. -/
theorem JoinOutcome.total (w : World) (rules : Rules) (caller : Caller) (typed : Text) :
    ∃ r t', JoinOutcome w rules caller typed r t' := by
  by_cases length : typed.length = JoinCode.size
  case neg => exact ⟨_, _, .wrongLength length⟩
  by_cases stored : typed.HasSurrogate
  case pos =>
    obtain ⟨first, last, point, hfirst⟩ := (typed.hasSurrogate_upper.2 stored).exists_first
    exact ⟨_, _, .unencodableCode length stored first last point hfirst⟩
  by_cases known : ∃ l ∈ w.tables.lobbies, l.joinCode = typed.upper
  case neg => exact ⟨_, _, .unknownCode length stored known⟩
  obtain ⟨l, hl, hcode⟩ := known
  have leads : w.tables.LeadsTo typed l := ⟨length, stored, hl, hcode⟩
  by_cases status : ∃ stage : Status, l.status = Text.ofString stage.label
  case neg => exact ⟨_, _, .unknownStage l leads (not_exists.1 status)⟩
  obtain ⟨stage, hstage⟩ := status
  by_cases waiting : stage = .waiting
  case neg => exact ⟨_, _, .notWaiting l leads stage hstage waiting⟩
  subst waiting
  by_cases seat : rules.maxPlayers ≤ w.tables.activeCount l.id
  case pos => exact ⟨_, _, .full l leads hstage seat⟩
  have hseat := Int.not_le.1 seat
  by_cases there : ∃ m ∈ w.tables.members,
    m.lobbyId = l.id ∧ m.userId = caller.userId ∧ m.isActive
  case pos => exact ⟨_, _, .alreadyThere l leads hstage hseat there⟩
  have admits : w.tables.Admits rules caller typed l := ⟨leads, hstage, hseat, there⟩
  by_cases name : caller.username.HasSurrogate
  case pos =>
    obtain ⟨first, last, point, hfirst⟩ := name.exists_first
    exact ⟨_, _, .unencodableName l admits name first last point hfirst⟩
  by_cases used : ∃ m ∈ w.tables.members, m.id = w.supply.id 0
  case pos => exact ⟨_, _, .usedIdentifier l admits name used⟩
  let t' : Tables :=
    ⟨if ∃ u ∈ w.tables.users, u.id = caller.userId then w.tables.users
      else w.tables.users ++ [⟨caller.userId, caller.username, w.supply.time 0⟩],
      w.tables.lobbies,
      w.tables.members ++ [⟨w.supply.id 0, l.id, caller.userId, w.supply.time 1, true, none⟩]⟩
  exact ⟨_, t', .joined l admits name used rfl rfl rfl⟩

/-- Before its deadline, a join on reachable tables ends in exactly the ways that are listed. -/
theorem World.execute_join_iff (h : w.tables.Reachable) (hexp : rules.expired = false)
    (r : Except Failure Result) (t' : Tables) :
    JoinOutcome w rules caller typed r t' ↔
      (w.execute rules [] (.join caller typed)).1 = r ∧
        (w.execute rules [] (.join caller typed)).2.tables = t' := by
  constructor
  · exact JoinOutcome.execute h.sound hexp
  · rintro ⟨rfl, rfl⟩
    obtain ⟨r, t', houtcome⟩ := JoinOutcome.total w rules caller typed
    obtain ⟨rfl, rfl⟩ := houtcome.execute h.sound hexp
    exact houtcome

end

open Sample in
/-- Ann's lobby is full under rules with one seat, also for her who is there already. Under other
rules Bob takes the second seat. -/
theorem World.execute_join_iff_opened :
    opened.tables.Reachable ∧ ({ maxPlayers := 1 } : Rules).expired = false ∧
      JoinOutcome opened { maxPlayers := 1 } ann "lmnopq" (.error (.refused (Operation.full 1)))
        opened.tables ∧
      ∃ r t', JoinOutcome opened {} bob "lmnopq" r t' ∧ r.isOk ∧ t'.members.length = 2 := by
  have hexp : ({ maxPlayers := 1 } : Rules).expired = false := by decide +kernel
  have hexp' : ({} : Rules).expired = false := by decide +kernel
  refine ⟨reachable_opened, hexp, ?_, ?_⟩
  · rw [World.execute_join_iff reachable_opened hexp]
    exact ⟨by decide +kernel, by decide +kernel⟩
  · refine ⟨_, _, (World.execute_join_iff reachable_opened hexp' _ _).2 ⟨rfl, rfl⟩, ?_, ?_⟩
    · decide +kernel
    · decide +kernel

open Sample in
/-- A code of six characters that no lobby has, the first of them a lone surrogate, is not refused
as unknown: the look-up fails. -/
theorem World.execute_join_surrogate :
    let typed : Text := .surrogate 0 :: Text.ofString "AAAAA"
    let before : World := ⟨.empty, Sample.supply⟩
    before.tables.Reachable ∧ typed.length = JoinCode.size ∧
      (¬ ∃ l ∈ before.tables.lobbies, l.joinCode = typed.upper) ∧
      (before.execute {} [] (.join ann typed)).1 = .error (.unencodable 0 0 (.surrogate 0)) ∧
      (before.execute {} [] (.join ann typed)).1 ≠
        .error (.refused (Operation.noLobbyWith typed.upper)) := by
  intro typed before
  refine ⟨⟨{}, Sample.supply, [], rfl⟩, by decide +kernel, by simp [before, Tables.empty], ?_, ?_⟩
  · decide +kernel
  · decide +kernel

end GameLobby
