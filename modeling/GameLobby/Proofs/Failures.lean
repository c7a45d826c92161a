import GameLobby.Proofs.Outages
import GameLobby.Proofs.Outcomes
import GameLobby.Proofs.Wire

/-!
# Why a command fails

Whatever the tables hold and whichever of them are missing, a command fails with a failure that is
foreseen (`Failure.Foreseen`), a refusal above all, or in one of four ways that nothing foresees
(`Command.Unforeseen`). What a command tells when it succeeds can be sent (`World.execute_plain`).
-/

namespace GameLobby

/-! ## Failures that are foreseen -/

/-- A failure for which there is an answer. A refusal that is told to a client has a message that
can be told. -/
inductive Failure.Foreseen : Failure → Prop
  | refused (r : Refusal) (told : r.refusalClass.kind = .internal ∨
      r.message ≠ [] ∧ ¬ r.message.HasSurrogate) : Foreseen (.refused r)
  | broken (c : Constraint) : Foreseen (.broken c)
  | missingTable (table : Table) : Foreseen (.missingTable table)
  | timedOut (message : Text) : Foreseen (.timedOut message)

/-- A string that is not empty is a text that is not. -/
theorem Text.ofString_ne_nil {s : String} (h : s ≠ "") : Text.ofString s ≠ [] := by
  simpa [Text.ofString] using h

namespace Failure.Foreseen

theorem of_outage {f : Failure} (h : f.Outage) : f.Foreseen := by
  cases h with
  | expired => exact .timedOut []
  | missing table => exact .missingTable table
  | lookup table => exact .refused _ (.inl rfl)

/-- A refusal with the message of its class. -/
theorem refusal (c : RefusalClass) : Foreseen (.refused c.refusal) :=
  .refused _ (.inr ⟨Text.ofString_ne_nil (by cases c <;> decide), Text.hasSurrogate_ofString _⟩)

/-- A refusal with a message of its own. -/
theorem literal (c : RefusalClass) {s : String} (hs : s ≠ "") : Foreseen (.refused (c.saying s)) :=
  .refused _ (.inr ⟨Text.ofString_ne_nil hs, Text.hasSurrogate_ofString s⟩)

theorem full (maxPlayers : Int) : Foreseen (.refused (Operation.full maxPlayers)) :=
  literal .lobbyFull (by simp [toString])

/-- A refusal with a message of its own that goes on with a text. -/
theorem saying (c : RefusalClass) {s : String} (hs : s ≠ "") {t : Text} (ht : ¬ t.HasSurrogate) :
    Foreseen (.refused (c.saying (Text.ofString s ++ t))) := by
  refine .refused _ (.inr ⟨fun hnil => ?_, ?_⟩)
  · exact Text.ofString_ne_nil hs (List.append_eq_nil_iff.1 hnil).1
  · exact mt (Text.hasSurrogate_append _ _).1 (not_or.2 ⟨Text.hasSurrogate_ofString s, ht⟩)

end Failure.Foreseen

/-! ## Tables as a database holds them -/

/-- What a database can hold, whoever has written it: lobbies differ in their identifiers, and no
text has a surrogate. The stage of a lobby may be any text. -/
structure Tables.Storable (t : Tables) : Prop where
  lobbyIds : (t.lobbies.map (·.id)).Nodup
  joinCodes : ∀ l ∈ t.lobbies, ¬ l.joinCode.HasSurrogate
  usernames : ∀ u ∈ t.users, ¬ u.username.HasSurrogate

/-- The caller behind a command. -/
def Command.caller? : Command → Option Caller
  | .create caller | .join caller _ | .read caller _ | .kick caller _ _ => some caller
  | .setActive .. => none

/-- A stage that does not exist. -/
def LobbyRow.Lost (l : LobbyRow) : Prop :=
  ∀ stage : Status, l.status ≠ Text.ofString stage.label

/-- The failures of a command that nothing foresees: no attempt at a join code is allowed, the lobby
that is joined or read is stored at a stage that does not exist, or what was typed for its code has
a surrogate. -/
inductive Command.Unforeseen (t : Tables) (rules : Rules) : Command → Failure → Prop
  | noAttempts (caller : Caller) (retries : rules.maxRetries < 1) :
      Unforeseen t rules (.create caller) .noAttempts
  | joinLost (caller : Caller) (typed : Text) (l : LobbyRow) (known : l ∈ t.lobbies)
      (code : JoinCode.normalize typed = .ok l.joinCode) (lost : l.Lost) :
      Unforeseen t rules (.join caller typed) (.unknownStatus l.status)
  | joinSurrogate (caller : Caller) (typed : Text) (surrogate : typed.HasSurrogate)
      (first last : Nat) (point : CodePoint) :
      Unforeseen t rules (.join caller typed) (.unencodable first last point)
  | readLost (caller : Caller) (l : LobbyRow) (known : l ∈ t.lobbies) (lost : l.Lost) :
      Unforeseen t rules (.read caller l.id) (.unknownStatus l.status)

/-- A lobby cannot be shown if its stage does not exist. -/
theorem LobbyRow.lobby?_error {l : LobbyRow} {f : Failure} (h : l.lobby? = .error f) :
    l.Lost ∧ f = .unknownStatus l.status := by
  rw [LobbyRow.lobby?] at h
  split at h
  · cases h
  · next hnone =>
    cases h
    refine ⟨fun stage hstage => ?_, rfl⟩
    rw [hstage, Status.ofLabel?_label] at hnone
    cases hnone

/-- A text that cannot be stored has a surrogate. -/
theorem hasSurrogate_of_encodable {t : Text} {f : Failure} (h : encodable t = .error f) :
    t.HasSurrogate ∧ ∃ first last point, f = .unencodable first last point := by
  have hsurrogate : t.HasSurrogate := Classical.byContradiction fun hnone => by
    rw [(encodable_iff t).2 hnone] at h
    cases h
  obtain ⟨first, last, point, hfirst⟩ := hsurrogate.exists_first
  rw [encodable_of_firstSurrogates? hfirst] at h
  cases h
  exact ⟨hsurrogate, first, last, point, rfl⟩

/-- A text that is no join code is refused in one way. -/
theorem JoinCode.normalize_error {typed : Text} {r : Refusal} (h : normalize typed = .error r) :
    r = RefusalClass.invalidJoinCode.refusal := by
  rw [normalize] at h
  split at h
  · cases h
  · cases h
    rfl

/-- Why somebody is not admitted. -/
theorem Tables.admission_error {t : Tables} {rules : Rules} {caller : Caller} {typed code : Text}
    {f : Failure} (hcode : JoinCode.normalize typed = .ok code)
    (h : t.admission rules caller code = .error f) :
    f.Foreseen ∨ (Command.join caller typed).Unforeseen t rules f := by
  rw [admission] at h
  split at h
  · next hstore =>
    cases h
    obtain ⟨hsurrogate, first, last, point, rfl⟩ := hasSurrogate_of_encodable hstore
    rw [(JoinCode.normalize_ok hcode).2, Text.hasSurrogate_upper] at hsurrogate
    exact .inr (.joinSurrogate caller typed hsurrogate first last point)
  next hstore =>
  split at h
  · cases h
    exact .inl (.saying .lobbyNotFound (by decide) ((encodable_iff code).1 hstore))
  next row hrow =>
  obtain ⟨hknown, rfl⟩ := mem_of_lobbyByCode? hrow
  split at h
  · next hlobby =>
    cases h
    obtain ⟨hlost, rfl⟩ := LobbyRow.lobby?_error hlobby
    exact .inr (.joinLost caller typed row hknown hcode hlost)
  split at h
  · cases h
    exact .inl (.refusal .lobbyNotJoinable)
  split at h
  · cases h
    exact .inl (.full rules.maxPlayers)
  split at h
  · cases h
    exact .inl (.refusal .alreadyInLobby)
  · cases h

/-- Whoever has been admitted to a lobby, and has entered it, can read it. -/
theorem Tables.Storable.detail?_withPlayer {t : Tables} (h : t.Storable) {rules : Rules}
    {caller : Caller} {code : Text} {lobby : Lobby}
    (hadmission : t.admission rules caller code = .ok lobby) (s : Supply) :
    (t.withPlayer s caller lobby.id).detail? lobby.id =
      .ok (some ⟨lobby, (t.withPlayer s caller lobby.id).playersOf lobby.id⟩) := by
  obtain ⟨row, hrow, hlobby, -⟩ := admission_ok hadmission
  have hid : lobby.id = row.id := by rw [(LobbyRow.lobby?_ok hlobby).2]
  have hfound : (t.withPlayer s caller lobby.id).lobby? lobby.id = some row := by
    rw [hid, lobby?, withPlayer, addMember_lobbies, putUser_lobbies]
    exact find?_eq_of_nodup h.lobbyIds (mem_of_lobbyByCode? hrow).1
  rw [detail?, hfound]
  dsimp only
  rw [hlobby]
  rfl

/-! ## The five operations -/

namespace World

section
variable {α : Type} {op : Operation α} {w : World} {c : Conditions} {g : α → Result}

/-- A failure of an operation is an outage, or what it fails with when nothing stands in its way. -/
theorem error_of_perform (hop : op.GivesUp) {f : Failure}
    (h : (w.perform c op).1.map g = .error f) : f.Outage ∨ (w.perform {} op).1 = .error f := by
  have hfail := of_map_error h
  rcases perform_or_outage hop c w with hsame | ⟨e, he, hout⟩
  · exact .inr (hsame ▸ hfail)
  · rw [hfail] at hout
    cases hout
    exact .inl he

/-- What an operation answers is what it answers when nothing stands in its way. -/
theorem ok_of_perform (hop : op.GivesUp) {a : Result} (h : (w.perform c op).1.map g = .ok a) :
    ∃ b, (w.perform {} op).1 = .ok b ∧ g b = a := by
  obtain ⟨b, hb, hg⟩ := of_map_ok h
  rcases perform_or_outage hop c w with hsame | ⟨e, he, hout⟩
  · exact ⟨b, hsame ▸ hb, hg⟩
  · rw [hb] at hout
    cases hout

end

variable {t : Tables} {s : Supply} {rules : Rules} {caller : Caller} {f : Failure}

/-- A creation fails in a way that is foreseen, or as is listed in `Command.Unforeseen`. -/
theorem perform_create_error (hname : ¬ caller.username.HasSurrogate)
    (h : (perform {} (.create rules caller) ⟨t, s⟩).1 = .error f) :
    f.Foreseen ∨ (Command.create caller).Unforeseen t rules f := by
  rw [perform_create, (encodable_iff _).2 hname] at h
  dsimp only at h
  split at h
  · next hretries =>
    cases h
    exact .inr (.noAttempts caller hretries)
  split at h
  · cases h
    exact .inl (.refused _ (.inl rfl))
  split at h
  · cases h
    exact .inl (.broken _)
  split at h
  · cases h
    exact .inl (.broken _)
  · cases h

/-- A join fails in a way that is foreseen, or as is listed in `Command.Unforeseen`. The lobby that
the caller is admitted to is found when it is read again. -/
theorem perform_join_error (hstored : t.Storable) (hname : ¬ caller.username.HasSurrogate)
    {typed : Text} (h : (perform {} (.join rules caller typed) ⟨t, s⟩).1 = .error f) :
    f.Foreseen ∨ (Command.join caller typed).Unforeseen t rules f := by
  rw [perform_join, (encodable_iff _).2 hname] at h
  split at h
  · next hcode =>
    cases h
    rw [JoinCode.normalize_error hcode]
    exact .inl (.refusal .invalidJoinCode)
  next code hcode =>
  split at h
  · next hadmission =>
    cases h
    exact Tables.admission_error hcode hadmission
  next lobby hadmission =>
  dsimp only at h
  split at h
  · cases h
    exact .inl (.broken _)
  · rw [hstored.detail?_withPlayer hadmission] at h
    cases h

/-- A read fails in a way that is foreseen, or as is listed in `Command.Unforeseen`. -/
theorem perform_read_error {lobby : Uuid}
    (h : (perform {} (.read caller lobby) ⟨t, s⟩).1 = .error f) :
    f.Foreseen ∨ (Command.read caller lobby).Unforeseen t rules f := by
  rw [perform_read] at h
  split at h
  · cases h
    exact .inl (.refusal .lobbyNotFound)
  next row hrow =>
  obtain rfl : row.id = lobby := by simpa using List.find?_some hrow
  split at h
  · cases hlobby : row.lobby? with
    | ok l =>
      rw [hlobby] at h
      cases h
    | error e =>
      rw [hlobby] at h
      cases h
      obtain ⟨hlost, rfl⟩ := LobbyRow.lobby?_error hlobby
      exact .inr (.readLost caller row (List.mem_of_find?_eq_some hrow) hlost)
  · cases h
    exact .inl (.literal .forbidden (by decide))

theorem perform_kick_error {lobby target : Uuid}
    (h : (perform {} (.kick caller lobby target) ⟨t, s⟩).1 = .error f) : f.Foreseen := by
  rw [perform_kick] at h
  split at h
  · cases h
    exact .refusal .cannotKickSelf
  split at h
  · cases h
    exact .refusal .lobbyNotFound
  split at h
  · split at h
    · cases h
    · cases h
      exact .refusal .playerNotInLobby
  · cases h
    exact .literal .forbidden (by decide)

theorem perform_setActive_error {lobby membership : Uuid} {active : Bool}
    (h : (perform {} (.setActive lobby membership active) ⟨t, s⟩).1 = .error f) : f.Foreseen := by
  rw [perform_setActive] at h
  split at h
  · cases h
    exact .refusal .lobbyNotFound
  split at h
  · cases h
  · cases h
    exact .refusal .playerNotFound

/-- A command that fails does so with a foreseen failure or in one of the four ways. -/
theorem execute_error {w : World} (hstored : w.tables.Storable) {c : Command}
    (hname : ∀ caller, c.caller? = some caller → ¬ caller.username.HasSurrogate)
    {missing : List Table} (h : (w.execute rules missing c).1 = .error f) :
    f.Foreseen ∨ c.Unforeseen w.tables rules f := by
  obtain ⟨t, s⟩ := w
  cases c with
  | create caller =>
    rcases error_of_perform (Operation.givesUp_create rules caller) h with hout | hfail
    · exact .inl (.of_outage hout)
    · exact perform_create_error (hname caller rfl) hfail
  | join caller typed =>
    rcases error_of_perform (Operation.givesUp_join rules caller typed) h with hout | hfail
    · exact .inl (.of_outage hout)
    · exact perform_join_error hstored (hname caller rfl) hfail
  | read caller lobby =>
    rcases error_of_perform (Operation.givesUp_read caller lobby) h with hout | hfail
    · exact .inl (.of_outage hout)
    · exact perform_read_error hfail
  | kick caller lobby target =>
    rcases error_of_perform (Operation.givesUp_kick caller lobby target) h with hout | hfail
    · exact .inl (.of_outage hout)
    · exact .inl (perform_kick_error hfail)
  | setActive lobby membership active =>
    rcases error_of_perform (Operation.givesUp_setActive lobby membership active) h with
      hout | hfail
    · exact .inl (.of_outage hout)
    · exact .inl (perform_setActive_error hfail)

end World

/-! ## What is told -/

/-- A detail whose texts can be sent. -/
structure LobbyDetail.Plain (d : LobbyDetail) : Prop where
  joinCode : ¬ d.lobby.joinCode.HasSurrogate
  names : ∀ m ∈ d.players, ¬ m.displayName.HasSurrogate

namespace Tables

variable {t : Tables}

/-- The players of a lobby are shown with names that have no surrogate. -/
theorem plain_playersOf (h : ∀ u ∈ t.users, ¬ u.username.HasSurrogate) (lobby : Uuid) :
    ∀ m ∈ t.playersOf lobby, ¬ m.displayName.HasSurrogate := by
  intro m hm
  obtain ⟨row, -, -, u, hu, rfl⟩ := mem_playersOf_iff.1 hm
  exact h u (List.mem_of_find?_eq_some hu)

end Tables

namespace World

variable {t : Tables} {s : Supply} {rules : Rules} {caller : Caller} {d : LobbyDetail}

/-- What a creation tells has no surrogate. -/
theorem perform_create_plain (hstored : t.Storable)
    (h : (perform {} (.create rules caller) ⟨t, s⟩).1 = .ok d) : d.Plain := by
  rw [perform_create] at h
  split at h
  · cases h
  next hname =>
  split at h
  · cases h
  split at h
  · cases h
  next code e hfree =>
  split at h
  · cases h
  split at h
  · cases h
  cases h
  obtain ⟨e₀, hcode⟩ := Tables.freeCode_eq_random hfree
  constructor
  · change ¬ Text.HasSurrogate code
    rw [hcode, ← encodable_iff]
    exact JoinCode.encodable_random JoinCode.size e₀
  · have husers : ∀ u ∈ (t.withLobby s caller code).users, ¬ u.username.HasSurrogate :=
      Tables.forall_users_putUser hstored.usernames ((encodable_iff _).1 hname)
    exact Tables.plain_playersOf husers (s.id 0)

theorem perform_join_plain (hstored : t.Storable) {typed : Text}
    (h : (perform {} (.join rules caller typed) ⟨t, s⟩).1 = .ok d) : d.Plain := by
  rw [perform_join] at h
  split at h
  · cases h
  split at h
  · cases h
  next lobby hadmission =>
  split at h
  · cases h
  next hname =>
  split at h
  · cases h
  rw [hstored.detail?_withPlayer hadmission] at h
  cases h
  obtain ⟨row, hrow, hlobby, -⟩ := Tables.admission_ok hadmission
  constructor
  · rw [(LobbyRow.lobby?_ok hlobby).2]
    exact hstored.joinCodes row (Tables.mem_of_lobbyByCode? hrow).1
  · have husers : ∀ u ∈ (t.withPlayer s caller lobby.id).users, ¬ u.username.HasSurrogate :=
      Tables.forall_users_putUser hstored.usernames ((encodable_iff _).1 hname)
    exact Tables.plain_playersOf husers lobby.id

theorem perform_read_plain (hstored : t.Storable) {lobby : Uuid}
    (h : (perform {} (.read caller lobby) ⟨t, s⟩).1 = .ok d) : d.Plain := by
  rw [perform_read] at h
  split at h
  · cases h
  next row hrow =>
  split at h
  · cases hlobby : row.lobby? with
    | error e =>
      rw [hlobby] at h
      cases h
    | ok l =>
      rw [hlobby] at h
      cases h
      constructor
      · rw [(LobbyRow.lobby?_ok hlobby).2]
        exact hstored.joinCodes row (List.mem_of_find?_eq_some hrow)
      · exact Tables.plain_playersOf hstored.usernames _
  · cases h

/-- What a command tells of a lobby can be sent. -/
theorem execute_plain {w : World} (hstored : w.tables.Storable) {c : Command}
    {missing : List Table} (h : (w.execute rules missing c).1 = .ok (.detail d)) : d.Plain := by
  obtain ⟨t, s⟩ := w
  cases c with
  | create caller =>
    obtain ⟨_, hok, ⟨⟩⟩ := ok_of_perform (Operation.givesUp_create rules caller) h
    exact perform_create_plain hstored hok
  | join caller typed =>
    obtain ⟨_, hok, ⟨⟩⟩ := ok_of_perform (Operation.givesUp_join rules caller typed) h
    exact perform_join_plain hstored hok
  | read caller lobby =>
    obtain ⟨_, hok, ⟨⟩⟩ := ok_of_perform (Operation.givesUp_read caller lobby) h
    exact perform_read_plain hstored hok
  | kick caller lobby target =>
    obtain ⟨_, -, hdone⟩ := ok_of_perform (Operation.givesUp_kick caller lobby target) h
    cases hdone
  | setActive lobby membership active =>
    obtain ⟨_, -, hdone⟩ :=
      ok_of_perform (Operation.givesUp_setActive lobby membership active) h
    cases hdone

end World

end GameLobby
