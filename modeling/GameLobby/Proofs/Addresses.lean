import GameLobby.Proofs.Capitals
import GameLobby.Proofs.Failures
import GameLobby.Proofs.Rollback

/-!
# Which lobby a typed code leads to

A join begins with one look-up, of the upper-case form of what was typed, and addresses the lobby
that this finds (`Operation.Addresses`). Every join code has the form of one at any time
(`Tables.Reachable.formed`), and no two lobbies share theirs, so a typed text of six code points
addresses a lobby exactly when its upper-case form is the code of the lobby.
-/

namespace GameLobby

/-- An operation begins with the look-up of a code and finds a lobby. -/
def Operation.Addresses {α : Type} (op : Operation α) (t : Tables) (l : LobbyRow) : Prop :=
  ∃ code next, op = .transact (.ask (.lobbyByCode code) next) ∧ encodable code = .ok () ∧
    t.lobbyByCode? code = some l

/-! ## The form of the codes -/

namespace Tables

/-- Every lobby has a code that has the form of one. -/
def Formed (t : Tables) : Prop :=
  ∀ l ∈ t.lobbies, JoinCode.Formed l.joinCode

/-- Moves enter codes of that form only, and change none. -/
theorem Formed.move {t t' : Tables} {maxPlayers : Int} (h : t.Formed)
    (hmove : t.Move maxPlayers t') : t'.Formed := by
  cases hmove with
  | stay => exact h
  | create user lobby membership joinedAt random =>
    obtain ⟨e, hcode⟩ := random
    intro l hl
    rw [addMember_lobbies, addLobby_lobbies, putUser_lobbies] at hl
    rcases List.mem_append.1 hl with hl | hl
    · exact h l hl
    · rw [List.mem_singleton.1 hl, hcode]
      exact JoinCode.formed_random e
  | join user lobby membership joinedAt =>
    intro l hl
    rw [addMember_lobbies, putUser_lobbies] at hl
    exact h l hl
  | finish p leftAt => exact h
  | restage lobby status =>
    intro l hl
    obtain ⟨k, hk, rfl⟩ := List.mem_map.1 hl
    split <;> exact h k hk

/-- At any time, the join codes have the form of one. -/
theorem Reachable.formed {t : Tables} (h : t.Reachable) : t.Formed := by
  obtain ⟨rules, supply, steps, rfl⟩ := h
  suffices hrun : ∀ s : Service, s.world.tables.Sound → s.world.tables.Formed →
      (s.after steps).world.tables.Formed by
    exact hrun _ Sound.empty fun l hl => absurd hl List.not_mem_nil
  induction steps with
  | nil => exact fun _ _ h => h
  | cons x rest ih =>
    intro s hsound h
    have hmove := Service.step_move hsound x
    exact ih _ (hsound.move hmove) (h.move hmove)

/-- No code is that of two lobbies. -/
theorem Sound.length_filter_joinCode_le_one {t : Tables} (h : t.Sound) (code : Text) :
    (t.lobbies.filter (·.joinCode = code)).length ≤ 1 := by
  have hcount := List.nodup_iff_count.1 h.joinCodes code
  rw [List.count_eq_countP, List.countP_map] at hcount
  rw [← List.countP_eq_length_filter]
  simpa only [Function.comp_def, Bool.beq_eq_decide_eq] using hcount

end Tables

/-! ## Typed codes -/

section
variable {rules : Rules} {caller : Caller} {typed : Text} {t : Tables} {l : LobbyRow}

/-- A join addresses a lobby by a text of the right length, and under its upper-case form. -/
theorem Operation.addresses_join_iff :
    (Operation.join rules caller typed).Addresses t l ↔
      typed.length = JoinCode.size ∧ encodable typed.upper = .ok () ∧
        t.lobbyByCode? typed.upper = some l := by
  by_cases hlength : typed.length = JoinCode.size
  · have hnormal : JoinCode.normalize typed = .ok typed.upper := if_pos hlength
    rw [Operation.join, hnormal]
    constructor
    · rintro ⟨code, next, hop, hencode, hfound⟩
      cases hop
      exact ⟨hlength, hencode, hfound⟩
    · rintro ⟨-, hencode, hfound⟩
      exact ⟨_, _, rfl, hencode, hfound⟩
  · have hnormal : JoinCode.normalize typed = .error RefusalClass.invalidJoinCode.refusal :=
      if_neg hlength
    rw [Operation.join, hnormal]
    refine iff_of_false ?_ fun h => hlength h.1
    rintro ⟨code, next, hop, -⟩
    cases hop

/-- What has the form of a join code can be looked up. -/
theorem JoinCode.Formed.encodable {code : Text} (h : Formed code) : encodable code = .ok () := by
  rw [encodable_iff]
  rintro ⟨n, hn⟩
  obtain ⟨c, -, hc⟩ := h.letters _ hn
  cases hc

/-- In sound tables whose codes have the form of one, a text of the length of a code addresses a
lobby exactly when the code of the lobby is its upper-case form. -/
theorem Tables.Sound.addresses_iff (hsound : t.Sound) (hformed : t.Formed)
    (hlength : typed.length = JoinCode.size) (hl : l ∈ t.lobbies) :
    (Operation.join rules caller typed).Addresses t l ↔ typed.upper = l.joinCode := by
  rw [Operation.addresses_join_iff]
  constructor
  · rintro ⟨-, -, hfound⟩
    exact (Tables.mem_of_lobbyByCode? hfound).2.symm
  · intro hcode
    rw [hcode]
    exact ⟨hlength, (hformed l hl).encodable, hsound.lobbyByCode?_of_mem hl⟩

/-- A text that addresses a lobby spells its code. -/
theorem Operation.Addresses.spells (hformed : t.Formed)
    (h : (Operation.join rules caller typed).Addresses t l) :
    typed.length = JoinCode.size ∧ JoinCode.Formed typed.upper := by
  obtain ⟨hlength, -, hfound⟩ := Operation.addresses_join_iff.1 h
  obtain ⟨hl, hcode⟩ := Tables.mem_of_lobbyByCode? hfound
  exact ⟨hlength, hcode ▸ hformed l hl⟩

/-- A join that succeeds has entered the lobby that it addresses. -/
theorem World.execute_join_addresses (hsound : t.Sound) (hformed : t.Formed) {s : Supply}
    {missing : List Table} {r : Result}
    (h : ((⟨t, s⟩ : World).execute rules missing (.join caller typed)).1 = .ok r) :
    ∃ l ∈ t.lobbies, (Operation.join rules caller typed).Addresses t l ∧
      ∃ d, r = .detail d ∧ d.lobby.id = l.id := by
  obtain ⟨d, hd, rfl⟩ := ok_of_perform (Operation.givesUp_join rules caller typed) h
  rw [perform_join] at hd
  split at hd
  · cases hd
  next code hcode =>
  split at hd
  · cases hd
  next lobby hadmission =>
  obtain ⟨l, hfound, hlobby, -⟩ := Tables.admission_ok hadmission
  obtain ⟨hl, hjoinCode⟩ := Tables.mem_of_lobbyByCode? hfound
  split at hd
  · cases hd
  split at hd
  · cases hd
  rw [hsound.detail?_withPlayer hfound hlobby] at hd
  cases hd
  obtain ⟨hlength, rfl⟩ := JoinCode.normalize_ok hcode
  refine ⟨l, hl, (hsound.addresses_iff hformed hlength hl).2 hjoinCode.symm, _, rfl, ?_⟩
  rw [(LobbyRow.lobby?_ok hlobby).2]

end

/-- At any time, the join codes have six characters of the alphabet each and are pairwise different,
and a typed text of six code points addresses the lobby with its upper-case form as code. -/
theorem Tables.Reachable.codes_identify {t : Tables} (h : t.Reachable) :
    (∀ l ∈ t.lobbies, l.joinCode.length = JoinCode.size ∧
      ∀ p ∈ l.joinCode, ∃ c ∈ JoinCode.alphabet, p = .scalar c) ∧
    (t.lobbies.map (·.joinCode)).Nodup ∧
    (∀ code, (t.lobbies.filter (·.joinCode = code)).length ≤ 1) ∧
    ∀ (rules : Rules) (caller : Caller) (typed : Text),
      (typed.length = JoinCode.size → ∀ l ∈ t.lobbies,
        ((Operation.join rules caller typed).Addresses t l ↔ typed.upper = l.joinCode)) ∧
      (∀ l ∈ t.lobbies, typed.SameButCase l.joinCode →
        (Operation.join rules caller typed).Addresses t l) ∧
      (∀ l, (Operation.join rules caller typed).Addresses t l → ∀ p ∈ typed, p.CanSpell) ∧
      (JoinCode.size < typed.upper.length →
        ∀ l, ¬ (Operation.join rules caller typed).Addresses t l) ∧
      ∀ (supply : Supply) (r : Result),
        ((⟨t, supply⟩ : World).execute rules [] (.join caller typed)).1 = .ok r →
        ∃ l ∈ t.lobbies, (Operation.join rules caller typed).Addresses t l ∧
          ∃ d, r = .detail d ∧ d.lobby.id = l.id := by
  have hsound := h.sound
  have hformed := h.formed
  refine ⟨fun l hl => ⟨(hformed l hl).length, (hformed l hl).letters⟩, hsound.joinCodes,
    hsound.length_filter_joinCode_le_one, fun rules caller typed => ⟨?_, ?_, ?_, ?_, ?_⟩⟩
  · exact fun hlength l hl => hsound.addresses_iff hformed hlength hl
  · intro l hl hsame
    have hlength : typed.length = JoinCode.size := hsame.length_eq.trans (hformed l hl).length
    exact (hsound.addresses_iff hformed hlength hl).2
      (Text.upper_of_sameButCase (hformed l hl).letters hsame)
  · intro l haddress
    obtain ⟨hlength, hupper⟩ := haddress.spells hformed
    exact Text.canSpell_of_upper hlength hupper
  · intro hlong l haddress
    obtain ⟨-, hupper⟩ := haddress.spells hformed
    exact absurd hupper.length (Nat.ne_of_gt hlong)
  · exact fun supply r hr => World.execute_join_addresses hsound hformed hr

open Sample in
/-- Bob may type the code of Ann's lobby in small letters. A text of six code points that
upper-casing lengthens leads nowhere. -/
theorem Tables.Reachable.codes_identify_opened :
    opened.tables.Reachable ∧
      (∃ l ∈ opened.tables.lobbies, l.joinCode = Text.ofString "LMNOPQ" ∧
        (Operation.join {} bob "lmNopq").Addresses opened.tables l) ∧
      (Text.ofString "LMNOPß").length = JoinCode.size ∧
      ∀ l, ¬ (Operation.join {} bob "LMNOPß").Addresses opened.tables l := by
  obtain ⟨-, -, -, haddress⟩ := codes_identify reachable_opened
  obtain ⟨l, hl, hcode⟩ : ∃ l ∈ opened.tables.lobbies, l.joinCode = Text.ofString "LMNOPQ" := by
    decide +kernel
  have hsame : (Text.ofString "lmNopq").SameButCase l.joinCode := by
    rw [hcode, Text.SameButCase]
    decide +kernel
  have hlong : JoinCode.size < (Text.ofString "LMNOPß").upper.length := by decide +kernel
  exact ⟨reachable_opened, ⟨l, hl, hcode, (haddress {} bob _).2.1 l hl hsame⟩, by decide +kernel,
    (haddress {} bob _).2.2.2.1 hlong⟩

end GameLobby
