import GameLobby.Http.DetailView
import GameLobby.Http.Message
import GameLobby.Proofs.Encodable

/-!
# What can be sent

A response can be sent exactly when its body has no lone surrogate, and JSON that is written plainly
has one only where one of its texts has (`Json.Plain`). So a response that is made of texts without
surrogates arrives, whatever else it says.
-/

namespace GameLobby

/-! ## Texts -/

namespace Text

/-- A string has no surrogate. -/
theorem hasSurrogate_ofString (s : String) : ¬ HasSurrogate (ofString s) :=
  hasSurrogate_map_scalar _

/-- A text without surrogates is read as characters. -/
theorem exists_toChars? {t : Text} (h : ¬ t.HasSurrogate) : ∃ cs, t.toChars? = some cs := by
  induction t with
  | nil => exact ⟨[], rfl⟩
  | cons p t ih =>
    cases p with
    | scalar c =>
      obtain ⟨cs, hcs⟩ := ih (mt (hasSurrogate_scalar_cons c t).2 h)
      exact ⟨c :: cs, by rw [toChars?, hcs]; rfl⟩
    | surrogate n => exact absurd (hasSurrogate_surrogate_cons n t) h

/-- What stays of a text has a surrogate only if the text has. -/
theorem HasSurrogate.mono {t u : Text} (hsub : ∀ p ∈ u, p ∈ t) (h : u.HasSurrogate) :
    t.HasSurrogate := by
  obtain ⟨n, hn⟩ := h
  exact ⟨n, hsub _ hn⟩

/-- Trimming adds nothing. -/
theorem mem_of_mem_trim {blank : CodePoint → Bool} {t : Text} {p : CodePoint}
    (h : p ∈ t.trim blank) : p ∈ t := by
  have hfront : p ∈ t.dropWhile blank := by
    simpa using (List.dropWhile_sublist blank).subset (List.mem_reverse.1 h)
  exact (List.dropWhile_sublist blank).subset hfront

end Text

/-! ## JSON -/

namespace Json

/-- A value whose plain form has no surrogate. -/
def Plain (v : Json) : Prop :=
  ¬ (v.write .plain).HasSurrogate

open Text

/-- What is written for a character has no surrogate. -/
theorem hasSurrogate_writeChar (c : Char) : ¬ (writeChar .plain c).HasSurrogate := by
  have hunit : ∀ n, ¬ (unitEscape n).HasSurrogate := fun n => by
    rw [unitEscape, hasSurrogate_append]
    exact not_or.2 ⟨hasSurrogate_map_scalar _, hasSurrogate_map_scalar _⟩
  unfold writeChar
  dsimp only
  iterate 7
    split
    · exact hasSurrogate_ofString _
  split
  · exact hunit _
  · rw [if_pos (.inl rfl)]
    exact hasSurrogate_map_scalar [c]

/-- What is written for characters has no surrogate. -/
theorem hasSurrogate_flatMap_writePoint {t : Text} (h : ¬ t.HasSurrogate) :
    ¬ HasSurrogate (t.flatMap (writePoint .plain)) := by
  rintro ⟨n, hn⟩
  obtain ⟨p, hp, hwrite⟩ := List.mem_flatMap.1 hn
  cases p with
  | scalar c => exact hasSurrogate_writeChar c ⟨n, hwrite⟩
  | surrogate m => exact h ⟨m, hp⟩

/-- A string is written without surrogates. -/
theorem hasSurrogate_writeString {t : Text} (h : ¬ t.HasSurrogate) :
    ¬ (writeString .plain t).HasSurrogate := by
  rw [writeString, List.cons_append, hasSurrogate_scalar_cons, hasSurrogate_append]
  exact not_or.2 ⟨hasSurrogate_flatMap_writePoint h, hasSurrogate_map_scalar ['"']⟩

/-- A string without surrogates is plain. -/
theorem plain_str {t : Text} (h : ¬ t.HasSurrogate) : (str t).Plain := by
  rw [Plain, write]
  exact hasSurrogate_writeString h

theorem plain_null : null.Plain := by
  rw [Plain, write]
  exact hasSurrogate_ofString _

theorem plain_bool (b : Bool) : (bool b).Plain := by
  rw [Plain, write]
  split <;> exact hasSurrogate_ofString _

theorem plain_arr {items : List Json} (h : ∀ v ∈ items, v.Plain) : (arr items).Plain := by
  have hitems : ¬ (writeItems .plain items).HasSurrogate := by
    induction items with
    | nil =>
      rw [writeItems]
      exact hasSurrogate_nil
    | cons v rest ih =>
      have hv : ¬ (write .plain v).HasSurrogate := h v (.head _)
      have hrest := ih fun w hw => h w (.tail _ hw)
      cases rest with
      | nil => rwa [writeItems]
      | cons w more =>
        rw [writeItems, hasSurrogate_append, hasSurrogate_scalar_cons]
        · exact not_or.2 ⟨hv, hrest⟩
        · exact nofun
  rw [Plain, write, List.cons_append, hasSurrogate_scalar_cons, hasSurrogate_append]
  exact not_or.2 ⟨hitems, hasSurrogate_map_scalar [']']⟩

/-- An object of plain members is plain. -/
theorem plain_obj {members : List (Text × Json)}
    (h : ∀ m ∈ members, ¬ m.1.HasSurrogate ∧ m.2.Plain) : (obj members).Plain := by
  have hmembers : ¬ (writeMembers .plain members).HasSurrogate := by
    induction members with
    | nil =>
      rw [writeMembers]
      exact hasSurrogate_nil
    | cons m rest ih =>
      obtain ⟨name, v⟩ := m
      obtain ⟨hname, hv⟩ := h _ (.head _)
      have hpair : ¬ HasSurrogate (writeString .plain name ++ .scalar ':' :: write .plain v) := by
        rw [hasSurrogate_append, hasSurrogate_scalar_cons]
        exact not_or.2 ⟨hasSurrogate_writeString hname, hv⟩
      have hrest := ih fun w hw => h w (.tail _ hw)
      cases rest with
      | nil => rwa [writeMembers]
      | cons w more =>
        rw [writeMembers, hasSurrogate_append, hasSurrogate_scalar_cons]
        · exact not_or.2 ⟨hpair, hrest⟩
        · exact nofun
  rw [Plain, write, List.cons_append, hasSurrogate_scalar_cons, hasSurrogate_append]
  exact not_or.2 ⟨hmembers, hasSurrogate_map_scalar ['\x7d']⟩

end Json

/-! ## Responses -/

namespace Http

namespace Response

/-- A response whose body has no surrogate is sent. -/
theorem send_of_plain {r : Response} (h : ¬ r.body.HasSurrogate) : r.send = .responded r := by
  obtain ⟨cs, hcs⟩ := Text.exists_toChars? h
  have hbytes : r.body.utf8? = some (cs.flatMap Text.utf8Char) := by rw [Text.utf8?, hcs]; rfl
  rw [send, length, hbytes]

/-- A plain value can be sent. -/
theorem send_json {status : Nat} {v : Json} (h : v.Plain) :
    (json status v).send = .responded (json status v) :=
  send_of_plain h

section
variable {status : Nat} {code message : Text}

/-- The body of an error with a message that has no surrogate has none. -/
theorem plain_error (status : Nat) (hcode : ¬ code.HasSurrogate)
    (hmessage : ¬ message.HasSurrogate) :
    ¬ (error status code message).body.HasSurrogate := by
  refine Json.plain_obj fun m hm => ?_
  simp only [List.mem_cons, List.not_mem_nil, or_false] at hm
  rcases hm with rfl | rfl
  · exact ⟨Text.hasSurrogate_ofString _, Json.plain_str hcode⟩
  · exact ⟨Text.hasSurrogate_ofString _, Json.plain_str hmessage⟩

/-- An error with a message that has no surrogate is sent. -/
theorem send_error (hcode : ¬ code.HasSurrogate) (hmessage : ¬ message.HasSurrogate) :
    (error status code message).send = .responded (error status code message) :=
  send_of_plain (plain_error status hcode hmessage)

end

end Response

theorem plain_viewUuid (u : Uuid) : (viewUuid u).Plain :=
  Json.plain_str (Text.hasSurrogate_map_scalar _)

theorem plain_viewTimestamp (t : Timestamp) : (viewTimestamp t).Plain :=
  Json.plain_str (Text.hasSurrogate_map_scalar _)

/-- A player is shown without surrogates if their name has none. -/
theorem plain_viewPlayer {m : Membership} (h : ¬ m.displayName.HasSurrogate) :
    (viewPlayer m).Plain := by
  have hleft : ((m.leftAt.map viewTimestamp).getD .null).Plain := by
    cases m.leftAt with
    | none => exact Json.plain_null
    | some t => exact plain_viewTimestamp t
  refine Json.plain_obj fun member hmember => ?_
  simp only [List.mem_cons, List.not_mem_nil, or_false] at hmember
  rcases hmember with rfl | rfl | rfl | rfl | rfl | rfl <;>
    refine ⟨Text.hasSurrogate_ofString _, ?_⟩
  · exact plain_viewUuid _
  · exact plain_viewUuid _
  · exact Json.plain_str h
  · exact plain_viewTimestamp _
  · exact Json.plain_bool _
  · exact hleft

/-- The view of a lobby is plain if its join code and the names of its players are. -/
theorem plain_view {d : LobbyDetail} (hcode : ¬ d.lobby.joinCode.HasSurrogate)
    (hnames : ∀ m ∈ d.players, ¬ m.displayName.HasSurrogate) : (view d).Plain := by
  refine Json.plain_obj fun member hmember => ?_
  simp only [List.mem_cons, List.not_mem_nil, or_false] at hmember
  rcases hmember with rfl | rfl | rfl | rfl | rfl <;>
    refine ⟨Text.hasSurrogate_ofString _, ?_⟩
  · exact plain_viewUuid _
  · exact Json.plain_str hcode
  · exact plain_viewUuid _
  · exact Json.plain_str (Text.hasSurrogate_ofString _)
  · refine Json.plain_arr fun v hv => ?_
    obtain ⟨m, hm, rfl⟩ := List.mem_map.1 hv
    exact plain_viewPlayer (hnames m hm)

end Http

end GameLobby
