import GameLobby.Proofs.Envelope
import GameLobby.Proofs.Identity
import GameLobby.Proofs.Removals
import GameLobby.Proofs.Rereading

/-!
# Kicking oneself

The identifier in a header and the one in a body have readers of their own. Whatever the reader of
bodies takes is a spelling, and the reader of headers takes all of these
(`Http.looseUuid?_of_targetUser`), so no spelling of one's own identifier is taken for somebody
else. A kick of oneself is refused, whatever the database holds and however the identifier is
spelled in the two places (`Http.App.self_kick_undisguised`).
-/

namespace GameLobby

/-- The texts that are read as an identifier have no surrogate and one of the four shapes. -/
theorem Form.uuidText_eq_ok_iff {t : Text} {u : Uuid} :
    uuidText t = .ok u ↔ ∃ cs, t.toChars? = some cs ∧ Uuid.ofChars? cs = some u := by
  rw [uuidText, characters]
  cases t.toChars? with
  | none => exact ⟨nofun, nofun⟩
  | some cs =>
    simp only [Option.some.injEq, exists_eq_left']
    cases hshape : Uuid.ofChars? cs with
    | none => simp [bind, Except.bind, hshape]
    | some v => simp [bind, Except.bind, hshape]

namespace Http

section
variable {t lobby : Text} {u id : Uuid}

/-- The text of a target that a body names is read as the same identifier in a header. -/
theorem looseUuid?_of_targetUser (h : targetUser (.obj [("targetUserId", .str t)]) = .ok u) :
    looseUuid? t = some u := by
  have hfield : targetUser (.obj [("targetUserId", .str t)]) =
      (Form.uuidText t).mapError (("targetUserId", ·)) := rfl
  rw [hfield] at h
  cases hread : Form.uuidText t with
  | error issue =>
    rw [hread] at h
    cases h
  | ok v =>
    rw [hread] at h
    cases h
    obtain ⟨cs, hchars, hshape⟩ := Form.uuidText_eq_ok_iff.1 hread
    rw [looseUuid?, hchars, Option.bind_some, (Uuid.spells_of_ofChars? hshape).ofLooseChars?]

/-- A request that kicks a player gives the command to do so. -/
theorem command_kick {s : Settings} {headers : Headers} {c : Caller} {v : Json}
    (hcaller : caller s headers = .ok c) (hid : pathUuid lobby = some id)
    (htarget : targetUser v = .ok u) :
    command s headers (.json v) (.kick lobby) = .ok (some (.kick c id u)) := by
  have hread : (Body.json v).read targetUser = some u := by
    rw [Body.read, htarget]
    rfl
  rw [command, hcaller, hid, hread]
  rfl

namespace App

variable {a : App} {r : Request} {c : Caller}

/-- Kicks are not counted. -/
theorem charge_kick (a : App) (lobby : Text) (r : Request) : a.charge (.kick lobby) r = (none, a) :=
  rfl

/-- A kick of oneself is refused where the operation is not bound to fail, and leaves the
application as it is. -/
theorem execute_kick_self (hfaults : a.faults.lookup .kick = none) (c : Caller) (lobby : Uuid) :
    a.execute (.kick c lobby c.userId) =
      (.responded (.error 400 "cannot_kick_self" "Cannot kick yourself"), a) := by
  have htold : failed (.refused RefusalClass.cannotKickSelf.refusal) =
      .responded (.error 400 "cannot_kick_self" "Cannot kick yourself") :=
    failed_of_told nofun (Text.hasSurrogate_ofString _)
  rw [execute, Command.operation, hfaults]
  dsimp only
  rw [World.execute_kick_self a.missing rfl]
  exact congrArg (·, a) htold

/--
Whatever spelling of a target a body may hold is taken for the same identifier in a header, next to
any user name. So however oneself is spelled in the header and in the body of a kick that is
otherwise valid and has a URL, the kick is refused as one of oneself, for every lobby and whatever
the database holds or lacks, and nothing changes.
-/
theorem self_kick_undisguised :
    (∀ (t : Text) (u : Uuid), targetUser (.obj [("targetUserId", .str t)]) = .ok u →
      ∀ (s : Settings) (headers : Headers) (padded : Text),
        header? headers s.userIdHeader = some t → header? headers s.usernameHeader = some padded →
        IsUsername (padded.trim isBlankPoint) →
        caller s headers = .ok ⟨u, padded.trim isBlankPoint⟩) ∧
    ∀ (a : App) (r : Request) (lobby : Text) (id u : Uuid) (v : Json) (name : Text),
      a.faults.lookup .kick = none → a.FormsUrl r →
      destination r.method r.path = .route (.kick lobby) →
      pathUuid lobby = some id → readBody r = .ok (.json v) →
      caller a.settings r.headers = .ok ⟨u, name⟩ → targetUser v = .ok u →
      a.handle r = (.responded (Cors.decorate a.settings r.headers
        (.error 400 "cannot_kick_self" "Cannot kick yourself")), a) := by
  constructor
  · intro t u htarget s headers padded hid hpadded hname
    rw [caller_eq_ok_iff, hid, hpadded]
    exact ⟨looseUuid?_of_targetUser htarget, rfl, hname.nonempty, hname.short⟩
  · intro a r lobby id u v name hfaults hurl hroute hid hbody hcaller htarget
    have hserve : a.serve (.kick lobby) r =
        (.responded (.error 400 "cannot_kick_self" "Cannot kick yourself"), a) := by
      have htakes : (Route.kick lobby).takesBody = true := rfl
      rw [serve, if_pos htakes, hbody]
      dsimp only
      rw [dispatch, charge_kick]
      dsimp only
      rw [command_kick hcaller hid htarget]
      exact execute_kick_self hfaults ⟨u, name⟩ id
    rw [hurl.handle, process_eq_of_route hroute, hserve]

open Sample in
/-- Ann kicks herself while the table of memberships is missing. In the header her identifier begins
like an integer in base sixteen, in the body like a name. -/
theorem self_kick_undisguised_ann :
    let spelled : Text := "urn:uuid:00000000-0000-0000-0000-000000000001"
    let body := "\x7b\"targetUserId\":\"urn:uuid:00000000-0000-0000-0000-000000000001\"\x7d"
    let a : App := ⟨{}, opened, [], 0, [.members], [], fun _ => none⟩
    let r : Request :=
      ⟨"POST", "/api/lobbies/00000000-0000-4000-8000-000000000001/kick", [],
        [("content-type", "application/json"), ("x-user-id", "0x-000000000000000000000000000001"),
          ("x-username", " Ann ")],
        body.toList.map fun c => c.toNat.toUInt8, none⟩
    caller {} [("X-User-ID", spelled), ("X-Username", "Bob")] = .ok ⟨ann.userId, "Bob"⟩ ∧
      a.handle r = (.responded (Cors.decorate {} r.headers
        (.error 400 "cannot_kick_self" "Cannot kick yourself")), a) := by
  intro spelled body a r
  obtain ⟨hagree, hrefused⟩ := self_kick_undisguised
  have htarget : targetUser (.obj [("targetUserId", .str spelled)]) = .ok ann.userId := by
    decide +kernel
  have hbody : readBody r = .ok (.json (.obj [("targetUserId", .str spelled)])) := by
    have hdocument : Text.ofDocument? r.body = some (Text.ofString body) := by decide +kernel
    have hwordy : (Json.obj [("targetUserId", .str spelled)]).Wordy 1 :=
      .obj (List.nodup_singleton _) (List.forall_mem_singleton.2 (.str spelled))
    have hwritten : Text.ofString body =
        (Json.obj [("targetUserId", .str spelled)]).write .plain := by
      decide +kernel
    have hread : Json.read bodyLimits body = .ok (.obj [("targetUserId", .str spelled)]) := by
      rw [hwritten]
      exact Json.read_write hwordy (by decide)
    rw [readBody, if_neg (by decide +kernel), if_neg (by decide +kernel), hdocument]
    dsimp only
    rw [hread]
  have hname : IsUsername ((Text.ofString "Bob").trim isBlankPoint) :=
    ⟨by decide +kernel, by decide +kernel, by decide +kernel, by decide +kernel⟩
  refine ⟨?_, ?_⟩
  · exact hagree spelled ann.userId htarget {} _ "Bob" (by decide +kernel) (by decide +kernel) hname
  · exact hrefused a r "00000000-0000-4000-8000-000000000001" (IdSource.serial 1) ann.userId
      (.obj [("targetUserId", .str spelled)]) "Ann" rfl rfl (by decide +kernel)
      (by decide +kernel) hbody (by decide +kernel) htarget

end App

end

end Http

end GameLobby
