import Grc.Identity.AccountsFrame

/-! Passkeys stored from enrolment sessions over whole runs: what was held as each session's code was checked, and what is held as the
passkey is stored. -/
namespace Grc.Identity

open Grc.Shared Grc.Lib

variable {settings : IdentitySettings} {digests : Digests} {accounts next : Accounts}

def Accounts.RetiredBelow (accounts : Accounts) (user bound : Id) : Prop :=
  ∀ row ∈ accounts.passkeys.rows, row.user = user → row.id < bound → row.retiredAt ≠ none

/-- What was seen as a person's code was checked: the bound is one of the table, and no passkey below it is live. -/
def Accounts.SeenFor (accounts : Accounts) (user seen : Id) : Prop :=
  seen ≤ accounts.passkeys.fresh ∧ accounts.RetiredBelow user seen

/-- Every enrolment session, and every code found right, is of a person who held no live passkey as the code was checked, and a passkey is
being registered in a session of the table. -/
structure EnrolmentSound (accounts : Accounts) : Prop where
  sessions : ∀ row ∈ accounts.sessions.rows, row.kind = .enrolment → accounts.SeenFor row.user (accounts.seenAt row.id)
  admitted : ∀ each ∈ accounts.ceremonies, ∀ code invitation seen now, each.2 = .admitted code invitation seen now →
    accounts.SeenFor code.user seen
  registering : ∀ each ∈ accounts.ceremonies, ∀ session invitation challenge credentialId now,
    each.2 = .registering session invitation challenge credentialId now →
      ∃ row ∈ accounts.sessions.rows, row.id = session.id ∧ row.user = session.user ∧ row.kind = session.kind

/-- Every passkey an enrolment session stored was its person's only live one, and an invitation stood open in the session's bank. -/
def Accounts.DoorKept (accounts : Accounts) : Prop := ∀ stored ∈ accounts.enrolled, stored.heldLive = false ∧ stored.invited = true

/-- Where a step stores a passkey from an enrolment session, none of the person's that was stored since the check of its code is live, and
an invitation is still open. -/
def DoorShut (accounts : Accounts) : AccountStep → Prop
  | .finishRegistration ceremony _ _ => ∀ session invitation challenge credentialId now,
      accounts.ceremonyOf ceremony = some (.registering session invitation challenge credentialId now) → session.kind = .enrolment →
        (∀ row ∈ accounts.passkeys.rows, row.credentialId ≠ credentialId) →
          (∀ row ∈ accounts.passkeys.rows, row.user = session.user → accounts.seenAt session.id ≤ row.id → row.retiredAt ≠ none) ∧
            accounts.invited session.user session.tenant = true
  | _ => True

theorem not_hasLivePasskey {user : Id} :
    accounts.hasLivePasskey user = false ↔ ∀ row ∈ accounts.passkeys.rows, row.user = user → row.retiredAt ≠ none := by
  rw [Accounts.hasLivePasskey, List.any_eq_false]
  refine forall₂_congr fun row _ => ?_
  rw [Bool.and_eq_true, beq_iff_eq, Option.isNone_iff_eq_none, not_and]

theorem Accounts.SeenFor.onward {told : List Enrolled} {ended : List Reissued} {user seen : Id} (saw : accounts.SeenFor user seen)
    (later : Onward accounts told ended next) : next.SeenFor user seen := by
  obtain ⟨drawn, retired⟩ := saw
  refine ⟨drawn.trans later.passkeys.fresh_le, fun row there mine below => ?_⟩
  obtain ⟨old, before, same, kept⟩ := later.passkeys.was there (Nat.lt_of_lt_of_le below drawn)
  exact kept.retired (retired old before (kept.user.symm.trans mine) (same ▸ below))

theorem EnrolmentSound.onward {told : List Enrolled} {ended : List Reissued} (sound : EnrolmentSound accounts)
    (later : Onward accounts told ended next) : EnrolmentSound next where
  sessions := by
    intro row there enrolment
    rcases later.sessions.came row there with ⟨old, before, same, kept⟩ | ⟨-, born⟩
    · have recalls : next.seenAt row.id = accounts.seenAt old.id := same ▸ later.seenAt old before
      rw [recalls, kept.user]
      exact (sound.sessions old before (kept.kind ▸ enrolment)).onward later
    · obtain ⟨each, underway, code, invitation, seen, now, its, user, recalls⟩ := born enrolment
      rw [recalls, user]
      exact (sound.admitted each underway code invitation seen now its).onward later
  admitted := by
    intro each there code invitation seen now its
    rcases later.ceremonies each there with old | begun
    · exact (sound.admitted each old code invitation seen now its).onward later
    · rw [its] at begun
      obtain ⟨none_, rfl⟩ := begun
      have retired := not_hasLivePasskey.mp none_
      exact Accounts.SeenFor.onward ⟨le_refl _, fun row there mine _ => retired row there mine⟩ later
  registering := by
    intro each there session invitation challenge credentialId now its
    have before : ∃ row ∈ accounts.sessions.rows, row.id = session.id ∧ row.user = session.user ∧ row.kind = session.kind := by
      rcases later.ceremonies each there with old | begun
      · exact sound.registering each old session invitation challenge credentialId now its
      · rw [its] at begun
        exact ⟨session, begun, rfl, rfl, rfl⟩
    obtain ⟨old, held, id, user, kind⟩ := before
    obtain ⟨row, there, same, kept⟩ := later.sessions.kept old held
    exact ⟨row, there, same.trans id, kept.user.trans user, kept.kind.trans kind⟩

theorem EnrolmentSound.unheld {ceremony challenge : Id} {session : UserSession} {invitation : Option Invitation} {credentialId : String}
    {now : Instant} (sound : EnrolmentSound accounts)
    (there : accounts.ceremonyOf ceremony = some (.registering session invitation challenge credentialId now))
    (enrolment : session.kind = .enrolment) :
    accounts.hasLivePasskey session.user = false ↔
      ∀ row ∈ accounts.passkeys.rows, row.user = session.user → accounts.seenAt session.id ≤ row.id → row.retiredAt ≠ none := by
  obtain ⟨held, here, id, user, kind⟩ := sound.registering _ (mem_ceremonyOf there) session invitation challenge credentialId now rfl
  obtain ⟨-, retired⟩ := sound.sessions held here (kind.trans enrolment)
  rw [id, user] at retired
  rw [not_hasLivePasskey]
  refine ⟨fun none_ row stored mine _ => none_ row stored mine, fun since row stored mine => ?_⟩
  rcases Nat.lt_or_ge row.id (accounts.seenAt session.id) with below | beyond
  · exact retired row stored mine below
  · exact since row stored mine beyond

/-- What a step tells of the passkeys it stores is as it should be exactly when the step meets the condition. -/
theorem EnrolmentSound.enrols_iff {step : AccountStep} (sound : EnrolmentSound accounts) :
    (∀ stored ∈ accounts.enrols step, stored.heldLive = false ∧ stored.invited = true) ↔ DoorShut accounts step := by
  cases step with
  | finishRegistration ceremony policy refreshHash =>
    constructor
    · intro kept session invitation challenge credentialId now there enrolment new
      have unstored : ¬(accounts.passkeys.rows.any (·.credentialId == credentialId)) = true := by
        rw [Bool.not_eq_true, List.any_eq_false]
        exact fun row held => by simpa using new row held
      rw [enrols_registering policy refreshHash there, if_neg (not_or.mpr ⟨unstored, not_not.mpr enrolment⟩)] at kept
      obtain ⟨unheld, invited⟩ := kept _ (List.mem_singleton_self _)
      exact ⟨(sound.unheld there enrolment).mp unheld, invited⟩
    · intro shut stored told
      cases under : accounts.ceremonyOf ceremony with
      | none => simp [Accounts.enrols, under] at told
      | some at_ =>
        cases at_ with
        | verifying email invitation code now | admitted code invitation seen now => simp [Accounts.enrols, under] at told
        | registering session invitation challenge credentialId now =>
          rw [enrols_registering policy refreshHash under] at told
          split at told
          · cases told
          · rename_i stores
            obtain ⟨unstored, enrolment⟩ := not_or.mp stores
            have enrolment := not_not.mp enrolment
            have new : ∀ row ∈ accounts.passkeys.rows, row.credentialId ≠ credentialId := by
              rw [Bool.not_eq_true, List.any_eq_false] at unstored
              exact fun row held => by simpa using unstored row held
            obtain ⟨since, invited⟩ := shut session invitation challenge credentialId now under enrolment new
            obtain rfl := List.mem_singleton.mp told
            exact ⟨(sound.unheld under enrolment).mpr since, invited⟩
  | _ => exact ⟨fun _ => trivial, fun _ stored told => absurd told List.not_mem_nil⟩

/-- In a run from the first day, every passkey an enrolment session stores is its person's only live one and is stored while an invitation
is open in the session's bank, exactly when every registration that ends meets the condition. -/
theorem run_doorKept_iff (settings : IdentitySettings) (digests : Digests) (calls : List AccountStep) :
    (∀ first, first <+: calls → (run (Accounts.step settings digests) {} first).DoorKept) ↔
      Meets (Accounts.step settings digests) DoorShut {} calls := by
  have begin_ : EnrolmentSound {} :=
    ⟨fun row there => absurd there List.not_mem_nil, fun each there => absurd there List.not_mem_nil,
      fun each there => absurd there List.not_mem_nil⟩
  refine holds_throughout_iff (fun accounts => EnrolmentSound accounts ∧ accounts.DoorKept)
    ⟨begin_, fun stored there => absurd there List.not_mem_nil⟩ (fun _ both => both.2) ?_ ?_ calls
  · rintro accounts step next ⟨sound, kept⟩ done
    rw [← sound.enrols_iff, Accounts.DoorKept, (step_onward done).enrolled]
    refine ⟨fun all stored told => all stored (List.mem_append_right _ told), fun new stored there => ?_⟩
    rcases List.mem_append.mp there with old | told
    · exact kept stored old
    · exact new stored told
  · rintro accounts step next ⟨sound, kept⟩ shut done
    refine ⟨sound.onward (step_onward done), ?_⟩
    rw [Accounts.DoorKept, (step_onward done).enrolled]
    intro stored there
    rcases List.mem_append.mp there with old | told
    · exact kept stored old
    · exact sound.enrols_iff.mpr shut stored told

def plainDigests : Digests where
  hashToken := id
  hashCode := fun code salt => code ++ salt

/-- A person invited to bank 7 asks for two codes, has each found right before the first passkey is there, and registers a passkey in each
of the two sessions. -/
def twoEnrolments : List AccountStep :=
  [.createInvitation (some 7) "ann@bank.lu" [] "invited",
    .requestCode "ann@bank.lu" "111111" "salt", .beginVerify 0 "ann@bank.lu", .checkCode 0 "111111", .finishVerify 0 none "first",
    .requestCode "ann@bank.lu" "222222" "salt", .beginVerify 1 "ann@bank.lu", .checkCode 1 "222222", .finishVerify 1 none "second",
    .registrationOptions 0, .registrationOptions 1,
    .beginRegistration 2 0 0 "key", .finishRegistration 2 none "third",
    .beginRegistration 3 1 1 "another key", .finishRegistration 3 none "fourth"]

/-- The second session stores a second passkey, where the first is live and no invitation is open. -/
theorem twoEnrolments_bothStore : ¬(run (Accounts.step {} plainDigests) {} twoEnrolments).DoorKept := by
  have told : (run (Accounts.step {} plainDigests) {} twoEnrolments).enrolled =
      [⟨0, 0, false, true⟩, ⟨0, 1, true, false⟩] := by decide +kernel
  intro kept
  rw [Accounts.DoorKept, told] at kept
  cases (kept _ (List.mem_cons_of_mem _ (List.mem_singleton_self _))).1

end Grc.Identity

/-! What a person held as a bank re-issued their enrolment, over whole runs afterwards. -/
namespace Grc.Identity

open Grc.Shared Grc.Lib

variable {settings : IdentitySettings} {digests : Digests} {accounts next : Accounts}

def ApiKey.Over (key : ApiKey) (now : Instant) : Prop := key.revokedAt ≠ none ∨ ∃ expiry ∈ key.expiresAt, expiry ≤ now

instance (key : ApiKey) (now : Instant) : Decidable (key.Over now) := inferInstanceAs (Decidable (_ ∨ _))

/-- Nothing a person held is accepted: no session by its access tokens or in a refresh, no passkey at sign-in, no personal token. -/
structure Accounts.Ended (settings : IdentitySettings) (accounts : Accounts) (held : Reissued) : Prop where
  resolves : ∀ row ∈ accounts.sessions.rows, row.id ∈ held.sessions → accounts.resolves row = false
  refreshes : ∀ row ∈ accounts.sessions.rows, row.id ∈ held.sessions → ∀ reads presented,
    refresh settings.toSessionSettings reads (some row) presented accounts.clock = .refused
  signsIn : ∀ id ∈ held.passkeys, ∀ policy refreshHash next, accounts.signIn settings id policy refreshHash ≠ .ok next
  tokens : ∀ row ∈ accounts.keys.rows, row.id ∈ held.tokens → accounts.resolvesToken row = false

/-- What a person held is over: the keys of its rows are drawn, and no row of theirs is live. -/
structure Accounts.Over (accounts : Accounts) (held : Reissued) : Prop where
  sessionsDrawn : ∀ id ∈ held.sessions, id < accounts.sessions.fresh
  sessions : ∀ row ∈ accounts.sessions.rows, row.id ∈ held.sessions → ¬row.live accounts.clock
  passkeysDrawn : ∀ id ∈ held.passkeys, id < accounts.passkeys.fresh
  passkeys : ∀ row ∈ accounts.passkeys.rows, row.id ∈ held.passkeys → row.retiredAt ≠ none
  tokensDrawn : ∀ id ∈ held.tokens, id < accounts.keys.fresh
  tokens : ∀ row ∈ accounts.keys.rows, row.id ∈ held.tokens → row.Over accounts.clock

def Accounts.AllOver (accounts : Accounts) : Prop := ∀ held ∈ accounts.reissued, accounts.Over held

/-- Where an enrolment is re-issued, every live session of the person and every personal token of theirs that is not over is in the bank
that re-issues it. -/
def OneBank (accounts : Accounts) : AccountStep → Prop
  | .reissueEnrolment zone user _ =>
    (∀ row ∈ accounts.sessions.rows, row.user = user → row.live accounts.clock → row.tenant = some zone) ∧
      ∀ row ∈ accounts.keys.rows, row.kind = .personal → row.actsAsUser = some user → ¬row.Over accounts.clock → row.tenant = some zone
  | _ => True

instance : ∀ (accounts : Accounts) (step : AccountStep), Decidable (OneBank accounts step) := by
  intro accounts step
  cases step <;> unfold OneBank <;> infer_instance

theorem SessionKept.ended {old row : UserSession} {before now : Instant} (kept : SessionKept old row) (later : before ≤ now)
    (ended : ¬old.live before) : ¬row.live now := by
  rintro ⟨unrevoked, lasts⟩
  refine ended ⟨?_, later.trans_lt (lasts.trans_le kept.expires)⟩
  by_contra revoked
  exact kept.revoked revoked unrevoked

theorem KeyKept.ended {old row : ApiKey} {before now : Instant} (kept : KeyKept old row) (later : before ≤ now) (gone : old.Over before) :
    row.Over now := by
  rcases gone with revoked | ⟨expiry, ends, past⟩
  · exact .inl (kept.revoked revoked)
  · exact .inr ⟨expiry, kept.expiresAt ▸ ends, past.trans later⟩

theorem Accounts.Over.onward {told : List Enrolled} {ended : List Reissued} {held : Reissued} (gone : accounts.Over held)
    (later : Onward accounts told ended next) : next.Over held where
  sessionsDrawn := fun id listed => (gone.sessionsDrawn id listed).trans_le later.sessions.fresh_le
  sessions := by
    intro row there listed
    obtain ⟨old, before, same, kept⟩ := later.sessions.was there (gone.sessionsDrawn _ listed)
    exact kept.ended later.clock (gone.sessions old before (same ▸ listed))
  passkeysDrawn := fun id listed => (gone.passkeysDrawn id listed).trans_le later.passkeys.fresh_le
  passkeys := by
    intro row there listed
    obtain ⟨old, before, same, kept⟩ := later.passkeys.was there (gone.passkeysDrawn _ listed)
    exact kept.retired (gone.passkeys old before (same ▸ listed))
  tokensDrawn := fun id listed => (gone.tokensDrawn id listed).trans_le later.keys.fresh_le
  tokens := by
    intro row there listed
    obtain ⟨old, before, same, kept⟩ := later.keys.was there (gone.tokensDrawn _ listed)
    exact kept.ended later.clock (gone.tokens old before (same ▸ listed))

theorem Accounts.Over.accepted {held : Reissued} (gone : accounts.Over held) : accounts.Ended settings held where
  resolves := by
    intro row there listed
    rw [Accounts.resolves, decide_eq_false (gone.sessions row there listed)]
    rfl
  refreshes := by
    intro row there listed reads presented
    simp only [refresh, gone.sessions row there listed, not_false_eq_true, if_true]
  signsIn := by
    intro id listed policy refreshHash next signed
    simp only [Accounts.signIn, bind_ok, demand_ok] at signed
    obtain ⟨row, found, -⟩ := signed
    have live := List.find?_some found
    rw [Bool.and_eq_true, beq_iff_eq, Option.isNone_iff_eq_none] at live
    exact gone.passkeys row (List.mem_of_find?_eq_some found) (live.1 ▸ listed) live.2
  tokens := by
    intro row there listed
    rw [Accounts.resolvesToken]
    rcases gone.tokens row there listed with revoked | ⟨expiry, ends, past⟩
    · rw [Option.isNone_eq_false_iff.mpr (Option.isSome_iff_ne_none.mpr revoked)]
      rfl
    · rw [Option.mem_def.mp ends, Option.all_some, decide_eq_false (Nat.not_lt.mpr past), Bool.and_false, Bool.false_and]

theorem endHoldings_over {zone user : Id} {token : String} (oneBank : OneBank accounts (.reissueEnrolment zone user token)) :
    (accounts.endHoldings zone user).Over (accounts.holdings user) where
  sessionsDrawn := fun id listed => (Keyed.listed_lt_fresh listed).trans_le endHoldings_onward.sessions.fresh_le
  sessions := by
    intro row there listed
    obtain ⟨old, before, mine, rfl | ⟨spared, rfl⟩⟩ := Keyed.listed_of_update (by exact fun _ => rfl) there listed
    · exact fun live => absurd live.1 (Option.some_ne_none _)
    · intro live
      have here := oneBank.1 row before (beq_iff_eq.mp mine) live
      simp [beq_iff_eq.mp mine, live.1, here, Accounts.visible] at spared
  passkeysDrawn := fun id listed => (Keyed.listed_lt_fresh listed).trans_le endHoldings_onward.passkeys.fresh_le
  passkeys := by
    intro row there listed
    obtain ⟨old, before, mine, rfl | ⟨spared, rfl⟩⟩ := Keyed.listed_of_update (by exact fun _ => rfl) there listed
    · exact Option.some_ne_none _
    · intro live
      simp [beq_iff_eq.mp mine, live] at spared
  tokensDrawn := fun id listed => (Keyed.listed_lt_fresh listed).trans_le endHoldings_onward.keys.fresh_le
  tokens := by
    intro row there listed
    obtain ⟨old, before, mine, rfl | ⟨spared, rfl⟩⟩ := Keyed.listed_of_update (by exact fun _ => rfl) there listed
    · exact .inl (Option.some_ne_none _)
    · rw [Bool.and_eq_true, beq_iff_eq, beq_iff_eq] at mine
      by_contra standing
      have here := oneBank.2 row before mine.1 mine.2 standing
      have unrevoked : row.revokedAt = none := by
        by_contra revoked
        exact standing (.inl revoked)
      simp [mine.1, mine.2, here, unrevoked] at spared

theorem Accounts.Over.alike {held : Reissued} {last : Accounts} (gone : next.Over held) (same : SameHoldings next last) : last.Over held where
  sessionsDrawn := same.sessions ▸ gone.sessionsDrawn
  sessions := same.clock ▸ same.sessions ▸ gone.sessions
  passkeysDrawn := same.passkeys ▸ gone.passkeysDrawn
  passkeys := same.passkeys ▸ gone.passkeys
  tokensDrawn := same.keys ▸ gone.tokensDrawn
  tokens := same.clock ▸ same.keys ▸ gone.tokens

theorem reissues_over {step : AccountStep} {held : Reissued} (oneBank : OneBank accounts step)
    (done : accounts.step settings digests step = .ok next) (told : held ∈ accounts.reissues step) : next.Over held := by
  cases step with
  | reissueEnrolment zone user token =>
    obtain rfl := List.mem_singleton.mp told
    simp only [Accounts.step, Accounts.reissueEnrolment, bind_ok, demand_ok, require_ok] at done
    obtain ⟨membership, _, person, _, _, _, done⟩ := done
    split at done
    · cases done
      exact endHoldings_over oneBank
    · cases done
      exact (endHoldings_over oneBank).alike invite_same
  | _ => cases told

/-- In a run from the first day each re-issue of which finds what the person still holds in its own bank alone, nothing that a person held
as their enrolment was re-issued is ever accepted again. -/
theorem run_reissued_ended (settings : IdentitySettings) (digests : Digests) (calls : List AccountStep)
    (meets : Meets (Accounts.step settings digests) OneBank {} calls) :
    ∀ first, first <+: calls → ∀ held ∈ (run (Accounts.step settings digests) {} first).reissued,
      (run (Accounts.step settings digests) {} first).Ended settings held := by
  intro first isPrefix held told
  have gone : (run (Accounts.step settings digests) {} first).AllOver := by
    refine run_invariant_of_meets ?_ ?_ first (meets.initial isPrefix)
    · intro held there
      cases there
    · intro accounts step next kept oneBank done held there
      have later := step_onward done
      rw [later.reissued] at there
      rcases List.mem_append.mp there with old | new
      · exact (kept held old).onward later
      · exact reissues_over oneBank done new
  exact (gone held told).accepted

/-- A person takes up an invitation: the code sent is found right, and the session it opens registers a passkey. -/
def enrols (invited salt refreshHash credentialId : String) (session challenge : Id) : List AccountStep :=
  [.openInvitation invited "111111" salt, .beginVerifyByToken 0 invited, .checkCode 0 "111111", .finishVerify 0 none refreshHash,
    .registrationOptions session, .beginRegistration 0 session challenge credentialId, .finishRegistration 0 none (refreshHash ++ "'")]

/-- A person enrols in bank 7, and mints a token there; the bank re-issues the enrolment, and the person enrols again. -/
def reissuedOnce : List AccountStep :=
  .createInvitation (some 7) "ann@bank.lu" ["library.read"] "invited" :: enrols "invited" "salt" "first" "key" 0 0 ++
    [.mint 1 ["library:read"] "grc" "secret" 1, .reissueEnrolment 7 0 "again"] ++ enrols "again" "salt" "second" "another key" 2 1

theorem reissuedOnce_ended : Meets (Accounts.step {} plainDigests) OneBank {} reissuedOnce ∧
    ∀ first, first <+: reissuedOnce → ∀ held ∈ (run (Accounts.step {} plainDigests) {} first).reissued,
      (run (Accounts.step {} plainDigests) {} first).Ended {} held := by
  have meets : Meets (Accounts.step {} plainDigests) OneBank {} reissuedOnce := by decide +kernel
  exact ⟨meets, run_reissued_ended {} plainDigests reissuedOnce meets⟩

/-- A person enrols in bank 7 and, after a first re-issue there, in bank 8, and mints a token; then bank 7 re-issues the enrolment once more,
and the person enrols again. -/
def twoBanks : List AccountStep :=
  .createInvitation (some 7) "ann@bank.lu" ["library.read"] "invited" :: enrols "invited" "salt" "first" "key" 0 0 ++
    [.createInvitation (some 8) "ann@bank.lu" ["library.read"] "other", .reissueEnrolment 7 0 "again"] ++
    enrols "other" "salt" "second" "another key" 2 1 ++ [.mint 3 ["library:read"] "grc" "secret" 1, .reissueEnrolment 7 0 "once more"] ++
    enrols "once more" "salt" "third" "third key" 4 2

/-- The session in bank 8, which the person held as bank 7 re-issued their enrolment, is accepted. -/
theorem twoBanks_stands : ¬∀ held ∈ (run (Accounts.step {} plainDigests) {} twoBanks).reissued,
    (run (Accounts.step {} plainDigests) {} twoBanks).Ended {} held := by
  have told : ⟨[0, 1, 2, 3], [0, 1], [0]⟩ ∈ (run (Accounts.step {} plainDigests) {} twoBanks).reissued := by decide +kernel
  have stands : ∃ row ∈ (run (Accounts.step {} plainDigests) {} twoBanks).sessions.rows,
      row.id = 3 ∧ (run (Accounts.step {} plainDigests) {} twoBanks).resolves row = true := by decide +kernel
  intro ended
  obtain ⟨row, there, same, resolves⟩ := stands
  have refused := (ended _ told).resolves row there (by rw [same]; decide)
  rw [resolves] at refused
  cases refused

/-- What is over by now: the sessions not live, the passkeys retired, the keys revoked or past their end. -/
def Accounts.spent (accounts : Accounts) : Reissued where
  sessions := (accounts.sessions.rows.filter fun row => ¬row.live accounts.clock).map (·.id)
  passkeys := (accounts.passkeys.rows.filter (·.retiredAt.isSome)).map (·.id)
  tokens := (accounts.keys.rows.filter fun row => row.Over accounts.clock).map (·.id)

end Grc.Identity
