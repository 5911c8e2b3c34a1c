import Grc.Identity.Accounts

/-! What no step of the identity tables undoes, and where each new session and ceremony comes from. -/
namespace Grc.Identity

open Grc.Shared Grc.Lib

/-- A passkey keeps its person, and stays retired. -/
structure PasskeyKept (old row : WebAuthnCredential) : Prop where
  user : row.user = old.user
  retired : old.retiredAt ≠ none → row.retiredAt ≠ none

/-- A key keeps whose it is and when it ends, and stays revoked. -/
structure KeyKept (old row : ApiKey) : Prop where
  tenant : row.tenant = old.tenant
  kind : row.kind = old.kind
  actsAsUser : row.actsAsUser = old.actsAsUser
  expiresAt : row.expiresAt = old.expiresAt
  revoked : old.revokedAt ≠ none → row.revokedAt ≠ none

/-- A session keeps whose it is and where, stays revoked and ends no later. -/
structure SessionKept (old row : UserSession) : Prop where
  user : row.user = old.user
  tenant : row.tenant = old.tenant
  kind : row.kind = old.kind
  revoked : old.revokedAt ≠ none → row.revokedAt ≠ none
  expires : row.expiresAt ≤ old.expiresAt

theorem PasskeyKept.refl (row : WebAuthnCredential) : PasskeyKept row row := ⟨rfl, id⟩

theorem KeyKept.refl (row : ApiKey) : KeyKept row row := ⟨rfl, rfl, rfl, rfl, id⟩

theorem SessionKept.refl (row : UserSession) : SessionKept row row := ⟨rfl, rfl, rfl, id, le_refl _⟩

theorem SessionKept.trans {first second third : UserSession} (one : SessionKept first second) (two : SessionKept second third) :
    SessionKept first third :=
  ⟨two.user.trans one.user, two.tenant.trans one.tenant, two.kind.trans one.kind, fun ended => two.revoked (one.revoked ended),
    two.expires.trans one.expires⟩

theorem SessionKept.revoke (row : UserSession) (now : Instant) (reason : String) : SessionKept row (row.revoke now reason) :=
  ⟨rfl, rfl, rfl, fun _ => Option.some_ne_none _, le_refl _⟩

theorem PasskeyKept.retire (row : WebAuthnCredential) (now : Instant) : PasskeyKept row { row with retiredAt := some now } :=
  ⟨rfl, fun _ => Option.some_ne_none _⟩

theorem KeyKept.revoke (row : ApiKey) (now : Instant) : KeyKept row { row with revokedAt := some now } :=
  ⟨rfl, rfl, rfl, rfl, fun _ => Option.some_ne_none _⟩

/-- A new enrolment session is that of a code found right, and recalls what was seen as it was checked. -/
def FromCode (accounts next : Accounts) (row : UserSession) : Prop :=
  row.kind = .enrolment → ∃ each ∈ accounts.ceremonies, ∃ code invitation seen now,
    each.2 = .admitted code invitation seen now ∧ row.user = code.user ∧ next.seenAt row.id = seen

def Begun (accounts : Accounts) : Ceremony → Prop
  | .verifying _ _ _ _ => True
  | .admitted code _ seen _ => accounts.hasLivePasskey code.user = false ∧ seen = accounts.passkeys.fresh
  | .registering session _ _ _ _ => session ∈ accounts.sessions.rows

/-- The passkeys a step stores from enrolment sessions, told as `tell` tells of them. -/
def Accounts.enrols (accounts : Accounts) : AccountStep → List Enrolled
  | .finishRegistration ceremony _ _ =>
    match accounts.ceremonyOf ceremony with
    | some (.registering session _ _ credentialId _) =>
      if (accounts.passkeys.rows.any (·.credentialId == credentialId)) = true ∨ session.kind ≠ .enrolment then []
      else [{
        user := session.user, session := session.id
        heldLive := accounts.hasLivePasskey session.user
        invited := accounts.invited session.user session.tenant }]
    | _ => []
  | _ => []

def Accounts.reissues (accounts : Accounts) : AccountStep → List Reissued
  | .reissueEnrolment _ user _ => [accounts.holdings user]
  | _ => []

/-- What a step leaves, where it stores the passkeys told of and ends the holdings told of. -/
structure Onward (accounts : Accounts) (told : List Enrolled) (ended : List Reissued) (next : Accounts) : Prop where
  clock : accounts.clock ≤ next.clock
  passkeys : Keyed.Evolves PasskeyKept (fun _ => True) accounts.passkeys next.passkeys
  keys : Keyed.Evolves KeyKept (fun _ => True) accounts.keys next.keys
  sessions : Keyed.Evolves SessionKept (FromCode accounts next) accounts.sessions next.sessions
  seenAt : ∀ row ∈ accounts.sessions.rows, next.seenAt row.id = accounts.seenAt row.id
  ceremonies : ∀ each ∈ next.ceremonies, each ∈ accounts.ceremonies ∨ Begun accounts each.2
  enrolled : next.enrolled = accounts.enrolled ++ told
  reissued : next.reissued = accounts.reissued ++ ended

/-- Two accounts that agree on what `Onward` speaks of. -/
structure SameHoldings (accounts next : Accounts) : Prop where
  clock : next.clock = accounts.clock
  passkeys : next.passkeys = accounts.passkeys
  keys : next.keys = accounts.keys
  sessions : next.sessions = accounts.sessions
  seenAt : next.seenAt = accounts.seenAt
  enrolled : next.enrolled = accounts.enrolled
  reissued : next.reissued = accounts.reissued

variable {settings : IdentitySettings} {digests : Digests} {accounts next : Accounts}

theorem SameHoldings.onward (same : SameHoldings accounts next)
    (ceremonies : ∀ each ∈ next.ceremonies, each ∈ accounts.ceremonies ∨ Begun accounts each.2) : Onward accounts [] [] next where
  clock := same.clock.ge
  passkeys := same.passkeys ▸ .refl PasskeyKept.refl
  keys := same.keys ▸ .refl KeyKept.refl
  sessions := same.sessions ▸ .refl SessionKept.refl
  seenAt := fun row _ => congrFun same.seenAt row.id
  ceremonies := ceremonies
  enrolled := same.enrolled.trans (List.append_nil _).symm
  reissued := same.reissued.trans (List.append_nil _).symm

theorem SameHoldings.quiet (same : SameHoldings accounts next) (ceremonies : next.ceremonies = accounts.ceremonies) : Onward accounts [] [] next :=
  same.onward fun _ there => .inl (ceremonies ▸ there)

variable {ceremony : Id}

theorem mem_turn {at_ : Option Ceremony} {each : Id × Ceremony}
    (there : each ∈ (accounts.turn ceremony at_).ceremonies) : each ∈ accounts.ceremonies ∨ at_ = some each.2 := by
  rcases List.mem_append.mp there with old | new
  · exact .inl (List.mem_filter.mp old).1
  · obtain ⟨begun, given, rfl⟩ := List.mem_map.mp new
    exact .inr (Option.mem_toList.mp given)

theorem mem_ceremonyOf {at_ : Ceremony} (found : accounts.ceremonyOf ceremony = some at_) :
    (ceremony, at_) ∈ accounts.ceremonies := by
  obtain ⟨each, here, rfl⟩ := Option.map_eq_some_iff.mp found
  have named := List.find?_some here
  rw [← beq_iff_eq.mp named]
  exact List.mem_of_find?_eq_some here

theorem turn_onward {at_ : Ceremony} (begun : Begun accounts at_) : Onward accounts [] [] (accounts.turn ceremony (some at_)) := by
  refine SameHoldings.onward ⟨rfl, rfl, rfl, rfl, rfl, rfl, rfl⟩ fun each there => ?_
  rcases mem_turn there with old | same
  · exact .inl old
  · obtain rfl : at_ = each.2 := Option.some.inj same
    exact .inr begun

theorem ended_onward (same : SameHoldings accounts next) (ceremonies : next.ceremonies = accounts.ceremonies) :
    Onward accounts [] [] (next.turn ceremony none) := by
  refine SameHoldings.onward ⟨same.clock, same.passkeys, same.keys, same.sessions, same.seenAt, same.enrolled, same.reissued⟩ fun each there => ?_
  rcases mem_turn there with old | none_
  · exact .inl (ceremonies ▸ old)
  · cases none_

theorem withUser_same {email : String} : SameHoldings accounts (accounts.withUser email) ∧
    (accounts.withUser email).ceremonies = accounts.ceremonies := by
  unfold Accounts.withUser
  split
  · exact ⟨⟨rfl, rfl, rfl, rfl, rfl, rfl, rfl⟩, rfl⟩
  · exact ⟨⟨rfl, rfl, rfl, rfl, rfl, rfl, rfl⟩, rfl⟩

theorem join_same {tenant user : Id} {granted : List String} : SameHoldings accounts (accounts.join tenant user granted) ∧
    (accounts.join tenant user granted).ceremonies = accounts.ceremonies := by
  unfold Accounts.join
  split
  · exact ⟨⟨rfl, rfl, rfl, rfl, rfl, rfl, rfl⟩, rfl⟩
  · exact ⟨⟨rfl, rfl, rfl, rfl, rfl, rfl, rfl⟩, rfl⟩

variable {now : Instant}

theorem accept_same {invitation : Invitation} {user : Id} : SameHoldings accounts (accounts.accept invitation user now) ∧
    (accounts.accept invitation user now).ceremonies = accounts.ceremonies := by
  unfold Accounts.accept
  split
  · exact ⟨⟨rfl, rfl, rfl, rfl, rfl, rfl, rfl⟩, rfl⟩
  · obtain ⟨same, ceremonies⟩ := @join_same { accounts with
      invitations := accounts.invitations.update (·.id == invitation.id)
        (fun row => { row with acceptedAt := some now, acceptedUser := some user }) fun _ => rfl } (by assumption) user invitation.granted
    exact ⟨⟨same.clock, same.passkeys, same.keys, same.sessions, same.seenAt, same.enrolled, same.reissued⟩, ceremonies⟩

theorem Onward.alike {last : Accounts} {told : List Enrolled} {ended : List Reissued} (later : Onward accounts told ended next)
    (same : SameHoldings next last) (ceremonies : last.ceremonies = next.ceremonies) : Onward accounts told ended last where
  clock := same.clock ▸ later.clock
  passkeys := same.passkeys ▸ later.passkeys
  keys := same.keys ▸ later.keys
  sessions := by
    rw [same.sessions]
    refine ⟨later.sessions.kept, fun row there => (later.sessions.came row there).imp id fun born => ⟨born.1, fun kind => ?_⟩⟩
    rw [same.seenAt]
    exact born.2 kind
  seenAt := fun row there => same.seenAt ▸ later.seenAt row there
  ceremonies := fun each there => later.ceremonies each (ceremonies ▸ there)
  enrolled := same.enrolled.trans later.enrolled
  reissued := same.reissued.trans later.reissued

theorem FromCode.kept {first second : UserSession} (born : FromCode accounts next first) (same : second.id = first.id)
    (kept : SessionKept first second) : FromCode accounts next second := by
  intro kind
  obtain ⟨each, there, code, invitation, seen, now, its, user, recalls⟩ := born (kept.kind ▸ kind)
  exact ⟨each, there, code, invitation, seen, now, its, kept.user.trans user, same ▸ recalls⟩

theorem invite_same {tenant : Option Id} {email token : String} {kind : InvitationKind} {granted : List String} :
    SameHoldings accounts (accounts.invite settings digests tenant email kind granted token) :=
  ⟨rfl, rfl, rfl, rfl, rfl, rfl, rfl⟩

theorem issueCode_same {user : User} {code salt : String} :
    SameHoldings accounts (accounts.issueCode settings digests user code salt) :=
  ⟨rfl, rfl, rfl, rfl, rfl, rfl, rfl⟩

theorem endSession_onward {id : Id} {reason : String} : Onward accounts [] [] (accounts.endSession id reason) where
  clock := le_refl _
  passkeys := .refl PasskeyKept.refl
  keys := .refl KeyKept.refl
  sessions := .update SessionKept.refl (by exact fun _ => rfl) fun row _ _ => .revoke row _ _
  seenAt := fun _ _ => rfl
  ceremonies := fun _ there => .inl there
  enrolled := (List.append_nil _).symm
  reissued := (List.append_nil _).symm

theorem checkCode_onward {given : String} (done : accounts.checkCode digests ceremony given = .ok next) :
    Onward accounts [] [] next := by
  simp only [Accounts.checkCode] at done
  split at done
  · rename_i email invitation code now there
    split at done
    · cases done
      exact ended_onward ⟨rfl, rfl, rfl, rfl, rfl, rfl, rfl⟩ rfl
    · split at done
      · cases done
      split at done
      · cases done
        exact ended_onward ⟨rfl, rfl, rfl, rfl, rfl, rfl, rfl⟩ rfl
      split at done
      · cases done
        exact ended_onward ⟨rfl, rfl, rfl, rfl, rfl, rfl, rfl⟩ rfl
      split at done
      · cases done
        exact ended_onward ⟨rfl, rfl, rfl, rfl, rfl, rfl, rfl⟩ rfl
      · split at done
        · cases done
          exact ended_onward ⟨rfl, rfl, rfl, rfl, rfl, rfl, rfl⟩ rfl
        · rename_i open_ none_
          cases done
          exact turn_onward ⟨Bool.eq_false_iff.mpr none_, rfl⟩
  · cases done

variable {policy : Option SecurityPolicy} {refreshHash : String}

theorem finishVerify_onward
    (done : accounts.finishVerify settings ceremony policy refreshHash = .ok next) : Onward accounts [] [] next := by
  simp only [Accounts.finishVerify] at done
  split at done
  · rename_i code invitation seen now there
    cases done
    refine ⟨le_refl _, .refl PasskeyKept.refl, .refl KeyKept.refl, ?_, ?_, ?_, (List.append_nil _).symm, (List.append_nil _).symm⟩
    · refine .create SessionKept.refl (by exact fun _ => rfl) fun _ => ?_
      exact ⟨_, mem_ceremonyOf there, code, invitation, seen, now, rfl, rfl, Function.update_self ..⟩
    · intro row here
      exact Function.update_of_ne (Keyed.key_lt_fresh here).ne ..
    · intro each still
      rcases mem_turn still with old | none_
      · exact .inl old
      · cases none_
  · cases done

variable {session : UserSession}

theorem storePasskey_onward {challenge : Id} {credentialId : String} :
    Onward accounts [] [] ((accounts.storePasskey session challenge credentialId now).turn ceremony none) where
  clock := le_refl _
  passkeys := by
    have stored : Keyed.Evolves PasskeyKept (fun _ => True) accounts.passkeys
        (accounts.passkeys.create (fun id => { id, user := session.user, credentialId }) fun _ => rfl) := .create PasskeyKept.refl _ trivial
    exact stored
  keys := .refl KeyKept.refl
  sessions := .refl SessionKept.refl
  seenAt := fun _ _ => rfl
  ceremonies := fun each there => by
    rcases mem_turn there with old | none_
    · exact .inl old
    · cases none_
  enrolled := (List.append_nil _).symm
  reissued := (List.append_nil _).symm

theorem replaceSession_onward
    (later : Onward accounts [] [] next) : Onward accounts [] [] (next.replaceSession settings session policy refreshHash now) where
  clock := later.clock
  passkeys := later.passkeys
  keys := later.keys
  sessions := by
    refine (later.sessions.trans (.update SessionKept.refl (by exact fun _ => rfl) fun row _ _ => .revoke row _ _) .trans .kept).trans
      (.create SessionKept.refl (by exact fun _ => rfl) ?_) .trans .kept
    intro kind
    cases kind
  seenAt := later.seenAt
  ceremonies := later.ceremonies
  enrolled := later.enrolled
  reissued := later.reissued

theorem tell_onward (later : Onward accounts [] [] next) :
    Onward accounts [{
      user := session.user, session := session.id
      heldLive := accounts.hasLivePasskey session.user
      invited := accounts.invited session.user session.tenant }] [] (accounts.tell session next) where
  clock := later.clock
  passkeys := later.passkeys
  keys := later.keys
  sessions := later.sessions
  seenAt := later.seenAt
  ceremonies := later.ceremonies
  enrolled := rfl
  reissued := later.reissued

theorem enrols_registering {ceremony challenge : Id} {invitation : Option Invitation} {credentialId : String}
    (policy : Option SecurityPolicy) (refreshHash : String)
    (there : accounts.ceremonyOf ceremony = some (.registering session invitation challenge credentialId now)) :
    accounts.enrols (.finishRegistration ceremony policy refreshHash) =
      if (accounts.passkeys.rows.any (·.credentialId == credentialId)) = true ∨ session.kind ≠ .enrolment then []
      else [{
        user := session.user, session := session.id
        heldLive := accounts.hasLivePasskey session.user
        invited := accounts.invited session.user session.tenant }] := by
  simp only [Accounts.enrols, there]

theorem finishRegistration_onward
    (done : accounts.finishRegistration settings ceremony policy refreshHash = .ok next) :
    Onward accounts (accounts.enrols (.finishRegistration ceremony policy refreshHash)) [] next := by
  simp only [Accounts.finishRegistration] at done
  split at done
  · rename_i session invitation challenge credentialId now there
    split at done
    · rename_i held
      rw [enrols_registering policy refreshHash there, if_pos (.inl held)]
      cases done
      exact (ended_onward ⟨rfl, rfl, rfl, rfl, rfl, rfl, rfl⟩ rfl).alike ⟨rfl, rfl, rfl, rfl, rfl, rfl, rfl⟩ rfl
    rename_i new
    split at done
    · rename_i full
      rw [enrols_registering policy refreshHash there, if_pos (.inr full)]
      cases done
      exact storePasskey_onward
    rename_i enrolment
    rw [enrols_registering policy refreshHash there, if_neg (not_or.mpr ⟨new, enrolment⟩)]
    split at done
    · cases done
      exact tell_onward storePasskey_onward
    · cases done
      refine tell_onward (replaceSession_onward ?_)
      cases invitation with
      | none => exact storePasskey_onward
      | some open_ => exact storePasskey_onward.alike accept_same.1 accept_same.2
  · cases done

theorem refreshSession_onward {id : Id} {reads : RefreshReads} {presentedHash newHash : String}
    (done : accounts.refreshSession settings id reads presentedHash newHash = .ok next) : Onward accounts [] [] next := by
  simp only [Accounts.refreshSession] at done
  split at done
  · cases done
    exact SameHoldings.quiet ⟨rfl, rfl, rfl, rfl, rfl, rfl, rfl⟩ rfl
  · cases done
    exact SameHoldings.quiet ⟨rfl, rfl, rfl, rfl, rfl, rfl, rfl⟩ rfl
  · cases done
    exact endSession_onward
  · rename_i session deadline decided
    cases done
    have found := refresh_writes (congrArg Decision.writes decided)
    refine ⟨le_refl _, .refl PasskeyKept.refl, .refl KeyKept.refl, .update SessionKept.refl (by exact fun _ => rfl) ?_, fun _ _ => rfl, fun _ there => .inl there,
      (List.append_nil _).symm, (List.append_nil _).symm⟩
    intro row here chosen
    obtain rfl : row = session := accounts.sessions.eq_of_key here (List.mem_of_find?_eq_some found) (beq_iff_eq.mp chosen)
    exact ⟨rfl, rfl, rfl, fun ended => ended, refresh_deadline decided⟩

theorem endHoldings_onward {zone user : Id} : Onward accounts [] [accounts.holdings user] (accounts.endHoldings zone user) where
  clock := le_refl _
  passkeys := .update PasskeyKept.refl (by exact fun _ => rfl) fun row _ _ => .retire row _
  keys := .update KeyKept.refl (by exact fun _ => rfl) fun row _ _ => .revoke row _
  sessions := .update SessionKept.refl (by exact fun _ => rfl) fun row _ _ => .revoke row _ _
  seenAt := fun _ _ => rfl
  ceremonies := fun _ there => .inl there
  enrolled := (List.append_nil _).symm
  reissued := rfl

theorem reissueEnrolment_onward {zone user : Id} {token : String}
    (done : accounts.reissueEnrolment settings digests zone user token = .ok next) :
    Onward accounts [] [accounts.holdings user] next := by
  simp only [Accounts.reissueEnrolment, bind_ok, demand_ok, require_ok] at done
  obtain ⟨membership, _, person, _, _, _, done⟩ := done
  split at done
  · cases done
    exact endHoldings_onward
  · cases done
    exact endHoldings_onward.alike ⟨rfl, rfl, rfl, rfl, rfl, rfl, rfl⟩ rfl

theorem step_onward {step : AccountStep} (done : accounts.step settings digests step = .ok next) :
    Onward accounts (accounts.enrols step) (accounts.reissues step) next := by
  have quiet : SameHoldings accounts accounts := ⟨rfl, rfl, rfl, rfl, rfl, rfl, rfl⟩
  cases step with
  | tick elapsed =>
    cases done
    exact ⟨Nat.le_add_right _ _, .refl PasskeyKept.refl, .refl KeyKept.refl, .refl SessionKept.refl, fun _ _ => rfl, fun _ there => .inl there,
      (List.append_nil _).symm, (List.append_nil _).symm⟩
  | createInvitation tenant email granted token =>
    simp only [Accounts.step, Accounts.createInvitation, bind_ok, require_ok, Except.ok.injEq] at done
    obtain ⟨_, _, user, _, _, _, _, _, rfl⟩ := done
    exact (SameHoldings.quiet withUser_same.1 withUser_same.2).alike invite_same rfl
  | resendInvitation id token =>
    simp only [Accounts.step, Accounts.resendInvitation, bind_ok, Except.ok.injEq] at done
    obtain ⟨_, _, _, _, rfl⟩ := done
    exact SameHoldings.quiet ⟨rfl, rfl, rfl, rfl, rfl, rfl, rfl⟩ rfl
  | revokeInvitation id =>
    cases done
    exact SameHoldings.quiet ⟨rfl, rfl, rfl, rfl, rfl, rfl, rfl⟩ rfl
  | requestCode email code salt =>
    simp only [Accounts.step, Accounts.requestCode] at done
    split at done
    · split at done
      · cases done
        exact quiet.quiet rfl
      · split at done
        · cases done
          exact issueCode_same.quiet rfl
        · cases done
    · cases done
      exact quiet.quiet rfl
  | openInvitation token code salt =>
    simp only [Accounts.step, Accounts.openInvitation, bind_ok, Except.ok.injEq] at done
    obtain ⟨_, _, _, _, _, _, _, _, rfl⟩ := done
    exact (SameHoldings.quiet withUser_same.1 withUser_same.2).alike issueCode_same rfl
  | beginVerify ceremony email =>
    simp only [Accounts.step, Accounts.beginVerify, bind_ok, Except.ok.injEq] at done
    obtain ⟨_, _, rfl⟩ := done
    exact turn_onward trivial
  | beginVerifyByToken ceremony token =>
    simp only [Accounts.step, Accounts.beginVerifyByToken, bind_ok, Except.ok.injEq] at done
    obtain ⟨_, _, _, _, _, _, rfl⟩ := done
    exact turn_onward trivial
  | checkCode ceremony given => exact checkCode_onward done
  | finishVerify ceremony policy refreshHash => exact finishVerify_onward done
  | registrationOptions session =>
    simp only [Accounts.step, Accounts.registrationOptions, bind_ok, Except.ok.injEq] at done
    obtain ⟨_, _, rfl⟩ := done
    exact SameHoldings.quiet ⟨rfl, rfl, rfl, rfl, rfl, rfl, rfl⟩ rfl
  | beginRegistration ceremony session challenge credentialId =>
    simp only [Accounts.step, Accounts.beginRegistration, bind_ok, Except.ok.injEq] at done
    obtain ⟨_, _, row, found, _, _, _, _, _, _, rfl⟩ := done
    rw [Accounts.sessionOf, demand_ok] at found
    exact turn_onward (List.mem_of_find?_eq_some found)
  | failRegistration session challenge =>
    simp only [Accounts.step, Accounts.failRegistration, bind_ok, Except.ok.injEq] at done
    obtain ⟨_, _, _, _, _, _, rfl⟩ := done
    exact SameHoldings.quiet ⟨rfl, rfl, rfl, rfl, rfl, rfl, rfl⟩ rfl
  | finishRegistration ceremony policy refreshHash => exact finishRegistration_onward done
  | signIn passkey policy refreshHash =>
    simp only [Accounts.step, Accounts.signIn, bind_ok, Except.ok.injEq] at done
    obtain ⟨_, _, _, _, rfl⟩ := done
    refine ⟨le_refl _, .refl PasskeyKept.refl, .refl KeyKept.refl, .create SessionKept.refl (by exact fun _ => rfl) ?_, fun _ _ => rfl, fun _ there => .inl there,
      (List.append_nil _).symm, (List.append_nil _).symm⟩
    intro kind
    cases kind
  | refreshSession id reads presentedHash newHash => exact refreshSession_onward done
  | revokeSession id reason =>
    cases done
    exact endSession_onward
  | removePasskey session passkey =>
    simp only [Accounts.step, Accounts.removePasskey, bind_ok, Except.ok.injEq] at done
    obtain ⟨_, _, _, _, _, _, rfl⟩ := done
    exact ⟨le_refl _, .update PasskeyKept.refl (by exact fun _ => rfl) fun row _ _ => .retire row _, .refl KeyKept.refl, .refl SessionKept.refl, fun _ _ => rfl,
      fun _ there => .inl there, (List.append_nil _).symm, (List.append_nil _).symm⟩
  | reissueEnrolment tenant user token => exact reissueEnrolment_onward done
  | mint session scopes keyPrefix secret expiresAt =>
    simp only [Accounts.step, Accounts.mint, bind_ok, Except.ok.injEq] at done
    obtain ⟨row, _, tenant, _, _, _, _, _, _, _, rfl⟩ := done
    have minted : Keyed.Evolves KeyKept (fun _ => True) accounts.keys (accounts.keys.create (fun id => {
        id, tenant := some tenant, kind := .personal, actsAsUser := some row.user, scopes, keyPrefix
        keyHash := digests.hashToken secret, expiresAt := some expiresAt }) fun _ => rfl) := .create KeyKept.refl _ trivial
    exact ⟨le_refl _, .refl PasskeyKept.refl, minted, .refl SessionKept.refl, fun _ _ => rfl, fun _ there => .inl there,
      (List.append_nil _).symm, (List.append_nil _).symm⟩
  | revokeKey id =>
    cases done
    exact ⟨le_refl _, .refl PasskeyKept.refl, .update KeyKept.refl (by exact fun _ => rfl) fun row _ _ => .revoke row _, .refl SessionKept.refl, fun _ _ => rfl,
      fun _ there => .inl there, (List.append_nil _).symm, (List.append_nil _).symm⟩
  | deactivateMember tenant user =>
    cases done
    exact ⟨le_refl _, .refl PasskeyKept.refl, .update KeyKept.refl (by exact fun _ => rfl) fun row _ _ => .revoke row _,
      .update SessionKept.refl (by exact fun _ => rfl) fun row _ _ => .revoke row _ _, fun _ _ => rfl, fun _ there => .inl there,
      (List.append_nil _).symm, (List.append_nil _).symm⟩
  | regrant membership granted | staff user =>
    cases done
    exact SameHoldings.quiet ⟨rfl, rfl, rfl, rfl, rfl, rfl, rfl⟩ rfl
  | abort ceremony =>
    cases done
    exact ended_onward quiet rfl

end Grc.Identity
