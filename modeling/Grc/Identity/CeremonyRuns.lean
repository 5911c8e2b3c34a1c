import Grc.Identity.Ceremonies

/-! What the passkey ceremonies keep over a run: exactly as long as every ceremony about to be accepted finds its passkey standing as it read it, or
below the count it presents. -/
namespace Grc.Identity.Ceremonies

open Grc.Shared Grc.Lib

variable {settings : PasskeySettings} {library : WebAuthn} {desk next : PasskeyDesk} {ceremony : Ceremony} {now : Instant} {use : Use}
  {challenge : AuthChallenge} {kind : ChallengeKind} {user session : Option Id} {id : Id}

theorem Door.kind_ne (door : Door) : door.kind ≠ .registration := by
  cases door with
  | signIn => decide
  | stepUp user session => exact nofun

/-- A challenge that is claimed: its row, unspent, unexpired, and of the caller where one is named. -/
structure Claims (desk : PasskeyDesk) (kind : ChallengeKind) (user session : Option Id) (now : Instant) (row : AuthChallenge) : Prop where
  there : row ∈ desk.challenges
  kind : row.kind = kind
  unspent : row.consumedAt = none
  open_ : now < row.expiresAt
  user : ∀ named ∈ user, row.user = some named
  session : ∀ named ∈ session, row.session = some named

theorem openChallenge_claims {text : String} (found : desk.openChallenge kind text user session now = some challenge) :
    Claims desk kind user session now challenge := by
  have shown := List.find?_some found
  simp only [Bool.and_eq_true, beq_iff_eq, decide_eq_true_eq, Option.isNone_iff_eq_none] at shown
  obtain ⟨⟨⟨⟨⟨its, -⟩, unspent⟩, open_⟩, person⟩, device⟩ := shown
  refine ⟨List.mem_of_find?_eq_some found, its, unspent, open_, ?_, ?_⟩
  · intro named same
    rw [Option.mem_def.mp same] at person
    exact beq_iff_eq.mp person
  · intro named same
    rw [Option.mem_def.mp same] at device
    exact beq_iff_eq.mp device

theorem claimed_claims (claimed : desk.claimed ceremony now = some challenge) :
    Claims desk ceremony.door.kind ceremony.door.user ceremony.door.session now challenge := by
  obtain ⟨text, -, found⟩ := Option.bind_eq_some_iff.mp claimed
  exact openChallenge_claims found

/-- A ceremony that has claimed a challenge is judged: it is rolled back, or refused or accepted on that challenge, and accepted only where the
library verifies it against the count it read. -/
theorem judge_cases (settings : PasskeySettings) (library : WebAuthn) (ceremony : Ceremony) (challenge : AuthChallenge) :
    PasskeyDesk.judge settings library ceremony challenge = .raised ∨
      PasskeyDesk.judge settings library ceremony challenge = .refused challenge ∨
        PasskeyDesk.judge settings library ceremony challenge = .accepted challenge ∧
          library.authentication ceremony.response challenge.challenge ceremony.row.publicKey
            (PasskeyDesk.currentSignCount settings ceremony.row) = .verified := by
  unfold PasskeyDesk.judge
  by_cases own : userHandleMatches ceremony.response.userHandle ceremony.row.user (ceremony.door = .signIn) = true
  · rw [if_pos own]
    cases library.authentication ceremony.response challenge.challenge ceremony.row.publicKey (PasskeyDesk.currentSignCount settings ceremony.row) with
    | raised => exact .inl rfl
    | refused => exact .inr (.inl rfl)
    | verified =>
      by_cases same : ceremony.response.multiDevice = ceremony.row.backupEligible
      · exact .inr (.inr ⟨if_pos same, rfl⟩)
      · exact .inr (.inl (if_neg same))
  · rw [if_neg own]
    exact .inr (.inl rfl)

theorem verdict_accepted (accepted : desk.verdict settings library ceremony now = .accepted challenge) :
    Claims desk ceremony.door.kind ceremony.door.user ceremony.door.session now challenge ∧
      library.authentication ceremony.response challenge.challenge ceremony.row.publicKey (PasskeyDesk.currentSignCount settings ceremony.row) =
        .verified := by
  unfold PasskeyDesk.verdict at accepted
  split at accepted
  · cases accepted
  · rename_i row found
    rcases judge_cases settings library ceremony row with raised | refused | ⟨its, verified⟩
    · rw [raised] at accepted
      cases accepted
    · rw [refused] at accepted
      cases accepted
    · rw [its] at accepted
      cases accepted
      exact ⟨claimed_claims found, verified⟩

theorem counts_read (library : WebAuthn) (strict : settings.e2eMode = false) {text : String}
    (verified : library.authentication ceremony.response text ceremony.row.publicKey (PasskeyDesk.currentSignCount settings ceremony.row) = .verified) :
    ceremony.row.signCount < ceremony.response.signCount ∨ ceremony.row.signCount = 0 ∧ ceremony.response.signCount = 0 := by
  have counts := library.counts verified
  rw [PasskeyDesk.currentSignCount, strict, if_neg (by decide)] at counts
  exact counts

theorem usesOf_append (journal more : List Entry) : usesOf (journal ++ more) = usesOf journal ++ usesOf more := List.filterMap_append

theorem uses_retire {picked : WebAuthnCredential → Bool} : (desk.retire picked now).uses = desk.uses := by
  have none : ∀ rows : List WebAuthnCredential, usesOf (rows.map fun row => .retired row.id) = [] := by
    intro rows
    refine List.filterMap_eq_nil_iff.mpr fun entry there => ?_
    obtain ⟨row, -, rfl⟩ := List.mem_map.mp there
    rfl
  rw [PasskeyDesk.uses, PasskeyDesk.retire, usesOf_append, none, List.append_nil, PasskeyDesk.uses]

theorem Kept.same (kept : Kept settings desk) (challenges : next.challenges = desk.challenges) (journal : next.journal = desk.journal) :
    Kept settings next := by
  have uses : next.uses = desk.uses := congrArg usesOf journal
  exact ⟨uses ▸ kept.single, uses ▸ challenges ▸ kept.own, uses ▸ kept.rising, uses ▸ kept.stored, journal ▸ kept.live⟩

def Use.Spent (use : Use) (challenges : List AuthChallenge) : Prop :=
  ∃ row ∈ challenges, row.challenge = use.challenge ∧ row.kind = use.kind ∧ use.at_ < row.expiresAt ∧
    (use.kind = .stepUp → row.user = some use.user ∧ row.session = use.session ∧ use.session ≠ none) ∧ row.consumedAt.isSome = true

/-- What holds of every desk whose ceremonies were all timely. -/
structure Sound (settings : PasskeySettings) (desk : PasskeyDesk) : Prop where
  kept : Kept settings desk
  challenges : (desk.challenges.map (·.challenge)).Nodup
  spent : ∀ use ∈ desk.uses, use.Spent desk.challenges
  /-- The stored count is the highest so far, and is the last one stored. -/
  below : ∀ use ∈ desk.uses, use.signCount ≤ use.stored ∧ ∃ row ∈ desk.passkeys.rows, row.id = use.passkey ∧ use.stored ≤ row.signCount
  last : ∀ row ∈ desk.passkeys.rows, ∃ use ∈ desk.uses, use.passkey = row.id ∧ use.stored = row.signCount
  read : ∀ each ∈ desk.ceremonies, ∃ row ∈ desk.passkeys.rows, row.id = each.2.row.id ∧ each.2.row.signCount ≤ row.signCount
  owner : ∀ each ∈ desk.ceremonies, ∀ named ∈ each.2.door.user, each.2.row.user = named
  /-- A count that has moved since it was read is one that was accepted. -/
  moved : settings.e2eMode = false → ∀ row ∈ desk.passkeys.rows,
    (∃ use ∈ desk.uses, use.kind ≠ .registration ∧ use.passkey = row.id ∧ use.signCount = row.signCount) ∨
      ∀ each ∈ desk.ceremonies, each.2.row.id = row.id → each.2.row.signCount = row.signCount
  retired : ∀ row ∈ desk.passkeys.rows, row.retiredAt ≠ none → .retired row.id ∈ desk.journal
  gone : ∀ passkey, .retired passkey ∈ desk.journal → ∃ row ∈ desk.passkeys.rows, row.id = passkey ∧ row.retiredAt ≠ none

namespace Sound

theorem empty : Sound settings {} where
  kept := {
    single := List.nodup_nil
    own := fun _ there => absurd there List.not_mem_nil
    rising := fun _ => .nil
    stored := .nil
    live := .nil }
  challenges := List.nodup_nil
  spent := fun _ there => absurd there List.not_mem_nil
  below := fun _ there => absurd there List.not_mem_nil
  last := fun _ there => absurd there List.not_mem_nil
  read := fun _ there => absurd there List.not_mem_nil
  owner := fun _ there => absurd there List.not_mem_nil
  moved := fun _ _ there => absurd there List.not_mem_nil
  retired := fun _ there => absurd there List.not_mem_nil
  gone := fun _ there => absurd there List.not_mem_nil

section
variable (sound : Sound settings desk)
include sound

theorem rechallenged {challenges : List AuthChallenge} {inactive : List Id} (unique : (challenges.map (·.challenge)).Nodup)
    (stay : ∀ row ∈ desk.challenges, ∃ later ∈ challenges, later = { row with consumedAt := later.consumedAt } ∧
      (row.consumedAt.isSome = true → later.consumedAt.isSome = true)) :
    Sound settings { desk with challenges, inactive } := by
  have spent : ∀ use ∈ desk.uses, use.Spent challenges := by
    intro use there
    obtain ⟨row, listed, same, its, before, whose, consumed⟩ := sound.spent use there
    obtain ⟨later, still, as, after⟩ := stay row listed
    rw [as] at still
    refine ⟨_, still, same, its, before, whose, after consumed⟩
  refine ⟨⟨sound.kept.single, fun use there => ?_, sound.kept.rising, sound.kept.stored, sound.kept.live⟩, unique, spent, sound.below, sound.last,
    sound.read, sound.owner, sound.moved, sound.retired, sound.gone⟩
  obtain ⟨row, listed, same, its, before, whose, -⟩ := spent use there
  exact ⟨row, listed, same, its, before, whose⟩

theorem issue {row : AuthChallenge} (new : row.challenge ∉ desk.challenges.map (·.challenge)) :
    Sound settings { desk with challenges := desk.challenges ++ [row] } := by
  refine @rechallenged _ _ sound _ desk.inactive ?_ fun old there => ⟨old, List.mem_append_left _ there, rfl, id⟩
  rw [List.map_append]
  refine List.nodup_append.mpr ⟨sound.challenges, List.nodup_singleton _, ?_⟩
  rintro text before last its rfl
  rw [List.map_singleton, List.mem_singleton] at its
  exact new (its ▸ before)

theorem consume (text : String) (now : Instant) : Sound settings (desk.consume text now) := by
  refine @rechallenged _ _ sound _ desk.inactive ?_ fun row there => ⟨_, List.mem_map_of_mem there, ?_, ?_⟩
  · rw [List.map_map]
    refine List.map_congr_left (fun row _ => ?_) ▸ sound.challenges
    change _ = (if row.challenge = text then { row with consumedAt := some now } else row).challenge
    split <;> rfl
  · split <;> rfl
  · intro was
    split
    · rfl
    · exact was

theorem elsewhere (inactive : List Id) : Sound settings { desk with inactive } :=
  sound.rechallenged sound.challenges fun row there => ⟨row, there, rfl, id⟩

theorem ended (id : Id) : Sound settings (desk.ended id) :=
  ⟨sound.kept.same rfl rfl, sound.challenges, sound.spent, sound.below, sound.last, fun each left => sound.read each (mem_withoutBy.mp left).1,
    fun each left => sound.owner each (mem_withoutBy.mp left).1, fun strict row there => (sound.moved strict row there).imp_right fun as_ each left => as_ each (mem_withoutBy.mp left).1,
    sound.retired, sound.gone⟩

theorem begins (there : ceremony.row ∈ desk.passkeys.rows) (own : ∀ named ∈ ceremony.door.user, ceremony.row.user = named) :
    Sound settings { desk with ceremonies := desk.ceremonies ++ [(id, ceremony)] } := by
  refine ⟨sound.kept.same rfl rfl, sound.challenges, sound.spent, sound.below, sound.last, List.forall_mem_append.mpr ⟨sound.read, ?_⟩,
    List.forall_mem_append.mpr ⟨sound.owner, fun each new => List.mem_singleton.mp new ▸ own⟩, ?_, sound.retired, sound.gone⟩
  · intro each new
    rw [List.mem_singleton.mp new]
    exact ⟨ceremony.row, there, rfl, le_refl _⟩
  · intro strict row listed
    refine (sound.moved strict row listed).imp_right fun as_ => List.forall_mem_append.mpr ⟨as_, fun each new same => ?_⟩
    rw [List.mem_singleton.mp new] at same ⊢
    rw [desk.passkeys.eq_of_key there listed same]

theorem retire (picked : WebAuthnCredential → Bool) (now : Instant) : Sound settings (desk.retire picked now) := by
  have forth : ∀ row ∈ desk.passkeys.rows, ∃ later ∈ (desk.retire picked now).passkeys.rows,
      later = { row with retiredAt := later.retiredAt } ∧ (row.retiredAt ≠ none → later.retiredAt ≠ none) := by
    intro row there
    refine ⟨_, List.mem_map_of_mem there, ?_, ?_⟩
    · split <;> rfl
    · intro was
      split
      · exact nofun
      · exact was
  have back : ∀ later ∈ (desk.retire picked now).passkeys.rows, ∃ row ∈ desk.passkeys.rows,
      later = { row with retiredAt := later.retiredAt } ∧ (later.retiredAt ≠ row.retiredAt → (picked row && row.retiredAt.isNone) = true) := by
    intro later there
    obtain ⟨row, listed, rfl⟩ := List.mem_map.mp there
    refine ⟨row, listed, ?_, ?_⟩
    · split <;> rfl
    · split
      · exact fun _ => ‹_›
      · exact fun differs => absurd rfl differs
  have listed : ∀ {passkey}, .retired passkey ∈ (desk.retire picked now).journal ↔
      .retired passkey ∈ desk.journal ∨ ∃ row ∈ desk.passkeys.rows, (picked row && row.retiredAt.isNone) = true ∧ row.id = passkey := by
    intro passkey
    rw [PasskeyDesk.retire, List.mem_append, List.mem_map]
    refine or_congr_right (exists_congr fun row => ?_)
    rw [List.mem_filter, and_assoc, Entry.retired.injEq]
  have uses : (desk.retire picked now).uses = desk.uses := uses_retire
  refine ⟨⟨?_, ?_, ?_, ?_, ?_⟩, sound.challenges, ?_, ?_, ?_, ?_, sound.owner, ?_, ?_, ?_⟩
  · exact uses ▸ sound.kept.single
  · exact uses ▸ sound.kept.own
  · exact uses ▸ sound.kept.rising
  · exact uses ▸ sound.kept.stored
  · refine List.pairwise_append.mpr ⟨sound.kept.live, ?_, ?_⟩
    · exact List.pairwise_map.mpr (List.pairwise_of_forall fun _ _ => trivial)
    · intro first _ second new
      obtain ⟨row, -, rfl⟩ := List.mem_map.mp new
      cases first <;> trivial
  · exact uses ▸ sound.spent
  · rw [uses]
    intro use there
    obtain ⟨low, row, held, same, high⟩ := sound.below use there
    obtain ⟨later, still, as, -⟩ := forth row held
    rw [as] at still
    exact ⟨low, _, still, same, high⟩
  · rw [uses]
    intro later there
    obtain ⟨row, held, as, -⟩ := back later there
    rw [as]
    exact sound.last row held
  · intro each there
    obtain ⟨row, held, same, low⟩ := sound.read each there
    obtain ⟨later, still, as, -⟩ := forth row held
    rw [as] at still
    exact ⟨_, still, same, low⟩
  · rw [uses]
    intro strict later there
    obtain ⟨row, held, as, -⟩ := back later there
    rw [as]
    exact sound.moved strict row held
  · intro later there now_
    obtain ⟨row, held, as, changed⟩ := back later there
    have same : later.id = row.id := by rw [as]
    rw [listed]
    by_cases was : later.retiredAt = row.retiredAt
    · rw [same]
      exact .inl (sound.retired row held (was ▸ now_))
    · exact .inr ⟨row, held, changed was, same.symm⟩
  · intro passkey there
    rcases listed.mp there with before | ⟨row, held, chosen, same⟩
    · obtain ⟨row, held, same, was⟩ := sound.gone passkey before
      obtain ⟨later, still, as, after⟩ := forth row held
      exact ⟨later, still, (congrArg WebAuthnCredential.id as).trans same, after was⟩
    · refine ⟨_, List.mem_map_of_mem held, ?_, ?_⟩
      · rw [if_pos chosen]
        exact same
      · rw [if_pos chosen]
        exact nofun

theorem adds (there : challenge ∈ desk.challenges) (unspent : challenge.consumedAt = none)
    (its : challenge.challenge = use.challenge) (as : challenge.kind = use.kind) (before : use.at_ < challenge.expiresAt)
    (whose : use.kind = .stepUp → challenge.user = some use.user ∧ challenge.session = use.session ∧ use.session ≠ none)
    (rising : settings.e2eMode = false → ∀ first ∈ desk.uses, first.passkey = use.passkey → first.kind ≠ .registration →
      use.kind ≠ .registration → first.Rises use)
    (stored : ∀ first ∈ desk.uses, first.passkey = use.passkey → first.stored ≤ use.stored) (live : .retired use.passkey ∉ desk.journal)
    (challenges : next.challenges = (desk.consume use.challenge now).challenges) (journal : next.journal = desk.journal ++ [.use use]) :
    Kept settings next ∧ (next.challenges.map (·.challenge)).Nodup ∧ ∀ each ∈ next.uses, each.Spent next.challenges := by
  have consumed := sound.consume use.challenge now
  have uses : next.uses = desk.uses ++ [use] := by
    rw [PasskeyDesk.uses, journal, usesOf_append]
    rfl
  have spends : use.Spent next.challenges := by
    rw [challenges]
    refine ⟨_, List.mem_map_of_mem there, ?_⟩
    rw [if_pos its]
    exact ⟨its, as, before, whose, rfl⟩
  have spent : ∀ each ∈ next.uses, each.Spent next.challenges := by
    rw [uses, challenges]
    refine List.forall_mem_append.mpr ⟨consumed.spent, fun each new => ?_⟩
    rw [List.mem_singleton.mp new]
    exact challenges ▸ spends
  refine ⟨⟨?_, fun each used => ?_, fun strict => ?_, ?_, ?_⟩, challenges ▸ consumed.challenges, spent⟩
  · rw [uses, List.map_append]
    refine List.nodup_append.mpr ⟨sound.kept.single, List.nodup_singleton _, ?_⟩
    rintro text old last new rfl
    rw [List.map_singleton, List.mem_singleton] at new
    obtain ⟨first, used, same⟩ := List.mem_map.mp old
    obtain ⟨row, listed, stands, -, -, -, gone⟩ := sound.spent first used
    have one : row = challenge := List.inj_on_of_nodup_map sound.challenges listed there (stands.trans (same.trans (new.trans its.symm)))
    rw [one, unspent] at gone
    cases gone
  · obtain ⟨row, listed, same, kind, early, owned, -⟩ := spent each used
    exact ⟨row, listed, same, kind, early, owned⟩
  · rw [uses]
    refine List.pairwise_append.mpr ⟨sound.kept.rising strict, List.pairwise_singleton _ _, fun first used second new same one two => ?_⟩
    obtain rfl := List.mem_singleton.mp new
    exact rising strict first used same one two
  · rw [uses]
    refine List.pairwise_append.mpr ⟨sound.kept.stored, List.pairwise_singleton _ _, fun first used second new same => ?_⟩
    obtain rfl := List.mem_singleton.mp new
    exact stored first used same
  · rw [journal]
    refine List.pairwise_append.mpr ⟨sound.kept.live, List.pairwise_singleton _ _, fun first listed second new => ?_⟩
    obtain rfl := List.mem_singleton.mp new
    cases first with
    | use other => trivial
    | retired passkey =>
      rintro rfl
      exact live listed

theorem passkey_lt (used : use ∈ desk.uses) : use.passkey < desk.passkeys.fresh := by
  obtain ⟨-, row, there, same, -⟩ := sound.below use used
  exact same ▸ Keyed.key_lt_fresh there

theorem storePasskey {user session : Id} {response : RegistrationResponse}
    (claims : Claims desk .registration (some user) (some session) now challenge) :
    Sound settings ((desk.consume challenge.challenge now).storePasskey user session response challenge now) := by
  have table : ∀ row, row ∈ ((desk.consume challenge.challenge now).storePasskey user session response challenge now).passkeys.rows ↔
      row ∈ desk.passkeys.rows ∨ row = {
        id := desk.passkeys.fresh, user, credentialId := response.credentialId, publicKey := response.publicKey, signCount := response.signCount
        backupEligible := response.multiDevice, backedUp := response.backedUp, lastUsedAt := some now } := fun row => Keyed.mem_create fun _ => rfl
  have uses : ((desk.consume challenge.challenge now).storePasskey user session response challenge now).uses = desk.uses ++ [{
      passkey := desk.passkeys.fresh, kind := .registration, challenge := challenge.challenge, at_ := now, user, session := some session
      signCount := response.signCount, stored := response.signCount }] := usesOf_append _ _
  have others : ∀ first ∈ desk.uses, first.passkey ≠ desk.passkeys.fresh := fun first used => (sound.passkey_lt used).ne
  have live : .retired desk.passkeys.fresh ∉ desk.journal := by
    intro listed
    obtain ⟨row, there, same, -⟩ := sound.gone _ listed
    exact (Keyed.key_lt_fresh there).ne same
  obtain ⟨kept, unique, spent⟩ := @adds _ desk ((desk.consume challenge.challenge now).storePasskey user session response challenge now) now _
    challenge sound claims.there claims.unspent rfl claims.kind claims.open_ (fun other => by cases other) (fun _ first used same => absurd same (others first used))
    (fun first used same => absurd same (others first used)) live rfl rfl
  refine ⟨kept, unique, spent, ?_, ?_, ?_, sound.owner, ?_, ?_, ?_⟩
  · rw [uses]
    refine List.forall_mem_append.mpr ⟨fun first used => ?_, fun first new => ?_⟩
    · obtain ⟨low, row, there, same, high⟩ := sound.below first used
      exact ⟨low, row, (table row).mpr (.inl there), same, high⟩
    · obtain rfl := List.mem_singleton.mp new
      exact ⟨le_refl _, _, (table _).mpr (.inr rfl), rfl, le_refl _⟩
  · rw [uses]
    intro row there
    rcases (table row).mp there with old | rfl
    · obtain ⟨first, used, same, stored⟩ := sound.last row old
      exact ⟨first, List.mem_append_left _ used, same, stored⟩
    · exact ⟨_, List.mem_append_right _ (List.mem_singleton_self _), rfl, rfl⟩
  · intro each there
    obtain ⟨row, held, same, low⟩ := sound.read each there
    exact ⟨row, (table row).mpr (.inl held), same, low⟩
  · rw [uses]
    intro strict row there
    rcases (table row).mp there with old | rfl
    · refine (sound.moved strict row old).imp_left ?_
      rintro ⟨first, used, its⟩
      exact ⟨first, List.mem_append_left _ used, its⟩
    · right
      intro each under same
      obtain ⟨row, held, its, -⟩ := sound.read each under
      exact absurd (its.trans same) (Keyed.key_lt_fresh held).ne
  · intro row there was
    rcases (table row).mp there with old | rfl
    · exact List.mem_append_left _ (sound.retired row old was)
    · exact absurd rfl was
  · intro passkey listed
    rcases List.mem_append.mp listed with before | new
    · obtain ⟨row, there, its⟩ := sound.gone passkey before
      exact ⟨row, (table row).mpr (.inl there), its⟩
    · cases List.mem_singleton.mp new

end

theorem uses_storeUse : (desk.storeUse ceremony challenge now).uses = desk.uses ++ [{
    passkey := ceremony.row.id, kind := ceremony.door.kind, challenge := challenge.challenge, at_ := now, user := ceremony.row.user
    session := ceremony.door.session, signCount := ceremony.response.signCount
    stored := max ceremony.row.signCount ceremony.response.signCount }] :=
  usesOf_append _ _

theorem of_mem_storeUse {later : WebAuthnCredential} (there : later ∈ (desk.storeUse ceremony challenge now).passkeys.rows) :
    ∃ row ∈ desk.passkeys.rows, later.id = row.id ∧ later.retiredAt = row.retiredAt ∧
      (row.id = ceremony.row.id ∧ later.signCount = max ceremony.row.signCount ceremony.response.signCount ∨
        row.id ≠ ceremony.row.id ∧ later = row) := by
  obtain ⟨row, listed, rfl⟩ := List.mem_map.mp there
  refine ⟨row, listed, ?_⟩
  by_cases its : row.id = ceremony.row.id
  · rw [if_pos (beq_iff_eq.mpr its)]
    exact ⟨rfl, rfl, .inl ⟨its, rfl⟩⟩
  · rw [if_neg (by simpa using its)]
    exact ⟨rfl, rfl, .inr ⟨its, rfl⟩⟩

theorem mem_storeUse {row : WebAuthnCredential} (there : row ∈ desk.passkeys.rows)
    (grows : row.id = ceremony.row.id → row.signCount ≤ max ceremony.row.signCount ceremony.response.signCount) :
    ∃ later ∈ (desk.storeUse ceremony challenge now).passkeys.rows, later.id = row.id ∧ later.retiredAt = row.retiredAt ∧
      row.signCount ≤ later.signCount := by
  refine ⟨_, List.mem_map_of_mem there, ?_⟩
  by_cases its : row.id = ceremony.row.id
  · rw [if_pos (beq_iff_eq.mpr its)]
    exact ⟨rfl, rfl, grows its⟩
  · rw [if_neg (by simpa using its)]
    exact ⟨rfl, rfl, le_refl _⟩

theorem storeUse (sound : Sound settings desk) {target : WebAuthnCredential}
    (claims : Claims desk ceremony.door.kind ceremony.door.user ceremony.door.session now challenge)
    (counts : settings.e2eMode = false → ceremony.row.signCount < ceremony.response.signCount ∨
      ceremony.row.signCount = 0 ∧ ceremony.response.signCount = 0)
    (owner : ∀ named ∈ ceremony.door.user, ceremony.row.user = named) (there : target ∈ desk.passkeys.rows) (same : target.id = ceremony.row.id)
    (stands : ceremony.Stands settings target) : Sound settings ((desk.consume challenge.challenge now).storeUse ceremony challenge now) := by
  have grows : target.signCount ≤ max ceremony.row.signCount ceremony.response.signCount := by
    rcases stands.2 with read | below | ⟨-, below⟩ <;> omega
  have its : ∀ row ∈ desk.passkeys.rows, row.id = ceremony.row.id → row = target :=
    fun row listed named => desk.passkeys.eq_of_key listed there (named.trans same.symm)
  have grown : ∀ row ∈ desk.passkeys.rows, row.id = ceremony.row.id → row.signCount ≤ max ceremony.row.signCount ceremony.response.signCount :=
    fun row listed named => its row listed named ▸ grows
  have under : ∀ first ∈ desk.uses, first.passkey = ceremony.row.id → first.stored ≤ target.signCount ∧ first.signCount ≤ first.stored := by
    intro first used named
    obtain ⟨low, row, listed, is_, high⟩ := sound.below first used
    exact ⟨its row listed (is_.trans named) ▸ high, low⟩
  have live : .retired ceremony.row.id ∉ desk.journal := by
    intro listed
    obtain ⟨row, held, named, was⟩ := sound.gone _ listed
    rw [its row held named] at was
    exact was stands.1
  have whose : ceremony.door.kind = .stepUp → challenge.user = some ceremony.row.user ∧ challenge.session = ceremony.door.session ∧
      ceremony.door.session ≠ none := by
    intro steps
    cases door : ceremony.door with
    | signIn =>
      rw [door] at steps
      cases steps
    | stepUp user session =>
      rw [door] at claims owner
      rw [owner user rfl]
      exact ⟨claims.user user rfl, claims.session session rfl, nofun⟩
  have rising : settings.e2eMode = false → ∀ first ∈ desk.uses, first.passkey = ceremony.row.id → first.signCount < ceremony.response.signCount ∨
      first.signCount = 0 ∧ ceremony.response.signCount = 0 := by
    intro strict first used named
    have low := under first used named
    rcases stands.2 with read | below | ⟨lenient, -⟩
    · have read_ := counts strict
      omega
    · left
      omega
    · rw [strict] at lenient
      cases lenient
  obtain ⟨kept, unique, spent⟩ := @adds _ desk ((desk.consume challenge.challenge now).storeUse ceremony challenge now) now _ challenge sound
    claims.there claims.unspent rfl claims.kind claims.open_ whose (fun strict first used named _ _ => by exact rising strict first used named)
    (fun first used named => (under first used named).1.trans grows) live rfl rfl
  have uses := @uses_storeUse (desk.consume challenge.challenge now) ceremony now challenge
  refine ⟨kept, unique, spent, ?_, ?_, ?_, sound.owner, ?_, ?_, ?_⟩
  · rw [uses]
    refine List.forall_mem_append.mpr ⟨fun first used => ?_, fun first new => ?_⟩
    · obtain ⟨low, row, listed, named, high⟩ := sound.below first used
      obtain ⟨later, still, is_, -, more⟩ := @mem_storeUse (desk.consume challenge.challenge now) ceremony now challenge row listed (grown row listed)
      exact ⟨low, later, still, is_.trans named, high.trans more⟩
    · obtain rfl := List.mem_singleton.mp new
      refine ⟨Nat.le_max_right _ _, _, List.mem_map_of_mem there, ?_⟩
      rw [if_pos (beq_iff_eq.mpr same)]
      exact ⟨same, le_refl _⟩
  · rw [uses]
    intro later listed
    obtain ⟨row, was, is_, -, ⟨named, stored⟩ | ⟨-, rfl⟩⟩ := of_mem_storeUse listed
    · exact ⟨_, List.mem_append_right _ (List.mem_singleton_self _), (is_.trans named).symm, stored.symm⟩
    · obtain ⟨first, used, named, stored⟩ := sound.last later was
      exact ⟨first, List.mem_append_left _ used, named, stored⟩
  · intro each underway
    obtain ⟨row, held, named, low⟩ := sound.read each underway
    obtain ⟨later, still, is_, -, more⟩ := @mem_storeUse (desk.consume challenge.challenge now) ceremony now challenge row held (grown row held)
    exact ⟨later, still, is_.trans named, low.trans more⟩
  · rw [uses]
    intro strict later listed
    obtain ⟨row, was, is_, -, ⟨named, stored⟩ | ⟨-, rfl⟩⟩ := of_mem_storeUse listed
    · left
      refine ⟨_, List.mem_append_right _ (List.mem_singleton_self _), ?_, (is_.trans named).symm, ?_⟩
      · exact ceremony.door.kind_ne
      · change ceremony.response.signCount = later.signCount
        have read := counts strict
        omega
    · refine (sound.moved strict later was).imp_left ?_
      rintro ⟨first, used, moved⟩
      exact ⟨first, List.mem_append_left _ used, moved⟩
  · intro later listed was
    obtain ⟨row, held, is_, retired, -⟩ := of_mem_storeUse listed
    rw [is_]
    exact List.mem_append_left _ (sound.retired row held (retired ▸ was))
  · intro passkey listed
    rcases List.mem_append.mp listed with before | new
    · obtain ⟨row, held, named, was⟩ := sound.gone passkey before
      obtain ⟨later, still, is_, retired, -⟩ := @mem_storeUse (desk.consume challenge.challenge now) ceremony now challenge row held (grown row held)
      exact ⟨later, still, is_.trans named, retired ▸ was⟩
    · cases List.mem_singleton.mp new

/-- A passkey that no longer stands as the ceremony takes it to: its use breaks what is kept. -/
theorem stands_of_kept (sound : Sound settings desk) (under : (id, ceremony) ∈ desk.ceremonies) {target : WebAuthnCredential}
    (there : target ∈ desk.passkeys.rows) (same : target.id = ceremony.row.id)
    (kept : Kept settings (((desk.ended id).consume challenge.challenge now).storeUse ceremony challenge now)) : ceremony.Stands settings target := by
  have uses : (((desk.ended id).consume challenge.challenge now).storeUse ceremony challenge now).uses = desk.uses ++ _ := uses_storeUse
  have stored := kept.stored
  have rising := kept.rising
  rw [uses] at stored rising
  obtain ⟨read, low⟩ : ceremony.row.signCount ≤ target.signCount ∧ ceremony.door.kind ≠ .registration := by
    obtain ⟨row, held, named, low⟩ := sound.read _ under
    rw [desk.passkeys.eq_of_key held there (named.trans same.symm)] at low
    exact ⟨low, ceremony.door.kind_ne⟩
  constructor
  · by_contra was
    have before := sound.retired target there was
    have apart := (List.pairwise_append.mp kept.live).2.2 _ before _ (List.mem_singleton_self _)
    exact apart same.symm
  · obtain ⟨last, used, named, high⟩ := sound.last target there
    have falls := (List.pairwise_append.mp stored).2.2 last used _ (List.mem_singleton_self _) (named.trans same)
    change last.stored ≤ max ceremony.row.signCount ceremony.response.signCount at falls
    by_cases moved : target.signCount = ceremony.row.signCount
    · exact .inl moved
    · right
      by_cases lenient : settings.e2eMode = true
      · right
        exact ⟨lenient, by omega⟩
      · left
        have strict := Bool.eq_false_iff.mpr lenient
        rcases sound.moved strict target there with ⟨first, accepted, kind, its, count⟩ | unmoved
        · have rises := (List.pairwise_append.mp (rising strict)).2.2 first accepted _ (List.mem_singleton_self _) (its.trans same) kind low
          change first.signCount < ceremony.response.signCount ∨ first.signCount = 0 ∧ ceremony.response.signCount = 0 at rises
          omega
        · exact absurd (unmoved _ under same.symm).symm moved

end Sound

section Steps
variable {taken : PasskeyStep}

theorem Sound.step (sound : Sound settings desk) (timely : Timely settings library desk taken)
    (done : desk.step settings library taken = .ok next) : Sound settings next := by
  cases taken with
  | issue kind text user session now =>
    obtain ⟨_, new, done⟩ := bind_ok.mp done
    cases done
    exact sound.issue (require_ok.mp new)
  | verifyRegistration user session response now =>
    simp only [PasskeyDesk.step, PasskeyDesk.verifyRegistration] at done
    split at done
    · cases done
    · rename_i challenge found
      obtain ⟨text, -, found⟩ := Option.bind_eq_some_iff.mp found
      split at done
      · cases done
      · cases done
        exact sound.consume _ _
      · split at done
        · cases done
          exact sound.consume _ _
        · cases done
          exact sound.storePasskey (openChallenge_claims found)
  | begins id door response =>
    obtain ⟨_, -, done⟩ := bind_ok.mp done
    obtain ⟨row, begun, done⟩ := bind_ok.mp done
    cases done
    obtain ⟨found, named, begun⟩ := bind_ok.mp begun
    have there := List.mem_of_find?_eq_some (demand_ok.mp named)
    cases door with
    | signIn =>
      obtain ⟨_, -, begun⟩ := bind_ok.mp begun
      cases begun
      exact sound.begins there nofun
    | stepUp user session =>
      obtain ⟨_, own, begun⟩ := bind_ok.mp begun
      cases begun
      refine sound.begins there ?_
      rintro _ ⟨⟩
      exact require_ok.mp own
  | finishes id now =>
    obtain ⟨ceremony, held, done⟩ := bind_ok.mp done
    cases done
    have held := demand_ok.mp held
    have under := mem_of_heldBy held
    have ended := sound.ended id
    unfold PasskeyDesk.finish
    dsimp only
    split
    · exact ended
    · exact ended
    · exact ended.consume _ _
    · rename_i challenge accepted
      obtain ⟨claims, verified⟩ := verdict_accepted accepted
      obtain ⟨target, there, same, -⟩ := sound.read _ under
      exact ended.storeUse claims (fun strict => counts_read library strict verified) (sound.owner _ under) there same
        (timely ceremony challenge held accepted target there same)
  | fails id =>
    cases done
    exact sound.ended id
  | removePasskey user passkey now =>
    obtain ⟨_, -, done⟩ := bind_ok.mp done
    obtain ⟨_, -, done⟩ := bind_ok.mp done
    cases done
    exact sound.retire _ _
  | reissueEnrolment user now =>
    cases done
    exact (sound.retire _ _).elsewhere _
  | elsewhere inactive =>
    cases done
    exact sound.elsewhere inactive

theorem Sound.timely (sound : Sound settings desk) (done : desk.step settings library taken = .ok next) (kept : Kept settings next) :
    Timely settings library desk taken := by
  cases taken with
  | finishes id now =>
    intro ceremony challenge held accepted target there same
    obtain ⟨other, its, done⟩ := bind_ok.mp done
    cases done
    rw [demand_ok.mp its] at held
    cases held
    have verdict : (desk.ended id).verdict settings library ceremony now = .accepted challenge := accepted
    have finished : desk.finish settings library id ceremony now =
        ((desk.ended id).consume challenge.challenge now).storeUse ceremony challenge now := by
      simp only [PasskeyDesk.finish, verdict]
    exact sound.stands_of_kept (mem_of_heldBy (demand_ok.mp its)) there same (finished ▸ kept)
  | _ => trivial

end Steps

/-- Over a run from empty tables, the ceremonies keep what they should in every state reached exactly when each that is accepted finds its passkey
standing. -/
theorem run_kept_iff (settings : PasskeySettings) (library : WebAuthn) (steps : List PasskeyStep) :
    (∀ first, first <+: steps → Kept settings (run (PasskeyDesk.step settings library) {} first)) ↔
      Meets (PasskeyDesk.step settings library) (Timely settings library) {} steps :=
  holds_throughout_iff (Sound settings) .empty (fun _ sound => sound.kept)
    (fun _ _ _ sound done => ⟨sound.timely done, fun timely => (sound.step timely done).kept⟩)
    (fun _ _ _ sound timely done => sound.step timely done) steps

/-- A library that takes any signature over the challenge it expects. -/
def plainLibrary : WebAuthn where
  authentication response challenge _ current :=
    if response.challenge = some challenge ∧ (current < response.signCount ∨ current = 0 ∧ response.signCount = 0) then .verified else .refused
  registration response challenge := if response.challenge = some challenge then .verified else .refused
  counts := by
    intro response challenge _ current verified
    split at verified
    · rename_i accepted
      exact accepted.2
    · cases verified

def assertionOver (challenge : String) (signCount : Nat) : AssertionResponse :=
  { credentialId := some "credential", challenge := some challenge, userHandle := .names 1, signCount }

/-- Two sign-ins by one passkey, of which the one with the lower count commits last. -/
def crossedSignIns : List PasskeyStep :=
  [.issue .registration "enrol" (some 1) (some 5) 0,
    .verifyRegistration 1 5 { challenge := some "enrol", credentialId := "credential" } 1,
    .issue .authentication "first" none none 2, .issue .authentication "second" none none 3,
    .begins 1 .signIn (assertionOver "first" 6), .begins 2 .signIn (assertionOver "second" 7),
    .finishes 2 4, .finishes 1 5]

theorem crossedSignIns_fall :
    ¬∀ settings library steps first, first <+: steps → Kept settings (run (PasskeyDesk.step settings library) {} first) := by
  intro claim
  have kept := (claim {} plainLibrary crossedSignIns crossedSignIns (List.prefix_refl _)).stored
  have falls : ¬(run (PasskeyDesk.step {} plainLibrary) {} crossedSignIns).uses.Pairwise
      fun first second => first.passkey = second.passkey → first.stored ≤ second.stored := by decide +kernel
  exact falls kept

end Grc.Identity.Ceremonies
