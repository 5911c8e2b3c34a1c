import Grc.Identity.Sessions

/-! What a session recalls of the values it handed out, over every run of overlapping refreshes. -/
namespace Grc.Identity

open Grc.Shared Grc.Lib

section Succession
variable {handed : List Handed} {newer : Handed} {secret other : String} {left now : Instant}

theorem rotatedAway_push (gone : (secret, left) ∈ rotatedAway handed) : (secret, left) ∈ rotatedAway (newer :: handed) := by
  cases handed with
  | nil => cases gone
  | cons older rest => exact List.mem_cons_of_mem _ gone

theorem rotatedAway_latest (last : latest handed = some secret) : (secret, newer.at_) ∈ rotatedAway (newer :: handed) := by
  cases handed with
  | nil => cases last
  | cons older rest =>
    obtain rfl : older.secret = secret := Option.some.inj last
    exact List.mem_cons_self

theorem handed_of_rotatedAway (gone : (secret, left) ∈ rotatedAway (newer :: handed)) : ∃ older ∈ handed, older.secret = secret := by
  induction handed generalizing newer with
  | nil => cases gone
  | cons older rest ih =>
    rcases List.mem_cons.mp gone with same | earlier
    · exact ⟨older, List.mem_cons_self, (Prod.ext_iff.mp same).1.symm⟩
    · obtain ⟨first, member, named⟩ := ih earlier
      exact ⟨first, List.mem_cons_of_mem _ member, named⟩

/-- The secret was the current one at `now`, or became it later. -/
def HeldAt (handed : List Handed) (secret : String) (now : Instant) : Prop :=
  latest handed = some secret ∨ ∃ left, (secret, left) ∈ rotatedAway handed ∧ now ≤ left

theorem HeldAt.push (held : HeldAt handed secret now) (later : now ≤ newer.at_) :
    ∃ left, (secret, left) ∈ rotatedAway (newer :: handed) ∧ now ≤ left := by
  rcases held with last | ⟨left, gone, after⟩
  · exact ⟨newer.at_, rotatedAway_latest last, later⟩
  · exact ⟨left, rotatedAway_push gone, after⟩

variable {tokens : Tokens}

def hashes (tokens : Tokens) (handed : List Handed) : List String := handed.map fun each => tokens.hashToken each.secret

theorem rotatedAway_ne_latest (distinct : (hashes tokens handed).Nodup) (last : latest handed = some other)
    (gone : (secret, left) ∈ rotatedAway handed) : tokens.hashToken secret ≠ tokens.hashToken other := by
  cases handed with
  | nil => cases last
  | cons newer rest =>
    obtain rfl : newer.secret = other := Option.some.inj last
    obtain ⟨older, member, rfl⟩ := handed_of_rotatedAway gone
    intro same
    exact (List.nodup_cons.mp distinct).1 (List.mem_map.mpr ⟨older, member, same⟩)

theorem rotatedAway_unique (distinct : (hashes tokens handed).Nodup) {first second : Instant}
    (gone : (secret, first) ∈ rotatedAway handed) (again : (other, second) ∈ rotatedAway handed)
    (same : tokens.hashToken secret = tokens.hashToken other) : first = second := by
  induction handed with
  | nil => cases gone
  | cons newer rest ih =>
    cases rest with
    | nil => cases gone
    | cons older rest =>
      obtain ⟨-, later⟩ := List.nodup_cons.mp distinct
      rcases List.mem_cons.mp gone with here | below <;> rcases List.mem_cons.mp again with there | beneath
      · exact (Prod.ext_iff.mp here).2.trans (Prod.ext_iff.mp there).2.symm
      · obtain ⟨rfl, rfl⟩ := Prod.mk.inj here
        exact absurd same.symm (rotatedAway_ne_latest later rfl beneath)
      · obtain ⟨rfl, rfl⟩ := Prod.mk.inj there
        exact absurd same (rotatedAway_ne_latest later rfl below)
      · exact ih later below beneath

end Succession

/-- A session's row names the value handed out last as its current one, and as its previous one a value that left no sooner than
the row says it rotated. -/
structure RowSound (tokens : Tokens) (handed : List Handed) (id : Id) (session : UserSession) : Prop where
  named : session.id = id
  current : ∃ secret, latest handed = some secret ∧ session.refreshTokenHash = tokens.hashToken secret
  previous : ∀ hash, session.previousRefreshHash = some hash → ∃ rotatedAt, session.rotatedAt = some rotatedAt ∧
    ∃ secret left, (secret, left) ∈ rotatedAway handed ∧ tokens.hashToken secret = hash ∧ rotatedAt ≤ left

/-- What a refresh has decided is of a row there is, and a rotation away from a value that was still current when it came. -/
structure DecisionSound (tokens : Tokens) (desk : Desk) (now : Instant) (decision : Decision) : Prop where
  ends : ∀ loaded reason, decision = .ended loaded reason → (desk.sessions loaded.id).isSome = true
  rotates : ∀ loaded deadline, decision = .rotated loaded deadline → (desk.sessions loaded.id).isSome = true ∧
    ∃ secret, tokens.hashToken secret = loaded.refreshTokenHash ∧ HeldAt (desk.handed loaded.id) secret now

structure CallSound (tokens : Tokens) (desk : Desk) (asked : RefreshCall) : Prop where
  past : asked.now ≤ desk.clock
  decided : ∀ decision, asked.stage = .decided decision → DecisionSound tokens desk asked.now decision

structure DeskSound (tokens : Tokens) (desk : Desk) : Prop where
  rows : ∀ id session, desk.sessions id = some session → RowSound tokens (desk.handed id) id session
  distinct : ∀ id, (hashes tokens (desk.handed id)).Nodup
  drawn : ∀ id, ∀ handed ∈ desk.handed id, handed.secret ≠ ""
  calls : ∀ call asked, desk.calls call = some asked → CallSound tokens desk asked

theorem start_sound (tokens : Tokens) : DeskSound tokens {} where
  rows := fun id session stored => (by cases stored)
  distinct := fun id => List.nodup_nil
  drawn := fun id handed member => (by cases member)
  calls := fun call asked there => (by cases there)

/-- What no step undoes: time passes, rows stay, and each session hands out at most one value more. -/
structure Later (desk next : Desk) : Prop where
  clock : desk.clock ≤ next.clock
  stored : ∀ id, (desk.sessions id).isSome = true → (next.sessions id).isSome = true
  handed : ∀ id, (desk.sessions id).isSome = true → next.handed id = desk.handed id ∨
    ∃ secret, next.handed id = { secret, at_ := desk.clock } :: desk.handed id

section Steps
variable {settings : SessionSettings} {tokens : Tokens} {desk next : Desk}

theorem Later.same (clock : next.clock = desk.clock) (sessions : next.sessions = desk.sessions) (handed : next.handed = desk.handed) :
    Later desk next where
  clock := clock.ge
  stored := fun _ there => sessions ▸ there
  handed := fun id _ => .inl (congrFun handed id)

variable {now : Instant}

theorem DecisionSound.later {decision : Decision} (sound : DecisionSound tokens desk now decision)
    (past : now ≤ desk.clock) (later : Later desk next) : DecisionSound tokens next now decision := by
  constructor
  · intro loaded reason same
    exact later.stored _ (sound.ends loaded reason same)
  · intro loaded deadline same
    obtain ⟨stored, secret, named, held⟩ := sound.rotates loaded deadline same
    refine ⟨later.stored _ stored, secret, named, ?_⟩
    rcases later.handed loaded.id stored with unchanged | ⟨drawn, pushed⟩
    · exact unchanged ▸ held
    · exact pushed ▸ .inr (held.push past)

variable {asked : RefreshCall}

theorem CallSound.later (sound : CallSound tokens desk asked) (later : Later desk next) :
    CallSound tokens next asked where
  past := sound.past.trans later.clock
  decided := fun decision same => (sound.decided decision same).later sound.past later

variable {call : Id}

theorem DeskSound.move (sound : DeskSound tokens desk) {moved : Option RefreshCall}
    (held : ∀ asked, moved = some asked → CallSound tokens desk asked) :
    DeskSound tokens { desk with calls := Function.update desk.calls call moved } where
  rows := sound.rows
  distinct := sound.distinct
  drawn := sound.drawn
  calls := by
    intro other asked there
    have later : Later desk { desk with calls := Function.update desk.calls call moved } := .same rfl rfl rfl
    simp only [Function.update_apply] at there
    split at there
    · exact (held asked there).later later
    · exact (sound.calls other asked there).later later

variable {session : UserSession} {id : Id}

/-- A step that saves one session's row, and adds to what it handed out at most, keeps the desk sound when it leaves the row so. -/
theorem DeskSound.store (sound : DeskSound tokens desk) {values : List Handed}
    (grown : desk.sessions id = none ∨ values = desk.handed id ∨ ∃ secret, values = { secret, at_ := desk.clock } :: desk.handed id)
    (row : RowSound tokens values id session) (distinct : (hashes tokens values).Nodup) (drawn : ∀ handed ∈ values, handed.secret ≠ "") :
    DeskSound tokens { desk with
      sessions := Function.update desk.sessions id (some session)
      handed := Function.update desk.handed id values } := by
  have later : Later desk { desk with
      sessions := Function.update desk.sessions id (some session)
      handed := Function.update desk.handed id values } := by
    refine ⟨le_refl _, ?_, ?_⟩
    · intro other there
      simp only [Function.update_apply]
      split
      · rfl
      · exact there
    · intro other there
      simp only [Function.update_apply]
      split
      · rename_i same
        subst same
        rcases grown with missing | kept | pushed
        · rw [missing] at there
          cases there
        · exact .inl kept
        · exact .inr pushed
      · exact .inl rfl
  constructor
  · intro other stored there
    simp only [Function.update_apply] at there ⊢
    split at there
    · rename_i same
      subst same
      cases there
      rw [if_pos rfl]
      exact row
    · rename_i apart
      rw [if_neg apart]
      exact sound.rows other stored there
  · intro other
    simp only [Function.update_apply]
    split
    · exact distinct
    · exact sound.distinct other
  · intro other
    simp only [Function.update_apply]
    split
    · exact drawn
    · exact sound.drawn other
  · intro call asked there
    exact (sound.calls call asked there).later later

variable {handed : List Handed}

theorem RowSound.revoke {reason : String}
    (sound : RowSound tokens handed id session) : RowSound tokens handed id (session.revoke now reason) :=
  ⟨sound.named, sound.current, sound.previous⟩

theorem DeskSound.revoke (sound : DeskSound tokens desk) (stored : desk.sessions id = some session)
    (reason : String) :
    DeskSound tokens { desk with sessions := Function.update desk.sessions id (some (session.revoke desk.clock reason)) } := by
  have row : RowSound tokens (desk.handed id) id (session.revoke desk.clock reason) := (sound.rows id session stored).revoke
  have saved := sound.store (.inr (.inl rfl)) row (sound.distinct id) (sound.drawn id)
  rw [Function.update_eq_self] at saved
  exact saved

variable {secret : String}

theorem hashes_push (distinct : (hashes tokens handed).Nodup)
    (anew : ∀ each ∈ handed, tokens.hashToken each.secret ≠ tokens.hashToken secret) :
    (hashes tokens ({ secret, at_ := now } :: handed)).Nodup := by
  refine List.nodup_cons.mpr ⟨?_, distinct⟩
  intro again
  obtain ⟨each, member, same⟩ := List.mem_map.mp again
  exact anew each member same

theorem RowSound.rotate {session loaded : UserSession} {secret drawn : String} {deadline now clock : Instant}
    (sound : RowSound tokens handed id session) (named : tokens.hashToken secret = loaded.refreshTokenHash)
    (held : HeldAt handed secret now) (past : now ≤ clock) :
    RowSound tokens ({ secret := drawn, at_ := clock } :: handed) id (session.rotate loaded deadline now (tokens.hashToken drawn)) where
  named := sound.named
  current := ⟨drawn, rfl, rfl⟩
  previous := by
    intro hash same
    obtain ⟨left, gone, after⟩ := held.push (show now ≤ ({ secret := drawn, at_ := clock } : Handed).at_ from past)
    obtain rfl : loaded.refreshTokenHash = hash := Option.some.inj same
    exact ⟨now, rfl, secret, left, gone, named, after⟩

theorem createSession_sound (sound : DeskSound tokens desk) {opened : NewSession} {policy : Option SecurityPolicy}
    (drawn : secret ≠ "") (done : createSession settings tokens desk id opened policy secret = .ok next) :
    DeskSound tokens next := by
  simp only [createSession, bind_ok, require_ok, Except.ok.injEq] at done
  obtain ⟨-, missing, rfl⟩ := done
  refine sound.store (.inl missing) ?_ (List.nodup_singleton _) ?_
  · exact ⟨rfl, ⟨secret, rfl, rfl⟩, fun hash same => (by cases same)⟩
  · intro handed member
    rw [List.mem_singleton.mp member]
    exact drawn

variable {reads : RefreshReads}

theorem decide_sound (sound : DeskSound tokens desk) {value : Option String} :
    DecisionSound tokens desk now (desk.decide settings tokens reads value now) := by
  have loads : ∀ loaded, (desk.decide settings tokens reads value now).writes = some loaded → desk.sessions loaded.id = some loaded := by
    intro loaded writes
    unfold Desk.decide at writes
    split at writes
    · cases writes
    · rename_i id presentedHash _
      have stored := refresh_writes writes
      rw [(sound.rows id loaded stored).named]
      exact stored
  constructor
  · intro loaded reason same
    rw [loads loaded (same ▸ rfl)]
    rfl
  · intro loaded deadline same
    have stored := loads loaded (same ▸ rfl)
    obtain ⟨secret, last, named⟩ := (sound.rows loaded.id loaded stored).current
    exact ⟨stored ▸ rfl, secret, named.symm, .inl last⟩

theorem readRow_sound (sound : DeskSound tokens desk)
    (done : readRow settings tokens desk call reads = .ok next) : DeskSound tokens next := by
  simp only [readRow, bind_ok, demand_ok, require_ok, Except.ok.injEq] at done
  obtain ⟨asked, there, -, arrived, rfl⟩ := done
  refine sound.move ?_
  rintro _ ⟨⟩
  refine ⟨(sound.calls call asked there).past, ?_⟩
  rintro _ ⟨⟩
  exact decide_sound sound

theorem DeskSound.answer (sound : DeskSound tokens desk) {answer : Answer}
    (past : asked.now ≤ desk.clock) : DeskSound tokens (desk.answer call asked answer) := by
  refine sound.move ?_
  rintro _ ⟨⟩
  exact ⟨past, fun decision same => (by cases same)⟩

theorem finish_sound (sound : DeskSound tokens desk) (anew : DrawsAnew tokens desk (.finish call secret))
    (done : finish tokens desk call secret = .ok next) : DeskSound tokens next := by
  simp only [finish, bind_ok, demand_ok] at done
  obtain ⟨asked, there, done⟩ := done
  have held := sound.calls call asked there
  split at done
  · cases done
    exact sound.answer held.past
  · cases done
    exact sound.answer held.past
  · simp only [bind_ok, demand_ok, Except.ok.injEq] at done
    obtain ⟨session, stored, rfl⟩ := done
    exact (sound.revoke stored _).answer held.past
  · rename_i loaded deadline decided
    simp only [bind_ok, demand_ok, Except.ok.injEq] at done
    obtain ⟨session, stored, rfl⟩ := done
    obtain ⟨-, was, named, heldAt⟩ := (held.decided _ decided).rotates loaded deadline rfl
    have draws : desk.draws (.finish call secret) = some (loaded.id, secret) := by
      simp only [Desk.draws, Desk.answerTo, there, Option.map_some, decided]
    obtain ⟨some_, distinct⟩ := anew _ draws
    refine DeskSound.answer (sound.store (.inr (.inr ⟨secret, rfl⟩)) ((sound.rows _ session stored).rotate named heldAt held.past)
      (hashes_push (sound.distinct _) distinct) ?_) held.past
    intro each member
    rcases List.mem_cons.mp member with rfl | earlier
    · exact some_
    · exact sound.drawn _ each earlier
  · cases done

theorem step_deskSound {step : SessionStep} (sound : DeskSound tokens desk) (anew : DrawsAnew tokens desk step)
    (done : desk.step settings tokens step = .ok next) : DeskSound tokens next := by
  cases step with
  | tick elapsed =>
    cases done
    refine ⟨sound.rows, sound.distinct, sound.drawn, ?_⟩
    intro call asked there
    exact (sound.calls call asked there).later ⟨Nat.le_add_right _ _, fun _ stored => stored, fun _ _ => .inl rfl⟩
  | create id opened policy secret => exact createSession_sound sound (anew _ rfl).1 done
  | arrive call value =>
    simp only [Desk.step, arrive, bind_ok, require_ok, Except.ok.injEq] at done
    obtain ⟨-, free, rfl⟩ := done
    refine sound.move ?_
    rintro _ ⟨⟩
    exact ⟨le_refl _, fun decision same => (by cases same)⟩
  | read call reads => exact readRow_sound sound done
  | finish call secret => exact finish_sound sound anew done
  | abort call =>
    cases done
    exact sound.move fun asked there => (by cases there)
  | revoke id reason =>
    simp only [Desk.step, revokeSession, bind_ok, demand_ok, Except.ok.injEq] at done
    obtain ⟨session, stored, rfl⟩ := done
    exact sound.revoke stored reason

theorem run_deskSound {steps : List SessionStep} (anew : Meets (Desk.step settings tokens) (DrawsAnew tokens) {} steps) :
    DeskSound tokens (run (Desk.step settings tokens) {} steps) :=
  run_invariant_of_meets (start_sound tokens) (fun _ _ _ sound drawn done => step_deskSound sound drawn done) steps anew

/-- A turn of another call, or of none, leaves a call as it is, and every row in place. -/
theorem step_apart {step : SessionStep} (apart : step.call ≠ some call) (done : desk.step settings tokens step = .ok next) :
    next.calls call = desk.calls call ∧ ∀ id, (desk.sessions id).isSome = true → (next.sessions id).isSome = true := by
  have keeps : ∀ id row, ∀ other, (desk.sessions other).isSome = true → (Function.update desk.sessions id (some row) other).isSome = true := by
    intro id row other there
    rw [Function.update_apply]
    split
    · rfl
    · exact there
  have elsewhere : ∀ other moved, some other ≠ some call → Function.update desk.calls other moved call = desk.calls call := by
    intro other moved different
    exact Function.update_of_ne (fun same => different (congrArg some same.symm)) ..
  cases step with
  | tick elapsed =>
    cases done
    exact ⟨rfl, fun _ there => there⟩
  | create id opened policy secret =>
    simp only [Desk.step, createSession, bind_ok, require_ok, Except.ok.injEq] at done
    obtain ⟨-, missing, rfl⟩ := done
    exact ⟨rfl, keeps id _⟩
  | arrive other value =>
    simp only [Desk.step, arrive, bind_ok, require_ok, Except.ok.injEq] at done
    obtain ⟨-, free, rfl⟩ := done
    exact ⟨elsewhere other _ apart, fun _ there => there⟩
  | read other reads =>
    simp only [Desk.step, readRow, bind_ok, demand_ok, require_ok, Except.ok.injEq] at done
    obtain ⟨asked, there, -, arrived, rfl⟩ := done
    exact ⟨elsewhere other _ apart, fun _ there => there⟩
  | finish other secret =>
    simp only [Desk.step, finish, bind_ok, demand_ok] at done
    obtain ⟨asked, there, done⟩ := done
    split at done
    · cases done
      exact ⟨elsewhere other _ apart, fun _ there => there⟩
    · cases done
      exact ⟨elsewhere other _ apart, fun _ there => there⟩
    · simp only [bind_ok, demand_ok, Except.ok.injEq] at done
      obtain ⟨session, stored, rfl⟩ := done
      exact ⟨elsewhere other _ apart, keeps _ _⟩
    · simp only [bind_ok, demand_ok, Except.ok.injEq] at done
      obtain ⟨session, stored, rfl⟩ := done
      exact ⟨elsewhere other _ apart, keeps _ _⟩
    · cases done
  | abort other =>
    cases done
    exact ⟨elsewhere other _ apart, fun _ there => there⟩
  | revoke id reason =>
    simp only [Desk.step, revokeSession, bind_ok, demand_ok, Except.ok.injEq] at done
    obtain ⟨session, stored, rfl⟩ := done
    exact ⟨rfl, keeps id _⟩

theorem run_apart {between : List SessionStep} (apart : ∀ step ∈ between, step.call ≠ some call) :
    (run (Desk.step settings tokens) desk between).calls call = desk.calls call ∧
      ∀ id, (desk.sessions id).isSome = true → ((run (Desk.step settings tokens) desk between).sessions id).isSome = true := by
  induction between generalizing desk with
  | nil => exact ⟨rfl, fun _ there => there⟩
  | cons first rest ih =>
    have settled : (settle (Desk.step settings tokens) desk first).calls call = desk.calls call ∧
        ∀ id, (desk.sessions id).isSome = true → ((settle (Desk.step settings tokens) desk first).sessions id).isSome = true := by
      unfold settle
      split
      · rename_i next done
        exact step_apart (apart first List.mem_cons_self) done
      · exact ⟨rfl, fun _ there => there⟩
    have later : ∀ step ∈ rest, step.call ≠ some call := fun step later => apart step (List.mem_cons_of_mem _ later)
    obtain ⟨same, stored⟩ := @ih (settle (Desk.step settings tokens) desk first) later
    exact ⟨same.trans settled.1, fun id there => stored id (settled.2 id there)⟩

theorem read_sessions :
    (settle (Desk.step settings tokens) desk (.read call reads)).sessions = desk.sessions := by
  unfold settle
  split
  · rename_i next done
    simp only [Desk.step, readRow, bind_ok, demand_ok, require_ok, Except.ok.injEq] at done
    obtain ⟨asked, there, -, arrived, rfl⟩ := done
    rfl
  · rfl

theorem before_finish (settings : SessionSettings) (reads : RefreshReads) {call id now}
    {between : List SessionStep} (presents : desk.Presents tokens call id secret now session) (drawn : secret ≠ "")
    (apart : ∀ step ∈ between, step.call ≠ some call) :
    let before := run (Desk.step settings tokens) desk (.read call reads :: between)
    (∃ asked, before.calls call = some asked ∧
      asked.stage = .decided (refresh settings reads (some session) (tokens.hashToken secret) now)) ∧
      (before.sessions id).isSome = true := by
  have parsed := tokens.parse_refreshValue id drawn
  have read : desk.step settings tokens (.read call reads) = .ok { desk with calls := Function.update desk.calls call (some {
      value := some (tokens.refreshValue id secret), now
      stage := .decided (refresh settings reads (some session) (tokens.hashToken secret) now) }) } := by
    simp only [Desk.step, readRow, presents.asked, demand, bind, Except.bind, require, if_true, Desk.decide, Option.bind_some, parsed,
      presents.stored]
  simp only [run_cons, settle_ok read]
  obtain ⟨same, stored⟩ := run_apart apart
  have there : (desk.sessions id).isSome = true := by
    rw [presents.stored]
    rfl
  exact ⟨⟨_, same.trans (Function.update_self ..), rfl⟩, stored id there⟩

theorem finish_rotated {loaded : UserSession} {deadline : Instant} {drawn : String}
    (there : desk.calls call = some asked) (decided : asked.stage = .decided (.rotated loaded deadline))
    (stored : (desk.sessions loaded.id).isSome = true) :
    (settle (Desk.step settings tokens) desk (.finish call drawn)).answerTo call =
      some (.answered (.signedIn (some (tokens.refreshValue loaded.id drawn)))) := by
  obtain ⟨session, here⟩ := Option.isSome_iff_exists.mp stored
  have done : ∃ next, desk.step settings tokens (.finish call drawn) = .ok next ∧
      next.answerTo call = some (.answered (.signedIn (some (tokens.refreshValue loaded.id drawn)))) := by
    simp only [Desk.step, finish, there, demand, bind, Except.bind, decided, here]
    refine ⟨_, rfl, ?_⟩
    simp only [Desk.answerTo, Desk.answer, Function.update_self, Option.map_some]
  obtain ⟨next, accepted, answered⟩ := done
  rw [settle_ok accepted]
  exact answered

theorem finish_ended {loaded : UserSession} {drawn : String}
    (there : desk.calls call = some asked) (decided : asked.stage = .decided (.ended loaded "refresh_replay"))
    (stored : (desk.sessions loaded.id).isSome = true) :
    (settle (Desk.step settings tokens) desk (.finish call drawn)).answerTo call = some (.answered .unauthenticated) ∧
      (settle (Desk.step settings tokens) desk (.finish call drawn)).Revoked loaded.id := by
  obtain ⟨session, here⟩ := Option.isSome_iff_exists.mp stored
  have done : ∃ next, desk.step settings tokens (.finish call drawn) = .ok next ∧
      next.answerTo call = some (.answered .unauthenticated) ∧ next.Revoked loaded.id := by
    simp only [Desk.step, finish, there, demand, bind, Except.bind, decided, here]
    refine ⟨_, rfl, ?_, session.revoke desk.clock "refresh_replay", ?_, Option.some_ne_none _⟩
    · simp [Desk.answerTo, Desk.answer]
    · simp only [Desk.answer, Function.update_self]
  obtain ⟨next, accepted, answered⟩ := done
  rw [settle_ok accepted]
  exact answered

theorem finish_refused {drawn : String} (there : desk.calls call = some asked)
    (decided : asked.stage = .decided .refused) :
    (settle (Desk.step settings tokens) desk (.finish call drawn)).sessions = desk.sessions := by
  have done : desk.step settings tokens (.finish call drawn) = .ok (desk.answer call asked .unauthenticated) := by
    simp only [Desk.step, finish, there, demand, bind, Except.bind, decided]
  rw [settle_ok done]
  rfl

theorem drawn_of_latest (sound : DeskSound tokens desk) (last : latest (desk.handed id) = some secret) :
    secret ≠ "" := by
  cases values : desk.handed id with
  | nil =>
    rw [values] at last
    cases last
  | cons newer rest =>
    rw [values] at last
    obtain rfl : newer.secret = secret := Option.some.inj last
    exact sound.drawn id newer (values ▸ List.mem_cons_self)

theorem drawn_of_rotatedAway {left : Instant} (sound : DeskSound tokens desk)
    (gone : (secret, left) ∈ rotatedAway (desk.handed id)) : secret ≠ "" := by
  cases values : desk.handed id with
  | nil =>
    rw [values] at gone
    cases gone
  | cons newer rest =>
    rw [values] at gone
    obtain ⟨older, member, rfl⟩ := handed_of_rotatedAway gone
    exact sound.drawn id older (values ▸ List.mem_cons_of_mem _ member)

theorem run_to_finish (call : Id) (reads : RefreshReads) (between : List SessionStep) (drawn : String) :
    run (Desk.step settings tokens) desk (.read call reads :: (between ++ [.finish call drawn])) =
      settle (Desk.step settings tokens) (run (Desk.step settings tokens) desk (.read call reads :: between)) (.finish call drawn) := by
  rw [← List.cons_append, run_append]
  rfl

theorem DeskSound.decides_latest {call id now}
    (sound : DeskSound tokens desk) (presents : desk.Presents tokens call id secret now session)
    (last : latest (desk.handed id) = some secret) (inside : session.Inside settings reads now) :
    refresh settings reads (some session) (tokens.hashToken secret) now = .rotated session (session.deadline settings reads) := by
  have row := sound.rows id session presents.stored
  refine refresh_current presents.live ?_ ?_ inside
  · intro previous
    obtain ⟨_, _, other, left, gone, same, _⟩ := row.previous _ previous
    exact rotatedAway_ne_latest (sound.distinct id) last gone same
  · obtain ⟨current, named, hashed⟩ := row.current
    obtain rfl : secret = current := Option.some.inj (last.symm.trans named)
    exact hashed.symm

theorem DeskSound.decides_recalled {call id now} {left : Instant}
    (sound : DeskSound tokens desk) (presents : desk.Presents tokens call id secret now session)
    (gone : (secret, left) ∈ rotatedAway (desk.handed id)) (late : left + settings.grace < now)
    (recalled : session.previousRefreshHash = some (tokens.hashToken secret)) :
    refresh settings reads (some session) (tokens.hashToken secret) now = .ended session "refresh_replay" := by
  obtain ⟨rotatedAt, rotated, other, moment, replaced, same, sooner⟩ := (sound.rows id session presents.stored).previous _ recalled
  have moment : moment = left := rotatedAway_unique (sound.distinct id) replaced gone same
  subst moment
  exact refresh_replayed presents.live recalled rotated (Nat.lt_of_le_of_lt (Nat.add_le_add_right sooner _) late)

theorem DeskSound.decides_forgotten {call id now} {left : Instant}
    (sound : DeskSound tokens desk) (presents : desk.Presents tokens call id secret now session)
    (gone : (secret, left) ∈ rotatedAway (desk.handed id)) (forgotten : session.previousRefreshHash ≠ some (tokens.hashToken secret)) :
    refresh settings reads (some session) (tokens.hashToken secret) now = .refused := by
  refine refresh_unknown forgotten ?_
  obtain ⟨current, named, hashed⟩ := (sound.rows id session presents.stored).current
  rw [hashed]
  exact rotatedAway_ne_latest (sound.distinct id) named gone

/-- In every run of overlapping refreshes, the one that has arrived comes to what it should exactly when its value, if it left longer
ago than the grace window, is the one the row still keeps as its previous one. -/
theorem run_lawful_iff (settings : SessionSettings) (tokens : Tokens) (steps : List SessionStep)
    (anew : Meets (Desk.step settings tokens) (DrawsAnew tokens) {} steps) (call : Id) (reads : RefreshReads) :
    (run (Desk.step settings tokens) {} steps).Lawful settings tokens call reads ↔
      (run (Desk.step settings tokens) {} steps).Recalls settings tokens call := by
  have sound := run_deskSound anew
  generalize run (Desk.step settings tokens) {} steps = desk at sound
  constructor
  · intro lawful id secret now session presents left gone late
    by_contra forgotten
    have decision : refresh settings reads _ _ _ = .refused := sound.decides_forgotten presents gone forgotten
    have alone : ∀ step ∈ ([] : List SessionStep), step.call ≠ some call := fun _ none => (by cases none)
    obtain ⟨⟨asked, there, decided⟩, -⟩ := before_finish settings reads presents
      (drawn_of_rotatedAway sound gone) alone
    have ended := ((lawful id secret now session presents [] alone "").2 left gone late).2
    rw [run_to_finish] at ended
    obtain ⟨row, stored, revoked⟩ := ended
    rw [finish_refused there (decision ▸ decided), run_cons, run_nil, read_sessions, presents.stored] at stored
    cases stored
    exact revoked presents.live.1
  · intro recalls id secret now session presents between apart drawn
    have named := (sound.rows id session presents.stored).named
    simp only [run_to_finish]
    constructor
    · intro last inside
      have decision : refresh settings reads _ _ _ = _ := sound.decides_latest presents last inside
      obtain ⟨⟨asked, there, decided⟩, stored⟩ := before_finish settings reads presents
        (drawn_of_latest sound last) apart
      rw [← named] at stored ⊢
      exact finish_rotated there (decision ▸ decided) stored
    · intro left gone late
      have decision : refresh settings reads _ _ _ = _ := sound.decides_recalled presents gone late (recalls id secret now session presents left gone late)
      obtain ⟨⟨asked, there, decided⟩, stored⟩ := before_finish settings reads presents
        (drawn_of_rotatedAway sound gone) apart
      rw [← named] at stored ⊢
      exact finish_ended there (decision ▸ decided) stored

end Steps

/-- Identifiers written in decimal, and a digest that keeps its text. -/
def decimalTokens : Tokens where
  hashToken := id
  hex := Nat.repr
  uuid text := some (Nat.ofDigitChars 10 text.toList 0)
  uuid_hex := by simp
  hex_plain := by
    intro id point
    rw [Nat.toList_repr] at point
    exact absurd (Nat.isDigit_of_mem_toDigits (Nat.zero_lt_succ 9) (le_refl 10) point) (by decide)

def deviceId : Id := 10000000000000000000000000000001

/-- A session refreshed twice, and its first value presented again half a minute after the second. -/
def replayAfterTwo : List SessionStep :=
  let refreshed (call : Id) (secret drawn : String) : List SessionStep :=
    [.arrive call (some (decimalTokens.refreshValue deviceId secret)), .read call {}, .finish call drawn]
  [.create deviceId { user := 1, tenant := none, kind := .full } none "first"] ++ refreshed 0 "first" "second" ++
    refreshed 1 "second" "third" ++ [.tick (seconds 31), .arrive 2 (some (decimalTokens.refreshValue deviceId "first"))]

theorem replayAfterTwo_draws : Meets (Desk.step {} decimalTokens) (DrawsAnew decimalTokens) {} replayAfterTwo := by
  refine ⟨?_, ?_, ?_, ?_, ?_, ?_, ?_, ?_, ?_, trivial⟩ <;> exact fun _ _ => by decide +kernel

/-- A value two rotations old is refused, and its session goes on. -/
theorem replayAfterTwo_stands : ¬∀ (settings : SessionSettings) (tokens : Tokens) (steps : List SessionStep),
    Meets (Desk.step settings tokens) (DrawsAnew tokens) {} steps → ∀ call reads,
      (run (Desk.step settings tokens) {} steps).Lawful settings tokens call reads := by
  intro claim
  have lawful := claim {} decimalTokens replayAfterTwo replayAfterTwo_draws 2 {}
  have there : ((run (Desk.step {} decimalTokens) {} replayAfterTwo).sessions deviceId).any
      (fun session => decide (session.live (seconds 31))) = true := by decide +kernel
  cases stored : (run (Desk.step {} decimalTokens) {} replayAfterTwo).sessions deviceId with
  | none =>
    rw [stored] at there
    cases there
  | some session =>
    rw [stored] at there
    have presents : (run (Desk.step {} decimalTokens) {} replayAfterTwo).Presents decimalTokens 2 deviceId "first" (seconds 31) session :=
      ⟨by decide +kernel, stored, of_decide_eq_true there⟩
    have alone : ∀ step ∈ ([] : List SessionStep), step.call ≠ some 2 := fun _ none => (by cases none)
    obtain ⟨_, row, after, revoked⟩ := (lawful _ _ _ _ presents [] alone "fourth").2 0 (by decide +kernel) (by decide)
    have untouched : ((run (Desk.step {} decimalTokens) {} (replayAfterTwo ++ [.read 2 {}, .finish 2 "fourth"])).sessions deviceId).map
        (·.revokedAt) = some none := by decide +kernel
    rw [run_append] at untouched
    rw [List.nil_append] at after
    rw [after] at untouched
    exact revoked (Option.some.inj untouched)

theorem replayAfterTwo_lawful :
    (run (Desk.step {} decimalTokens) {} replayAfterTwo).Lawful {} decimalTokens 2 {} ↔
      (run (Desk.step {} decimalTokens) {} replayAfterTwo).Recalls {} decimalTokens 2 :=
  run_lawful_iff {} decimalTokens replayAfterTwo replayAfterTwo_draws 2 {}

end Grc.Identity
