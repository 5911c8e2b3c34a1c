import Grc.Lib.Journal
import Grc.Register.Gaps

/-! What holds of every gap, whatever is asked of the bank's gaps and in whatever order: its risk is accepted when somebody
accepted it, and that was a second person, on the facts the first one asked about. -/
namespace Grc.Register

open Grc.Shared Grc.Lib

/-- What a person asks of the bank's gaps, or what else is written of the bank. -/
inductive GapCall where
  | create (obligation : Id) (body : GapBody)
  | update (gap : Id) (body : GapPatch) (expectedVersion : Option Nat)
  | requestAcceptance (gap : Id) (body : RiskAcceptanceBody)
  | approve (gap stepUp : Id)
  | reopen (gap : Id)
  | elsewhere (bank : Bank)

structure GapRequest where
  actor : Actor
  at_ : Instant
  call : GapCall

def KeepsKinds (before after : Bank) : Prop := ∀ row ∈ before.statuses.rows, kindOf after row.id = some row.kind

instance (before after : Bank) : Decidable (KeepsKinds before after) := inferInstanceAs (Decidable (∀ row ∈ _, _))

/-- A request on the bank's gaps. -/
def GapStore.handle (store : GapStore) (request : GapRequest) : Except Refusal GapStore :=
  match request.call with
  | .create obligation body => createGap store request.actor obligation body
  | .update gap body expectedVersion => updateGap store request.actor request.at_ gap body expectedVersion
  | .requestAcceptance gap body => requestRiskAcceptance store request.actor request.at_ gap body
  | .approve gap stepUp => approveRiskAcceptance store request.actor request.at_ gap stepUp
  | .reopen gap => reopenGap store request.actor gap
  | .elsewhere bank => do
    require (KeepsKinds store.bank bank) internalError
    .ok { store with bank }

/-- Who asked for a gap's risk to be accepted, and what the gap said then. -/
structure Asking where
  requester : Id
  facts : AcceptedFacts

/-- The asking a request is, when it is accepted. -/
def GapStore.asking (store : GapStore) (request : GapRequest) : Authors Id Asking :=
  match request.call, store.handle request with
  | .requestAcceptance gap _, .ok _ =>
    match locked store gap, request.actor.id with
    | .ok row, some requester => [(gap, { requester, facts := row.acceptedFacts })]
    | _, _ => []
  | _, _ => []

def askings (store : GapStore) : List GapRequest → Authors Id Asking
  | [] => []
  | request :: rest => store.asking request ++ askings (settle GapStore.handle store request) rest

/-- What holds of a gap, given every asking so far. -/
structure GapSound (bank : Bank) (log : Authors Id Asking) (gap : Gap) : Prop where
  known : (kindOf bank gap.status).isSome = true
  accepted : kindOf bank gap.status = some .riskAccepted ↔ gap.acceptedBy.isSome = true
  fourEyes : ∀ accepter, gap.acceptedBy = some accepter →
    gap.acceptanceRequestedBy ≠ none ∧ gap.acceptanceRequestedBy ≠ some accepter
  frozen : ∀ requester, gap.acceptanceRequestedBy = some requester →
    log.lastBy gap.id = some { requester, facts := gap.acceptedFacts }

def GapsSound (store : GapStore) (log : Authors Id Asking) : Prop := ∀ gap ∈ store.gaps.rows, GapSound store.bank log gap

variable {store after : GapStore} {log more : Authors Id Asking} {bank : Bank} {gap : Gap} {actor : Actor} {at_ : Instant}

theorem locked_ok {id : Id} (found : locked store id = .ok gap) : gap ∈ store.gaps.rows ∧ gap.id = id := by
  have found := demand_ok.mp found
  have named := List.find?_some found
  exact ⟨List.mem_of_find?_eq_some found, beq_iff_eq.mp named⟩

theorem kindOf_of_mem {row : GapStatus} (member : row ∈ bank.statuses.rows) : kindOf bank row.id = some row.kind := by
  unfold kindOf
  cases found : bank.statuses.rows.find? (·.id == row.id) with
  | none => exact absurd (beq_self_eq_true row.id) (List.find?_eq_none.mp found row member)
  | some other =>
    have named := List.find?_some found
    rw [bank.statuses.eq_of_key (List.mem_of_find?_eq_some found) member (beq_iff_eq.mp named)]
    rfl

theorem categoryOf_ok {category : GapCategory} (found : categoryOf bank gap = .ok category) : kindOf bank gap.status = some category :=
  demand_ok.mp found

theorem activeStatus_ok {key : String} {row : GapStatus} (found : activeStatus bank key = .ok row) :
    kindOf bank row.id = some row.kind :=
  kindOf_of_mem (List.mem_of_find?_eq_some (demand_ok.mp found))

theorem categoryRow_ok {category : GapCategory} {row : GapStatus} (found : categoryRow bank category = .ok row) :
    kindOf bank row.id = some category := by
  unfold categoryRow at found
  split at found
  · rename_i held only
    obtain rfl := Except.ok.inj found
    have member : held ∈ bank.statuses.rows.filter fun row => row.kind == category && row.isSystem := by
      rw [only]
      exact List.mem_singleton_self held
    have member := List.mem_filter.mp member
    rw [kindOf_of_mem member.1, beq_iff_eq.mp (Bool.and_eq_true_iff.mp member.2).1]
  · cases found

theorem saveGap_sound {change : Gap → Gap} {named : ∀ gap, (change gap).id = gap.id} {event : AuditEvent}
    (here : gap ∈ store.gaps.rows) (sound : GapsSound store log) (others : ∀ writing ∈ more, writing.1 = gap.id)
    (changed : GapSound store.bank (log ++ more) (change gap)) : GapsSound (saveGap store gap.id change named event) (log ++ more) := by
  intro row member
  obtain ⟨old, there, rfl⟩ := List.mem_map.mp member
  split
  · rename_i picked
    obtain rfl := store.gaps.eq_of_key there here (beq_iff_eq.mp picked)
    exact changed
  · rename_i apart
    have apart : old.id ≠ gap.id := fun same => apart (beq_iff_eq.mpr same)
    have held := sound old there
    refine ⟨held.known, held.accepted, held.fourEyes, fun requester asked => ?_⟩
    rw [Authors.lastBy_append_of_not_mem fun writing member same => apart (same.symm.trans (others writing member))]
    exact held.frozen requester asked

theorem GapSound.unasked (known : (kindOf bank gap.status).isSome = true) (status : kindOf bank gap.status ≠ some .riskAccepted)
    (asked : gap.acceptanceRequestedBy = none) (accepted : gap.acceptedBy = none) : GapSound bank log gap where
  known := known
  accepted := ⟨fun same => absurd same status, fun some_ => by rw [accepted] at some_; cases some_⟩
  fourEyes := fun accepter same => by rw [accepted] at same; cases same
  frozen := fun requester same => by rw [asked] at same; cases same

theorem GapsSound.bank_kept {other : Bank} (kept : ∀ row ∈ store.bank.statuses.rows, kindOf other row.id = some row.kind)
    (sound : GapsSound store log) (gap : Gap) (member : gap ∈ store.gaps.rows) : GapSound other log gap := by
  have held := sound gap member
  have same : kindOf other gap.status = kindOf store.bank gap.status := by
    obtain ⟨kind, known⟩ := Option.isSome_iff_exists.mp held.known
    obtain ⟨row, found, -⟩ := Option.map_eq_some_iff.mp known
    have named := List.find?_some found
    have there := List.mem_of_find?_eq_some found
    rw [← beq_iff_eq.mp named, kept row there, kindOf_of_mem there]
  exact ⟨same ▸ held.known, same ▸ held.accepted, held.fourEyes, held.frozen⟩

theorem ensureRegisterEntry_ok {obligation entry : Id} {entered : GapStore}
    (done : ensureRegisterEntry store actor obligation = .ok (entered, entry)) :
    entered.gaps = store.gaps ∧ entered.bank.statuses = store.bank.statuses := by
  unfold ensureRegisterEntry at done
  split at done
  · cases done
    exact ⟨rfl, rfl⟩
  · obtain ⟨heading, -, done⟩ := bind_ok.mp done
    cases done
    exact ⟨rfl, rfl⟩

theorem createGap_sound {obligation : Id} {body : GapBody} (done : createGap store actor obligation body = .ok after)
    (sound : GapsSound store log) : GapsSound after log := by
  obtain ⟨_, -, done⟩ := bind_ok.mp done
  obtain ⟨orgUnit, -, done⟩ := bind_ok.mp done
  obtain ⟨_, -, done⟩ := bind_ok.mp done
  obtain ⟨severity, -, done⟩ := bind_ok.mp done
  obtain ⟨source, -, done⟩ := bind_ok.mp done
  obtain ⟨owner, -, done⟩ := bind_ok.mp done
  obtain ⟨⟨entered, entry⟩, ensured, done⟩ := bind_ok.mp done
  obtain ⟨status, opened, done⟩ := bind_ok.mp done
  obtain ⟨identifiedBy, -, done⟩ := bind_ok.mp done
  cases done
  obtain ⟨gaps, statuses⟩ := ensureRegisterEntry_ok ensured
  have same : ∀ id, kindOf entered.bank id = kindOf store.bank id := fun id => by rw [kindOf, kindOf, statuses]
  intro row member
  rcases (Keyed.mem_create fun _ => rfl).mp member with there | rfl
  · refine sound.bank_kept (fun row there => ?_) row (gaps ▸ there)
    rw [same, kindOf_of_mem there]
  · have kind : kindOf entered.bank status.id = some .open_ := (same _).trans (categoryRow_ok opened)
    refine .unasked ?_ ?_ rfl rfl
    · change (kindOf entered.bank status.id).isSome = true
      rw [kind]
      rfl
    · change kindOf entered.bank status.id ≠ _
      rw [kind]
      nofun

theorem movedTo_ok {key : String} {target : GapStatus} (moved : updateGap.movedTo bank actor gap key = .ok target) :
    kindOf bank target.id = some target.kind ∧ target.kind ≠ .riskAccepted ∧ kindOf bank gap.status ≠ some .riskAccepted := by
  obtain ⟨row, named, moved⟩ := bind_ok.mp moved
  obtain ⟨category, held, moved⟩ := bind_ok.mp moved
  obtain ⟨_, allowed, moved⟩ := bind_ok.mp moved
  obtain ⟨movable, targeted⟩ := require_ok.mp allowed
  have same : target = row := by
    split at moved
    · obtain ⟨_, -, same⟩ := map_ok.mp moved
      exact same.symm
    · exact (Except.ok.inj moved).symm
  subst same
  refine ⟨activeStatus_ok named, ?_, ?_⟩
  · intro accepts
    rw [accepts] at targeted
    exact absurd targeted (by decide)
  · rw [categoryOf_ok held, Ne, Option.some.injEq]
    intro accepts
    rw [accepts] at movable
    exact absurd movable (by decide)

/-- An amended gap keeps its acceptance, or the waiting request goes as the gap is closed. -/
theorem apply_sound {changes : GapChanges} {body : GapPatch} {answer : Unit}
    (restated : updateGap.mayRestate bank gap body = .ok answer)
    (typed : body.restates = false → changes.title = none ∧ changes.description = none ∧ changes.remediation = none ∧
      changes.severity = none ∧ changes.targetDate = none)
    (moved : ∀ target ∈ changes.status,
      kindOf bank target.id = some target.kind ∧ target.kind ≠ .riskAccepted ∧ kindOf bank gap.status ≠ some .riskAccepted)
    (sound : GapSound bank log gap) : GapSound bank log (changes.apply actor at_ gap) := by
  -- an amended gap of which somebody asked says what it said when they did
  have frozen : ∀ requester, gap.acceptanceRequestedBy = some requester → body.restates = false := by
    intro requester asked
    by_contra restates
    rw [updateGap.mayRestate, if_pos (Bool.not_eq_false _ ▸ restates)] at restated
    obtain ⟨_, -, restated⟩ := bind_ok.mp restated
    obtain ⟨_, -, restated⟩ := bind_ok.mp restated
    rw [require_ok.mp restated] at asked
    cases asked
  have unaccepted : changes.status.isSome = true → gap.acceptedBy = none := by
    intro moves
    obtain ⟨target, named⟩ := Option.isSome_iff_exists.mp moves
    have outside := (moved target named).2.2
    rwa [Ne, sound.accepted, Bool.not_eq_true, Option.isSome_eq_false_iff, Option.isNone_iff_eq_none] at outside
  unfold GapChanges.apply
  split
  · rename_i closes
    obtain ⟨target, named, kind⟩ := Option.map_eq_some_iff.mp closes
    have held : kindOf bank (changes.status.elim gap.status (·.id)) = some .closed := by
      rw [named, ← kind]
      exact (moved target named).1
    refine .unasked ?_ ?_ rfl rfl
    · change (kindOf bank (changes.status.elim gap.status (·.id))).isSome = true
      rw [held]
      rfl
    · change kindOf bank (changes.status.elim gap.status (·.id)) ≠ _
      rw [held]
      nofun
  · have same : ∀ requester, gap.acceptanceRequestedBy = some requester → log.lastBy gap.id = some { requester, facts := {
        title := changes.title.getD gap.title, description := changes.description.getD gap.description
        remediation := changes.remediation.getD gap.remediation, severity := changes.severity.getD gap.severity
        targetDate := changes.targetDate <|> gap.targetDate } } := by
      intro requester asked
      obtain ⟨title, description, remediation, severity, targetDate⟩ := typed (frozen requester asked)
      rw [title, description, remediation, severity, targetDate]
      exact sound.frozen requester asked
    cases named : changes.status with
    | none => exact ⟨sound.known, sound.accepted, sound.fourEyes, same⟩
    | some target =>
      obtain ⟨kind, category, -⟩ := moved target named
      refine ⟨?_, ⟨?_, ?_⟩, sound.fourEyes, same⟩
      · change (kindOf bank target.id).isSome = true
        rw [kind]
        rfl
      · change kindOf bank target.id = _ → _
        rw [kind, Option.some.injEq]
        exact fun accepts => absurd accepts category
      · change gap.acceptedBy.isSome = true → _
        rw [unaccepted (named ▸ rfl)]
        nofun

theorem updateGap_sound {id : Id} {body : GapPatch} {expectedVersion : Option Nat}
    (done : updateGap store actor at_ id body expectedVersion = .ok after) (sound : GapsSound store log) : GapsSound after log := by
  obtain ⟨gap, found, done⟩ := bind_ok.mp done
  obtain ⟨_, -, done⟩ := bind_ok.mp done
  obtain ⟨_, restated, done⟩ := bind_ok.mp done
  obtain ⟨severity, rated, done⟩ := bind_ok.mp done
  obtain ⟨owner, -, done⟩ := bind_ok.mp done
  obtain ⟨status, moves, done⟩ := bind_ok.mp done
  cases done
  obtain ⟨here, -⟩ := locked_ok found
  have held := sound gap here
  rw [← List.append_nil log] at sound held ⊢
  refine saveGap_sound here (List.append_nil log ▸ sound) nofun (apply_sound restated (fun unrestated => ?_) ?_ held)
  · simp only [GapPatch.restates, Bool.or_eq_false_iff, Option.isSome_eq_false_iff, Option.isNone_iff_eq_none] at unrestated
    obtain ⟨⟨⟨⟨title, description⟩, remediation⟩, severed⟩, targetDate⟩ := unrestated
    rcases optionally_ok.mp rated with ⟨-, unrated⟩ | ⟨key, value, sent, -⟩
    · exact ⟨title, description, remediation, unrated, targetDate⟩
    · rw [severed] at sent
      cases sent
  · intro target named
    rcases optionally_ok.mp moves with ⟨-, rfl⟩ | ⟨key, value, -, rfl, moved⟩
    · cases named
    · cases named
      exact movedTo_ok moved

theorem requestRiskAcceptance_sound {id : Id} {body : RiskAcceptanceBody}
    (done : requestRiskAcceptance store actor at_ id body = .ok after) (sound : GapsSound store log) :
    ∃ requester gap, actor.id = some requester ∧ locked store id = .ok gap ∧
      GapsSound after (log ++ [(id, Asking.mk requester gap.acceptedFacts)]) := by
  obtain ⟨gap, found, done⟩ := bind_ok.mp done
  obtain ⟨category, held, done⟩ := bind_ok.mp done
  obtain ⟨_, movable, done⟩ := bind_ok.mp done
  obtain ⟨_, unasked, done⟩ := bind_ok.mp done
  obtain ⟨reason, -, done⟩ := bind_ok.mp done
  obtain ⟨requester, asks, done⟩ := bind_ok.mp done
  cases done
  obtain ⟨here, rfl⟩ := locked_ok found
  have kind := categoryOf_ok held
  have outside : kindOf store.bank gap.status ≠ some .riskAccepted := by
    rw [kind, Ne, Option.some.injEq]
    rintro rfl
    exact absurd (require_ok.mp movable) (by decide)
  have still := sound gap here
  have unaccepted : gap.acceptedBy = none := by
    rwa [Ne, still.accepted, Bool.not_eq_true, Option.isSome_eq_false_iff, Option.isNone_iff_eq_none] at outside
  refine ⟨requester, gap, demand_ok.mp asks, found, saveGap_sound here sound ?_ ⟨still.known, still.accepted, ?_, ?_⟩⟩
  · intro writing member
    rw [List.mem_singleton.mp member]
  · intro accepter accepts
    rw [show (Gap.askAcceptance _ _ _ _ gap).acceptedBy = gap.acceptedBy from rfl, unaccepted] at accepts
    cases accepts
  · intro other asked
    obtain rfl := Option.some.inj asked
    exact Authors.lastBy_append_wrote log (List.mem_singleton_self gap.id) _

theorem approveRiskAcceptance_sound {id stepUp : Id} (done : approveRiskAcceptance store actor at_ id stepUp = .ok after)
    (sound : GapsSound store log) : GapsSound after log := by
  obtain ⟨gap, found, done⟩ := bind_ok.mp done
  obtain ⟨category, -, done⟩ := bind_ok.mp done
  obtain ⟨_, waiting, done⟩ := bind_ok.mp done
  obtain ⟨approver, -, done⟩ := bind_ok.mp done
  obtain ⟨_, other, done⟩ := bind_ok.mp done
  obtain ⟨status, accepts, done⟩ := bind_ok.mp done
  cases done
  obtain ⟨here, -⟩ := locked_ok found
  have held := sound gap here
  have kind := categoryRow_ok accepts
  rw [← List.append_nil log] at sound held ⊢
  refine saveGap_sound here (List.append_nil log ▸ sound) nofun ⟨?_, ⟨fun _ => rfl, fun _ => kind⟩, ?_, held.frozen⟩
  · change (kindOf store.bank status.id).isSome = true
    rw [kind]
    rfl
  · intro accepter same
    obtain rfl := Option.some.inj same
    exact ⟨(require_ok.mp waiting).1, require_ok.mp other⟩

theorem reopenGap_sound {id : Id} (done : reopenGap store actor id = .ok after) (sound : GapsSound store log) :
    GapsSound after log := by
  obtain ⟨gap, found, done⟩ := bind_ok.mp done
  obtain ⟨category, -, done⟩ := bind_ok.mp done
  obtain ⟨_, -, done⟩ := bind_ok.mp done
  obtain ⟨status, opens, done⟩ := bind_ok.mp done
  cases done
  obtain ⟨here, -⟩ := locked_ok found
  have kind := categoryRow_ok opens
  rw [← List.append_nil log] at sound ⊢
  refine saveGap_sound here (List.append_nil log ▸ sound) nofun (.unasked ?_ ?_ rfl rfl)
  · change (kindOf store.bank status.id).isSome = true
    rw [kind]
    rfl
  · change kindOf store.bank status.id ≠ _
    rw [kind]
    nofun

theorem asking_error {request : GapRequest} {refused : Refusal} (refusal : store.handle request = .error refused) :
    store.asking request = [] := by
  unfold GapStore.asking
  rw [refusal]
  split
  · rename_i accepted
    cases accepted
  · rfl

theorem handle_sound {request : GapRequest} (accepted : store.handle request = .ok after) (sound : GapsSound store log) :
    GapsSound after (log ++ store.asking request) := by
  obtain ⟨actor, at_, call⟩ := request
  unfold GapStore.asking
  rw [accepted]
  cases call with
  | create obligation body => exact (List.append_nil log).symm ▸ createGap_sound accepted sound
  | update gap body expectedVersion => exact (List.append_nil log).symm ▸ updateGap_sound accepted sound
  | requestAcceptance gap body =>
    obtain ⟨requester, row, asks, found, kept⟩ := requestRiskAcceptance_sound accepted sound
    dsimp only at asks ⊢
    rw [found, asks]
    exact kept
  | approve gap stepUp => exact (List.append_nil log).symm ▸ approveRiskAcceptance_sound accepted sound
  | reopen gap => exact (List.append_nil log).symm ▸ reopenGap_sound accepted sound
  | elsewhere bank =>
    obtain ⟨_, kept, accepted⟩ := bind_ok.mp accepted
    cases accepted
    exact (List.append_nil log).symm ▸ fun row member => sound.bank_kept (require_ok.mp kept) row member

theorem run_gapsSound (requests : List GapRequest) (sound : GapsSound store log) :
    GapsSound (run GapStore.handle store requests) (log ++ askings store requests) := by
  induction requests generalizing store log with
  | nil =>
    rw [askings, List.append_nil]
    exact sound
  | cons request rest ih =>
    rw [askings, ← List.append_assoc]
    refine ih ?_
    cases found : store.handle request with
    | ok after =>
      rw [settle_ok found]
      exact handle_sound found sound
    | error refused =>
      rw [settle_error found, asking_error found, List.append_nil]
      exact sound

/-- In every run of a bank's gaps, a gap's risk is accepted exactly when somebody is recorded as having accepted it; that
is another person than asked for it last, and the gap says what it said when they asked. -/
theorem run_accepted (bank : Bank) (requests : List GapRequest) :
    ∀ gap ∈ (run GapStore.handle { bank } requests).gaps.rows,
      (kindOf (run GapStore.handle { bank } requests).bank gap.status = some .riskAccepted ↔ gap.acceptedBy.isSome = true) ∧
      ∀ accepter, gap.acceptedBy = some accepter → ∃ asking, (askings { bank } requests).lastBy gap.id = some asking ∧
        gap.acceptanceRequestedBy = some asking.requester ∧ asking.requester ≠ accepter ∧ gap.acceptedFacts = asking.facts := by
  intro gap member
  have held : GapSound _ ([] ++ askings { bank } requests) gap := run_gapsSound requests (fun row none_ => by cases none_) gap member
  refine ⟨held.accepted, fun accepter accepts => ?_⟩
  obtain ⟨asked, other⟩ := held.fourEyes accepter accepts
  obtain ⟨requester, named⟩ := Option.ne_none_iff_exists'.mp asked
  refine ⟨_, held.frozen requester named, named, ?_, rfl⟩
  rintro rfl
  exact other named

/-- A bank with an open obligation, the statuses an acceptance moves a gap between, and a reason. -/
def gapBank : Bank where
  tenant := 1
  headings := [(7, "Keep a register")]
  activeMembers := [8, 9]
  statuses := (({} : Keyed GapStatus.id).create
    (fun id => { id, key := "open", kind := .open_, isSystem := true }) fun _ => rfl).create
    (fun id => { id, key := "accepted", kind := .riskAccepted, isSystem := true }) fun _ => rfl
  ratings := [{ id := 20, key := "low" }]
  sources := [{ id := 21, key := "audit" }]
  reasons := [{ id := 22, key := "cost" }]

/-- A gap is recorded, one person asks for its risk to be accepted, and another accepts it. -/
def acceptedGap : List GapRequest :=
  [{ actor := { kind := .user, id := some 8 }, at_ := 1, call := .create 7 { title := "No register", severity := "low", source := "audit" } },
    { actor := { kind := .user, id := some 8 }, at_ := 2, call := .requestAcceptance 0 { reason := "cost" } },
    { actor := { kind := .user, id := some 9 }, at_ := 3, call := .approve 0 30 }]

theorem acceptedGap_fourEyes : ∃ gap ∈ (run GapStore.handle { bank := gapBank } acceptedGap).gaps.rows,
    gap.acceptedBy = some 9 ∧ kindOf (run GapStore.handle { bank := gapBank } acceptedGap).bank gap.status = some .riskAccepted ∧
      ∃ asking, (askings { bank := gapBank } acceptedGap).lastBy gap.id = some asking ∧ asking.requester ≠ 9 := by
  have accepted : ∃ gap ∈ (run GapStore.handle { bank := gapBank } acceptedGap).gaps.rows, gap.acceptedBy = some 9 := by
    decide +kernel
  obtain ⟨gap, held, accepter⟩ := accepted
  obtain ⟨category, askedBy⟩ := run_accepted gapBank acceptedGap gap held
  obtain ⟨asking, asked, -, other, -⟩ := askedBy 9 accepter
  exact ⟨gap, held, accepter, category.mpr (by rw [accepter]; rfl), asking, asked, other⟩

end Grc.Register
