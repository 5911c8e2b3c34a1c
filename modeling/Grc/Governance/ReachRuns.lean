import Grc.Governance.ReachDesk
import Mathlib.Data.List.Infix

/-! Tenant reach over whole runs: reach is on exactly while the last switch is somebody else's approval, and a register read no write disturbs is
answered with what the bank then lets its agents read. -/
namespace Grc.Governance

open Grc.Shared Grc.Lib Grc.Taxonomy

section Bank
variable {settings : ReachSettings} {bank next : BankRows} {write : BankWrite} {request decider entry id : Id} {version : Option Nat}

def BankRows.Switched (bank : BankRows) : Prop :=
  bank.tenantReachOn = true → ∃ request requester decider, bank.switches.getLast? = some (.approved request requester decider) ∧ decider ≠ requester

theorem decidable_ok {row : TenantReachRequest} (done : bank.decidable request decider version = .ok row) :
    row ∈ bank.requests.rows ∧ row.id = request ∧ row.status = .pending ∧ row.requestedBy ≠ decider := by
  simp only [BankRows.decidable, bind_ok, demand_ok, require_ok] at done
  obtain ⟨found, its, -, pending, -, -, -, other, done⟩ := done
  cases done
  exact ⟨List.mem_of_find?_eq_some its, beq_iff_eq.mp (List.find?_some its :), pending, other⟩

/-- What the writes about reach do not touch. -/
structure Aside (bank next : BankRows) : Prop where
  reach : next.tenantReachOn = bank.tenantReachOn
  requests : next.requests = bank.requests
  switches : next.switches = bank.switches
  decided : next.decided = bank.decided

theorem storeKey_aside {key : NewKey} {name : String} {scopes : List String} {names user : Option Id} {expiry : Option Instant}
    (done : bank.storeKey key name scopes names user expiry = .ok next) : Aside bank next := by
  simp only [BankRows.storeKey, bind_ok] at done
  obtain ⟨_, -, done⟩ := done
  cases done
  exact ⟨rfl, rfl, rfl, rfl⟩

/-- What a write can do to reach and to its requests. -/
inductive Effect (bank : BankRows) : BankRows → Prop where
  | aside {next : BankRows} (aside : Aside bank next) : Effect bank next
  | requested (requester : Id) (off : bank.tenantReachOn = false) (none : (bank.requests.rows.any (·.status == .pending)) = false) :
    Effect bank { bank with
      reach := some (bank.reach.getD {})
      requests := bank.requests.create (fun id => { id, requestedBy := requester, requestedAt := bank.clock }) fun _ => rfl }
  | approved (row : TenantReachRequest) (decider : Id) (there : row ∈ bank.requests.rows) (pending : row.status = .pending)
    (other : row.requestedBy ≠ decider) :
    Effect bank { bank.decide_ row.id decider .approved with
      reach := some { enabled := true, request := some row.id, changedBy := some decider, changedAt := some bank.clock }
      switches := bank.switches ++ [.approved row.id row.requestedBy decider] }
  | rejected (row : TenantReachRequest) (decider : Id) (there : row ∈ bank.requests.rows) (pending : row.status = .pending) :
    Effect bank (bank.decide_ row.id decider .rejected)
  | off (user : Id) :
    Effect bank { bank with
      reach := bank.reach.map fun row => { row with enabled := false, changedBy := some user, changedAt := some bank.clock }
      switches := bank.switches ++ [.off user] }

theorem write_effect (done : bank.write settings write = .ok next) : Effect bank next := by
  cases write with
  | tick elapsed =>
    cases done
    exact .aside ⟨rfl, rfl, rfl, rfl⟩
  | requestReach requester =>
    simp only [BankRows.write, BankRows.requestReach, bind_ok, require_ok] at done
    obtain ⟨-, off, -, none, done⟩ := done
    cases done
    exact .requested requester off none
  | approve request decider version =>
    simp only [BankRows.write, BankRows.approve, bind_ok] at done
    obtain ⟨row, checked, done⟩ := done
    obtain ⟨there, rfl, pending, other⟩ := decidable_ok checked
    cases done
    exact .approved row decider there pending other
  | reject request decider version =>
    simp only [BankRows.write, BankRows.reject, bind_ok] at done
    obtain ⟨row, checked, done⟩ := done
    obtain ⟨there, rfl, pending, other⟩ := decidable_ok checked
    cases done
    exact .rejected row decider there pending
  | switchOff user =>
    simp only [BankRows.write, BankRows.switchOff, bind_ok] at done
    obtain ⟨_, -, done⟩ := done
    cases done
    exact .off user
  | register user name purpose ownerTeam departments products =>
    simp only [BankRows.write, BankRows.register, bind_ok] at done
    obtain ⟨_, -, _, -, _, -, _, -, _, -, done⟩ := done
    cases done
    exact .aside ⟨rfl, rfl, rfl, rfl⟩
  | update entry body version =>
    simp only [BankRows.write, BankRows.update, bind_ok] at done
    obtain ⟨_, -, _, -, _, -, _, -, _, -, _, -, done⟩ := done
    cases done
    exact .aside ⟨rfl, rfl, rfl, rfl⟩
  | setTenantReach entry enabled version =>
    simp only [BankRows.write, BankRows.setTenantReach, bind_ok] at done
    obtain ⟨_, -, done⟩ := done
    cases done
    exact .aside ⟨rfl, rfl, rfl, rfl⟩
  | revoke entry user version =>
    simp only [BankRows.write, BankRows.revoke, bind_ok] at done
    obtain ⟨_, -, done⟩ := done
    cases done
    exact .aside ⟨rfl, rfl, rfl, rfl⟩
  | createKey entry key =>
    simp only [BankRows.write, BankRows.createKey, bind_ok] at done
    obtain ⟨_, -, _, -, _, -, _, -, done⟩ := done
    exact .aside (storeKey_aside done)
  | createApiKey key =>
    simp only [BankRows.write, BankRows.createApiKey, bind_ok] at done
    obtain ⟨_, -, _, -, done⟩ := done
    exact .aside (storeKey_aside done)
  | mint user entry key =>
    simp only [BankRows.write, BankRows.mint, bind_ok] at done
    obtain ⟨_, -, _, -, _, -, _, -, done⟩ := done
    exact .aside (storeKey_aside done)
  | revokeKey key | elsewhere teams people scoping obligations decisions =>
    cases done
    exact .aside ⟨rfl, rfl, rfl, rfl⟩

theorem Effect.switched (effect : Effect bank next) (switched : bank.Switched) : next.Switched := by
  cases effect with
  | aside aside =>
    unfold BankRows.Switched
    rw [aside.reach, aside.switches]
    exact switched
  | requested requester off none =>
    intro on
    have still : ((some (bank.reach.getD {})).any (·.enabled)) = bank.tenantReachOn := by
      unfold BankRows.tenantReachOn
      cases bank.reach <;> rfl
    rw [off] at still
    exact absurd (on.symm.trans still) Bool.noConfusion
  | approved row decider there pending other => exact fun _ => ⟨row.id, row.requestedBy, decider, List.getLast?_concat, other.symm⟩
  | rejected row decider there pending => exact switched
  | off user =>
    intro on
    have none : (bank.reach.map fun row => { row with enabled := false, changedBy := some user, changedAt := some bank.clock }).any (·.enabled) = false := by
      cases bank.reach <;> rfl
    exact absurd (on.symm.trans none) Bool.noConfusion

/-- The requests under four eyes, with every decision on one of them. -/
structure BankKept (bank : BankRows) : Prop extends bank.FourEyes where
  named : ∀ id ∈ bank.decided, ∃ row ∈ bank.requests.rows, row.id = id
  switched : bank.Switched

theorem mem_decide {status : ApprovalStatus} {row : TenantReachRequest} : row ∈ (bank.decide_ request decider status).requests.rows ↔
    ∃ old ∈ bank.requests.rows, row = if (old.id == request) = true then
      { old with status, decidedBy := some decider, decidedAt := some bank.clock, version := old.version + 1 } else old := by
  rw [BankRows.decide_, Keyed.update, List.mem_map]
  exact exists_congr fun _ => and_congr_right fun _ => eq_comm

theorem BankKept.decide {row : TenantReachRequest} (decider : Id) {status : ApprovalStatus} (kept : BankKept bank) (there : row ∈ bank.requests.rows)
    (pending : row.status = .pending) (final : status ≠ .pending) :
    (bank.decide_ row.id decider status).FourEyes ∧
      ∀ id ∈ (bank.decide_ row.id decider status).decided, ∃ row_ ∈ (bank.decide_ row.id decider status).requests.rows, row_.id = id := by
  have fresh : row.id ∉ bank.decided := (kept.pending row there).mp pending
  have named : ∀ old : TenantReachRequest, (if (old.id == row.id) = true then
      { old with status, decidedBy := some decider, decidedAt := some bank.clock, version := old.version + 1 } else old).id = old.id := by
    intro old
    split <;> rfl
  refine ⟨⟨?_, ?_, ?_⟩, ?_⟩
  · have fewer : (bank.requests.rows.filter ((·.status == .pending) ∘ fun old : TenantReachRequest => if (old.id == row.id) = true then
        { old with status, decidedBy := some decider, decidedAt := some bank.clock, version := old.version + 1 } else old)).length ≤
        (bank.requests.rows.filter (·.status == .pending)).length := by
      refine (List.monotone_filter_right _ ?_).length_le
      intro old
      simp only [Function.comp]
      split
      · intro still
        exact absurd (beq_iff_eq.mp still) final
      · exact fun still => still
    unfold BankRows.decide_ Keyed.update
    simp only [List.filter_map, List.length_map]
    exact fewer.trans kept.onePending
  · refine List.nodup_append.mpr ⟨kept.once, List.nodup_singleton _, ?_⟩
    intro old decided new only same
    exact fresh ((same.trans (List.mem_singleton.mp only)) ▸ decided)
  · intro changed here
    obtain ⟨old, was, rfl⟩ := mem_decide.mp here
    rw [named old]
    by_cases its : old.id = row.id
    · rw [if_pos (beq_iff_eq.mpr its)]
      refine iff_of_false final fun none => none ?_
      exact List.mem_append_right _ (List.mem_singleton.mpr its)
    · rw [if_neg (fun same => its (beq_iff_eq.mp same)), kept.pending old was]
      unfold BankRows.decide_
      rw [List.mem_append, List.mem_singleton, or_iff_left its]
  · intro id decided
    obtain ⟨old, was, its⟩ : ∃ old ∈ bank.requests.rows, old.id = id := by
      rcases List.mem_append.mp decided with before | new
      · exact kept.named id before
      · exact ⟨row, there, (List.mem_singleton.mp new).symm⟩
    exact ⟨_, mem_decide.mpr ⟨old, was, rfl⟩, (named old).trans its⟩

theorem Effect.kept (effect : Effect bank next) (kept : BankKept bank) : BankKept next := by
  have switched := effect.switched kept.switched
  cases effect with
  | aside aside =>
    obtain ⟨-, requests, -, decided⟩ := aside
    refine ⟨⟨?_, ?_, ?_⟩, ?_, switched⟩
    · rw [requests]
      exact kept.onePending
    · rw [decided]
      exact kept.once
    · rw [requests, decided]
      exact kept.pending
    · rw [requests, decided]
      exact kept.named
  | requested requester off none =>
    have nothing : bank.requests.rows.filter (·.status == .pending) = [] := List.filter_eq_nil_iff.mpr (List.any_eq_false.mp none)
    refine ⟨⟨?_, kept.once, ?_⟩, ?_, switched⟩
    · simp [Keyed.create, List.filter_append, nothing]
    · intro row there
      rcases (Keyed.mem_create fun _ => rfl).mp there with old | rfl
      · exact kept.pending row old
      · refine iff_of_true rfl ?_
        intro decided
        obtain ⟨row, was, its⟩ := kept.named _ decided
        exact absurd (Keyed.key_lt_fresh was) (its ▸ lt_irrefl _)
    · intro id decided
      obtain ⟨row, was, its⟩ := kept.named id decided
      exact ⟨row, (Keyed.mem_create fun _ => rfl).mpr (.inl was), its⟩
  | approved row decider there pending other =>
    obtain ⟨fourEyes, named⟩ := BankKept.decide decider kept there pending (by decide : ApprovalStatus.approved ≠ .pending)
    exact ⟨⟨fourEyes.onePending, fourEyes.once, fourEyes.pending⟩, named, switched⟩
  | rejected row decider there pending =>
    obtain ⟨fourEyes, named⟩ := BankKept.decide decider kept there pending (by decide : ApprovalStatus.rejected ≠ .pending)
    exact ⟨⟨fourEyes.onePending, fourEyes.once, fourEyes.pending⟩, named, switched⟩
  | off user => exact ⟨⟨kept.onePending, kept.once, kept.pending⟩, kept.named, switched⟩

end Bank

section Reads
variable {settings : ReachSettings} {bank : BankRows} {desk next : ReachDesk} {read later : RegisterRead} {answer : ReachAnswer} {entry : Id}

theorem readable_iff {obligation : LibraryObligation} : bank.readable entry obligation = true ↔
    obligation.ownerTenant = none ∧ obligation.underStandard = false ∧ bank.asBank.inFootprintSql obligation.termIds = true ∧
      bank.asBank.entryAdmits entry obligation.termIds = true := by
  have admits : bank.asBank.entryAdmits entry obligation.termIds = true → bank.asBank.inFootprintSql obligation.termIds = true := by
    intro admitted
    simp only [Bank.entryAdmits, Bool.and_eq_true] at admitted
    exact admitted.1.1
  unfold BankRows.readable
  rw [bank.asBank.inReach_eq (some entry) obligation.termIds, Bool.and_eq_true, Bool.and_eq_true, Option.isNone_iff_eq_none, Bool.not_eq_true']
  constructor
  · rintro ⟨⟨shared, law⟩, admitted⟩
    exact ⟨shared, law, admits admitted, admitted⟩
  · rintro ⟨shared, law, -, admitted⟩
    exact ⟨⟨shared, law⟩, admitted⟩

theorem mayRead_of_readableIds {obligation : Id} (listed : obligation ∈ bank.readableIds entry) : bank.mayRead entry obligation = true := by
  obtain ⟨row, there, rfl⟩ := List.mem_map.mp listed
  rw [List.mem_insertionSort, List.mem_filter, Bool.and_eq_true] at there
  refine List.any_eq_true.mpr ⟨row, there.1, ?_⟩
  rw [Bool.and_eq_true, beq_iff_eq]
  exact ⟨rfl, there.2.1⟩

theorem finds_mayRead {query : RegisterQuery} {obligations : List Id} (found : bank.finds entry query = .ok obligations) :
    obligations.all (bank.mayRead entry) = true := by
  rw [List.all_eq_true]
  intro obligation there
  cases query with
  | list limit offset =>
    cases found
    exact mayRead_of_readableIds (List.mem_of_mem_drop (List.mem_of_mem_take there))
  | one wanted =>
    simp only [BankRows.finds, bind_ok, require_ok] at found
    obtain ⟨-, may, found⟩ := found
    cases found
    exact List.mem_singleton.mp there ▸ may

theorem of_answers {query : RegisterQuery} {obligations : List Id} {decision : RegisterDecision} (there : decision ∈ bank.answers obligations query) :
    decision.obligation ∈ obligations := by
  cases query with
  | list limit offset =>
    obtain ⟨row, kept, rfl⟩ := List.mem_map.mp there
    exact List.contains_iff_mem.mp (List.mem_filter.mp kept).2
  | one wanted =>
    obtain ⟨obligation, here, rfl⟩ := List.mem_map.mp there
    exact here

def ReadStage.Bound : ReadStage → Prop
  | .resolved key entry | .reaching key entry | .allowed key entry | .found key entry _ => key.agentAccess = some entry ∧ tenantRead ∈ key.scopes
  | _ => True

/-- A read that goes on has found what its next stage stands on, in the state it goes on in. -/
theorem advance_stands (stands : bank.stands read.stage = true) (bound : read.stage.Bound) (done : bank.advance read = .ok (.inl later)) :
    bank.stands later.stage = true ∧ later.stage.Bound := by
  unfold BankRows.advance at done
  cases stage : read.stage with
  | arrived =>
    simp only [stage, bind_ok, demand_ok, require_ok] at done
    obtain ⟨presented, -, key, found, -, ⟨-, unrevoked, unexpired⟩, done⟩ := done
    cases done
    refine ⟨List.any_eq_true.mpr ⟨key, List.mem_of_find?_eq_some found, ?_⟩, trivial⟩
    have inside : key.expiresAt.all (bank.clock < ·) = true := by
      cases expires : key.expiresAt with
      | none => rfl
      | some expiry => exact decide_eq_true (unexpired expiry expires)
    simp only [beq_self_eq_true, unrevoked, Option.isNone_none, inside, Bool.and_self]
  | keyed key =>
    simp only [stage, bind_ok, require_ok] at done
    obtain ⟨-, active, done⟩ := done
    cases done
    refine ⟨?_, trivial⟩
    have all_ : key.agentAccess.all bank.entryActive = true := by
      cases names : key.agentAccess with
      | none => rfl
      | some entry => exact active entry names
    rw [stage] at stands
    simp only [BankRows.stands] at stands ⊢
    rw [stands, all_, Bool.and_self]
  | entered key =>
    simp only [stage, bind_ok, demand_ok, require_ok] at done
    obtain ⟨-, backed, -, scope, entry, names, done⟩ := done
    cases done
    rw [stage] at stands
    simp only [BankRows.stands, names, Option.all_some, Bool.and_eq_true] at stands ⊢
    exact ⟨⟨stands, backed⟩, names, (List.mem_filter.mp scope).1⟩
  | resolved key entry =>
    simp only [stage, bind_ok, require_ok] at done
    obtain ⟨-, on, done⟩ := done
    cases done
    rw [stage] at stands bound
    simp only [BankRows.stands, Bool.and_eq_true] at stands ⊢
    exact ⟨⟨stands, on⟩, bound⟩
  | reaching key entry =>
    simp only [stage, bind_ok, require_ok] at done
    obtain ⟨-, reaches, done⟩ := done
    cases done
    rw [stage] at stands bound
    simp only [BankRows.stands, Bool.and_eq_true] at stands ⊢
    exact ⟨⟨⟨⟨stands.1.1.1, reaches⟩, stands.1.2⟩, stands.2⟩, bound⟩
  | allowed key entry =>
    simp only [stage, bind_ok] at done
    obtain ⟨obligations, found, done⟩ := done
    cases done
    rw [stage] at stands bound
    simp only [BankRows.stands, Bool.and_eq_true] at stands ⊢
    exact ⟨⟨stands, finds_mayRead found⟩, bound⟩
  | found key entry obligations => simp [stage] at done

/-- A read is answered with what the bank then lets its agents read, where all it found still stands. -/
theorem advance_due (stands : bank.stands read.stage = true) (bound : read.stage.Bound) (switched : bank.Switched)
    (done : bank.advance read = .ok (.inr answer)) : answer.Due := by
  unfold BankRows.advance at done
  cases stage : read.stage with
  | found key entry obligations =>
    simp only [stage] at done
    cases done
    rw [stage] at stands bound
    simp only [BankRows.stands, Bool.and_eq_true] at stands
    obtain ⟨⟨⟨⟨live, reaches⟩, backed⟩, on⟩, may⟩ := stands
    refine ⟨⟨live, backed⟩, bound, ?_, switched on, ?_⟩
    · obtain ⟨row, there, both⟩ := List.any_eq_true.mp reaches
      rw [Bool.and_eq_true, Bool.and_eq_true, beq_iff_eq] at both
      exact ⟨row, there, both.1.1, both.1.2, both.2⟩
    · intro decision answered
      obtain ⟨row, there, both⟩ := List.any_eq_true.mp (List.all_eq_true.mp may _ (of_answers answered))
      rw [Bool.and_eq_true, beq_iff_eq] at both
      exact ⟨row, there, both.1, readable_iff.mp both.2⟩
  | arrived =>
    simp only [stage, bind_ok] at done
    obtain ⟨_, -, _, -, _, -, done⟩ := done
    cases done
  | keyed key =>
    simp only [stage, bind_ok] at done
    obtain ⟨_, -, done⟩ := done
    cases done
  | entered key =>
    simp only [stage, bind_ok] at done
    obtain ⟨_, -, _, -, _, -, done⟩ := done
    cases done
  | resolved key entry | reaching key entry | allowed key entry =>
    simp only [stage, bind_ok] at done
    obtain ⟨_, -, done⟩ := done
    cases done

structure ReachKept (desk : ReachDesk) : Prop where
  bank : BankKept desk.bank
  reads : ∀ each ∈ desk.reads, desk.bank.stands each.2.stage = true ∧ each.2.stage.Bound
  due : ∀ answer ∈ desk.answered, answer.Due

theorem reachKept_start (scoping : Scoping) : ReachKept { bank := { scoping } } where
  bank := by
    refine ⟨⟨?_, ?_, ?_⟩, ?_, ?_⟩
    all_goals simp [BankRows.Switched, BankRows.tenantReachOn]
  reads := fun each there => absurd there List.not_mem_nil
  due := fun answer there => absurd there List.not_mem_nil

theorem step_reachKept {step : ReachStep} (kept : ReachKept desk) (undisturbed : Undisturbed settings desk step)
    (done : desk.step settings step = .ok next) : ReachKept next := by
  cases step with
  | writes write =>
    simp only [ReachDesk.step, bind_ok] at done
    obtain ⟨bank, wrote, done⟩ := done
    cases done
    simp only [Undisturbed, wrote] at undisturbed
    refine ⟨(write_effect wrote).kept kept.bank, ?_, kept.due⟩
    intro each there
    obtain ⟨stands, bound⟩ := kept.reads each there
    exact ⟨undisturbed each there stands, bound⟩
  | arrives read presented query =>
    simp only [ReachDesk.step, bind_ok] at done
    obtain ⟨_, -, done⟩ := done
    cases done
    refine ⟨kept.bank, List.forall_mem_append.mpr ⟨kept.reads, ?_⟩, kept.due⟩
    intro each new
    cases List.mem_singleton.mp new
    exact ⟨rfl, trivial⟩
  | reads id =>
    obtain ⟨read, held, done⟩ := bind_ok.mp done
    obtain ⟨stands, bound⟩ := kept.reads _ (mem_of_heldBy (demand_ok.mp held))
    have left : ∀ each ∈ withoutBy desk.reads id, desk.bank.stands each.2.stage = true ∧ each.2.stage.Bound :=
      fun each there => kept.reads each (mem_withoutBy.mp there).1
    cases advanced : desk.bank.advance read with
    | error refusal =>
      simp only [advanced] at done
      cases done
      exact ⟨kept.bank, left, kept.due⟩
    | ok outcome =>
      cases outcome with
      | inl later =>
        simp only [advanced] at done
        cases done
        refine ⟨kept.bank, ?_, kept.due⟩
        intro each there
        rcases of_mem_putBy there with rfl | ⟨was, -⟩
        · exact advance_stands stands bound advanced
        · exact kept.reads each was
      | inr answer =>
        simp only [advanced] at done
        cases done
        refine ⟨kept.bank, left, List.forall_mem_append.mpr ⟨kept.due, ?_⟩⟩
        intro one new
        cases List.mem_singleton.mp new
        exact advance_due stands bound kept.bank.switched advanced

/-- A register decision reaches a bank's own agents only as the bank lets it, in every run in which no write takes back what a read under way has
found. -/
theorem run_reaches (settings : ReachSettings) (scoping : Scoping) (steps : List ReachStep)
    (undisturbed : Meets (ReachDesk.step settings) (Undisturbed settings) { bank := { scoping } } steps) :
    (run (ReachDesk.step settings) { bank := { scoping } } steps).Reaches := by
  have kept := run_invariant_of_meets (reachKept_start scoping) (fun _ _ _ kept met done => step_reachKept kept met done) steps undisturbed
  exact ⟨kept.due, kept.bank.toFourEyes⟩

/-- A bank that follows no term, with one shared obligation it has decided on. -/
def noTerms : Scoping where
  table := .bare
  footprint := []
  known := by simp

/-- The entry's key reads with the bank's reach on, as far as the first `count` statements of its read. -/
def registerRead (count : Nat) : List ReachStep :=
  [.writes (.elsewhere ["compliance"] [] noTerms [{ id := 70, stableKey := "SE-1" }] [{ obligation := 70, judgement := "applies" }]),
    .writes (.register 1 "Desk" "Answers the desk." "compliance" [] []),
    .writes (.createKey 0 { name := "Desk", keyPrefix := "deskdesk", keyHash := "hash", scopes := [tenantRead], expiresAt := none }),
    .writes (.requestReach 1), .writes (.approve 0 2 none), .arrives 0 (some ("deskdesk", "hash")) (.list 20 0)] ++
    List.replicate count (.reads 0)

/-- Reach is found on; then it is switched off, and only then is the entry's toggle switched on, and found on. -/
def readAcrossSwitches : List ReachStep :=
  registerRead 4 ++ [.writes (.switchOff 1), .writes (.setTenantReach 0 true none), .reads 0, .reads 0, .reads 0]

/-- The toggle and the bank's reach were never on together, and the bank's decision was answered. -/
theorem readAcrossSwitches_answered :
    (∀ first, first <+: readAcrossSwitches → let bank := (run (ReachDesk.step {}) { bank := { scoping := noTerms } } first).bank
      ¬(bank.tenantReachOn = true ∧ bank.entryReaches 0 = true)) ∧
    ¬(run (ReachDesk.step {}) { bank := { scoping := noTerms } } readAcrossSwitches).Reaches := by
  constructor
  · have never : ∀ first ∈ readAcrossSwitches.inits, let bank := (run (ReachDesk.step {}) { bank := { scoping := noTerms } } first).bank
        ¬(bank.tenantReachOn = true ∧ bank.entryReaches 0 = true) := by
      decide +kernel
    exact fun first initial => never first ((List.mem_inits _ _).mpr initial)
  · intro reaches
    have last : (run (ReachDesk.step {}) { bank := { scoping := noTerms } } readAcrossSwitches).answered.map
        (fun answer => (answer.decisions, answer.bank.switches.getLast?)) =
          [([{ obligation := 70, judgement := some "applies" }], some (.off 1))] := by
      decide +kernel
    obtain ⟨answer, there, its⟩ := List.mem_map.mp (last ▸ List.mem_singleton_self _ :)
    obtain ⟨request, requester, decider, approved, -⟩ := (reaches.due answer there).approved
    have off := congrArg Prod.snd its
    rw [approved] at off
    cases off

/-- A read of an entry whose toggle is on, with nothing written until it is answered. -/
theorem run_reaches_answered : let steps : List ReachStep := registerRead 0 ++ [.writes (.setTenantReach 0 true none)] ++ List.replicate 7 (.reads 0) ++ [.writes (.switchOff 1)]
    let desk := run (ReachDesk.step {}) { bank := { scoping := noTerms } } steps
    desk.Reaches ∧ desk.answered.map (·.decisions) = [[{ obligation := 70, judgement := some "applies" }]] :=
  ⟨run_reaches {} noTerms _ (by decide +kernel), by decide +kernel⟩

end Reads
end Grc.Governance
