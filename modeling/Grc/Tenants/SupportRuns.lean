import Grc.Tenants.SupportAccess

/-! Support access over whole runs: a grant moves forward only, a support session stands on a grant of its own bank and person, and a request leaves
its read row whichever way it ends. -/
namespace Grc.Tenants.Support

open Grc.Shared Grc.Lib Grc.Identity
open SupportDesk (Closed Onward)

section States
variable {grant becomes : SupportAccess} {now later : Instant} {moment : Option Instant} {decision : Decision} {actor : Id}

theorem isPast_later (goes : now ≤ later) (past : isPast moment now = true) : isPast moment later = true := by
  cases moment with
  | none => rfl
  | some at_ => exact decide_eq_true ((of_decide_eq_true past).trans goes)

theorem isPast_eq_false : isPast moment now = false ↔ ∃ at_, moment = some at_ ∧ now < at_ := by
  cases moment <;> simp [isPast]

theorem stateOf_pending : stateOf grant now = .pending ↔
    grant.accessLevel = .read ∧ grant.status = .requested ∧ ∃ expires, grant.requestExpiresAt = some expires ∧ now < expires := by
  rw [← isPast_eq_false]
  unfold stateOf
  cases grant.accessLevel <;> cases grant.status <;> simp <;> split <;> simp_all

theorem stateOf_active : stateOf grant now = .active ↔
    grant.accessLevel = .read ∧ grant.status = .approved ∧ ∃ end_, grant.expiresAt = some end_ ∧ now < end_ := by
  rw [← isPast_eq_false]
  unfold stateOf
  cases grant.accessLevel <;> cases grant.status <;> simp <;> split <;> simp_all

theorem SupportDesk.Closed.lasts (closed : Closed grant now) (goes : now ≤ later) : Closed grant later := by
  have past := @isPast_later now later grant.expiresAt goes
  unfold Closed stateOf at closed ⊢
  cases level : grant.accessLevel <;> cases standing : grant.status <;> simp_all <;> split at closed <;> simp_all

theorem pending_before (goes : now ≤ later) (pending : stateOf grant later = .pending) : stateOf grant now = .pending := by
  obtain ⟨read, asked, expires, its, before⟩ := stateOf_pending.mp pending
  exact stateOf_pending.mpr ⟨read, asked, expires, its, Nat.lt_of_le_of_lt goes before⟩

/-- What a decision makes of the row it locked. -/
inductive Becomes (grant : SupportAccess) (now : Instant) : SupportAccess → Prop where
  | approved (actor : Id) (pending : stateOf grant now = .pending) (other : actor ≠ grant.platformUser) :
    Becomes grant now { grant with status := .approved, approvedBy := some actor, startedAt := some now, expiresAt := some (now + hours grant.hours) }
  | declined (actor : Id) (pending : stateOf grant now = .pending) : Becomes grant now (end_ grant .declined actor now)
  | revoked (actor : Id) (active : stateOf grant now = .active) : Becomes grant now (end_ grant .revoked actor now)

theorem decided_ok (done : decided decision grant actor now = .ok becomes) : Becomes grant now becomes := by
  cases decision with
  | approve =>
    simp only [decided, approve, bind_ok, require_ok] at done
    obtain ⟨-, pending, -, other, done⟩ := done
    cases done
    exact .approved actor pending other
  | decline =>
    simp only [decided, decline, bind_ok, require_ok] at done
    obtain ⟨-, pending, done⟩ := done
    cases done
    exact .declined actor pending
  | revoke =>
    simp only [decided, revoke, bind_ok, require_ok] at done
    obtain ⟨-, active, done⟩ := done
    cases done
    exact .revoked actor active

namespace Becomes

section
variable (done : Becomes grant now becomes)
include done

theorem same : becomes.id = grant.id ∧ becomes.tenant = grant.tenant ∧
    becomes.platformUser = grant.platformUser ∧ becomes.accessLevel = grant.accessLevel ∧ becomes.requestExpiresAt = grant.requestExpiresAt := by
  cases done <;> exact ⟨rfl, rfl, rfl, rfl, rfl⟩

theorem level : grant.accessLevel = .read := by
  cases done with
  | approved _ pending | declined _ pending => exact (stateOf_pending.mp pending).1
  | revoked _ active => exact (stateOf_active.mp active).1

theorem decided : becomes.status ≠ .requested := by
  cases done <;> simp [end_]

theorem pending (asked : grant.status = .requested) : stateOf grant now = .pending := by
  cases done with
  | approved _ pending | declined _ pending => exact pending
  | revoked _ active =>
    have standing := (stateOf_active.mp active).2.1
    rw [asked] at standing
    cases standing

theorem not_pending : stateOf becomes later ≠ .pending := fun again =>
  done.decided (stateOf_pending.mp again).2.1

theorem not_closed (asked : grant.status = .requested) : ¬Closed grant later := by
  obtain ⟨read, -, -⟩ := stateOf_pending.mp (done.pending asked)
  unfold Closed stateOf
  simp only [read, asked, reduceCtorEq, if_false]
  split <;> simp

theorem closed (closed : Closed grant later) : Closed becomes later := by
  cases done with
  | approved actor pending other => exact absurd closed (not_closed (.approved actor pending other) (stateOf_pending.mp pending).2.1)
  | declined actor pending => exact absurd closed (not_closed (.declined actor pending) (stateOf_pending.mp pending).2.1)
  | revoked actor active =>
    refine .inr (.inl ?_)
    simp [stateOf, end_, (stateOf_active.mp active).1]

end

end Becomes
end States

section Grants
variable {grants : Keyed SupportAccess.id} {deciding : List (Id × Deciding)} {left : List (Id × Instant)} {clock later : Instant}
  {grant row : SupportAccess} {decision : Deciding} {id : Id}

def Approved (grant : SupportAccess) (clock : Instant) : Prop :=
  (∃ approver, grant.approvedBy = some approver ∧ approver ≠ grant.platformUser) ∧ ∃ start, grant.startedAt = some start ∧ start ≤ clock

theorem approved_of_becomes {now : Instant} (done : Becomes grant now row) (before : now ≤ clock) (standing : row.status = .approved) :
    Approved row clock := by
  cases done with
  | approved actor pending other => exact ⟨⟨actor, rfl, other⟩, _, rfl, before⟩
  | declined actor pending | revoked actor active => cases standing

/-- The grants as committed, with the decisions under way, each alone on its row. -/
structure GrantsKept (clock : Instant) (grants : Keyed SupportAccess.id) (deciding : List (Id × Deciding)) (left : List (Id × Instant)) : Prop where
  approved : ∀ grant ∈ grants.rows, grant.status = .approved → Approved grant clock
  held : ∀ each ∈ deciding, each.2.was ∈ grants.rows ∧ Becomes each.2.was each.2.now each.2.becomes ∧ each.2.now ≤ clock
  locks : ∀ one ∈ deciding, ∀ other ∈ deciding, one.2.was.id = other.2.was.id → one.1 = other.1
  stands : ∀ grant ∈ grants.rows, grant.accessLevel = .read → (grant.status = .requested ↔ grant.id ∉ left.map (·.1))
  once : (left.map (·.1)).Nodup
  timely : ∀ each ∈ left, ∃ grant ∈ grants.rows, grant.id = each.1 ∧ ∃ expires, grant.requestExpiresAt = some expires ∧ each.2 < expires

theorem Deciding.keeps_id (decision : Deciding) (row : SupportAccess) : ({ decision.becomes with id := row.id } : SupportAccess).id = row.id := rfl

def saved (grants : Keyed SupportAccess.id) (decision : Deciding) : Keyed SupportAccess.id :=
  grants.update (·.id == decision.was.id) (fun row => { decision.becomes with id := row.id }) decision.keeps_id

theorem mem_saved (there : decision.was ∈ grants.rows) (same : decision.becomes.id = decision.was.id) :
    row ∈ (saved grants decision).rows ↔ row = decision.becomes ∨ row ∈ grants.rows ∧ row.id ≠ decision.was.id := by
  unfold saved
  rw [Keyed.mem_update]
  constructor
  · rintro ⟨old, here, rfl⟩
    by_cases its : old.id = decision.was.id
    · left
      rw [if_pos (by simpa using its), its, ← same]
    · right
      rw [if_neg (by simpa using its)]
      exact ⟨here, its⟩
  · rintro (rfl | ⟨here, others⟩)
    · refine ⟨decision.was, there, ?_⟩
      rw [if_pos (by simp), ← same]
    · refine ⟨row, here, ?_⟩
      rw [if_neg (by simpa using others)]

namespace GrantsKept

section
variable (kept : GrantsKept clock grants deciding left)
include kept

theorem tick (goes : clock ≤ later) : GrantsKept later grants deciding left := by
  refine { kept with approved := ?_, held := ?_ }
  · intro grant there standing
    obtain ⟨approver, start, began, before⟩ := kept.approved grant there standing
    exact ⟨approver, start, began, before.trans goes⟩
  · intro each there
    obtain ⟨was, done, before⟩ := kept.held each there
    exact ⟨was, done, before.trans goes⟩

theorem create {make : Id → SupportAccess} (named : ∀ id, (make id).id = id)
    (open_ : (make grants.fresh).status ≠ .approved) (asked : (make grants.fresh).accessLevel = .read → (make grants.fresh).status = .requested) :
    GrantsKept clock (grants.create make named) deciding left := by
  refine { kept with approved := ?_, held := ?_, stands := ?_, timely := ?_ }
  · intro grant there standing
    rcases (Keyed.mem_create named).mp there with old | rfl
    · exact kept.approved grant old standing
    · exact absurd standing open_
  · intro each there
    obtain ⟨was, done, before⟩ := kept.held each there
    exact ⟨(Keyed.mem_create named).mpr (.inl was), done, before⟩
  · intro grant there read
    rcases (Keyed.mem_create named).mp there with old | rfl
    · exact kept.stands grant old read
    · refine iff_of_true (asked read) ?_
      intro listed
      obtain ⟨each, here, same⟩ := List.mem_map.mp listed
      obtain ⟨row, was, its, -⟩ := kept.timely each here
      have below := Keyed.key_lt_fresh was
      rw [its, same, named] at below
      exact lt_irrefl _ below
  · intro each there
    obtain ⟨grant, was, its⟩ := kept.timely each there
    exact ⟨grant, (Keyed.mem_create named).mpr (.inl was), its⟩

theorem decide (there : grant ∈ grants.rows) {becomes : SupportAccess}
    (done : Becomes grant clock becomes) (free : ¬∃ each ∈ deciding, each.2.was.id = grant.id) :
    GrantsKept clock grants (deciding ++ [(id, { was := grant, becomes, now := clock })]) left := by
  refine { kept with held := ?_, locks := ?_ }
  · intro each here
    rcases List.mem_append.mp here with old | new
    · exact kept.held each old
    · cases List.mem_singleton.mp new
      exact ⟨there, done, le_rfl⟩
  · intro one first other second same
    rcases List.mem_append.mp first with old | new <;> rcases List.mem_append.mp second with older | newer
    · exact kept.locks one old other older same
    · cases List.mem_singleton.mp newer
      exact absurd ⟨one, old, same⟩ free
    · cases List.mem_singleton.mp new
      exact absurd ⟨other, older, same.symm⟩ free
    · rw [List.mem_singleton.mp new, List.mem_singleton.mp newer]

theorem abandon : GrantsKept clock grants (withoutBy deciding id) left :=
  { kept with
    held := fun each there => kept.held each (mem_withoutBy.mp there).1
    locks := fun one first other second => kept.locks one (mem_withoutBy.mp first).1 other (mem_withoutBy.mp second).1 }

theorem commit (held : heldBy deciding id = some decision) : GrantsKept clock (saved grants decision) (withoutBy deciding id)
      (if decision.was.status = .requested then left ++ [(decision.was.id, decision.now)] else left) := by
  obtain ⟨was, done, before⟩ := kept.held _ (mem_of_heldBy held)
  obtain ⟨named, -, person, level, expires⟩ := done.same
  have rows : ∀ row, row ∈ (saved grants decision).rows ↔ _ := fun row => @mem_saved grants row decision was named
  have apart : ∀ each ∈ withoutBy deciding id, each.2.was.id ≠ decision.was.id := by
    intro each there same
    obtain ⟨here, other⟩ := mem_withoutBy.mp there
    exact other (kept.locks each here _ (mem_of_heldBy held) same)
  have fresh : decision.was.status = .requested → decision.was.id ∉ left.map (·.1) := (kept.stands _ was done.level).mp
  constructor
  · intro grant there standing
    rcases (rows grant).mp there with rfl | ⟨old, -⟩
    · exact approved_of_becomes done before standing
    · exact kept.approved grant old standing
  · intro each there
    obtain ⟨theirs, does, earlier⟩ := kept.held each (mem_withoutBy.mp there).1
    exact ⟨(rows _).mpr (.inr ⟨theirs, apart each there⟩), does, earlier⟩
  · exact kept.abandon.locks
  · intro grant there read
    rcases (rows grant).mp there with rfl | ⟨old, others⟩
    · refine iff_of_false done.decided ?_
      rw [not_not, named]
      by_cases asked : decision.was.status = .requested
      · rw [if_pos asked]
        simp
      · rw [if_neg asked]
        exact not_not.mp ((kept.stands _ was done.level).not.mp asked)
    · rw [kept.stands grant old read]
      split
      · simp [others]
      · rfl
  · split
    · rename_i asked
      rw [List.map_append, List.nodup_append]
      refine ⟨kept.once, by simp, ?_⟩
      intro one first other second same
      rw [List.map_singleton, List.mem_singleton] at second
      have its : one = decision.was.id := same.trans second
      exact fresh asked (its ▸ first)
    · exact kept.once
  · have still : ∀ each ∈ left, ∃ grant ∈ (saved grants decision).rows, grant.id = each.1 ∧ ∃ at_, grant.requestExpiresAt = some at_ ∧ each.2 < at_ := by
      intro each there
      obtain ⟨grant, old, its, at_, expiry, earlier⟩ := kept.timely each there
      by_cases same : grant.id = decision.was.id
      · cases grants.eq_of_key old was same
        exact ⟨_, (rows _).mpr (.inl rfl), named.trans its, at_, expires.trans expiry, earlier⟩
      · exact ⟨grant, (rows _).mpr (.inr ⟨old, same⟩), its, at_, expiry, earlier⟩
    split
    · rename_i asked
      refine List.forall_mem_append.mpr ⟨still, ?_⟩
      intro each there
      cases List.mem_singleton.mp there
      obtain ⟨-, -, at_, expiry, earlier⟩ := stateOf_pending.mp (done.pending asked)
      exact ⟨_, (rows _).mpr (.inl rfl), named, at_, expires.trans expiry, earlier⟩
    · exact still

end

end GrantsKept

def Continues (grants next : Keyed SupportAccess.id) : Prop :=
  ∀ grant ∈ grants.rows, ∃ row ∈ next.rows, row.id = grant.id ∧ row.tenant = grant.tenant ∧ row.platformUser = grant.platformUser

theorem Continues.refl : Continues grants grants := fun grant there => ⟨grant, there, rfl, rfl, rfl⟩

theorem Continues.create {make : Id → SupportAccess} (named : ∀ id, (make id).id = id) : Continues grants (grants.create make named) :=
  fun grant there => ⟨grant, (Keyed.mem_create named).mpr (.inl there), rfl, rfl, rfl⟩

theorem GrantsKept.continues (kept : GrantsKept clock grants deciding left) (held : heldBy deciding id = some decision) :
    Continues grants (saved grants decision) := by
  obtain ⟨was, done, -⟩ := kept.held _ (mem_of_heldBy held)
  obtain ⟨named, bank, person, -⟩ := done.same
  intro grant there
  by_cases same : grant.id = decision.was.id
  · cases grants.eq_of_key there was same
    exact ⟨_, (mem_saved was named).mpr (.inl rfl), named, bank, person⟩
  · exact ⟨grant, (mem_saved was named).mpr (.inr ⟨there, same⟩), rfl, rfl, rfl⟩

end Grants

section Sessions
variable {grants next : Keyed SupportAccess.id} {sessions : Keyed UserSession.id} {entering : List (Id × Entering)} {session : UserSession} {id : Id}

def Names (grants : Keyed SupportAccess.id) (id tenant user : Id) : Prop :=
  ∃ grant ∈ grants.rows, grant.id = id ∧ grant.tenant = tenant ∧ grant.platformUser = user

theorem Names.onward {tenant user : Id} (names : Names grants id tenant user) (continues : Continues grants next) : Names next id tenant user := by
  obtain ⟨grant, there, rfl, rfl, rfl⟩ := names
  exact continues grant there

def Stands (grants : Keyed SupportAccess.id) (session : UserSession) : Prop :=
  session.kind = .support → ∃ grant tenant, session.supportAccess = some grant ∧ session.tenant = some tenant ∧ Names grants grant tenant session.user

theorem Stands.onward (stands : Stands grants session) (continues : Continues grants next) : Stands next session := by
  intro support
  obtain ⟨grant, tenant, its, bank, names⟩ := stands support
  exact ⟨grant, tenant, its, bank, names.onward continues⟩

structure SessionsKept (grants : Keyed SupportAccess.id) (sessions : Keyed UserSession.id) (entering : List (Id × Entering)) : Prop where
  stands : ∀ session ∈ sessions.rows, Stands grants session
  names : ∀ each ∈ entering, Names grants each.2.grant.id each.2.grant.tenant each.2.grant.platformUser

namespace SessionsKept

section
variable (kept : SessionsKept grants sessions entering)
include kept

theorem onward (continues : Continues grants next) : SessionsKept next sessions entering where
  stands := fun session there => (kept.stands session there).onward continues
  names := fun each there => (kept.names each there).onward continues

theorem create {make : Id → UserSession} (named : ∀ id, (make id).id = id)
    (stands : Stands grants (make sessions.fresh)) : SessionsKept grants (sessions.create make named) entering := by
  refine { kept with stands := ?_ }
  intro session there
  rcases (Keyed.mem_create named).mp there with old | rfl
  · exact kept.stands session old
  · exact stands

theorem update {picked : UserSession → Bool} {change : UserSession → UserSession} (named : ∀ row, (change row).id = row.id)
    (same : ∀ row, (change row).kind = row.kind ∧ (change row).supportAccess = row.supportAccess ∧ (change row).tenant = row.tenant ∧ (change row).user = row.user) :
    SessionsKept grants (sessions.update picked change named) entering := by
  refine { kept with stands := ?_ }
  intro session there
  obtain ⟨old, was, rfl⟩ := Keyed.mem_update.mp there
  split
  · obtain ⟨kind, its, bank, person⟩ := same old
    unfold Stands
    rw [kind, its, bank, person]
    exact kept.stands old was
  · exact kept.stands old was

theorem enter {begun : Entering} (there : begun.grant ∈ grants.rows) : SessionsKept grants sessions (entering ++ [(id, begun)]) := by
  refine { kept with names := List.forall_mem_append.mpr ⟨kept.names, ?_⟩ }
  intro each new
  cases List.mem_singleton.mp new
  exact ⟨_, there, rfl, rfl, rfl⟩

theorem leave : SessionsKept grants sessions (withoutBy entering id) :=
  { kept with names := fun each there => kept.names each (mem_withoutBy.mp there).1 }

end

end SessionsKept
end Sessions

section Requests
variable {desk next : SupportDesk} {id other : Id} {request after : SupportRequest} {pending : ReadRow} {session : UserSession}

def Stage.readRow : Stage → Option ReadRow
  | .answering pending | .answered pending => some pending
  | .routed | .loaded _ => none

def Unseen (desk : SupportDesk) (id : Id) : Prop := ∀ one ∈ desk.authenticated, one.request ≠ id

/-- A request that was authenticated, with its read row: the row's event is its own. -/
structure Logs (desk : SupportDesk) (id : Id) (pending : ReadRow) : Prop where
  of : ∃ one ∈ desk.authenticated, one.request = id ∧ pending.Of one
  drawn : pending.event < desk.events
  own : ∀ row ∈ desk.audit, row.event = pending.event → row.request = id

/-- What a request has come to: it is past the guard, and how far past. -/
structure Sound (desk : SupportDesk) (id : Id) (request : SupportRequest) : Prop where
  drawn : id < desk.arrived
  listed : request.presented = true → request.operation.Listed
  routed : request.stage = .routed → Unseen desk id ∧ (supportTokenPresented request.token desk.clock = true → request.presented = true)
  loaded : ∀ session, request.stage = .loaded session →
    Unseen desk id ∧ request.presented = true ∧ session.kind = .support ∧ Stands desk.grants session
  answering : ∀ pending, request.stage = .answering pending → Logs desk id pending ∧ desk.readsOf id = []
  answered : ∀ pending, request.stage = .answered pending → Logs desk id pending ∧ (desk.readsOf id = [pending] ∨ desk.readsOf id = [])

/-- What a step of one request adds, if it adds anything. -/
structure Adds (id : Id) (desk next : SupportDesk) : Prop where
  clock : desk.clock ≤ next.clock
  grants : Continues desk.grants next.grants
  arrived : desk.arrived ≤ next.arrived
  events : desk.events ≤ next.events
  authenticated : ∃ added, next.authenticated = desk.authenticated ++ added ∧ ∀ one ∈ added, one.request = id
  audit : ∃ rows, next.audit = desk.audit ++ rows ∧ ∀ row ∈ rows, row.request = id ∧
    (row.event = desk.events ∨ ∃ request, (id, request) ∈ desk.requests ∧ request.stage.readRow = some row)

/-- The requests under way, what has been authenticated and what is logged. -/
structure RequestsKept (desk : SupportDesk) : Prop where
  sound : ∀ each ∈ desk.requests, Sound desk each.1 each.2
  apart : ∀ one ∈ desk.requests, ∀ two ∈ desk.requests, ∀ first second : ReadRow, one.2.stage.readRow = some first →
    two.2.stage.readRow = some second → first.event = second.event → one.1 = two.1
  drawn : ∀ row ∈ desk.audit, row.event < desk.events
  seen : ∀ one ∈ desk.authenticated, one.request < desk.arrived ∧ one.Open ∧ one.operation.Listed
  reached : ∀ one ∈ desk.reached, one.underSupport = true → one.operation.Listed
  single : (desk.authenticated.map (·.request)).Nodup
  logged : ∀ row ∈ desk.audit, ∃ one ∈ desk.authenticated, row.Of one
  leaves : ∀ one ∈ desk.authenticated,
    (∃ request, heldBy desk.requests one.request = some request ∧ request.stage.readRow ≠ none) ∨ (desk.readsOf one.request).length = 1
  atMost : ∀ request, (desk.readsOf request).length ≤ 1

theorem Adds.readsOf_other (adds : Adds id desk next) (apart : other ≠ id) : next.readsOf other = desk.readsOf other := by
  obtain ⟨rows, audit, mine⟩ := adds.audit
  have none : rows.filter (·.request == other) = [] := by
    rw [List.filter_eq_nil_iff]
    intro row there its
    exact apart ((beq_iff_eq.mp its).symm.trans (mine row there).1)
  rw [SupportDesk.readsOf, audit, List.filter_append, none, List.append_nil, SupportDesk.readsOf]

theorem Adds.still (clock : desk.clock ≤ next.clock) (grants : Continues desk.grants next.grants) (arrived : desk.arrived ≤ next.arrived)
    (events : desk.events ≤ next.events) (authenticated : next.authenticated = desk.authenticated) (audit : next.audit = desk.audit) :
    Adds id desk next where
  clock := clock
  grants := grants
  arrived := arrived
  events := events
  authenticated := ⟨[], by rw [authenticated, List.append_nil], fun _ there => absurd there List.not_mem_nil⟩
  audit := ⟨[], by rw [audit, List.append_nil], fun _ there => absurd there List.not_mem_nil⟩

theorem Adds.unseen (adds : Adds id desk next) (apart : other ≠ id) (unseen : Unseen desk other) : Unseen next other := by
  obtain ⟨added, authenticated, mine⟩ := adds.authenticated
  unfold Unseen
  rw [authenticated]
  refine List.forall_mem_append.mpr ⟨unseen, ?_⟩
  intro one there same
  exact apart (same.symm.trans (mine one there))

theorem supportTokenPresented_before {token : Option AccessClaims} {now later : Instant} (goes : now ≤ later)
    (presented : supportTokenPresented token later = true) : supportTokenPresented token now = true := by
  cases token with
  | none => exact presented
  | some claims =>
    have seconds := Nat.div_le_div_right (c := 1000000) goes
    unfold supportTokenPresented AccessClaims.parse at presented ⊢
    rw [Option.bind_some] at presented ⊢
    split at presented
    · cases presented
    · rw [if_neg (by omega)]
      exact presented

namespace RequestsKept

section
variable (kept : RequestsKept desk)
include kept

theorem event_lt {each : Id × SupportRequest} (there : each ∈ desk.requests)
    (stage : each.2.stage.readRow = some pending) : pending.event < desk.events := by
  have sound := kept.sound each there
  cases at_ : each.2.stage with
  | routed | loaded session => simp [at_, Stage.readRow] at stage
  | answering row =>
    simp only [at_, Stage.readRow, Option.some.injEq] at stage
    exact stage ▸ (sound.answering row at_).1.drawn
  | answered row =>
    simp only [at_, Stage.readRow, Option.some.injEq] at stage
    exact stage ▸ (sound.answered row at_).1.drawn

theorem logs (adds : Adds id desk next) (apart : other ≠ id) (there : (other, request) ∈ desk.requests)
    (stage : request.stage.readRow = some pending) (logs : Logs desk other pending) : Logs next other pending := by
  obtain ⟨added, authenticated, -⟩ := adds.authenticated
  obtain ⟨rows, audit, mine⟩ := adds.audit
  obtain ⟨one, seen, of⟩ := logs.of
  refine ⟨⟨one, ?_, of⟩, Nat.lt_of_lt_of_le logs.drawn adds.events, ?_⟩
  · rw [authenticated]
    exact List.mem_append_left added seen
  · rw [audit]
    refine List.forall_mem_append.mpr ⟨logs.own, ?_⟩
    intro row new same
    obtain ⟨-, drawn | ⟨before, was, its⟩⟩ := mine row new
    · have below := logs.drawn
      rw [← same, drawn] at below
      exact absurd below (lt_irrefl _)
    · exact absurd (kept.apart _ was _ there row pending its stage same).symm apart

theorem others (adds : Adds id desk next) (apart : other ≠ id) (there : (other, request) ∈ desk.requests) : Sound next other request := by
  have sound := kept.sound _ there
  constructor
  · exact Nat.lt_of_lt_of_le sound.drawn adds.arrived
  · exact sound.listed
  · intro stage
    obtain ⟨unseen, shown⟩ := sound.routed stage
    exact ⟨adds.unseen apart unseen, fun later => shown (supportTokenPresented_before adds.clock later)⟩
  · intro session stage
    obtain ⟨unseen, presented, support, stands⟩ := sound.loaded session stage
    exact ⟨adds.unseen apart unseen, presented, support, stands.onward adds.grants⟩
  · intro pending stage
    obtain ⟨logs, none⟩ := sound.answering pending stage
    refine ⟨kept.logs adds apart there ?_ logs, (adds.readsOf_other apart).trans none⟩
    simp only [stage, Stage.readRow]
  · intro pending stage
    obtain ⟨logs, left⟩ := sound.answered pending stage
    refine ⟨kept.logs adds apart there ?_ logs, ?_⟩
    · simp only [stage, Stage.readRow]
    · rw [adds.readsOf_other apart]
      exact left

theorem quiet (clock : desk.clock ≤ next.clock) (grants : Continues desk.grants next.grants)
    (same : next.requests = desk.requests ∧ next.arrived = desk.arrived ∧ next.audit = desk.audit ∧ next.events = desk.events ∧
      next.authenticated = desk.authenticated)
    (reached : ∀ one ∈ next.reached, one ∈ desk.reached ∨ (one.underSupport = true → one.operation.Listed)) : RequestsKept next := by
  obtain ⟨requests, arrived, audit, events, authenticated⟩ := same
  have adds : Adds desk.arrived desk next := .still clock grants arrived.ge events.ge authenticated audit
  have reads : ∀ request, next.readsOf request = desk.readsOf request := fun request => by rw [SupportDesk.readsOf, audit, SupportDesk.readsOf]
  constructor
  · rw [requests]
    intro each there
    exact kept.others adds (kept.sound each there).drawn.ne there
  · rw [requests]
    exact kept.apart
  · rw [audit, events]
    exact kept.drawn
  · rw [authenticated, arrived]
    exact kept.seen
  · intro one there
    exact (reached one there).elim (kept.reached one) id
  · rw [authenticated]
    exact kept.single
  · rw [audit, authenticated]
    exact kept.logged
  · rw [authenticated, requests]
    simp only [reads]
    exact kept.leaves
  · simp only [reads]
    exact kept.atMost

theorem moves (adds : Adds id desk next) (requests : ∀ each ∈ next.requests, each.1 ≠ id ∧ each ∈ desk.requests ∨ each.1 = id ∧ Sound next id each.2 ∧
      ∀ row, each.2.stage.readRow = some row → row.event = desk.events ∨ ∃ request, (id, request) ∈ desk.requests ∧ request.stage.readRow = some row)
    (held : ∀ other, other ≠ id → heldBy next.requests other = heldBy desk.requests other)
    (seen : ∀ one ∈ next.authenticated, one ∈ desk.authenticated ∨ one.request < next.arrived ∧ one.Open ∧ one.operation.Listed)
    (reached : ∀ one ∈ next.reached, one ∈ desk.reached ∨ (one.underSupport = true → one.operation.Listed))
    (single : (next.authenticated.map (·.request)).Nodup)
    (logged : ∀ row ∈ next.audit, row ∈ desk.audit ∨ row.event < next.events ∧ ∃ one ∈ next.authenticated, row.Of one)
    (mine : ∀ one ∈ next.authenticated, one.request = id →
      (∃ request, heldBy next.requests id = some request ∧ request.stage.readRow ≠ none) ∨ (next.readsOf id).length = 1)
    (atMost : (next.readsOf id).length ≤ 1) : RequestsKept next := by
  have clash : ∀ each ∈ desk.requests, ∀ old, each.2.stage.readRow = some old → ∀ new : ReadRow,
      (new.event = desk.events ∨ ∃ request, (id, request) ∈ desk.requests ∧ request.stage.readRow = some new) → old.event = new.event → each.1 = id := by
    rintro each there old its new (drawn | ⟨request, was, theirs⟩) same
    · exact absurd (kept.event_lt there its) (by rw [same, drawn]; exact lt_irrefl _)
    · exact kept.apart each there _ was old new its theirs same
  constructor
  · intro each there
    rcases requests each there with ⟨apart, was⟩ | ⟨rfl, sound, -⟩
    · exact kept.others adds apart was
    · exact sound
  · intro one first two second row others its theirs same
    rcases requests one first with ⟨apart, was⟩ | ⟨rfl, -, drew⟩ <;> rcases requests two second with ⟨apart_, were⟩ | ⟨mine_, -, drew_⟩
    · exact kept.apart one was two were row others its theirs same
    · exact (clash one was row its others (drew_ others theirs) same).trans mine_.symm
    · exact (clash two were others theirs row (drew row its) same.symm).symm
    · exact mine_.symm
  · intro row there
    rcases logged row there with old | ⟨drawn, -⟩
    · exact Nat.lt_of_lt_of_le (kept.drawn row old) adds.events
    · exact drawn
  · intro one there
    rcases seen one there with old | new
    · obtain ⟨drawn, rest⟩ := kept.seen one old
      exact ⟨Nat.lt_of_lt_of_le drawn adds.arrived, rest⟩
    · exact new
  · intro one there
    rcases reached one there with old | new
    · exact kept.reached one old
    · exact new
  · exact single
  · obtain ⟨added, authenticated, -⟩ := adds.authenticated
    intro row there
    rcases logged row there with old | ⟨-, new⟩
    · obtain ⟨one, was, of⟩ := kept.logged row old
      exact ⟨one, authenticated ▸ List.mem_append_left added was, of⟩
    · exact new
  · obtain ⟨added, authenticated, theirs⟩ := adds.authenticated
    intro one there
    by_cases its : one.request = id
    · rw [its]
      exact mine one there its
    · have was : one ∈ desk.authenticated := by
        rw [authenticated] at there
        exact (List.mem_append.mp there).resolve_right fun new => its (theirs one new)
      rw [held _ its, adds.readsOf_other its]
      exact kept.leaves one was
  · intro request
    by_cases its : request = id
    · rw [its]
      exact atMost
    · rw [adds.readsOf_other its]
      exact kept.atMost request

theorem unseen_new : Unseen desk desk.arrived := fun one there => (kept.seen one there).1.ne
theorem arrive (fresh : request.stage = .routed) (presented : request.presented = supportTokenPresented request.token desk.clock)
    (listed : request.presented = true → request.operation.Listed) :
    RequestsKept { desk with requests := desk.requests ++ [(desk.arrived, request)], arrived := desk.arrived + 1 } := by
  have adds : Adds desk.arrived desk { desk with requests := desk.requests ++ [(desk.arrived, request)], arrived := desk.arrived + 1 } :=
    .still le_rfl .refl (Nat.le_succ _) le_rfl rfl rfl
  refine kept.moves adds ?_ ?_ (fun one => .inl) (fun one => .inl) kept.single (fun row => .inl) ?_ (kept.atMost _)
  · intro each there
    rcases List.mem_append.mp there with old | new
    · exact .inl ⟨(kept.sound each old).drawn.ne, old⟩
    · cases List.mem_singleton.mp new
      refine .inr ⟨rfl, ⟨Nat.lt_succ_self _, listed, ?_, ?_, ?_, ?_⟩, ?_⟩
      · intro _
        exact ⟨kept.unseen_new, fun shown => presented.trans shown⟩
      all_goals simp [fresh, Stage.readRow]
  · exact fun other apart => heldBy_append_other apart
  · exact fun one there its => absurd its (kept.unseen_new one there)

theorem leave (unseen : Unseen desk id) : RequestsKept (desk.leaves id) := by
  have adds : Adds id desk (desk.leaves id) := .still le_rfl .refl le_rfl le_rfl rfl rfl
  refine kept.moves adds ?_ ?_ (fun one => .inl) (fun one => .inl) kept.single (fun row => .inl) ?_ (kept.atMost _)
  · intro each there
    exact .inl (mem_withoutBy.mp there).symm
  · exact fun other apart => heldBy_withoutBy_other apart
  · exact fun one there its => absurd its (unseen one there)

theorem load (held : heldBy desk.requests id = some request) (unseen : Unseen desk id)
    (presented : request.presented = true) (support : session.kind = .support) (stands : Stands desk.grants session) :
    RequestsKept (desk.put id { request with stage := .loaded session }) := by
  have adds : Adds id desk (desk.put id { request with stage := .loaded session }) := .still le_rfl .refl le_rfl le_rfl rfl rfl
  have sound := kept.sound _ (mem_of_heldBy held)
  refine kept.moves adds ?_ ?_ (fun one => .inl) (fun one => .inl) kept.single (fun row => .inl) ?_ (kept.atMost _)
  · intro each there
    rcases of_mem_putBy there with rfl | ⟨was, apart⟩
    · refine .inr ⟨rfl, ⟨sound.drawn, sound.listed, fun same => Stage.noConfusion same, ?_,
        fun _ same => Stage.noConfusion same, fun _ same => Stage.noConfusion same⟩, nofun⟩
      rintro read same
      cases same
      exact ⟨unseen, presented, support, stands⟩
    · exact .inl ⟨apart, was⟩
  · exact fun other apart => heldBy_putBy_other apart
  · exact fun one there its => absurd its (unseen one there)

end

variable {grant : SupportAccess}

theorem grantOfSession_eq_some (read : desk.grantOfSession session = some grant) :
    grant ∈ desk.grants.rows ∧ session.tenant = some grant.tenant ∧ session.supportAccess = some grant.id ∧ stateOf grant desk.clock = .active := by
  unfold SupportDesk.grantOfSession at read
  obtain ⟨tenant, bank, read⟩ := Option.bind_eq_some_iff.mp read
  obtain ⟨id, its, read⟩ := Option.bind_eq_some_iff.mp read
  obtain ⟨found, active⟩ := Option.filter_eq_some_iff.mp read
  have named := List.find?_some found
  rw [Bool.and_eq_true, beq_iff_eq, beq_iff_eq] at named
  obtain ⟨theirs, mine⟩ := named
  exact ⟨List.mem_of_find?_eq_some found, theirs ▸ bank, mine ▸ its, beq_iff_eq.mp active⟩

theorem readsOf_unseen (kept : RequestsKept desk) (unseen : Unseen desk id) : desk.readsOf id = [] := by
  refine List.filter_eq_nil_iff.mpr ?_
  intro row there its
  obtain ⟨one, seen, of⟩ := kept.logged row there
  exact unseen one seen (of.1.symm.trans (beq_iff_eq.mp its))

theorem opens {left : List (Id × Instant)} (grants : GrantsKept desk.clock desk.grants desk.deciding left)
    (stands : Stands desk.grants session) (support : session.kind = .support) (read : desk.grantOfSession session = some grant) :
    Authenticated.Open { request := id, session, grant, operation := request.operation, pathIds := request.pathIds, at_ := desk.clock } := by
  obtain ⟨there, bank, its, active⟩ := grantOfSession_eq_some read
  obtain ⟨level, standing, end_, window, before⟩ := stateOf_active.mp active
  obtain ⟨⟨approver, named, other⟩, start, began, after⟩ := grants.approved grant there standing
  obtain ⟨_, _, mine, -, row, here, same, -, person⟩ := stands support
  cases mine.symm.trans its
  cases desk.grants.eq_of_key here there same
  exact ⟨⟨bank, its⟩, person, ⟨approver, named, person ▸ other⟩, ⟨level, standing⟩, start, end_, began, window, after, before⟩

theorem authenticate {left : List (Id × Instant)} (kept : RequestsKept desk)
    (grants : GrantsKept desk.clock desk.grants desk.deciding left) (held : heldBy desk.requests id = some request)
    (stage : request.stage = .loaded session) (read : desk.grantOfSession session = some grant) :
    RequestsKept { desk.put id { request with stage := .answering (desk.readRow id request session grant.tenant grant.id) } with
      events := desk.events + 1
      authenticated := desk.authenticated ++ [{
        request := id, session, grant, operation := request.operation, pathIds := request.pathIds, at_ := desk.clock }]
      reached := desk.reached ++ [{ operation := request.operation, underSupport := true }] } := by
  have sound := kept.sound _ (mem_of_heldBy held)
  obtain ⟨unseen, presented, support, stands⟩ := sound.loaded session stage
  have none := kept.readsOf_unseen unseen
  have open_ : Authenticated.Open { request := id, session, grant, operation := request.operation, pathIds := request.pathIds, at_ := desk.clock } :=
    opens grants stands support read
  refine kept.moves (?_ : Adds id desk _) ?_ ?_ ?_ ?_ ?_ (fun row => .inl) ?_ (none ▸ Nat.zero_le 1)
  · refine ⟨le_rfl, .refl, le_rfl, Nat.le_succ _, ⟨_, rfl, ?_⟩, [], (List.append_nil _).symm, fun _ there => absurd there List.not_mem_nil⟩
    intro one there
    cases List.mem_singleton.mp there
    rfl
  · intro each there
    rcases of_mem_putBy there with rfl | ⟨was, apart⟩
    · refine .inr ⟨rfl, ⟨sound.drawn, sound.listed, fun same => Stage.noConfusion same, fun _ same => Stage.noConfusion same, ?_,
        fun _ same => Stage.noConfusion same⟩, ?_⟩
      · rintro pending same
        cases same
        refine ⟨⟨⟨_, List.mem_append_right _ (List.mem_singleton_self _), rfl, rfl, rfl, rfl, rfl, rfl, rfl, rfl⟩, Nat.lt_succ_self _, ?_⟩, none⟩
        intro row there same
        exact absurd (kept.drawn row there) (same ▸ lt_irrefl _)
      · rintro row same
        cases same
        exact .inl rfl
    · exact .inl ⟨apart, was⟩
  · exact fun other apart => heldBy_putBy_other apart
  · intro one there
    rcases List.mem_append.mp there with old | new
    · exact .inl old
    · cases List.mem_singleton.mp new
      exact .inr ⟨sound.drawn, open_, sound.listed presented⟩
  · intro one there
    rcases List.mem_append.mp there with old | new
    · exact .inl old
    · cases List.mem_singleton.mp new
      exact .inr fun _ => sound.listed presented
  · rw [List.map_append, List.map_singleton, List.nodup_append]
    refine ⟨kept.single, List.nodup_singleton _, ?_⟩
    intro seen there new mine same
    obtain ⟨one, old, rfl⟩ := List.mem_map.mp there
    exact unseen one old (same.trans (List.mem_singleton.mp mine))
  · intro one there its
    exact .inl ⟨_, heldBy_putBy held, nofun⟩

/-- The request's transaction ends: its read row is committed with it, or rolled back. -/
theorem end_ (kept : RequestsKept desk) (held : heldBy desk.requests id = some request) (stage : request.stage = .answering pending)
    {rows : List ReadRow} (left : rows = [pending] ∨ rows = []) :
    RequestsKept { desk.put id { request with stage := .answered pending } with audit := desk.audit ++ rows } := by
  have here := mem_of_heldBy held
  have sound : Sound desk id request := kept.sound _ here
  obtain ⟨logs, none⟩ := sound.answering pending stage
  obtain ⟨one, seen, its, of⟩ := logs.of
  have row : request.stage.readRow = some pending := by rw [stage, Stage.readRow]
  have only : ∀ row ∈ rows, row = pending := by
    rcases left with rfl | rfl
    · exact fun row there => List.mem_singleton.mp there
    · exact fun row there => absurd there List.not_mem_nil
  have mine : (desk.audit ++ rows).filter (·.request == id) = rows := by
    have before : desk.audit.filter (·.request == id) = [] := none
    rw [List.filter_append, before, List.nil_append, List.filter_eq_self]
    intro row there
    rw [only row there, beq_iff_eq]
    exact of.1.trans its
  refine kept.moves (?_ : Adds id desk _) ?_ ?_ (fun one => .inl) (fun one => .inl) kept.single ?_ ?_ ?_
  · refine ⟨le_rfl, .refl, le_rfl, le_rfl, ⟨[], (List.append_nil _).symm, fun _ there => absurd there List.not_mem_nil⟩, rows, rfl, ?_⟩
    intro new there
    rw [only new there]
    exact ⟨of.1.trans its, .inr ⟨request, here, row⟩⟩
  · intro each there
    rcases of_mem_putBy there with rfl | ⟨was, apart⟩
    · refine .inr ⟨rfl, ⟨sound.drawn, sound.listed, fun same => Stage.noConfusion same, fun _ same => Stage.noConfusion same,
        fun _ same => Stage.noConfusion same, ?_⟩, ?_⟩
      · rintro _ same
        cases same
        refine ⟨⟨logs.of, logs.drawn, List.forall_mem_append.mpr ⟨logs.own, ?_⟩⟩, ?_⟩
        · intro new there _
          rw [only new there]
          exact of.1.trans its
        · unfold SupportDesk.readsOf
          rw [mine]
          exact left
      · rintro _ same
        cases same
        exact .inr ⟨request, here, row⟩
    · exact .inl ⟨apart, was⟩
  · exact fun other apart => heldBy_putBy_other apart
  · intro new there
    rcases List.mem_append.mp there with old | added
    · exact .inl old
    · rw [only new added]
      exact .inr ⟨logs.drawn, one, seen, of⟩
  · intro one there its
    exact .inl ⟨_, heldBy_putBy held, nofun⟩
  · unfold SupportDesk.readsOf
    rw [mine]
    rcases left with rfl | rfl <;> simp

theorem keep (kept : RequestsKept desk) (held : heldBy desk.requests id = some request) (stage : request.stage = .answered pending) :
    RequestsKept ((desk.keepRead pending).leaves id) := by
  have here := mem_of_heldBy held
  have sound : Sound desk id request := kept.sound _ here
  obtain ⟨logs, left⟩ := sound.answered pending stage
  obtain ⟨one, seen, its, of⟩ := logs.of
  have others : ∀ each ∈ withoutBy desk.requests id, each.1 ≠ id ∧ each ∈ desk.requests := fun each there => (mem_withoutBy.mp there).symm
  unfold SupportDesk.keepRead
  split
  · rename_i found
    obtain ⟨row, there, same⟩ := found
    have one_ : desk.readsOf id = [pending] := by
      refine left.resolve_right fun none => ?_
      have mine := List.filter_eq_nil_iff.mp none row there
      exact mine (beq_iff_eq.mpr (logs.own row there same))
    have adds : Adds id desk (desk.leaves id) := .still le_rfl .refl le_rfl le_rfl rfl rfl
    have length : ((desk.leaves id).readsOf id).length = 1 := congrArg List.length one_
    refine kept.moves adds (fun each there => .inl (others each there)) ?_ (fun one => .inl) (fun one => .inl) kept.single (fun row => .inl) ?_ length.le
    · exact fun other apart => heldBy_withoutBy_other apart
    · exact fun _ _ _ => .inr length
  · rename_i missing
    have none : desk.readsOf id = [] := by
      refine left.resolve_left fun found => ?_
      have there : pending ∈ desk.readsOf id := found ▸ List.mem_singleton_self _
      exact missing ⟨pending, (List.mem_filter.mp there).1, rfl⟩
    have mine : (desk.audit ++ [{ pending with event := desk.events }]).filter (·.request == id) = [{ pending with event := desk.events }] := by
      have before : desk.audit.filter (·.request == id) = [] := none
      rw [List.filter_append, before, List.nil_append, List.filter_eq_self]
      intro row there
      rw [List.mem_singleton.mp there, beq_iff_eq]
      exact of.1.trans its
    refine kept.moves (?_ : Adds id desk _) (fun each there => .inl (others each there)) ?_ (fun one => .inl) (fun one => .inl) kept.single ?_ ?_ ?_
    · refine ⟨le_rfl, .refl, le_rfl, Nat.le_succ _, ⟨[], (List.append_nil _).symm, fun _ there => absurd there List.not_mem_nil⟩, _, rfl, ?_⟩
      intro new there
      rw [List.mem_singleton.mp there]
      exact ⟨of.1.trans its, .inl rfl⟩
    · exact fun other apart => heldBy_withoutBy_other apart
    · intro new there
      rcases List.mem_append.mp there with old | added
      · exact .inl old
      · rw [List.mem_singleton.mp added]
        exact .inr ⟨Nat.lt_succ_self _, one, seen, of⟩
    · exact fun _ _ _ => .inr (congrArg List.length mine)
    · exact (congrArg List.length mine).le

end RequestsKept
end Requests

structure Kept (desk : SupportDesk) : Prop where
  grants : GrantsKept desk.clock desk.grants desk.deciding desk.left
  sessions : SessionsKept desk.grants desk.sessions desk.entering
  requests : RequestsKept desk

section Steps
variable {settings : SupportSettings} {desk next : SupportDesk} {id : Id}

theorem start : Kept {} where
  grants := by
    constructor
    all_goals simp
  sessions := by
    constructor
    all_goals simp
  requests := by
    constructor
    all_goals simp [SupportDesk.readsOf]

theorem Kept.quiet (kept : Kept desk) (clock : desk.clock ≤ next.clock) (continues : Continues desk.grants next.grants)
    (grants : GrantsKept next.clock next.grants next.deciding next.left) (sessions : SessionsKept next.grants next.sessions next.entering)
    (same : next.requests = desk.requests ∧ next.arrived = desk.arrived ∧ next.audit = desk.audit ∧ next.events = desk.events ∧
      next.authenticated = desk.authenticated) (reached : next.reached = desk.reached) : Kept next where
  grants := grants
  sessions := sessions
  requests := kept.requests.quiet clock continues same fun _ there => .inl (reached ▸ there)

theorem Kept.creates (kept : Kept desk) {make : Id → SupportAccess} (named : ∀ id, (make id).id = id)
    (open_ : (make desk.grants.fresh).status ≠ .approved)
    (asked : (make desk.grants.fresh).accessLevel = .read → (make desk.grants.fresh).status = .requested) :
    Kept { desk with grants := desk.grants.create make named } :=
  kept.quiet le_rfl (.create named) (kept.grants.create named open_ asked) (kept.sessions.onward (.create named)) ⟨rfl, rfl, rfl, rfl, rfl⟩ rfl

theorem Kept.updates (kept : Kept desk) {picked : UserSession → Bool} {change : UserSession → UserSession} (named : ∀ row, (change row).id = row.id)
    (same : ∀ row, (change row).kind = row.kind ∧ (change row).supportAccess = row.supportAccess ∧ (change row).tenant = row.tenant ∧ (change row).user = row.user) :
    Kept { desk with sessions := desk.sessions.update picked change named } :=
  kept.quiet le_rfl .refl kept.grants (kept.sessions.update named same) ⟨rfl, rfl, rfl, rfl, rfl⟩ rfl

theorem Kept.revokeSession (kept : Kept desk) {session : Id} {reason : String} : Kept (desk.revokeSession session reason) := by
  unfold SupportDesk.revokeSession
  exact kept.updates _ fun _ => ⟨rfl, rfl, rfl, rfl⟩

theorem grantOf_eq_some {tenant : Id} {grant : SupportAccess} (found : desk.grantOf tenant id = some grant) : grant ∈ desk.grants.rows :=
  List.mem_of_find?_eq_some found

theorem ownGrant_eq_some {user : Id} {grant : SupportAccess} (found : desk.ownGrant user id = some grant) : grant ∈ desk.grants.rows :=
  List.mem_of_find?_eq_some (Option.filter_eq_some_iff.mp found).1

theorem Kept.createSupportSession (kept : Kept desk) {entering : Entering} {hash : String} {expiresAt : Instant}
    (held : heldBy desk.entering id = some entering) :
    Kept { desk.createSupportSession entering hash expiresAt with entering := withoutBy desk.entering id } := by
  have names := kept.sessions.names _ (mem_of_heldBy held)
  have revoked : SessionsKept desk.grants (desk.revokeSession entering.console "support_entered").sessions desk.entering := kept.revokeSession.sessions
  refine kept.quiet le_rfl .refl kept.grants ?_ ⟨rfl, rfl, rfl, rfl, rfl⟩ rfl
  unfold SupportDesk.createSupportSession
  dsimp only
  exact (revoked.create _ fun _ => ⟨_, _, rfl, rfl, names⟩).leave

theorem Kept.leave (kept : Kept desk) (unseen : Unseen desk id) : Kept (desk.leaves id) :=
  ⟨kept.grants, kept.sessions, kept.requests.leave unseen⟩

theorem Kept.arrives (kept : Kept desk) {token : Option AccessClaims} {operation : Option RegisteredOperation} {pathIds : List (String × String)}
    (done : desk.arrives token operation pathIds = .ok next) : Kept next := by
  unfold SupportDesk.arrives at done
  obtain ⟨_, guard, done⟩ := bind_ok.mp done
  have guard := require_ok.mp guard
  cases operation with
  | none =>
    cases done
    exact kept
  | some operation =>
    have listed : supportTokenPresented token desk.clock = true → operation.Listed := fun shown => by
      obtain ⟨resolved, its, listed⟩ := guard shown
      cases Option.mem_some_iff.mp its
      exact listed
    cases auth : operation.auth with
    | session =>
      simp only [auth] at done
      cases done
      exact ⟨kept.grants, kept.sessions, kept.requests.arrive rfl rfl listed⟩
    | open_ =>
      simp only [auth] at done
      cases done
      refine ⟨kept.grants, kept.sessions, kept.requests.quiet le_rfl .refl ⟨rfl, rfl, rfl, rfl, rfl⟩ ?_⟩
      intro one there
      rcases List.mem_append.mp there with old | new
      · exact .inl old
      · cases List.mem_singleton.mp new
        exact .inr listed
    | otherwise =>
      simp only [auth] at done
      cases done
      exact kept

variable {request : SupportRequest}

theorem Kept.resolves (kept : Kept desk) (held : heldBy desk.requests id = some request)
    (stage : request.stage = .routed) : Kept (desk.resolves id request) := by
  obtain ⟨unseen, shown⟩ := (kept.requests.sound _ (mem_of_heldBy held)).routed stage
  unfold SupportDesk.resolves
  cases token : request.token.bind (·.parse desk.clock) with
  | none => exact kept.leave unseen
  | some claims =>
    simp only
    cases found : desk.sessions.rows.find? (·.id == claims.session) with
    | none => exact kept.leave unseen
    | some session =>
      simp only
      split
      · exact kept.revokeSession.leave unseen
      · split
        · exact kept.leave unseen
        · rename_i usable
          rw [not_not] at usable
          split
          · exact kept.leave unseen
          · refine ⟨kept.grants, kept.sessions, (kept.requests.leave unseen).quiet le_rfl .refl ⟨rfl, rfl, rfl, rfl, rfl⟩ ?_⟩
            intro one there
            rcases List.mem_append.mp there with old | new
            · exact .inl old
            · cases List.mem_singleton.mp new
              exact .inr nofun
          · rename_i support
            split
            · exact kept.leave unseen
            · have presented : request.presented = true := shown (by simp [supportTokenPresented, token, support])
              have there := kept.sessions.stands session (List.mem_of_find?_eq_some found)
              exact ⟨kept.grants, kept.sessions, kept.requests.load held unseen presented (usable.1.trans support) there⟩

theorem step_kept (kept : Kept desk) {step : SupportStep} (done : desk.step settings step = .ok next) : Kept next := by
  cases step with
  | tick elapsed =>
    cases done
    exact kept.quiet (Nat.le_add_right _ _) .refl (kept.grants.tick (Nat.le_add_right _ _)) kept.sessions ⟨rfl, rfl, rfl, rfl, rfl⟩ rfl
  | createTenant tenant =>
    cases done
    exact kept.quiet le_rfl .refl kept.grants kept.sessions ⟨rfl, rfl, rfl, rfl, rfl⟩ rfl
  | requestAccess tenant requester body =>
    simp only [SupportDesk.step, SupportDesk.requestAccess, bind_ok] at done
    obtain ⟨-, -, -, -, -, -, done⟩ := done
    cases done
    exact kept.creates _ (by simp) (by simp)
  | recovers tenant platformUser reason ticketRef =>
    simp only [SupportDesk.step, SupportDesk.recovers, bind_ok] at done
    obtain ⟨-, -, done⟩ := done
    cases done
    exact kept.creates _ (by simp) (by simp)
  | decides id decision tenant grant actor =>
    simp only [SupportDesk.step, bind_ok, demand_ok, require_ok] at done
    obtain ⟨-, -, row, found, -, free, becomes, decided, done⟩ := done
    cases done
    exact kept.quiet le_rfl .refl (kept.grants.decide (grantOf_eq_some found) (decided_ok decided) free) kept.sessions ⟨rfl, rfl, rfl, rfl, rfl⟩ rfl
  | commits id =>
    simp only [SupportDesk.step, bind_ok, demand_ok] at done
    obtain ⟨decision, held, done⟩ := done
    cases done
    have continues := kept.grants.continues held
    exact kept.quiet le_rfl continues (kept.grants.commit held) (kept.sessions.onward continues) ⟨rfl, rfl, rfl, rfl, rfl⟩ rfl
  | abandons id =>
    cases done
    exact kept.quiet le_rfl .refl kept.grants.abandon kept.sessions ⟨rfl, rfl, rfl, rfl, rfl⟩ rfl
  | signsIn user tenant enrolment hash expiresAt =>
    cases done
    refine kept.quiet le_rfl .refl kept.grants ?_ ⟨rfl, rfl, rfl, rfl, rfl⟩ rfl
    dsimp only
    refine kept.sessions.create _ ?_
    intro support
    cases enrolment <;> cases support
  | enters id user console grant =>
    simp only [SupportDesk.step, bind_ok, demand_ok] at done
    obtain ⟨-, -, row, found, done⟩ := done
    cases done
    exact kept.quiet le_rfl .refl kept.grants (kept.sessions.enter (ownGrant_eq_some found)) ⟨rfl, rfl, rfl, rfl, rfl⟩ rfl
  | opens id hash =>
    simp only [SupportDesk.step, bind_ok, demand_ok] at done
    obtain ⟨entering, held, -, -, expiresAt, -, done⟩ := done
    cases done
    exact kept.createSupportSession held
  | turnsBack id =>
    cases done
    exact kept.quiet le_rfl .refl kept.grants kept.sessions.leave ⟨rfl, rfl, rfl, rfl, rfl⟩ rfl
  | rotates session loaded deadline hash =>
    cases done
    exact kept.updates _ fun _ => ⟨rfl, rfl, rfl, rfl⟩
  | revokesSession session reason =>
    cases done
    exact kept.revokeSession
  | elsewhere deactivated =>
    cases done
    exact kept.quiet le_rfl .refl kept.grants kept.sessions ⟨rfl, rfl, rfl, rfl, rfl⟩ rfl
  | arrives token operation pathIds => exact kept.arrives done
  | resolves id =>
    simp only [SupportDesk.step, bind_ok, demand_ok, require_ok] at done
    obtain ⟨request, held, -, stage, done⟩ := done
    cases done
    exact kept.resolves held stage
  | authenticates id =>
    obtain ⟨request, held, done⟩ := bind_ok.mp done
    have held := demand_ok.mp held
    cases stage : request.stage with
    | loaded session =>
      simp only [stage, Except.ok.injEq] at done
      subst done
      unfold SupportDesk.authenticates
      cases read : desk.grantOfSession session with
      | none => exact kept.leave ((kept.requests.sound _ (mem_of_heldBy held)).loaded session stage).1
      | some grant => exact ⟨kept.grants, kept.sessions, kept.requests.authenticate kept.grants held stage read⟩
    | routed | answering pending | answered pending => simp [stage] at done
  | ends id committed =>
    obtain ⟨request, held, done⟩ := bind_ok.mp done
    have held := demand_ok.mp held
    cases stage : request.stage with
    | answering pending =>
      simp only [stage, Except.ok.injEq] at done
      subst done
      refine ⟨kept.grants, kept.sessions, ?_⟩
      cases committed with
      | true => exact kept.requests.end_ held stage (.inl rfl)
      | false =>
        have rolledBack := kept.requests.end_ held stage (.inr rfl)
        rw [List.append_nil] at rolledBack
        exact rolledBack
    | routed | loaded session | answered pending => simp [stage] at done
  | keeps id =>
    obtain ⟨request, held, done⟩ := bind_ok.mp done
    have held := demand_ok.mp held
    cases stage : request.stage with
    | answered pending =>
      simp only [stage, Except.ok.injEq] at done
      subst done
      have requests := kept.requests.keep held stage
      unfold SupportDesk.keepRead at requests ⊢
      split at requests
      · rename_i found
        rw [if_pos found]
        exact ⟨kept.grants, kept.sessions, requests⟩
      · rename_i missing
        rw [if_neg missing]
        exact ⟨kept.grants, kept.sessions, requests⟩
    | routed | loaded session | answering pending => simp [stage] at done

theorem SupportDesk.Onward.refl : Onward desk desk := fun grant there => ⟨grant, there, rfl, fun closed => closed, fun settled => settled⟩

theorem SupportDesk.Onward.trans {last : SupportDesk} (first : Onward desk next) (second : Onward next last) : Onward desk last := by
  intro grant there
  obtain ⟨row, here, same, closes, settles⟩ := first grant there
  obtain ⟨final, found, its, closes_, settles_⟩ := second row here
  exact ⟨final, found, its.trans same, fun closed => closes_ (closes closed), fun settled => settles_ (settles settled)⟩

theorem onward_of_rows (clock : desk.clock ≤ next.clock) (rows : ∀ grant ∈ desk.grants.rows, grant ∈ next.grants.rows) : Onward desk next :=
  fun grant there => ⟨grant, rows grant there, rfl, fun closed => closed.lasts clock, fun settled pending => settled (pending_before clock pending)⟩

theorem Kept.commit_onward (kept : Kept desk) {decision : Deciding} (held : heldBy desk.deciding id = some decision) :
    Onward desk (desk.commit id decision) := by
  obtain ⟨was, done, -⟩ := kept.grants.held _ (mem_of_heldBy held)
  have named := done.same.1
  intro grant there
  by_cases same : grant.id = decision.was.id
  · cases desk.grants.eq_of_key there was same
    exact ⟨_, (mem_saved was named).mpr (.inl rfl), named, fun closed => done.closed closed, fun _ => done.not_pending⟩
  · exact ⟨grant, (mem_saved was named).mpr (.inr ⟨there, same⟩), rfl, fun closed => closed, fun settled => settled⟩

theorem keepRead_rows {pending : ReadRow} : (desk.keepRead pending).clock = desk.clock ∧ (desk.keepRead pending).grants = desk.grants := by
  unfold SupportDesk.keepRead
  split <;> exact ⟨rfl, rfl⟩

theorem authenticates_rows {session : UserSession} :
    (desk.authenticates id request session).clock = desk.clock ∧ (desk.authenticates id request session).grants = desk.grants := by
  unfold SupportDesk.authenticates
  split <;> exact ⟨rfl, rfl⟩

theorem resolves_rows :
    (desk.resolves id request).clock = desk.clock ∧ (desk.resolves id request).grants = desk.grants := by
  unfold SupportDesk.resolves
  repeat' split
  all_goals exact ⟨rfl, rfl⟩

theorem arrives_rows {token : Option AccessClaims} {operation : Option RegisteredOperation} {pathIds : List (String × String)}
    (done : desk.arrives token operation pathIds = .ok next) : next.clock = desk.clock ∧ next.grants = desk.grants := by
  unfold SupportDesk.arrives at done
  obtain ⟨_, -, done⟩ := bind_ok.mp done
  repeat' split at done
  all_goals
    cases done
    exact ⟨rfl, rfl⟩

/-- Whatever happens, the grants stay, but for new ones and the one a decision is committed on. -/
theorem step_onward (kept : Kept desk) {step : SupportStep} (done : desk.step settings step = .ok next) : Onward desk next := by
  have still : next.clock = desk.clock ∧ next.grants = desk.grants → Onward desk next := by
    rintro ⟨clock, grants⟩
    exact onward_of_rows clock.ge fun grant there => grants ▸ there
  cases step with
  | tick elapsed =>
    cases done
    exact onward_of_rows (Nat.le_add_right _ _) fun grant there => there
  | requestAccess tenant requester body =>
    simp only [SupportDesk.step, SupportDesk.requestAccess, bind_ok] at done
    obtain ⟨-, -, -, -, -, -, done⟩ := done
    cases done
    exact onward_of_rows le_rfl fun grant there => List.mem_append_left _ there
  | recovers tenant platformUser reason ticketRef =>
    simp only [SupportDesk.step, SupportDesk.recovers, bind_ok] at done
    obtain ⟨-, -, done⟩ := done
    cases done
    exact onward_of_rows le_rfl fun grant there => List.mem_append_left _ there
  | decides id decision tenant grant actor =>
    simp only [SupportDesk.step, bind_ok] at done
    obtain ⟨_, -, _, -, _, -, _, -, done⟩ := done
    cases done
    exact .refl
  | commits id =>
    simp only [SupportDesk.step, bind_ok, demand_ok] at done
    obtain ⟨decision, held, done⟩ := done
    cases done
    exact kept.commit_onward held
  | enters id user console grant =>
    simp only [SupportDesk.step, bind_ok] at done
    obtain ⟨_, -, _, -, done⟩ := done
    cases done
    exact still ⟨rfl, rfl⟩
  | opens id hash =>
    simp only [SupportDesk.step, bind_ok] at done
    obtain ⟨_, -, _, -, _, -, done⟩ := done
    cases done
    exact still ⟨rfl, rfl⟩
  | arrives token operation pathIds => exact still (arrives_rows done)
  | resolves id =>
    simp only [SupportDesk.step, bind_ok] at done
    obtain ⟨_, -, _, -, done⟩ := done
    cases done
    exact still resolves_rows
  | authenticates id =>
    obtain ⟨request, -, done⟩ := bind_ok.mp done
    split at done
    · cases done
      exact still authenticates_rows
    · cases done
  | ends id committed =>
    obtain ⟨request, -, done⟩ := bind_ok.mp done
    split at done
    · cases done
      exact still ⟨rfl, rfl⟩
    · cases done
  | keeps id =>
    obtain ⟨request, -, done⟩ := bind_ok.mp done
    split at done
    · cases done
      exact still keepRead_rows
    · cases done
  | createTenant | abandons | signsIn | turnsBack | rotates | revokesSession | elsewhere =>
    cases done
    exact still ⟨rfl, rfl⟩

theorem run_kept (kept : Kept desk) (steps : List SupportStep) : Kept (run (SupportDesk.step settings) desk steps) :=
  run_invariant kept (fun _ _ _ kept done => step_kept kept done) steps

theorem run_onward (kept : Kept desk) (steps : List SupportStep) : Onward desk (run (SupportDesk.step settings) desk steps) := by
  induction steps generalizing desk with
  | nil => exact .refl
  | cons step rest ih =>
    rw [run_cons]
    cases done : SupportDesk.step settings desk step with
    | error refusal =>
      rw [settle_error done]
      exact ih kept
    | ok next =>
      rw [settle_ok done]
      exact (step_onward kept done).trans (ih (step_kept kept done))

theorem Kept.opensOnly (kept : Kept desk) : desk.OpensOnly where
  granted := fun one there => (kept.requests.seen one there).2.1
  listed := kept.requests.reached
  viewed := fun one there => (kept.requests.seen one there).2.2
  stands := kept.grants.stands
  once := kept.grants.once
  timely := kept.grants.timely
  single := kept.requests.single
  logged := kept.requests.logged
  atMost := kept.requests.atMost
  exactly := by
    intro one there done
    rcases kept.requests.leaves one there with ⟨request, held, -⟩ | once
    · rw [done] at held
      cases held
    · exact once

/-- Support access opens only what the bank opened, whatever order requests, decisions, entries and reads come in, and no grant opens again. -/
theorem run_opensOnly (settings : SupportSettings) (steps more : List SupportStep) :
    let desk := run (SupportDesk.step settings) {} steps
    desk.OpensOnly ∧ Onward desk (run (SupportDesk.step settings) desk more) :=
  ⟨(run_kept start steps).opensOnly, run_onward (run_kept start steps) more⟩

end Steps
end Grc.Tenants.Support
