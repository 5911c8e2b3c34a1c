import Grc.Lib.Calendar
import Grc.Lib.Lists
import Grc.Lib.Ranked
import Grc.Shared.Audit
import Mathlib.Logic.Equiv.Basic

/-! The one writer of notices: who of the candidates is told about a record, and who is told in an absent person's place. -/
namespace Grc.Collab

open Grc.Shared Grc.Lib

inductive NotificationKind where
  | assigned
  | mention
  | signoffRequested
  | approvalRequested
  | dueSoon
  | overdue
  | escalation
  | proposalWaiting
  | savedSearchHit
  | participantAdded
  | involvedItemChanged
  | reviewDue
  deriving DecidableEq

/-- `MembershipNotificationPrefs`. -/
structure NotificationPrefs where
  weeklyDigest : Bool := true
  reminders : Bool := true
  mentions : Bool := true
  assignments : Bool := true
  weeklyBriefing : Bool := true
  deriving DecidableEq

/-- `MUTABLE_KINDS`: the switch of a kind a person may switch off. -/
def mutableKinds : NotificationKind → Option (NotificationPrefs → Bool)
  | .mention => some (·.mentions)
  | .dueSoon | .overdue | .reviewDue => some (·.reminders)
  | .assigned => some (·.assignments)
  | _ => none

/-- `DELEGATED_KINDS`: the kinds that follow an away person to their delegate. -/
def delegatedKinds : List NotificationKind := [.dueSoon, .overdue, .reviewDue, .escalation, .assigned, .signoffRequested]

/-- A person's membership of a bank, with what a notice reads of the person. -/
structure Membership where
  tenant : Id
  user : Id
  deactivated : Bool := false
  /-- The person's own status is active. -/
  active : Bool := true
  /-- The permissions of each role. -/
  roles : List (List String) := []
  notificationPrefs : NotificationPrefs := {}
  outOfOfficeUntil : Option Day := none
  delegate : Option Id := none
  locale : Option String := none
  deriving DecidableEq

/-- The memberships of every bank; a person has one of each. -/
structure Memberships where
  rows : List Membership := []
  unique : (rows.map fun row => (row.tenant, row.user)).Nodup := by exact List.nodup_nil

structure Tenant where
  id : Id
  defaultLanguage : Option String := none
  /-- `today_for`. -/
  today : Day

/-- An entry of the subject registry. -/
structure Subject (Row : Type) where
  readPermission : String
  lookup : Id → Option Row
  title : Row → List String → String

structure Notification where
  tenant : Id
  user : Id
  kind : NotificationKind
  subjectType : String
  subjectId : Id
  title : String
  onBehalfOf : Option Id

/-- An order of user ids. -/
structure IdOrder where
  place : Id → Nat
  apart : Function.Injective place

def languageOrder (person : Membership) (tenant : Tenant) : List String := person.locale.toList ++ tenant.defaultLanguage.toList ++ ["en"]

def isReader (tenant : Id) (readPermission : String) (person : Membership) : Bool :=
  person.tenant == tenant && !person.deactivated && person.active && person.roles.any (·.contains readPermission)

variable {Row : Type} (order : IdOrder) (members : Memberships)

/-- `_readers`, ordered by the user's id. -/
def readers (tenant : Id) (userIds : List Id) (readPermission : String) : List Membership :=
  inOrder (fun person => order.place person.user) (members.rows.filter fun person => userIds.contains person.user && isReader tenant readPermission person)

/-- `away[…]`: the delegate a person away through today is replaced by, unless it is themself or the actor. -/
def awayTo (today : Day) (actor : Option Id) (person : Membership) : Option Id :=
  person.delegate.filter fun delegate => delegate ≠ person.user ∧ some delegate ≠ actor ∧ ∃ until_ ∈ person.outOfOfficeUntil, today ≤ until_

/-- A recipient: the membership told, and the absent person it is told for. -/
abbrev Recipient := Membership × Option Id

def Recipient.user (recipient : Recipient) : Id := recipient.1.user

/-- `recipients.setdefault(…)`. -/
def setDefault (recipients : List Recipient) (recipient : Recipient) : List Recipient :=
  if recipient.user ∈ recipients.map Recipient.user then recipients else recipients ++ [recipient]

/-- `delegates.get(away[…])`: the delegate who takes a person's notice, if there is one. -/
def replacement (today : Day) (actor : Option Id) (delegates : List Membership) (person : Membership) : Option Membership :=
  (awayTo today actor person).bind fun delegate => delegates.find? (·.user == delegate)

def recipientOf (today : Day) (actor : Option Id) (delegates : List Membership) (person : Membership) : Recipient :=
  match replacement today actor delegates person with
  | none => (person, none)
  | some delegate => (delegate, some person.user)

def delegated (tenant : Tenant) (passing : List Membership) (readPermission : String) (actor : Option Id) : List Recipient :=
  let delegates := readers order members tenant.id (passing.filterMap (awayTo tenant.today actor)) readPermission
  let present := (passing.filter fun person => (awayTo tenant.today actor person).isNone).map fun person => (person, none)
  passing.foldl (fun recipients person => setDefault recipients (recipientOf tenant.today actor delegates person)) present

/-- `notify`, inside its caller's transaction: the rows it writes. -/
def notify (tenant : Tenant) (kind : NotificationKind) (subjectType : String) (subject : Subject Row) (subjectId : Id)
    (candidates : List (Id × String)) (actor : Option Id) : List Notification :=
  let wanted := candidates.map (·.1)
  match if wanted = [] then none else subject.lookup subjectId with
  | none => []
  | some row =>
    let passing := (readers order members tenant.id wanted subject.readPermission).filter fun person =>
      (mutableKinds kind).all fun switch => switch person.notificationPrefs
    let recipients := if kind ∈ delegatedKinds then delegated order members tenant passing subject.readPermission actor
      else passing.map fun person => (person, none)
    (inOrder (fun recipient => order.place recipient.user) recipients).map fun recipient => {
      tenant := tenant.id, user := recipient.user, kind, subjectType, subjectId
      title := subject.title row (languageOrder recipient.1 tenant), onBehalfOf := recipient.2 }

end Grc.Collab

/-! Who is told of work that follows an away person to their delegate, and when it does not depend on the order of the users' ids. -/
namespace Grc.Collab

open Grc.Shared Grc.Lib

variable {Row : Type} {order : IdOrder} {members : Memberships} {person other delegate : Membership} {tenant : Id} {ids : List Id}
  {readPermission : String}

/-- A notice of a kind that follows an away person. -/
structure DelegatedNotice (Row : Type) where
  members : Memberships
  tenant : Tenant
  kind : NotificationKind
  subjectType : String
  subject : Subject Row
  subjectId : Id
  candidates : List (Id × String)
  actor : Option Id
  follows : kind ∈ delegatedKinds

namespace DelegatedNotice

def rows (notice : DelegatedNotice Row) (order : IdOrder) : List Notification :=
  notify order notice.members notice.tenant notice.kind notice.subjectType notice.subject notice.subjectId notice.candidates notice.actor

def Reads (notice : DelegatedNotice Row) (person : Membership) : Prop :=
  person ∈ notice.members.rows ∧ isReader notice.tenant.id notice.subject.readPermission person = true

/-- A candidate who passes: they read the record, which is there, and have the kind switched on. -/
structure Passes (notice : DelegatedNotice Row) (person : Membership) : Prop where
  reads : notice.Reads person
  named : person.user ∈ notice.candidates.map (·.1)
  found : (notice.subject.lookup notice.subjectId).isSome = true
  switchedOn : ((mutableKinds notice.kind).all fun switch => switch person.notificationPrefs) = true

def away (notice : DelegatedNotice Row) (person : Membership) : Option Id := awayTo notice.tenant.today notice.actor person

def ReplacedBy (notice : DelegatedNotice Row) (person delegate : Membership) : Prop :=
  notice.away person = some delegate.user ∧ notice.Reads delegate

def Replaced (notice : DelegatedNotice Row) (person : Membership) : Prop := ∃ delegate, notice.ReplacedBy person delegate

/-- What is promised of the rows, in one order of the users' ids. -/
structure Told (notice : DelegatedNotice Row) (rows : List Notification) : Prop where
  once : (rows.map (·.user)).Nodup
  own : ∀ person, notice.Passes person → ¬notice.Replaced person → ∀ row ∈ rows, row.user = person.user → row.onBehalfOf = none
  stamped : ∀ row ∈ rows, (∃ person, notice.Passes person ∧ ¬notice.Replaced person ∧ person.user = row.user) ∨
    ∃ absent, notice.Passes absent ∧ notice.away absent = some row.user ∧ row.onBehalfOf = some absent.user
  reached : ∀ person, notice.Passes person → (∃ row ∈ rows, row.user = person.user) ∨
    ∃ delegate, notice.ReplacedBy person delegate ∧ ∃ row ∈ rows, row.user = delegate.user
  actor : ∀ row ∈ rows, row.onBehalfOf ≠ none → some row.user ≠ notice.actor

/-- What is promised of a delegated notice, whatever the order of the users' ids. -/
structure Kept (notice : DelegatedNotice Row) : Prop where
  told : ∀ order, notice.Told (notice.rows order)
  sameRows : ∀ order other, (notice.rows order).Perm (notice.rows other)

/-- A delegate who is not told on their own account as one who is here has one away person to be told for, and no notice of
their own left. -/
def Clear (notice : DelegatedNotice Row) : Prop := ∀ person delegate, notice.Passes person → notice.ReplacedBy person delegate →
  (notice.Passes delegate ∧ notice.away delegate = none) ∨
    ((notice.Passes delegate → notice.Replaced delegate) ∧ ∀ other, notice.Passes other → notice.ReplacedBy other delegate → other = person)

end DelegatedNotice

/-! ## The recipients -/

theorem mem_readers : person ∈ readers order members tenant ids readPermission ↔
    person ∈ members.rows ∧ person.user ∈ ids ∧ isReader tenant readPermission person = true := by
  rw [readers, mem_inOrder, List.mem_filter, Bool.and_eq_true, List.contains_iff_mem]

theorem isReader_tenant (reads : isReader tenant readPermission person = true) : person.tenant = tenant := by
  unfold isReader at reads
  simp only [Bool.and_eq_true, beq_iff_eq] at reads
  exact reads.1.1.1

theorem eq_of_user {first second : String} (here : person ∈ members.rows) (reads : isReader tenant first person = true)
    (there : other ∈ members.rows) (also : isReader tenant second other = true) (same : person.user = other.user) : person = other :=
  List.inj_on_of_nodup_map members.unique here there (Prod.ext ((isReader_tenant reads).trans (isReader_tenant also).symm) same)

namespace DelegatedNotice

variable {notice : DelegatedNotice Row}

theorem Reads.eq (reads : notice.Reads person) (also : notice.Reads other) (same : person.user = other.user) : person = other :=
  eq_of_user reads.1 reads.2 also.1 also.2 same

def passing (notice : DelegatedNotice Row) (order : IdOrder) : List Membership :=
  (readers order notice.members notice.tenant.id (notice.candidates.map (·.1)) notice.subject.readPermission).filter fun person =>
    (mutableKinds notice.kind).all fun switch => switch person.notificationPrefs

def recipients (notice : DelegatedNotice Row) (order : IdOrder) : List Recipient :=
  delegated order notice.members notice.tenant (notice.passing order) notice.subject.readPermission notice.actor

/-- The row of a recipient. -/
def rowOf (notice : DelegatedNotice Row) (record : Row) (recipient : Recipient) : Notification where
  tenant := notice.tenant.id
  user := recipient.user
  kind := notice.kind
  subjectType := notice.subjectType
  subjectId := notice.subjectId
  title := notice.subject.title record (languageOrder recipient.1 notice.tenant)
  onBehalfOf := recipient.2

theorem mem_passing (found : (notice.subject.lookup notice.subjectId).isSome = true) : person ∈ notice.passing order ↔ notice.Passes person := by
  rw [passing, List.mem_filter, mem_readers]
  constructor
  · rintro ⟨⟨here, named, reads⟩, switched⟩
    exact ⟨⟨here, reads⟩, named, found, switched⟩
  · intro passes
    exact ⟨⟨passes.reads.1, passes.named, passes.reads.2⟩, passes.switchedOn⟩

def goesTo (notice : DelegatedNotice Row) (order : IdOrder) (person : Membership) : Recipient :=
  recipientOf notice.tenant.today notice.actor
    (readers order notice.members notice.tenant.id ((notice.passing order).filterMap notice.away) notice.subject.readPermission) person

theorem goesTo_cases (found : (notice.subject.lookup notice.subjectId).isSome = true) (passes : notice.Passes person) :
    (¬notice.Replaced person ∧ notice.goesTo order person = (person, none)) ∨
      ∃ delegate, notice.ReplacedBy person delegate ∧ notice.goesTo order person = (delegate, some person.user) := by
  unfold goesTo recipientOf replacement
  cases away : notice.away person with
  | none =>
    refine .inl ⟨?_, ?_⟩
    · rintro ⟨_, its, -⟩
      rw [away] at its
      cases its
    · change awayTo _ _ _ = none at away
      rw [away]
      rfl
  | some named =>
    have wanted : named ∈ (notice.passing order).filterMap notice.away := List.mem_filterMap.mpr ⟨person, (mem_passing found).mpr passes, away⟩
    change awayTo _ _ _ = some named at away
    rw [away, Option.bind_some]
    cases reader : List.find? (·.user == named)
        (readers order notice.members notice.tenant.id ((notice.passing order).filterMap notice.away) notice.subject.readPermission) with
    | none =>
      refine .inl ⟨?_, rfl⟩
      rintro ⟨delegate, its, reads⟩
      obtain rfl := Option.some.inj (away.symm.trans its)
      exact List.find?_eq_none.mp reader delegate (mem_readers.mpr ⟨reads.1, wanted, reads.2⟩) (beq_self_eq_true _)
    | some delegate =>
      have its := List.find?_some reader
      obtain ⟨here, -, reads⟩ := mem_readers.mp (List.mem_of_find?_eq_some reader)
      exact .inr ⟨delegate, ⟨away.trans (congrArg some (beq_iff_eq.mp its).symm), here, reads⟩, rfl⟩

def present (notice : DelegatedNotice Row) (order : IdOrder) : List Recipient :=
  ((notice.passing order).filter fun person => (notice.away person).isNone).map fun person => (person, none)

theorem recipients_eq : notice.recipients order = notice.present order ++
    missing Recipient.user ((notice.present order).map Recipient.user) ((notice.passing order).map (notice.goesTo order)) := by
  rw [← foldl_setDefault, List.foldl_map]
  rfl

section
variable (found : (notice.subject.lookup notice.subjectId).isSome = true)
include found

theorem mem_present {recipient : Recipient} :
    recipient ∈ notice.present order ↔ ∃ person, notice.Passes person ∧ notice.away person = none ∧ recipient = (person, none) := by
  unfold present
  rw [List.mem_map]
  constructor
  · rintro ⟨person, listed, rfl⟩
    obtain ⟨passing, here⟩ := List.mem_filter.mp listed
    exact ⟨person, (mem_passing found).mp passing, Option.isNone_iff_eq_none.mp here, rfl⟩
  · rintro ⟨person, passes, here, rfl⟩
    exact ⟨person, List.mem_filter.mpr ⟨(mem_passing found).mpr passes, Option.isNone_iff_eq_none.mpr here⟩, rfl⟩

theorem recipient_cases {recipient : Recipient} (listed : recipient ∈ notice.recipients order) :
    (∃ person, notice.Passes person ∧ notice.away person = none ∧ recipient = (person, none)) ∨
      ∃ person, notice.Passes person ∧ recipient = notice.goesTo order person ∧
        ∀ here, notice.Passes here → notice.away here = none → here.user ≠ recipient.user := by
  rw [recipients_eq, List.mem_append] at listed
  rcases listed with present | later
  · exact .inl ((mem_present found).mp present)
  · obtain ⟨person, passing, rfl⟩ := List.mem_map.mp (mem_of_missing later)
    refine .inr ⟨person, (mem_passing found).mp passing, rfl, fun here passes stays same => ?_⟩
    exact key_of_missing later (List.mem_map.mpr ⟨_, (mem_present found).mpr ⟨here, passes, stays, rfl⟩, same⟩)

theorem goesTo_told (passes : notice.Passes person) : ∃ recipient ∈ notice.recipients order, recipient.user = (notice.goesTo order person).user := by
  have listed : notice.goesTo order person ∈ (notice.passing order).map (notice.goesTo order) :=
    List.mem_map_of_mem ((mem_passing found).mpr passes)
  have held := @held_or_missing _ _ _ Recipient.user ((notice.present order).map Recipient.user) _ _ listed
  rw [← List.map_append, ← recipients_eq] at held
  exact List.mem_map.mp held

end

theorem passing_nodup : ((notice.passing order).map (·.user)).Nodup := by
  have rows : notice.members.rows.Nodup := List.Nodup.of_map _ notice.members.unique
  have inOrder : (notice.passing order).Nodup := ((List.perm_insertionSort _ _).nodup_iff.mpr (rows.filter _)).filter _
  refine inOrder.map_on fun person listed other also same => ?_
  obtain ⟨here, -, reads⟩ := mem_readers.mp (List.mem_of_mem_filter listed)
  obtain ⟨there, -, alsoReads⟩ := mem_readers.mp (List.mem_of_mem_filter also)
  exact eq_of_user here reads there alsoReads same

theorem recipients_nodup : ((notice.recipients order).map Recipient.user).Nodup := by
  have present : ((notice.present order).map Recipient.user).Nodup := by
    unfold present
    rw [List.map_map]
    exact passing_nodup.sublist (List.filter_sublist.map _)
  rw [recipients_eq, List.map_append]
  refine List.nodup_append.mpr ⟨present, missing_nodup, fun user here other later same => ?_⟩
  obtain ⟨recipient, added, rfl⟩ := List.mem_map.mp later
  exact key_of_missing added (same ▸ here)

/-! ## The rows -/

def record (notice : DelegatedNotice Row) : Option Row :=
  if notice.candidates.map (·.1) = [] then none else notice.subject.lookup notice.subjectId

theorem rows_eq : notice.rows order = match notice.record with
    | none => []
    | some record => (inOrder (fun recipient => order.place recipient.user) (notice.recipients order)).map (notice.rowOf record) := by
  unfold rows notify
  simp only [if_pos notice.follows]
  rfl

theorem passes_record (passes : notice.Passes person) : ∃ row, notice.record = some row := by
  obtain ⟨row, found⟩ := Option.isSome_iff_exists.mp passes.found
  refine ⟨row, ?_⟩
  rw [record, if_neg (List.ne_nil_of_mem passes.named), found]

theorem found_of_record {row : Row} (there : notice.record = some row) : (notice.subject.lookup notice.subjectId).isSome = true := by
  unfold record at there
  split at there
  · cases there
  · rw [there]
    rfl

variable {row : Notification}

theorem mem_rows : row ∈ notice.rows order ↔
    ∃ held, notice.record = some held ∧ ∃ recipient ∈ notice.recipients order, row = notice.rowOf held recipient := by
  rw [rows_eq]
  cases record : notice.record with
  | none =>
    constructor
    · exact nofun
    · rintro ⟨_, same, -⟩
      cases same
  | some held =>
    rw [List.mem_map]
    constructor
    · rintro ⟨recipient, listed, rfl⟩
      exact ⟨held, rfl, recipient, mem_inOrder.mp listed, rfl⟩
    · rintro ⟨_, same, recipient, listed, rfl⟩
      obtain rfl := Option.some.inj same
      exact ⟨recipient, mem_inOrder.mpr listed, rfl⟩

theorem rows_nodup : ((notice.rows order).map (·.user)).Nodup := by
  rw [rows_eq]
  split
  · exact List.nodup_nil
  · rw [List.map_map]
    exact ((List.perm_insertionSort _ _).map Recipient.user).nodup_iff.mpr recipients_nodup

theorem row_goesTo (passes : notice.Passes person) : ∃ row ∈ notice.rows order, row.user = (notice.goesTo order person).user := by
  obtain ⟨held, found⟩ := passes_record passes
  obtain ⟨recipient, listed, same⟩ := @goesTo_told _ order _ _ passes.found passes
  exact ⟨notice.rowOf held recipient, mem_rows.mpr ⟨held, found, recipient, listed, rfl⟩, same⟩

/-! ## What holds in every order of the ids -/

theorem rows_stamped (listed : row ∈ notice.rows order) :
    (∃ person, notice.Passes person ∧ ¬notice.Replaced person ∧ person.user = row.user) ∨
      ∃ absent, notice.Passes absent ∧ notice.away absent = some row.user ∧ row.onBehalfOf = some absent.user := by
  obtain ⟨held, there, recipient, among, rfl⟩ := mem_rows.mp listed
  have found := found_of_record there
  rcases recipient_cases found among with ⟨person, passes, here, rfl⟩ | ⟨person, passes, rfl, -⟩
  · refine .inl ⟨person, passes, ?_, rfl⟩
    rintro ⟨_, away, -⟩
    rw [here] at away
    cases away
  · rcases @goesTo_cases _ order _ _ found passes with ⟨stays, its⟩ | ⟨delegate, replaced, its⟩
    · exact .inl ⟨person, passes, stays, by rw [its]; rfl⟩
    · exact .inr ⟨person, passes, by rw [its]; exact replaced.1, by rw [its]; rfl⟩

theorem rows_reached (passes : notice.Passes person) : (∃ row ∈ notice.rows order, row.user = person.user) ∨
    ∃ delegate, notice.ReplacedBy person delegate ∧ ∃ row ∈ notice.rows order, row.user = delegate.user := by
  obtain ⟨row, listed, same⟩ := @row_goesTo _ order _ _ passes
  rcases @goesTo_cases _ order _ _ passes.found passes with ⟨-, its⟩ | ⟨delegate, replaced, its⟩
  · exact .inl ⟨row, listed, by rw [same, its]; rfl⟩
  · exact .inr ⟨delegate, replaced, row, listed, by rw [same, its]; rfl⟩

theorem rows_actor (listed : row ∈ notice.rows order) (stamped : row.onBehalfOf ≠ none) : some row.user ≠ notice.actor := by
  obtain ⟨held, there, recipient, among, rfl⟩ := mem_rows.mp listed
  have found := found_of_record there
  rcases recipient_cases found among with ⟨person, passes, here, rfl⟩ | ⟨person, passes, rfl, -⟩
  · exact absurd rfl stamped
  · rcases @goesTo_cases _ order _ _ found passes with ⟨-, its⟩ | ⟨delegate, replaced, its⟩
    · rw [its] at stamped
      exact absurd rfl stamped
    · have allowed := (Option.filter_eq_some_iff.mp replaced.1).2
      have apart := (of_decide_eq_true allowed).2.1
      rw [its]
      exact apart

/-! ## What depends on the order -/

theorem goesTo_eq (found : (notice.subject.lookup notice.subjectId).isSome = true) (passes : notice.Passes person) (first second : IdOrder) :
    notice.goesTo first person = notice.goesTo second person := by
  rcases @goesTo_cases _ first _ _ found passes with ⟨stays, here⟩ | ⟨delegate, replaced, here⟩
  · rcases @goesTo_cases _ second _ _ found passes with ⟨-, there⟩ | ⟨other, replaced, -⟩
    · rw [here, there]
    · exact absurd ⟨other, replaced⟩ stays
  · rcases @goesTo_cases _ second _ _ found passes with ⟨stays, -⟩ | ⟨other, also, there⟩
    · exact absurd ⟨delegate, replaced⟩ stays
    · have same := Option.some.inj (replaced.1.symm.trans also.1)
      rw [here, there, replaced.2.eq also.2 same]

theorem recipient_unique (clear : notice.Clear) (found : (notice.subject.lookup notice.subjectId).isSome = true) {first second : IdOrder}
    {here there : Recipient} (listed : here ∈ notice.recipients first) (also : there ∈ notice.recipients second)
    (same : here.user = there.user) : here = there := by
  rcases recipient_cases found listed with ⟨person, passes, stays, rfl⟩ | ⟨person, passes, rfl, nobody⟩
  · rcases recipient_cases found also with ⟨other, others, -, rfl⟩ | ⟨other, others, rfl, nobody⟩
    · rw [passes.reads.eq others.reads same]
    · exact absurd same (nobody person passes stays)
  · rcases recipient_cases found also with ⟨other, others, stays, rfl⟩ | ⟨other, others, rfl, -⟩
    · exact absurd same.symm (nobody other others stays)
    · rcases @goesTo_cases _ first _ _ found passes with ⟨stays, its⟩ | ⟨delegate, replaced, its⟩
      · rcases @goesTo_cases _ second _ _ found others with ⟨-, theirs⟩ | ⟨delegate, replaced, theirs⟩
        · rw [its, theirs] at same ⊢
          rw [passes.reads.eq others.reads same]
        -- one who kept their notice while another's came to them
        · rw [its, theirs] at same
          obtain rfl := replaced.2.eq passes.reads same.symm
          rw [its] at nobody
          rcases clear other delegate others replaced with ⟨_, here⟩ | ⟨onward, -⟩
          · exact absurd rfl (nobody delegate passes here)
          · exact absurd (onward passes) stays
      · rcases @goesTo_cases _ second _ _ found others with ⟨stays, theirs⟩ | ⟨next, also, theirs⟩
        · rw [its, theirs] at same
          obtain rfl := replaced.2.eq others.reads same
          rw [its] at nobody
          rcases clear person delegate passes replaced with ⟨_, here⟩ | ⟨onward, -⟩
          · exact absurd rfl (nobody delegate others here)
          · exact absurd (onward others) stays
        · rw [its, theirs] at same
          obtain rfl := replaced.2.eq also.2 same
          rw [its] at nobody
          rcases clear person delegate passes replaced with ⟨own, here⟩ | ⟨-, only⟩
          · exact absurd rfl (nobody delegate own here)
          · rw [its, theirs, only other others also]

theorem rows_subset (clear : notice.Clear) {first second : IdOrder} (listed : row ∈ notice.rows first) :
    row ∈ notice.rows second := by
  obtain ⟨held, there, recipient, among, rfl⟩ := mem_rows.mp listed
  have found := found_of_record there
  have same : ∃ other ∈ notice.recipients second, other.user = recipient.user := by
    rcases recipient_cases found among with ⟨person, passes, here, rfl⟩ | ⟨person, passes, rfl, -⟩
    · exact ⟨_, by rw [recipients_eq]; exact List.mem_append_left _ ((mem_present found).mpr ⟨person, passes, here, rfl⟩), rfl⟩
    · rw [goesTo_eq found passes first second]
      exact goesTo_told found passes
  obtain ⟨other, also, user⟩ := same
  rw [recipient_unique clear found among also user.symm]
  exact mem_rows.mpr ⟨held, there, other, also, rfl⟩

theorem own_of_clear (clear : notice.Clear) (passes : notice.Passes person) (stays : ¬notice.Replaced person)
    (listed : row ∈ notice.rows order) (same : row.user = person.user) : row.onBehalfOf = none := by
  obtain ⟨held, there, recipient, among, rfl⟩ := mem_rows.mp listed
  have found := found_of_record there
  rcases recipient_cases found among with ⟨other, -, -, rfl⟩ | ⟨other, others, rfl, nobody⟩
  · rfl
  · rcases @goesTo_cases _ order _ _ found others with ⟨-, its⟩ | ⟨delegate, replaced, its⟩
    · rw [its]
      rfl
    · rw [its] at same nobody
      obtain rfl := replaced.2.eq passes.reads same
      rcases clear other delegate others replaced with ⟨_, here⟩ | ⟨onward, -⟩
      · exact absurd rfl (nobody delegate passes here)
      · exact absurd (onward passes) stays

theorem kept_of_clear (clear : notice.Clear) : notice.Kept where
  told := fun _ => {
    once := rows_nodup
    own := fun _ passes stays _ listed same => own_of_clear clear passes stays listed same
    stamped := fun _ listed => rows_stamped listed
    reached := fun _ passes => rows_reached passes
    actor := fun _ listed stamped => rows_actor listed stamped }
  sameRows := fun _ _ =>
    (List.perm_ext_iff_of_nodup (List.Nodup.of_map _ rows_nodup) (List.Nodup.of_map _ rows_nodup)).mpr
      fun _ => ⟨rows_subset clear, rows_subset clear⟩

def firstOf (user : Id) : IdOrder where
  place := Equiv.swap user 0
  apart := (Equiv.swap user 0).injective

theorem passing_first (passes : notice.Passes person) : ∃ rest, notice.passing (firstOf person.user) = person :: rest := by
  have listed : person ∈ notice.passing (firstOf person.user) := (mem_passing passes.found).mpr passes
  have sorted : (notice.passing (firstOf person.user)).Pairwise fun row other =>
      (firstOf person.user).place row.user ≤ (firstOf person.user).place other.user := (inOrder_sorted _ _).filter _
  cases all : notice.passing (firstOf person.user) with
  | nil =>
    rw [all] at listed
    cases listed
  | cons head rest =>
    rw [all] at listed sorted
    rcases List.mem_cons.mp listed with rfl | later
    · exact ⟨rest, rfl⟩
    -- nobody comes before the user who is first
    · have lowest : (firstOf person.user).place person.user = 0 := Equiv.swap_apply_left _ _
      have least := (List.pairwise_cons.mp sorted).1 person later
      rw [lowest, Nat.le_zero] at least
      have user := (firstOf person.user).apart (least.trans lowest.symm)
      have heads : notice.Passes head := (mem_passing passes.found).mp (all ▸ List.mem_cons_self)
      rw [heads.reads.eq passes.reads user]
      exact ⟨rest, rfl⟩

theorem goesTo_first (passes : notice.Passes person)
    (nobody : ∀ here, notice.Passes here → notice.away here = none → here.user ≠ (notice.goesTo (firstOf person.user) person).user) :
    notice.goesTo (firstOf person.user) person ∈ notice.recipients (firstOf person.user) := by
  obtain ⟨rest, passing⟩ := passing_first passes
  rw [recipients_eq, passing, List.map_cons, missing_cons_new]
  · exact List.mem_append_right _ List.mem_cons_self
  · intro held
    obtain ⟨recipient, there, same⟩ := List.mem_map.mp held
    obtain ⟨here, also, stays, rfl⟩ := (mem_present passes.found).mp there
    exact nobody here also stays same

theorem goesTo_same (kept : notice.Kept) (passes : notice.Passes person) (others : notice.Passes other)
    (nobody : ∀ here, notice.Passes here → notice.away here = none → here.user ≠ (notice.goesTo (firstOf person.user) person).user)
    (same : (notice.goesTo (firstOf other.user) other).user = (notice.goesTo (firstOf person.user) person).user) :
    (notice.goesTo (firstOf person.user) person).2 = (notice.goesTo (firstOf other.user) other).2 := by
  obtain ⟨held, there⟩ := passes_record passes
  have first : notice.rowOf held (notice.goesTo (firstOf person.user) person) ∈ notice.rows (firstOf person.user) :=
    mem_rows.mpr ⟨held, there, _, goesTo_first passes nobody, rfl⟩
  have second : notice.rowOf held (notice.goesTo (firstOf other.user) other) ∈ notice.rows (firstOf other.user) :=
    mem_rows.mpr ⟨held, there, _, goesTo_first others (same ▸ nobody), rfl⟩
  have moved := (kept.sameRows (firstOf person.user) (firstOf other.user)).mem_iff.mp first
  have one := List.inj_on_of_nodup_map rows_nodup moved second same.symm
  exact congrArg Notification.onBehalfOf one

theorem clear_of_kept (kept : notice.Kept) : notice.Clear := by
  intro person delegate passes replaced
  by_cases own : notice.Passes delegate ∧ notice.away delegate = none
  · exact .inl own
  have goes : notice.goesTo (firstOf person.user) person = (delegate, some person.user) := by
    rcases @goesTo_cases _ (firstOf person.user) _ _ passes.found passes with ⟨stays, -⟩ | ⟨other, also, its⟩
    · exact absurd ⟨delegate, replaced⟩ stays
    · rw [its, replaced.2.eq also.2 (Option.some.inj (replaced.1.symm.trans also.1))]
  have nobody : ∀ here, notice.Passes here → notice.away here = none → here.user ≠ (notice.goesTo (firstOf person.user) person).user := by
    intro here also stays same
    rw [goes] at same
    obtain rfl := also.reads.eq replaced.2 same
    exact own ⟨also, stays⟩
  refine .inr ⟨fun also => ?_, fun other others theirs => ?_⟩
  · rcases @goesTo_cases _ (firstOf delegate.user) _ _ also.found also with ⟨-, its⟩ | ⟨next, onward, -⟩
    · have one := goesTo_same kept passes also nobody (by rw [its, goes]; rfl)
      rw [goes, its] at one
      cases one
    · exact ⟨next, onward⟩
  · rcases @goesTo_cases _ (firstOf other.user) _ _ others.found others with ⟨stays, -⟩ | ⟨next, onward, its⟩
    · exact absurd ⟨delegate, theirs⟩ stays
    · obtain rfl := theirs.2.eq onward.2 (Option.some.inj (theirs.1.symm.trans onward.1))
      have one := goesTo_same kept passes others nobody (by rw [its, goes]; rfl)
      rw [goes, its] at one
      exact others.reads.eq passes.reads (Option.some.inj one).symm

/-- Delegation keeps its promise exactly where each delegate is clear. -/
theorem kept_iff (notice : DelegatedNotice Row) : notice.Kept ↔ notice.Clear := ⟨clear_of_kept, kept_of_clear⟩

/-- Two owners away, the first with the second as delegate, the second with one who may not read the case. -/
def chain : DelegatedNotice Unit where
  members := {
    rows := [
      { tenant := 1, user := 1, roles := [["cases.read"]], outOfOfficeUntil := some ⟨2026, 6, 30, Day.newYear2026.yearIn, by decide, by decide⟩, delegate := some 2 },
      { tenant := 1, user := 2, roles := [["cases.read"]], outOfOfficeUntil := some ⟨2026, 6, 30, Day.newYear2026.yearIn, by decide, by decide⟩, delegate := some 3 },
      { tenant := 1, user := 3, roles := [["roadmap.read"]] }]
    unique := by decide }
  tenant := { id := 1, today := ⟨2026, 6, 1, Day.newYear2026.yearIn, by decide, by decide⟩ }
  kind := .dueSoon
  subjectType := "change_case"
  subject := { readPermission := "cases.read", lookup := fun _ => some (), title := fun _ _ => "A reform" }
  subjectId := 9
  candidates := [(1, "owner"), (2, "owner")]
  actor := none
  follows := by decide

/-- The second owner keeps their notice, and it is stamped with the first. -/
theorem chain_stamped : ¬chain.Kept := by
  intro kept
  let second : Membership := {
    tenant := 1, user := 2, roles := [["cases.read"]], outOfOfficeUntil := some ⟨2026, 6, 30, Day.newYear2026.yearIn, by decide, by decide⟩, delegate := some 3 }
  have passes : chain.Passes second := ⟨⟨by decide, by decide⟩, by decide, by decide, by decide⟩
  have stays : ¬chain.Replaced second := by
    have none_ : ∀ delegate ∈ chain.members.rows, ¬(chain.away second = some delegate.user ∧
        isReader chain.tenant.id chain.subject.readPermission delegate = true) := by decide
    rintro ⟨delegate, away, here, reads⟩
    exact none_ delegate here ⟨away, reads⟩
  have rows : (chain.rows ⟨id, Function.injective_id⟩).map (fun row => (row.user, row.onBehalfOf)) = [(2, some 1)] := by decide
  have listed : (2, some 1) ∈ (chain.rows ⟨id, Function.injective_id⟩).map fun row => (row.user, row.onBehalfOf) := rows ▸ List.mem_cons_self
  obtain ⟨row, there, its⟩ := List.mem_map.mp listed
  have unstamped := (kept.told _).own second passes stays row there (congrArg Prod.fst its)
  have stamp : row.onBehalfOf = some 1 := congrArg Prod.snd its
  rw [unstamped] at stamp
  cases stamp

end DelegatedNotice
end Grc.Collab
