import Grc.Lib.Lists
import Grc.Tenants.Removals

/-! What a removal leaves: each row of open work the member held stands with the new owner named for its kind, in the places the member
held and no others, and a refused removal leaves everything as it was. -/
namespace Grc.Tenants.MemberRemoval

open Grc.Shared Grc.Lib

/-- Who stands where on a row: the person who owns it, its contact, and the team. -/
structure Places where
  person : Option Id
  contact : Option Id := none
  team : Option Id
  deriving DecidableEq

def TenantObligation.places (row : TenantObligation) : Places :=
  { person := row.firstLineOwner, contact := row.complianceContact, team := row.ownerTeam }

def OneOwner.places (row : OneOwner) : Places := { person := row.owner, team := row.ownerTeam }

def ChangeCase.places (row : ChangeCase) : Places := { person := row.owner, team := row.ownerTeam }

def Action.places (row : Action) : Places := { person := some row.owner, team := none }

/-- The new owner has the places a member held. A person takes each of them; for a team they are left empty, and it is the owning team.
Whoever else stood on the row stands there still. -/
structure Passed (user : Id) (next : Target) (before after : Places) : Prop where
  person : after.person = if before.person = some user then next.userId else before.person
  contact : after.contact = if before.contact = some user then next.userId else before.contact
  team : after.team = (next.team? <|> before.team)

def Places.OneKind (places : Places) : Prop := places.person.isSome ≠ places.team.isSome

def Places.HasPerson (places : Places) : Prop := places.person.isSome = true

/-- A new owner as named is the one found in the bank. -/
inductive Names (bank : Bank) : Successor String → Target → Prop
  | person (user : Id) : Names bank (.person user) (.person user)
  | team {team : Team} (there : team ∈ bank.teams.rows) (active : team.active = true) : Names bank (.team team.key) (.team team.id)

/-- What a removal makes of a row of one kind: with the one named for the kind where the member held it, and else as it was. -/
inductive HandedOver (removal : Removal) (bank : Bank) {Row Rest : Type} {key : Row → Nat} (table : WorkTable key) (places : Row → Places)
    (rest : Row → Rest) (ends : Places → Prop) (before after : Row) : Prop
  | passed {owner : RemovalOwner} {next : Target} (held : table.held removal.user before = true) (given : owner ∈ removal.owners)
      (its : owner.kind = table.kind) (names : Names bank owner.successor next)
      (passes : Passed removal.user next (places before) (places after)) (same : rest after = rest before) (stands : ends (places after))
  | kept (spared : table.held removal.user before = false) (same : after = before)

/-- What a removal makes of a bank's work. -/
structure Removed (removal : Removal) (bank after : Bank) : Prop where
  entries : List.Forall₂
    (HandedOver removal bank entryTable TenantObligation.places (fun row => (row.id, row.obligation)) fun _ => True)
    bank.entries.rows after.entries.rows
  scopes : List.Forall₂
    (HandedOver removal bank scopeTable (fun row => row.toOneOwner.places) (fun row => (row.id, row.obligation)) Places.OneKind)
    bank.scopes.rows after.scopes.rows
  gaps : List.Forall₂
    (HandedOver removal bank gapTable (fun row => row.toOneOwner.places) (fun row => (row.id, row.title, row.status)) Places.OneKind)
    bank.gaps.rows after.gaps.rows
  occurrences : List.Forall₂
    (HandedOver removal bank occurrenceTable (fun row => row.toOneOwner.places) (fun row => (row.id, row.title, row.status)) Places.OneKind)
    bank.occurrences.rows after.occurrences.rows
  items : List.Forall₂
    (HandedOver removal bank itemTable (fun row => row.toOneOwner.places) (fun row => (row.id, row.name, row.active)) Places.OneKind)
    bank.items.rows after.items.rows
  cases : List.Forall₂
    (HandedOver removal bank caseTable ChangeCase.places (fun row => (row.id, row.title, row.status)) Places.HasPerson)
    bank.cases.rows after.cases.rows
  actions : List.Forall₂
    (HandedOver removal bank actionTable Action.places (fun row => (row.id, row.title, row.doneAt, row.removedAt)) Places.HasPerson)
    bank.actions.rows after.actions.rows

variable {removal : Removal} {member : Membership} {bank middle after : Bank} {named : List (WorkKind × Target)} {answer : PUnit}
  {Row : Type} {key : Row → Nat} {table : WorkTable key}

/-- A table as the bank keeps it, the audit aside. -/
structure WorkTable.Stored (table : WorkTable key) : Prop where
  rows_put : ∀ rows bank, table.rows (table.put rows bank) = rows := by exact fun _ _ => rfl
  put_put : ∀ rows other bank, table.put rows (table.put other bank) = table.put rows bank := by exact fun _ _ _ => rfl
  put_rows : ∀ bank, table.put (table.rows bank) bank = bank := by exact fun _ => rfl
  rows_audit : ∀ bank audit, table.rows { bank with audit } = table.rows bank := by exact fun _ _ => rfl
  put_audit : ∀ rows bank audit, table.put rows { bank with audit } = { table.put rows bank with audit } := by exact fun _ _ _ => rfl

def WorkTable.handed (table : WorkTable key) (user : Id) (named : List (WorkKind × Target)) (rows : Keyed key) : Keyed key :=
  (named.lookup table.kind).elim rows fun target => rows.update (table.held user) (table.newOwner user target) (table.named user target)

theorem reassignRow_ok {target : Target} {row : Row}
    (done : (reassignRow removal member table target row).execute bank = (.ok answer, after)) :
    ∃ audit, after = { table.put ((table.rows bank).update (fun other => key other == key row) (table.newOwner removal.user target)
      (table.named removal.user target)) bank with audit } := by
  simp only [reassignRow, recorded, Tx.write_bind_ok, Tx.write_ok] at done
  exact ⟨_, done⟩

theorem reassignRows_ok (stored : table.Stored) {target : Target} {rows : List Row}
    (done : (Tx.each rows (reassignRow removal member table target)).execute bank = (.ok answer, after)) :
    ∃ audit, after = { table.put (rows.foldl (fun held row => held.update (fun other => key other == key row)
      (table.newOwner removal.user target) (table.named removal.user target)) (table.rows bank)) bank with audit } := by
  induction rows generalizing bank with
  | nil =>
    obtain ⟨-, rfl⟩ := Tx.pure_ok.mp done
    exact ⟨after.audit, by rw [List.foldl_nil, stored.put_rows]⟩
  | cons row rest ih =>
    obtain ⟨_, middle, first, later⟩ := Tx.bind_ok.mp done
    obtain ⟨audit, rfl⟩ := reassignRow_ok first
    obtain ⟨final, rfl⟩ := ih later
    refine ⟨final, ?_⟩
    rw [stored.rows_audit, stored.put_audit, stored.rows_put, stored.put_put, List.foldl_cons]

theorem reassign_ok (stored : table.Stored) (done : (reassign removal member table named).execute bank = (.ok answer, after)) :
    ∃ audit, after = { table.put (table.handed removal.user named (table.rows bank)) bank with audit } := by
  unfold reassign WorkTable.handed at *
  cases found : named.lookup table.kind with
  | none =>
    rw [found] at done
    obtain ⟨-, rfl⟩ := Tx.pure_ok.mp done
    exact ⟨after.audit, by rw [Option.elim_none, stored.put_rows]⟩
  | some target =>
    rw [found] at done
    obtain ⟨rows, read, each⟩ := Tx.check_bind_ok.mp done
    obtain rfl := Except.ok.inj read
    obtain ⟨audit, rfl⟩ := reassignRows_ok stored each
    refine ⟨audit, ?_⟩
    rw [Option.elim_some, Keyed.foldl_update_rows (table.named removal.user target) (List.mergeSort_perm _ _)]

theorem stored_entries : entryTable.Stored := ⟨fun _ _ => rfl, fun _ _ _ => rfl, fun _ => rfl, fun _ _ => rfl, fun _ _ _ => rfl⟩
theorem stored_scopes : scopeTable.Stored := ⟨fun _ _ => rfl, fun _ _ _ => rfl, fun _ => rfl, fun _ _ => rfl, fun _ _ _ => rfl⟩
theorem stored_gaps : gapTable.Stored := ⟨fun _ _ => rfl, fun _ _ _ => rfl, fun _ => rfl, fun _ _ => rfl, fun _ _ _ => rfl⟩
theorem stored_occurrences : occurrenceTable.Stored := ⟨fun _ _ => rfl, fun _ _ _ => rfl, fun _ => rfl, fun _ _ => rfl, fun _ _ _ => rfl⟩
theorem stored_items : itemTable.Stored := ⟨fun _ _ => rfl, fun _ _ _ => rfl, fun _ => rfl, fun _ _ => rfl, fun _ _ _ => rfl⟩
theorem stored_cases : caseTable.Stored := ⟨fun _ _ => rfl, fun _ _ _ => rfl, fun _ => rfl, fun _ _ => rfl, fun _ _ _ => rfl⟩
theorem stored_actions : actionTable.Stored := ⟨fun _ _ => rfl, fun _ _ _ => rfl, fun _ => rfl, fun _ _ => rfl, fun _ _ _ => rfl⟩

def work (bank : Bank) := (bank.entries, bank.scopes, bank.gaps, bank.occurrences, bank.items, bank.cases, bank.actions)

theorem endParticipations_keeps : (endParticipations removal member).Keeps (Tx.Same work) := by
  refine .bind (.check _) fun rows => ?_
  apply Tx.Keeps.each
  intro row
  exact .bind (.write fun _ => rfl) fun _ => .write fun _ => rfl

theorem endTeamMemberships_keeps : (endTeamMemberships removal member).Keeps (Tx.Same work) := by
  refine .bind (.check _) fun rows => ?_
  apply Tx.Keeps.each
  intro row
  exact .bind (.write fun _ => rfl) fun _ => .write fun _ => rfl

theorem deactivateMember_keeps : (deactivateMember removal).Keeps (Tx.Same work) := by
  refine .bind (.check _) fun member => .bind (.check _) fun _ => .bind (.check _) fun _ => .write fun _ => rfl

theorem writes_ok (done : (writes removal member named).execute bank = (.ok answer, after)) :
    work after = (entryTable.handed removal.user named bank.entries, scopeTable.handed removal.user named bank.scopes,
      gapTable.handed removal.user named bank.gaps, occurrenceTable.handed removal.user named bank.occurrences,
      itemTable.handed removal.user named bank.items, caseTable.handed removal.user named bank.cases,
      actionTable.handed removal.user named bank.actions) := by
  simp only [writes, Tx.bind_ok] at done
  obtain ⟨_, _, entries, _, _, scopes, _, _, gaps, _, _, occurrences, _, _, items, _, _, cases_, _, _, actions, _, _, participations,
    _, _, teams, ends⟩ := done
  obtain ⟨_, rfl⟩ := reassign_ok stored_entries entries
  obtain ⟨_, rfl⟩ := reassign_ok stored_scopes scopes
  obtain ⟨_, rfl⟩ := reassign_ok stored_gaps gaps
  obtain ⟨_, rfl⟩ := reassign_ok stored_occurrences occurrences
  obtain ⟨_, rfl⟩ := reassign_ok stored_items items
  obtain ⟨_, rfl⟩ := reassign_ok stored_cases cases_
  obtain ⟨_, rfl⟩ := reassign_ok stored_actions actions
  rw [Tx.Same.of_done deactivateMember_keeps ends, Tx.Same.of_done endTeamMemberships_keeps teams,
    Tx.Same.of_done endParticipations_keeps participations]
  rfl

/-- What the checks leave: each target of a kind is the one a named owner of that kind stands for. -/
theorem targets_ok {user : Id} {owners : List RemovalOwner} (checked : targets bank user owners = .ok named) {kind : WorkKind} {next : Target}
    (found : named.lookup kind = some next) :
    ∃ owner ∈ owners, owner.kind = kind ∧ Names bank owner.successor next ∧ (kind ∈ personOnly → next.team? = none) := by
  simp only [targets, bind_ok, require_ok] at checked
  obtain ⟨_, -, _, -, _, persons, _, -, each⟩ := checked
  obtain ⟨before, after, rfl, -⟩ := List.lookup_eq_some_iff.mp found
  obtain ⟨owner, there, its⟩ := source_of_forall₂ (mapM_ok_iff.mp each) (List.mem_append_right before List.mem_cons_self)
  obtain ⟨target, resolved, same⟩ := map_ok.mp its
  obtain ⟨rfl, rfl⟩ := Prod.mk.inj same
  refine ⟨owner, there, rfl, ?_, ?_⟩
  · cases named : owner.successor with
    | person user =>
      rw [named] at resolved
      obtain rfl := Except.ok.inj resolved
      exact .person user
    | team key =>
      rw [named] at resolved
      obtain ⟨id, looked, rfl⟩ := map_ok.mp resolved
      obtain ⟨team, listed, rfl⟩ := map_ok.mp looked
      rw [demand_ok] at listed
      have chosen := List.find?_some listed
      rw [Bool.and_eq_true, beq_iff_eq] at chosen
      exact chosen.1 ▸ .team (List.mem_of_find?_eq_some listed) chosen.2
  · intro only
    have unteamed := persons owner there only
    cases named : owner.successor with
    | person user =>
      rw [named] at resolved
      obtain rfl := Except.ok.inj resolved
      rfl
    | team key =>
      rw [named] at unteamed
      cases unteamed

theorem covered_of_counts (checked : ((ownedCounts bank removal.user).filter fun each => each.2 != 0 && (named.lookup each.1).isNone) = [])
    (counted : table.count bank removal.user ∈ ownedCounts bank removal.user) {row : Row} (there : row ∈ (table.rows bank).rows)
    (held : table.held removal.user row = true) : ∃ next, named.lookup table.kind = some next := by
  have spared := List.filter_eq_nil_iff.mp checked _ counted
  have some_ : (table.count bank removal.user).2 ≠ 0 := by
    have listed := List.mem_filter.mpr ⟨there, held⟩
    exact Nat.ne_of_gt (List.length_pos_of_mem listed)
  cases found : named.lookup table.kind with
  | some next => exact ⟨next, rfl⟩
  | none =>
    refine absurd ?_ spared
    rw [Bool.and_eq_true]
    exact ⟨bne_iff_ne.mpr some_, by rw [WorkTable.count, found]; rfl⟩

theorem handed_rows {Rest : Type} {places : Row → Places} {rest : Row → Rest} {ends : Places → Prop}
    (checked : targets bank removal.user removal.owners = .ok named)
    (counts : ((ownedCounts bank removal.user).filter fun each => each.2 != 0 && (named.lookup each.1).isNone) = [])
    (counted : table.count bank removal.user ∈ ownedCounts bank removal.user)
    (passes : ∀ next row, (table.kind ∈ personOnly → next.team? = none) → table.held removal.user row = true →
      Passed removal.user next (places row) (places (table.newOwner removal.user next row)) ∧
        rest (table.newOwner removal.user next row) = rest row ∧ ends (places (table.newOwner removal.user next row))) :
    List.Forall₂ (HandedOver removal bank table places rest ends) (table.rows bank).rows
      (table.handed removal.user named (table.rows bank)).rows := by
  unfold WorkTable.handed
  cases found : named.lookup table.kind with
  | none =>
    refine List.forall₂_same.mpr fun row there => .kept ?_ rfl
    rw [Bool.eq_false_iff]
    intro held
    obtain ⟨next, given⟩ := covered_of_counts counts counted there held
    cases found.symm.trans given
  | some next =>
    obtain ⟨owner, given, its, names, only⟩ := targets_ok checked found
    rw [Option.elim_some, Keyed.rows_update, List.forall₂_map_right_iff]
    refine List.forall₂_same.mpr fun row there => ?_
    by_cases held : table.held removal.user row = true
    · obtain ⟨passed, same, stands⟩ := passes next row only held
      rw [if_pos held]
      exact .passed held given its names passed same stands
    · rw [if_neg held]
      exact .kept (Bool.eq_false_iff.mpr held) rfl

theorem oneKind_of (next : Target) : (OneOwner.of next).places.OneKind := by
  cases next <;> exact nofun

theorem oneOwner_passed {user : Id} {row : OneOwner} (held : row.owner = some user) (next : Target) :
    Passed user next row.places (OneOwner.of next).places := by
  have alone : row.ownerTeam = none := by
    rcases row.oneOwnerKind with none_ | none_
    · cases held.symm.trans none_
    · exact none_
  constructor
  · exact (if_pos held).symm
  · rfl
  · change next.team? = (next.team? <|> row.ownerTeam)
    rw [alone]
    cases next <;> rfl

theorem userId_of_unteamed {next : Target} (unteamed : next.team? = none) : next.userId.isSome = true := by
  cases next with
  | person user => rfl
  | team team => cases unteamed

theorem removeMember_ok (done : (removeMember removal).execute bank = (.ok answer, after)) : Removed removal bank after := by
  obtain ⟨member, -, rest⟩ := Tx.check_bind_ok.mp done
  obtain ⟨named, checked, rest⟩ := Tx.check_bind_ok.mp rest
  obtain ⟨_, missing, rest⟩ := Tx.check_bind_ok.mp rest
  have counts := require_ok.mp missing
  have written := writes_ok (Tx.atomic_ok.mp rest)
  simp only [work, Prod.mk.injEq] at written
  obtain ⟨entries, scopes, gaps, occurrences, items, cases_, actions⟩ := written
  constructor
  · rw [entries]
    exact handed_rows checked counts (by simp [ownedCounts]) fun next row _ _ => ⟨⟨rfl, rfl, rfl⟩, rfl, trivial⟩
  · rw [scopes]
    exact handed_rows checked counts (by simp [ownedCounts]) fun next row _ held =>
      ⟨oneOwner_passed (beq_iff_eq.mp held) next, rfl, oneKind_of next⟩
  · rw [gaps]
    exact handed_rows checked counts (by simp [ownedCounts]) fun next row _ held =>
      ⟨oneOwner_passed (beq_iff_eq.mp (Bool.and_eq_true_iff.mp held).1) next, rfl, oneKind_of next⟩
  · rw [occurrences]
    exact handed_rows checked counts (by simp [ownedCounts]) fun next row _ held =>
      ⟨oneOwner_passed (beq_iff_eq.mp (Bool.and_eq_true_iff.mp held).1) next, rfl, oneKind_of next⟩
  · rw [items]
    exact handed_rows checked counts (by simp [ownedCounts]) fun next row _ held =>
      ⟨oneOwner_passed (beq_iff_eq.mp (Bool.and_eq_true_iff.mp held).1) next, rfl, oneKind_of next⟩
  · rw [cases_]
    refine handed_rows checked counts (by simp [ownedCounts]) fun next row only held => ?_
    have unteamed := only (by decide)
    have owned : row.owner = some removal.user := beq_iff_eq.mp (Bool.and_eq_true_iff.mp held).1
    refine ⟨⟨(if_pos owned).symm, rfl, ?_⟩, rfl, userId_of_unteamed unteamed⟩
    rw [unteamed]
    rfl
  · rw [actions]
    refine handed_rows checked counts (by simp [ownedCounts]) fun next row only held => ?_
    have unteamed := only (by decide)
    have owned : row.owner = removal.user := by
      simp only [actionTable, Bool.and_eq_true, beq_iff_eq] at held
      exact held.1.1
    refine ⟨⟨?_, rfl, ?_⟩, rfl, rfl⟩
    · cases next with
      | person user => exact (if_pos (congrArg some owned)).symm
      | team team => cases unteamed
    · rw [unteamed]
      rfl

theorem removeMember_clean : (removeMember removal).Clean :=
  .check_bind fun _ => .check_bind fun _ => .check_bind fun _ => .atomic _

/-- An accepted removal hands each row of open work the member held to the one named for its kind, in the places the member held, and
leaves every other place and row as it was; a refused one changes nothing. -/
theorem removal_hands_over (removal : Removal) (bank : Bank) :
    match (removeMember removal).execute bank with
    | (.ok _, after) => Removed removal bank after
    | (.error _, after) => after = bank := by
  cases found : (removeMember removal).execute bank with
  | mk outcome after =>
    cases outcome with
    | ok answer => exact removeMember_ok found
    | error refused => exact removeMember_clean bank refused after found

/-- A bank where the member works a case beside a team, and is the contact of an entry somebody else owns with another team. -/
def teamsBeside : Bank where
  memberships := { rows := [{ id := 1, user := 10 }, { id := 2, user := 20, roles := [["cases.work", "members.manage"]] }], keyed := by decide }
  teams := { rows := [{ id := 100, key := "legal" }, { id := 200, key := "cards" }], keyed := by decide }
  entries := {
    rows := [{ id := 1, obligation := 5, firstLineOwner := some 20, complianceContact := some 10, ownerTeam := some 200 }]
    keyed := by decide }
  cases := { rows := [{ id := 1, status := .assigned, owner := some 10, ownerTeam := some 200 }], keyed := by decide }

/-- The entries go to a team, the cases to a person. -/
def handsToLegal : Removal where
  user := 10
  owners := [{ kind := .registerEntry, successor := .team "legal" }, { kind := .case_, successor := .person 20 }]
  actor := { kind := .user, id := some 20 }
  stepUpAssertionId := 1
  now := 0

/-- The case ends with both a person and a team; the entry's owning team, another one, is replaced, and the member's place on it is empty. -/
theorem teamsBeside_removed :
    ((removeMember handsToLegal).execute teamsBeside).1.isOk = true ∧
      ((removeMember handsToLegal).execute teamsBeside).2.cases.rows.map ChangeCase.places = [{ person := some 20, team := some 200 }] ∧
      ((removeMember handsToLegal).execute teamsBeside).2.entries.rows.map TenantObligation.places =
        [{ person := some 20, contact := none, team := some 100 }] := by
  refine ⟨?_, ?_, ?_⟩ <;> decide +kernel

end Grc.Tenants.MemberRemoval
