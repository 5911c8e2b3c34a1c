import Grc.Proposals.Merging
import Grc.Taxonomy.Repoint

/-! A bank's own lists, and the merge of one value of a list into another. -/
namespace Grc.Taxonomy

open Grc.Shared Grc.Lib
open Grc.Library (ListRow)
open Grc.Proposals (VocabularyMerged Moved countMoved movedValue)

/-- An entry of the registry, for a list of a bank. -/
structure TenantList where
  name : String
  kindName : String := ""
  kindRequired : Bool := false
  links : List TenantLink := []
  deriving DecidableEq

/-- `TEAM_LINKS`: every row a team is named on. -/
def teamLinks : List TenantLink :=
  [{ table := "tenant_obligation", field := "owner_team" }, { table := "tenant_obligation_scope", field := "owner_team" },
   { table := "gap", field := "owner_team" }, { table := "licence", field := "owner_team" },
   { table := "internal_item", field := "owner_team" }, { table := "team_member", field := "team", uniqueWith := ["user"] },
   { table := "participant", field := "team", uniqueWith := ["tenant_obligation", "case", "user"], removable := true }]

/-- `REGISTRY`, the lists of a bank. -/
def tenantRegistry : List TenantList :=
  [{ name := "tenant_tag"
     links := [{ table := "tagging", field := "tag", uniqueWith := ["subject_type", "subject_id"] }] },
   -- an item is never deleted, so a twin refuses the merge until a person renames one
   { name := "link_kind"
     links := [{ table := "internal_item", field := "kind", uniqueWith := ["name"], dropTwins := false }] },
   { name := "effort_size" },
   { name := "compliance_status", kindName := "compliance_category", kindRequired := true
     links := [{ table := "tenant_obligation", field := "compliance_status" },
       { table := "tenant_obligation_scope", field := "compliance_status" }] },
   { name := "risk_rating", kindName := "risk_level", kindRequired := true
     links := [{ table := "tenant_obligation", field := "risk_rating" },
       { table := "tenant_obligation_scope", field := "risk_rating" }, { table := "gap", field := "severity" }] },
   { name := "case_sub_status", kindName := "case_status", kindRequired := true },
   { name := "dismissal_reason" },
   { name := "close_reason", kindName := "close_reason", kindRequired := true },
   { name := "gap_status", kindName := "gap_category", kindRequired := true
     links := [{ table := "gap", field := "status" }] },
   { name := "gap_source", links := [{ table := "gap", field := "source" }] },
   { name := "risk_acceptance_reason", links := [{ table := "gap", field := "acceptance_reason" }] },
   { name := "team", links := teamLinks }]

theorem tenantRegistry_apart : ∀ entry ∈ tenantRegistry, (entry.links.map TenantLink.table).Nodup ∧
    ∀ link ∈ entry.links, link.field ∉ link.uniqueWith := by decide

/-- What a merge of a bank's list reads and writes. -/
structure TenantStore where
  rows : List ListRow
  tables : Tables
  audit : List AuditEvent

def entryFor (name : String) : Except Refusal TenantList :=
  demand (tenantRegistry.find? (·.name == name)) {
    code := "not_found"
    detail := quoted name ++ " is not a vocabulary list. Valid lists: " ++
      Lib.joined (sorted (Proposals.registry.map (·.name) ++ tenantRegistry.map (·.name))) ++ "." }

def rowByKey (store : TenantStore) (list key : String) : Except Refusal ListRow :=
  demand (store.rows.find? fun row => row.list == list && row.key == key) {
    code := "not_found"
    detail := quoted key ++ " is not a row of " ++ quoted list ++ "." }

/-- `usage_count`: the rows of every linked table that hold a value. -/
def usageCount (store : TenantStore) (entry : TenantList) (value : Id) : Nat :=
  (entry.links.map fun link => ((link.rows (store.tables link.table)).filter (link.holds value)).length).sum

def refuseSystemRow (row : ListRow) (verb : String) : Except Refusal Unit :=
  require (row.isSystem = false) {
    code := "system_row", detail := row.key ++ " is a system value: it can be relabelled but not " ++ verb ++ "." }

/-- The two rows a merge joins. -/
def mergedPair (store : TenantStore) (entry : TenantList) (key into : String) : Except Refusal (ListRow × ListRow) := do
  let source ← rowByKey store entry.name key
  let target ← rowByKey store entry.name into
  require (source.id ≠ target.id) (Library.validationError "Choose a different value to merge into.")
  refuseSystemRow source "merged away"
  -- a merge across categories would move a status without the step that moves one
  require (entry.kindRequired = true → source.kind = target.kind) (Library.validationError
    (key ++ " is under " ++ source.kind.getD "None" ++ " and " ++ into ++ " under " ++ target.kind.getD "None" ++
      ": merge only values of the same " ++ entry.kindName ++ "."))
  .ok (source, target)

/-- The audit row of a merge. -/
def mergedRow (list key into : String) (source : Id) (usage : Nat) (moves : List Moved) (actor : Actor) (tenant : Id) :
    AuditEvent where
  action := "vocabulary.merged"
  actor := actor
  subjectType := "vocabulary"
  subjectId := some source
  subjectTitle := list ++ ":" ++ key
  summary := "Merged " ++ key ++ " into " ++ into ++ " on " ++ list ++ "."
  tenantId := some tenant
  before := [("from", .text key), ("usageCount", .number usage), ("active", .flag true)]
  after := [("into", .text into), ("repointed", .number (countMoved moves)), ("rows", .records (moves.map movedValue)),
    ("active", .flag false)]

/-- Who merges, in which bank and when. -/
structure Merger where
  actor : Actor
  tenant : Id
  at_ : Instant

variable (guard : TenantLink → Table → Except Refusal Unit)

def merge (list key into : String) (by_ : Merger) (dryRun : Bool) : Tx TenantStore Refusal VocabularyMerged := do
  let entry ← Tx.check fun _ => entryFor list
  let (source, target) ← Tx.check fun store => mergedPair store entry key into
  let count ← Tx.check fun store => .ok (usageCount store entry source.id)
  let moves ← Tx.within TenantStore.tables (fun tables store => { store with tables })
    (tenantLinks guard source.id target.id by_.actor.id by_.at_ dryRun entry.links)
  if dryRun = false then
    Tx.write fun store => { store with
      rows := store.rows.map fun row =>
        if row.id = source.id then { row with active := false, version := row.version + 1 } else row
      audit := record store.audit (mergedRow list key into source.id count moves by_.actor by_.tenant) }
  pure { key, into, usageCount := count, repointed := countMoved moves, dryRun }

/-- `merge_vocabulary_row`, of a bank's own list: the request is one transaction. -/
def mergeVocabularyRow (list key into : String) (by_ : Merger) (dryRun : Bool) : Tx TenantStore Refusal VocabularyMerged :=
  Tx.atomic (merge guard list key into by_ dryRun)

variable {guard} {store after : TenantStore} {list key into : String} {by_ : Merger} {answer : VocabularyMerged}
  {entry : TenantList} {source target : ListRow}

/-- What a merge leaves of a bank's tables: those linked to the list, and every other. -/
structure TenantMerged (tables after : Tables) (entry : TenantList) (source target : Id) : Prop where
  linked : ∀ link ∈ entry.links, Replaced TableRow.id link.value link.owner (.ref source) (.ref target)
    (link.rows (tables link.table)) (link.rows (after link.table))
  others : ∀ name, name ∉ entry.links.map TenantLink.table → after name = tables name

theorem mergedPair_ok (paired : mergedPair store entry key into = .ok (source, target)) :
    rowByKey store entry.name key = .ok source ∧ rowByKey store entry.name into = .ok target ∧ source.id ≠ target.id := by
  obtain ⟨first, here, rest⟩ := bind_ok.mp paired
  obtain ⟨second, there, rest⟩ := bind_ok.mp rest
  obtain ⟨_, differ, rest⟩ := bind_ok.mp rest
  obtain ⟨-, -, rest⟩ := bind_ok.mp rest
  obtain ⟨-, -, rest⟩ := bind_ok.mp rest
  cases rest
  exact ⟨here, there, require_ok.mp differ⟩

theorem merge_ok (done : (merge guard list key into by_ false).execute store = (.ok answer, after)) :
    ∃ entry source target, entryFor list = .ok entry ∧ mergedPair store entry key into = .ok (source, target) ∧
      TenantMerged store.tables after.tables entry source.id target.id ∧
      answer.repointed = countMoved (movedTenants store.tables entry.links source.id target.id) ∧
      after.audit = store.audit ++ [mergedRow list key into source.id (usageCount store entry source.id)
        (movedTenants store.tables entry.links source.id target.id) by_.actor by_.tenant] ∧
      answer.usageCount = usageCount store entry source.id := by
  obtain ⟨entry, listed, rest⟩ := Tx.check_bind_ok.mp done
  obtain ⟨⟨source, target⟩, paired, rest⟩ := Tx.check_bind_ok.mp rest
  obtain ⟨count, counted, rest⟩ := Tx.check_bind_ok.mp rest
  obtain rfl := Except.ok.inj counted
  obtain ⟨moves, middle, moved, rest⟩ := Tx.bind_ok.mp rest
  obtain ⟨tables, written, rfl⟩ := Tx.within_ok.mp moved
  have rest := Tx.write_bind_ok.mp rest
  obtain ⟨rfl, rfl⟩ := Tx.pure_ok.mp rest
  obtain ⟨tablesApart, outside⟩ := tenantRegistry_apart entry (List.mem_of_find?_eq_some (demand_ok.mp listed))
  obtain ⟨-, -, differ⟩ := mergedPair_ok paired
  obtain ⟨rfl, linked, others⟩ := tenantLinks_ok tablesApart written
  refine ⟨entry, source, target, listed, paired, ⟨fun link member => ?_, others⟩, rfl, rfl, rfl⟩
  change Replaced _ _ _ _ _ _ (link.rows (tables link.table))
  rw [linked link member]
  exact mergedTable_replaced (outside link member) differ _ _ _

end Grc.Taxonomy

/-! What a merge leaves of the value merged away, in every column of a bank's current records that holds a value of its list. -/
namespace Grc.Taxonomy

open Grc.Shared Grc.Lib
open Grc.Library (ListRow)
open Grc.Proposals (VocabularyMerged)

/-- The columns of the models that hold a value of a bank's list and stand in no entry of the registry. A unit that was removed is no
current record. -/
def unlinkedColumns : List (String × TenantLink) :=
  [("effort_size", { table := "impact_assessment", field := "effort" }),
   ("compliance_status", { table := "soa_unit", field := "compliance_status", removable := true }),
   ("case_sub_status", { table := "change_case", field := "sub_status" }),
   ("dismissal_reason", { table := "change_case", field := "dismissed_reason" }),
   ("close_reason", { table := "change_case", field := "close_reason" }),
   ("team", { table := "duty_occurrence", field := "owner_team" }), ("team", { table := "change_case", field := "owner_team" })]

namespace TenantList

def unlinked (entry : TenantList) : List TenantLink := (unlinkedColumns.filter (·.1 == entry.name)).map (·.2)

def columns (entry : TenantList) : List TenantLink := entry.links ++ entry.unlinked

end TenantList

theorem unlinked_elsewhere : ∀ entry ∈ tenantRegistry, ∀ column ∈ entry.unlinked, column.table ∉ entry.links.map TenantLink.table := by
  decide

def holders (tables : Tables) (value : Id) (column : TenantLink) : List TableRow :=
  (column.rows (tables column.table)).filter (column.holds value)

/-- A merge leaves no trace: no current record holds the source, each that did holds the target or had a twin that did, and the count
answered is of the records that held it. -/
structure Untraced (tables after : Tables) (columns : List TenantLink) (source target : Id) (count : Nat) : Prop where
  gone : ∀ column ∈ columns, ∀ row ∈ column.rows (after column.table), column.value row ≠ .ref source
  moved : ∀ column ∈ columns, ∀ row ∈ column.rows (tables column.table), column.value row = .ref source →
    (∃ later ∈ column.rows (after column.table), later.id = row.id ∧ column.value later = .ref target) ∨
      ∃ twin ∈ column.rows (tables column.table), column.owner twin = column.owner row ∧ column.value twin = .ref target
  counted : count = (columns.map fun column => (holders tables source column).length).sum

def Unheld (tables : Tables) (entry : TenantList) (value : Id) : Prop :=
  ∀ column ∈ entry.unlinked, ∀ row ∈ column.rows (tables column.table), column.value row ≠ .ref value

variable {guard : TenantLink → Table → Except Refusal Unit} {store after : TenantStore} {list key into : String} {by_ : Merger}
  {answer : VocabularyMerged} {entry : TenantList} {tables moved : Tables} {source target : Id}

theorem Unheld.holders (unheld : Unheld tables entry source) : ∀ column ∈ entry.unlinked, holders tables source column = [] := by
  intro column left
  rw [Taxonomy.holders, List.filter_eq_nil_iff]
  intro row there
  rw [TenantLink.holds, decide_eq_true_iff]
  exact unheld column left row there

theorem TenantMerged.unlinked (merged : TenantMerged tables moved entry source target) (listed : entry ∈ tenantRegistry) :
    ∀ column ∈ entry.unlinked, moved column.table = tables column.table :=
  fun column left => merged.others column.table (unlinked_elsewhere entry listed column left)

theorem TenantMerged.untraced_iff (merged : TenantMerged tables moved entry source target) (listed : entry ∈ tenantRegistry) :
    Untraced tables moved entry.columns source target ((entry.links.map fun link => (holders tables source link).length).sum) ↔
      Unheld tables entry source := by
  constructor
  · intro untraced column left row there
    refine untraced.gone column (List.mem_append_right _ left) row ?_
    rwa [merged.unlinked listed column left]
  · intro unheld
    refine ⟨fun column member row there => ?_, fun column member row there holds => ?_, ?_⟩
    · rcases List.mem_append.mp member with linked | left
      · exact (merged.linked column linked).gone row there
      · rw [merged.unlinked listed column left] at there
        exact unheld column left row there
    · rcases List.mem_append.mp member with linked | left
      · rcases (merged.linked column linked).kept row there with ⟨later, here, same, -, value, -⟩ | ⟨-, twin, here, value, owner⟩
        · rw [replaced, if_pos holds] at value
          exact .inl ⟨later, here, same, value⟩
        · exact .inr ⟨twin, here, owner, value⟩
      · exact absurd holds (unheld column left row there)
    · have none_ : (entry.unlinked.map fun column => (holders tables source column).length).sum = 0 := by
        refine List.sum_eq_zero_iff_forall_eq_nat.mpr fun length member => ?_
        obtain ⟨column, left, rfl⟩ := List.mem_map.mp member
        rw [unheld.holders column left]
        rfl
      rw [TenantList.columns, List.map_append, List.sum_append, none_, Nat.add_zero]

/-- A merge leaves no trace on the bank's current records, and its usage count is of the records that held the value, exactly when no
record holds it in a column that the registry leaves out. -/
theorem merge_untraced_iff (guard : TenantLink → Table → Except Refusal Unit) (store after : TenantStore) (list key into : String)
    (by_ : Merger) (answer : VocabularyMerged)
    (done : (mergeVocabularyRow guard list key into by_ false).execute store = (.ok answer, after)) :
    ∃ entry source target, entryFor list = .ok entry ∧ mergedPair store entry key into = .ok (source, target) ∧
      (Untraced store.tables after.tables entry.columns source.id target.id answer.usageCount ↔ Unheld store.tables entry source.id) := by
  obtain ⟨entry, source, target, found, paired, merged, -, -, counted⟩ := merge_ok (Tx.atomic_ok.mp done)
  refine ⟨entry, source, target, found, paired, ?_⟩
  rw [counted]
  exact merged.untraced_iff (List.mem_of_find?_eq_some (demand_ok.mp found))

def twoValues (list : String) (kind : Option String) (table : String) (rows : Table) : TenantStore where
  rows := [{ id := 1, list, key := "a", kind }, { id := 2, list, key := "b", kind }]
  tables := Function.update (fun _ => {}) table rows
  audit := []

def merger : Merger := { actor := { kind := .user, id := some 7 }, tenant := 9, at_ := 100 }

def tagged : TenantStore := twoValues "tenant_tag" none "tagging" {
  rows := [{ id := 10, columns := [("tag", .ref 1), ("subject_type", .text "obligation"), ("subject_id", .ref 5)] }]
  keyed := by decide }

theorem tagged_untraced : ∃ entry source target, entryFor "tenant_tag" = .ok entry ∧
    mergedPair tagged entry "a" "b" = .ok (source, target) ∧
      (Untraced tagged.tables ((mergeVocabularyRow (fun _ _ => .ok ()) "tenant_tag" "a" "b" merger false).execute tagged).2.tables
        entry.columns source.id target.id 1 ↔ Unheld tagged.tables entry source.id) :=
  merge_untraced_iff (fun _ _ => .ok ()) tagged _ "tenant_tag" "a" "b" merger
    { key := "a", into := "b", usageCount := 1, repointed := 1, dryRun := false } (Prod.ext (by decide +kernel) rfl)

def placed : TenantStore := twoValues "case_sub_status" (some "assessing") "change_case" {
  rows := [{ id := 10, columns := [("status", .text "assessing"), ("sub_status", .ref 1)], version := some 1 }]
  keyed := by decide }

/-- The merge is accepted, counts no record, and leaves the case in the sub-status merged away. -/
theorem placed_traced : ∃ answer after entry,
    (mergeVocabularyRow (fun _ _ => .ok ()) "case_sub_status" "a" "b" merger false).execute placed = (.ok answer, after) ∧
      entryFor "case_sub_status" = .ok entry ∧ ¬Untraced placed.tables after.tables entry.columns 1 2 answer.usageCount := by
  refine ⟨{ key := "a", into := "b", usageCount := 0, repointed := 0, dryRun := false }, _, _, Prod.ext (by decide +kernel) rfl, rfl, ?_⟩
  intro untraced
  have counted := untraced.counted
  revert counted
  decide +kernel

end Grc.Taxonomy
