import Grc.Lib.Keyed
import Grc.Lib.Repoint
import Grc.Proposals.ApplyLists

/-! The tables of a bank that hold a value of one of its lists, and moving what holds one value to another. -/
namespace Grc.Taxonomy

open Grc.Shared Grc.Lib
open Grc.Proposals (Moved countMoved movedValue)

/-- What a column holds. -/
inductive Cell where
  | null
  | ref (id : Id)
  | text (value : String)
  deriving DecidableEq

/-- A row of a bank's table. -/
structure TableRow where
  id : Id
  columns : Dict Cell := []
  removedAt : Option Instant := none
  removedBy : Option Id := none
  /-- None where the table has no version column. -/
  version : Option Nat := none
  deriving DecidableEq

namespace TableRow

def cell (row : TableRow) (column : String) : Cell := (row.columns.get column).getD .null

def put (row : TableRow) (column : String) (value : Cell) : TableRow :=
  { row with columns := row.columns.set column value }

@[simp] theorem put_cell (row : TableRow) (column : String) (value : Cell) : (row.put column value).cell column = value := by
  rw [put, cell, Dict.get_set_self]
  rfl

theorem put_other (row : TableRow) {column other : String} (value : Cell) (apart : other ≠ column) :
    (row.put column value).cell other = row.cell other := by
  rw [put, cell, cell, Dict.get_set_other apart]

end TableRow

/-- A table of a bank. -/
abbrev Table := Keyed TableRow.id

/-- `Link`, of a tenant table: the column that holds the value, and the unique constraint it sits in. -/
structure TenantLink where
  table : String
  field : String
  uniqueWith : List String := []
  removable : Bool := false
  dropTwins : Bool := true
  deriving DecidableEq

namespace TenantLink

def live (link : TenantLink) (row : TableRow) : Bool := !link.removable || row.removedAt.isNone

def rows (link : TenantLink) (table : Table) : List TableRow := table.rows.filter link.live

def value (link : TenantLink) (row : TableRow) : Cell := row.cell link.field

def holds (link : TenantLink) (value : Id) (row : TableRow) : Bool := link.value row = .ref value

def key (link : TenantLink) (row : TableRow) : List Cell := link.uniqueWith.map row.cell

def owner (link : TenantLink) (row : TableRow) : Id ⊕ List Cell :=
  if link.uniqueWith = [] then .inl row.id else .inr (link.key row)

def taken (link : TenantLink) (table : Table) (target : Id) : List (List Cell) :=
  if link.uniqueWith = [] then [] else ((link.rows table).filter (link.holds target)).map link.key

def twin (link : TenantLink) (table : Table) (target : Id) (row : TableRow) : Bool :=
  decide (link.uniqueWith ≠ [] ∧ link.key row ∈ link.taken table target)

end TenantLink

def sortedIds (rows : List TableRow) : List Id := (rows.map (·.id)).insertionSort (· ≤ ·)

/-- `_split_tenant`: the ids of the rows that move, and of the twins that do not. -/
def splitTenant (link : TenantLink) (table : Table) (source target : Id) : List Id × List Id :=
  let rows := (link.rows table).filter (link.holds source)
  (sortedIds (rows.filter fun row => !link.twin table target row), sortedIds (rows.filter (link.twin table target)))

/-- A bank's tables by their names. -/
abbrev Tables := String → Table

/-- What a request writes on the bank's tables. -/
abbrev Moving := Tx Tables Refusal

def writeTable (name : String) (change : Table → Table) : Moving PUnit :=
  Tx.write fun tables => Function.update tables name (change (tables name))

def pointRow (link : TenantLink) (target : Id) (row : TableRow) : TableRow :=
  { row.put link.field (.ref target) with version := row.version.map (· + 1) }

def stampRemoved (at_ : Instant) (by_ : Option Id) (row : TableRow) : TableRow :=
  { row with removedAt := some at_, removedBy := by_ }

def dropTwins (link : TenantLink) (twins : List Id) (by_ : Option Id) (at_ : Instant) (table : Table) : Table :=
  if twins = [] then table
  else if link.removable then table.update (fun row => decide (row.id ∈ twins)) (stampRemoved at_ by_) fun _ => rfl
  else table.delete fun row => decide (row.id ∈ twins)

def pointRows (link : TenantLink) (moving : List Id) (target : Id) (table : Table) : Table :=
  table.update (fun row => decide (row.id ∈ moving)) (pointRow link target) fun _ => rfl

/-- `_move_tenant`. The table's own constraints and triggers may refuse what is written. -/
def moveTenant (guard : TenantLink → Table → Except Refusal Unit) (link : TenantLink) (moving twins : List Id)
    (target : Id) (by_ : Option Id) (at_ : Instant) : Moving Unit := do
  writeTable link.table (dropTwins link twins by_ at_)
  Tx.check fun tables => guard link (tables link.table)
  writeTable link.table (pointRows link moving target)

/-- One link of `tenant_links`. -/
def mergeLink (guard : TenantLink → Table → Except Refusal Unit) (source target : Id) (by_ : Option Id) (at_ : Instant) (dryRun : Bool)
    (link : TenantLink) : Moving Moved := do
  let (moving, twins) ← Tx.check fun tables => .ok (splitTenant link (tables link.table) source target)
  Tx.check fun _ => require (twins = [] ∨ link.dropTwins = true) (Proposals.duplicateKey
    (toString twins.length ++ " " ++ link.table ++
      " rows already exist under the value merged into; rename or retire them first."))
  if dryRun = false then moveTenant guard link moving twins target by_ at_
  pure { table := link.table, moved := moving, dropped := twins }

/-- `tenant_links`: every link's rows in turn. -/
def tenantLinks (guard : TenantLink → Table → Except Refusal Unit) (source target : Id) (by_ : Option Id) (at_ : Instant) (dryRun : Bool) :
    List TenantLink → Moving (List Moved)
  | [] => pure []
  | link :: rest => do
    let moved ← mergeLink guard source target by_ at_ dryRun link
    let more ← tenantLinks guard source target by_ at_ dryRun rest
    pure (moved :: more)

section Rows

variable {link : TenantLink} {table : Table} {source target : Id} {row : TableRow}

theorem mem_sortedIds {rows : List TableRow} {id : Id} : id ∈ sortedIds rows ↔ ∃ row ∈ rows, row.id = id := by
  rw [sortedIds, List.mem_insertionSort, List.mem_map]

theorem mem_moving (there : row ∈ table.rows) : row.id ∈ (splitTenant link table source target).1 ↔
    link.live row = true ∧ link.value row = .ref source ∧ link.twin table target row = false := by
  rw [splitTenant, mem_sortedIds]
  simp only [TenantLink.rows, TenantLink.holds, List.mem_filter, decide_eq_true_iff, Bool.not_eq_true', and_assoc]
  constructor
  · intro held
    obtain ⟨other, here, live, holds, single, same⟩ := held
    obtain rfl := table.eq_of_key here there same
    exact ⟨live, holds, single⟩
  · intro held
    exact ⟨row, there, held.1, held.2.1, held.2.2, rfl⟩

theorem mem_dropped (there : row ∈ table.rows) : row.id ∈ (splitTenant link table source target).2 ↔
    link.live row = true ∧ link.value row = .ref source ∧ link.twin table target row = true := by
  rw [splitTenant, mem_sortedIds]
  simp only [TenantLink.rows, TenantLink.holds, List.mem_filter, decide_eq_true_iff, and_assoc]
  constructor
  · intro held
    obtain ⟨other, here, live, holds, twinned, same⟩ := held
    obtain rfl := table.eq_of_key here there same
    exact ⟨live, holds, twinned⟩
  · intro held
    exact ⟨row, there, held.1, held.2.1, held.2.2, rfl⟩

theorem filter_map_as {rows : List TableRow} {keep kept : TableRow → Bool} {change changed : TableRow → TableRow}
    (stays : ∀ row ∈ rows, keep (change row) = kept row)
    (same : ∀ row ∈ rows, kept row = true → change row = changed row) :
    (rows.map change).filter keep = (rows.filter kept).map changed := by
  have stays : ∀ row ∈ rows, (keep ∘ change) row = kept row := stays
  rw [List.filter_map, List.filter_congr stays]
  refine List.map_congr_left fun row member => ?_
  exact same row (List.mem_of_mem_filter member) (List.mem_filter.mp member).2

theorem rows_dropTwins (link : TenantLink) (twins : List Id) (by_ : Option Id) (at_ : Instant) (table : Table) :
    link.rows (dropTwins link twins by_ at_ table) = (link.rows table).filter fun row => decide (row.id ∉ twins) := by
  rw [TenantLink.rows, TenantLink.rows, List.filter_filter, dropTwins]
  split
  · rename_i none_
    subst none_
    exact List.filter_congr fun row _ => by simp
  · split
    · rename_i removable
      rw [← List.map_id (List.filter _ table.rows)]
      refine filter_map_as (fun row _ => ?_) fun row _ stays => if_neg ?_
      · by_cases dropped : row.id ∈ twins
        · simp [dropped, TenantLink.live, removable, stampRemoved]
        · simp [dropped]
      · have single : row.id ∉ twins := of_decide_eq_true (Bool.and_eq_true_iff.mp stays).1
        exact fun dropped => single (of_decide_eq_true dropped)
    · rw [Keyed.delete, List.filter_filter]
      exact List.filter_congr fun row _ => by rw [decide_not, Bool.and_comm]

theorem rows_pointRows (link : TenantLink) (moving : List Id) (target : Id) (table : Table) :
    link.rows (pointRows link moving target table) =
      (link.rows table).map fun row => if row.id ∈ moving then pointRow link target row else row := by
  refine filter_map_as (fun row _ => ?_) fun _ _ _ => if_congr decide_eq_true_iff rfl rfl
  split
  · rfl
  · rfl

/-- A table once a merge wrote it: the twins dropped, then the other rows moved. -/
def mergedTable (link : TenantLink) (table : Table) (source target : Id) (by_ : Option Id) (at_ : Instant) : Table :=
  let (moving, twins) := splitTenant link table source target
  pointRows link moving target (dropTwins link twins by_ at_ table)

theorem rows_mergedTable (link : TenantLink) (table : Table) (source target : Id) (by_ : Option Id) (at_ : Instant) :
    link.rows (mergedTable link table source target by_ at_) =
      repointed link.value (pointRow link target) (.ref source) (link.twin table target) (link.rows table) := by
  rw [mergedTable, rows_pointRows, rows_dropTwins, repointed]
  have drops : ∀ row ∈ link.rows table, decide (row.id ∉ (splitTenant link table source target).2) =
      !(decide (link.value row = .ref source) && link.twin table target row) := by
    intro row member
    obtain ⟨there, live⟩ := List.mem_filter.mp member
    rw [decide_not]
    refine congrArg not (Bool.eq_iff_iff.mpr ?_)
    rw [decide_eq_true_iff, mem_dropped there, Bool.and_eq_true_iff, decide_eq_true_iff]
    exact and_iff_right live
  rw [List.filter_congr drops]
  refine List.map_congr_left fun row member => if_congr ?_ rfl rfl
  obtain ⟨carried, single⟩ := List.mem_filter.mp member
  obtain ⟨there, live⟩ := List.mem_filter.mp carried
  rw [mem_moving there]
  constructor
  · exact fun held => held.2.1
  · intro holds
    rw [Bool.not_eq_true', Bool.and_eq_false_iff, decide_eq_false_iff_not] at single
    exact ⟨live, holds, single.resolve_left (not_not_intro holds)⟩

theorem pointRow_value (link : TenantLink) (target : Id) (row : TableRow) : link.value (pointRow link target row) = .ref target :=
  TableRow.put_cell row link.field (.ref target)

theorem pointRow_owner (outside : link.field ∉ link.uniqueWith) (target : Id) (row : TableRow) :
    link.owner (pointRow link target row) = link.owner row := by
  have same : link.key (pointRow link target row) = link.key row := by
    refine List.map_congr_left fun column member => ?_
    have apart : column ≠ link.field := fun named => outside (named ▸ member)
    exact TableRow.put_other row (.ref target) apart
  rw [TenantLink.owner, TenantLink.owner, same]
  rfl

theorem twin_held (twinned : link.twin table target row = true) :
    ∃ other ∈ link.rows table, link.value other = .ref target ∧ link.owner other = link.owner row := by
  obtain ⟨unique, taken⟩ := of_decide_eq_true twinned
  rw [TenantLink.taken, if_neg unique] at taken
  obtain ⟨other, held, same⟩ := List.mem_map.mp taken
  obtain ⟨there, holds⟩ := List.mem_filter.mp held
  refine ⟨other, there, of_decide_eq_true holds, ?_⟩
  rw [TenantLink.owner, TenantLink.owner, if_neg unique, if_neg unique, same]

theorem mergedTable_replaced (outside : link.field ∉ link.uniqueWith) (differ : source ≠ target) (table : Table) (by_ : Option Id)
    (at_ : Instant) :
    Replaced TableRow.id link.value link.owner (.ref source) (.ref target) (link.rows table)
      (link.rows (mergedTable link table source target by_ at_)) := by
  have apart : Cell.ref source ≠ .ref target := fun same => differ (Cell.ref.inj same)
  rw [rows_mergedTable]
  exact repointed_replaced apart (pointRow_value link target) (pointRow_owner outside target) (fun _ => rfl)
    fun row _ _ twinned => twin_held twinned

end Rows

section Merges

variable {guard : TenantLink → Table → Except Refusal Unit} {link : TenantLink} {links : List TenantLink}
  {source target : Id} {by_ : Option Id} {at_ : Instant} {tables after : Tables} {moved : Moved} {moves : List Moved}

def movedTenant (link : TenantLink) (table : Table) (source target : Id) : Moved where
  table := link.table
  moved := (splitTenant link table source target).1
  dropped := (splitTenant link table source target).2

theorem writeTable_ok {name : String} {change : Table → Table} {answer : PUnit}
    (done : (writeTable name change).execute tables = (.ok answer, after)) :
    after = Function.update tables name (change (tables name)) :=
  Tx.write_ok.mp done

theorem mergeLink_ok (done : (mergeLink guard source target by_ at_ false link).execute tables = (.ok moved, after)) :
    moved = movedTenant link (tables link.table) source target ∧
      after = Function.update tables link.table (mergedTable link (tables link.table) source target by_ at_) := by
  obtain ⟨split, read, rest⟩ := Tx.check_bind_ok.mp done
  obtain ⟨-, -, rest⟩ := Tx.check_bind_ok.mp rest
  obtain rfl := Except.ok.inj read
  obtain ⟨_, middle, written, rest⟩ := Tx.bind_ok.mp rest
  obtain ⟨rfl, rfl⟩ := Tx.pure_ok.mp rest
  refine ⟨rfl, ?_⟩
  obtain ⟨_, first, dropped, rest⟩ := Tx.bind_ok.mp written
  obtain ⟨-, -, pointed⟩ := Tx.check_bind_ok.mp rest
  rw [writeTable_ok pointed, writeTable_ok dropped, Function.update_self, Function.update_idem]
  rfl

def movedTenants (tables : Tables) (links : List TenantLink) (source target : Id) : List Moved :=
  links.map fun link => movedTenant link (tables link.table) source target

theorem tenantLinks_ok (apart : (links.map TenantLink.table).Nodup)
    (done : (tenantLinks guard source target by_ at_ false links).execute tables = (.ok moves, after)) :
    moves = movedTenants tables links source target ∧
      (∀ link ∈ links, after link.table = mergedTable link (tables link.table) source target by_ at_) ∧
        ∀ name, name ∉ links.map TenantLink.table → after name = tables name := by
  induction links generalizing tables moves with
  | nil =>
    obtain ⟨rfl, rfl⟩ := Tx.pure_ok.mp done
    exact ⟨rfl, nofun, fun _ _ => rfl⟩
  | cons link rest ih =>
    obtain ⟨fresh, later⟩ := List.nodup_cons.mp apart
    obtain ⟨moved, middle, one, others⟩ := Tx.bind_ok.mp done
    obtain ⟨more, last, all, answered⟩ := Tx.bind_ok.mp others
    obtain ⟨rfl, rfl⟩ := Tx.pure_ok.mp answered
    obtain ⟨rfl, rfl⟩ := mergeLink_ok one
    obtain ⟨rfl, each, untouched⟩ := ih later all
    have ahead : ∀ other ∈ rest, other.table ≠ link.table :=
      fun other member named => fresh (List.mem_map.mpr ⟨other, member, named⟩)
    refine ⟨?_, ?_, ?_⟩
    · refine congrArg (List.cons _) (List.map_congr_left fun other member => ?_)
      rw [Function.update_of_ne (ahead other member)]
    · intro other member
      rcases List.mem_cons.mp member with rfl | further
      · rw [untouched other.table fresh, Function.update_self]
      · rw [each other further, Function.update_of_ne (ahead other further)]
    · intro name outside
      rw [List.map_cons, List.mem_cons, not_or] at outside
      rw [untouched name outside.2, Function.update_of_ne outside.1]

end Merges

end Grc.Taxonomy
