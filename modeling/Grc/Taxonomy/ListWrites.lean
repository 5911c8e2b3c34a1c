import Grc.Taxonomy.TenantLists

/-! The writes a bank makes on one of its own lists: what each checks of the rows it reads, and what it writes as it commits. -/
namespace Grc.Taxonomy

open Grc.Shared Grc.Lib
open Grc.Library (ListRow validationError unknownKey)

/-- The rows of one of a bank's lists. -/
abbrev ListTable := Keyed ListRow.id

/-- The values a row's kind may take: the fixed categories of a list. -/
def TenantList.kinds (entry : TenantList) : List String :=
  (([("compliance_status", ["compliant", "partly", "gap", "not_assessed"]), ("risk_rating", ["low", "medium", "high"]),
     ("case_sub_status", ["new", "assigned", "assessing", "implementing", "signoff", "closed", "dismissed"]),
     ("close_reason", ["signed_off", "not_applicable", "no_action"]),
     ("gap_status", ["open", "remediating", "risk_accepted", "closed"])] : List (String × List String)).lookup entry.name).getD []

/-- What a create sends, its labels, its key and its own columns checked. -/
structure ListDraft where
  key : String
  label : String
  kind : Option String := none
  usageNote : String := ""
  sortOrder : Option Nat := none
  columns : Dict Json := []

/-- A call on one of a bank's lists. The labels near a draft's are found by their trigrams. -/
inductive ListCall where
  | create (draft : ListDraft) (near : List String) (force : Bool)
  | patch (key : String) (usageNote : Option String) (sortOrder : Option Nat) (columns : Dict Json) (expected : Option Nat)
  | retire (key : String) (confirm : Bool)
  | restore (key : String)
  | merge (key into : String)

/-- What a call has decided to write, with the rows it has loaded. -/
inductive ListWrite where
  | create (row : ListRow)
  | save (loaded changed : ListRow)
  | retire (loaded : ListRow)
  | restore (loaded : ListRow)
  | merge (source target : ListRow)

namespace ListWrite

def loaded : ListWrite → List ListRow
  | create _ => []
  | save loaded _ | retire loaded | restore loaded => [loaded]
  | merge source target => [source, target]

def retires : ListWrite → Option ListRow
  | retire loaded => some loaded
  | merge source _ => some source
  | create _ | save _ _ | restore _ => none

end ListWrite

section Checks
variable (entry : TenantList) (table : ListTable)

/-- `row_by_key`, of the rows of one list. -/
def rowOfKey (key : String) : Except Refusal ListRow := rowByKey { rows := table.rows, tables := fun _ => {}, audit := [] } entry.name key

def refuseFullList (cap : Nat) : Except Refusal Unit :=
  require (table.rows.length < cap) {
    code := "list_full"
    detail := entry.name ++ " already holds " ++ toString cap ++ " values, the most a list may hold; merge or reuse one instead." }

/-- `check_duplicate`, a key standing for the label of the row that has it. -/
def checkDuplicate (key : String) : Except Refusal Unit :=
  match table.rows.find? (·.key.toLower == key.toLower) with
  | none => .ok ()
  | some clash => .error {
      code := "duplicate_key"
      detail := quoted key ++ " already exists on this list."
      extra := [("candidates", .text clash.key)] }

def checkNearDuplicate (near : List String) (force : Bool) : Except Refusal Unit :=
  require (force = true ∨ near = []) { code := "near_duplicate", detail := "Did you mean " ++ near.headD "" ++ "?" }

def validatedKind (kind : Option String) : Except Refusal (Option String) :=
  let valid := " Valid values: " ++ Lib.joined entry.kinds ++ "."
  if entry.kinds = [] then .ok none
  else if kind = none ∨ kind = some "" then
    if entry.kindRequired = true then .error (Library.unknownKey ("Choose a " ++ entry.kindName ++ "." ++ valid)) else .ok none
  else if kind.getD "" ∈ entry.kinds then .ok kind
  else .error (Library.unknownKey (quoted (kind.getD "") ++ " is not a " ++ entry.kindName ++ "." ++ valid))

def nextSortOrder : Nat := table.rows.foldr (fun row highest => max (row.sortOrder + 1) highest) 0

/-- `create_row`, up to its insert. -/
def createRow (cap : Nat) (draft : ListDraft) (near : List String) (force : Bool) : Except Refusal ListRow := do
  refuseFullList entry table cap
  checkDuplicate table draft.key
  checkNearDuplicate near force
  let kind ← validatedKind entry draft.kind
  .ok {
    id := table.fresh, list := entry.name, key := draft.key, kind, usageNote := Proposals.strip draft.usageNote
    sortOrder := draft.sortOrder.getD (nextSortOrder table), columns := draft.columns }

def staleRow : Refusal := { code := "stale_write", detail := "Someone changed this first. Reload and try again." }

/-- `patch_row`, up to its save. -/
def patchRow (key : String) (usageNote : Option String) (sortOrder : Option Nat) (columns : Dict Json) (expected : Option Nat) :
    Except Refusal (ListRow × ListRow) := do
  let row ← rowOfKey entry table key
  require (∀ version ∈ expected, version = row.version) staleRow
  .ok (row, { row with
    usageNote := (usageNote.map Proposals.strip).getD row.usageNote
    sortOrder := sortOrder.getD row.sortOrder
    columns := columns.foldl (fun held column => held.set column.1 column.2) row.columns
    version := row.version + 1 })

def others (row : ListRow) : List ListRow :=
  table.rows.filter fun other => other.kind == row.kind && other.active && other.id != row.id

def refuseEmptyingCategory (row : ListRow) : Except Refusal Unit :=
  if entry.kindRequired = false ∨ row.kind = none ∨ row.active = false then .ok ()
  else require (others table row ≠ []) {
    code := "category_empty"
    detail := row.key ++ " is the last value under " ++ row.kind.getD "None" ++ " on " ++ entry.name ++
      ": add another there before retiring it." }

/-- `_refuse_open_work`, of the open work counted per table. -/
def refuseOpenWork (row : ListRow) (openWork : List (String × Nat)) : Except Refusal Unit :=
  let counted := if row.active = true then openWork else []
  require (counted = []) {
    code := "open_work"
    detail := row.key ++ " still owns " ++ toString (counted.map (·.2)).sum ++ " open records; move them to another owner first."
    extra := [("openWork", .json (.dict (counted.map fun each => (each.1, .number each.2))))] }

def invalidTransition (detail : String) : Refusal := { code := "invalid_transition", detail }

/-- `retire`, up to its save. -/
def retireRow (key : String) (confirm : Bool) (usage : ListRow → Nat) (openWork : ListRow → List (String × Nat)) :
    Except Refusal ListRow := do
  let row ← rowOfKey entry table key
  refuseEmptyingCategory entry table row
  refuseSystemRow row "retired"
  refuseOpenWork row (openWork row)
  require (usage row = 0 ∨ confirm = true) {
    code := "in_use"
    detail := key ++ " is used by " ++ toString (usage row) ++ " records. Retiring keeps them readable and removes it from pickers."
    extra := [("usageCount", .number (usage row))] }
  require (row.active = true) (invalidTransition (key ++ " is already retired."))
  .ok row

/-- `restore`, up to its save. -/
def restoreRow (key : String) : Except Refusal ListRow := do
  let row ← rowOfKey entry table key
  require (row.active = false) (invalidTransition (key ++ " is not retired."))
  .ok row

/-- `merge`, up to its first write. -/
def mergeRows (key into : String) : Except Refusal (ListRow × ListRow) :=
  mergedPair { rows := table.rows, tables := fun _ => {}, audit := [] } entry key into

/-- What a call reads and checks, under the locks of the rows it loads. -/
def planned (cap : Nat) (usage : ListRow → Nat) (openWork : ListRow → List (String × Nat)) : ListCall → Except Refusal ListWrite
  | .create draft near force => (createRow entry table cap draft near force).map .create
  | .patch key usageNote sortOrder columns expected =>
    (patchRow entry table key usageNote sortOrder columns expected).map fun pair => .save pair.1 pair.2
  | .retire key confirm => (retireRow entry table key confirm usage openWork).map .retire
  | .restore key => (restoreRow entry table key).map .restore
  | .merge key into => (mergeRows entry table key into).map fun pair => .merge pair.1 pair.2

end Checks

def waits : Refusal := internalError

/-- `save(update_fields=["active", "version"])`. -/
def setActive (table : ListTable) (loaded : ListRow) (active : Bool) : ListTable :=
  table.update (·.id == loaded.id) (fun row => { row with active, version := loaded.version + 1 }) fun _ => rfl

/-- What a write leaves of the list's rows. The database holds a list's keys unique. -/
def ListWrite.apply (table : ListTable) : ListWrite → Except Refusal ListTable
  | .create row => do
    require (∀ other ∈ table.rows, other.key ≠ row.key) internalError
    .ok (table.create (fun id => { row with id }) fun _ => rfl)
  | .save loaded changed => .ok (table.update (·.id == loaded.id) (fun row => { changed with id := row.id }) fun _ => rfl)
  | .retire loaded => .ok (setActive table loaded false)
  | .restore loaded => .ok (setActive table loaded true)
  | .merge source _ => .ok (setActive table source false)

/-- What a write was checked to keep: an edit changes neither category nor activity, and a system value stays. -/
def ListWrite.Kept : ListWrite → Prop
  | .create row => row.active = true
  | .save loaded changed => changed.kind = loaded.kind ∧ changed.active = loaded.active ∧ changed.isSystem = loaded.isSystem
  | .retire loaded | .merge loaded _ => loaded.isSystem = false
  | .restore _ => True

section Writes
variable {entry : TenantList} {cap : Nat} {table after : ListTable} {write : ListWrite} {row source target : ListRow} {key into : String}

theorem rowOfKey_mem (found : rowOfKey entry table key = .ok row) : row ∈ table.rows :=
  List.mem_of_find?_eq_some (demand_ok.mp found)

theorem mergeRows_ok (paired : mergeRows entry table key into = .ok (source, target)) :
    source ∈ table.rows ∧ target ∈ table.rows ∧ source.id ≠ target.id ∧ source.isSystem = false := by
  obtain ⟨first, here, rest⟩ := bind_ok.mp paired
  obtain ⟨second, there, rest⟩ := bind_ok.mp rest
  obtain ⟨_, differ, rest⟩ := bind_ok.mp rest
  obtain ⟨_, own, rest⟩ := bind_ok.mp rest
  obtain ⟨_, -, rest⟩ := bind_ok.mp rest
  cases rest
  exact ⟨rowOfKey_mem here, rowOfKey_mem there, require_ok.mp differ, require_ok.mp own⟩

theorem planned_kept {usage : ListRow → Nat} {openWork : ListRow → List (String × Nat)} {call : ListCall}
    (done : planned entry table cap usage openWork call = .ok write) : (∀ row ∈ write.loaded, row ∈ table.rows) ∧ write.Kept := by
  cases call with
  | create draft near force =>
    obtain ⟨row, made, rfl⟩ := map_ok.mp done
    simp only [createRow, bind_ok, Except.ok.injEq] at made
    obtain ⟨_, _, _, _, _, _, kind, _, rfl⟩ := made
    exact ⟨fun _ none_ => absurd none_ List.not_mem_nil, rfl⟩
  | patch key usageNote sortOrder columns expected =>
    obtain ⟨⟨loaded, changed⟩, made, rfl⟩ := map_ok.mp done
    simp only [patchRow, bind_ok, Except.ok.injEq, Prod.mk.injEq] at made
    obtain ⟨row, found, _, _, rfl, rfl⟩ := made
    refine ⟨fun held mine => ?_, rfl, rfl, rfl⟩
    obtain rfl := List.mem_singleton.mp mine
    exact rowOfKey_mem found
  | retire key confirm =>
    obtain ⟨row, made, rfl⟩ := map_ok.mp done
    simp only [retireRow, bind_ok, Except.ok.injEq] at made
    obtain ⟨loaded, found, _, _, _, own, _, _, _, _, _, _, rfl⟩ := made
    have unheld : loaded.isSystem = false := require_ok.mp own
    refine ⟨fun held mine => ?_, unheld⟩
    obtain rfl := List.mem_singleton.mp mine
    exact rowOfKey_mem found
  | restore key =>
    obtain ⟨row, made, rfl⟩ := map_ok.mp done
    simp only [restoreRow, bind_ok, Except.ok.injEq] at made
    obtain ⟨loaded, found, _, _, rfl⟩ := made
    refine ⟨fun held mine => ?_, trivial⟩
    obtain rfl := List.mem_singleton.mp mine
    exact rowOfKey_mem found
  | merge key into =>
    obtain ⟨⟨source, target⟩, made, rfl⟩ := map_ok.mp done
    obtain ⟨here, there, -, own⟩ := mergeRows_ok made
    refine ⟨fun held mine => ?_, own⟩
    rcases List.mem_cons.mp mine with rfl | mine
    · exact here
    · obtain rfl := List.mem_singleton.mp mine
      exact there

theorem mem_setActive_other {active : Bool} (there : row ∈ table.rows) (other : row.id ≠ source.id) :
    row ∈ (setActive table source active).rows :=
  Keyed.mem_update.mpr ⟨row, there, (if_neg (by simpa using other)).symm⟩

theorem of_mem_setActive {active : Bool} (there : row ∈ (setActive table source active).rows) :
    ∃ old ∈ table.rows, row.id = old.id ∧ row.kind = old.kind ∧ row.isSystem = old.isSystem ∧
      (old.id = source.id ∧ row.active = active ∨ old.id ≠ source.id ∧ row = old) := by
  obtain ⟨old, here, rfl⟩ := Keyed.mem_update.mp there
  refine ⟨old, here, ?_⟩
  split
  · rename_i same
    exact ⟨rfl, rfl, rfl, .inl ⟨beq_iff_eq.mp same, rfl⟩⟩
  · rename_i other
    exact ⟨rfl, rfl, rfl, .inr ⟨fun same => other (beq_iff_eq.mpr same), rfl⟩⟩

theorem retires_own (kept : write.Kept) (retires : row ∈ write.retires) : row ∈ write.loaded ∧ row.isSystem = false := by
  cases write with
  | retire loaded =>
    obtain rfl := Option.some.inj retires
    exact ⟨List.mem_singleton_self _, kept⟩
  | merge source target =>
    obtain rfl := Option.some.inj retires
    exact ⟨List.mem_cons_self, kept⟩
  | create | save | restore => cases retires

theorem apply_spares (done : write.apply table = .ok after) (there : row ∈ table.rows)
    (apart : ∀ mine ∈ write.loaded, row.id ≠ mine.id) : row ∈ after.rows := by
  cases write with
  | create made =>
    obtain ⟨-, -, done⟩ := bind_ok.mp done
    cases done
    exact (Keyed.mem_create _).mpr (.inl there)
  | save loaded changed =>
    cases done
    have other := apart loaded (List.mem_singleton_self _)
    exact Keyed.mem_update.mpr ⟨row, there, (if_neg (by simpa using other)).symm⟩
  | retire loaded | restore loaded =>
    cases done
    exact mem_setActive_other there (apart loaded (List.mem_singleton_self _))
  | merge source target =>
    cases done
    exact mem_setActive_other there (apart source List.mem_cons_self)

end Writes

end Grc.Taxonomy
