import Grc.Lib.Locks
import Grc.Lib.Runs
import Grc.Taxonomy.ListWrites

/-! The categories of one of a bank's lists over whole runs of the writes on it, in any overlap. -/
namespace Grc.Taxonomy

open Grc.Shared Grc.Lib
open Grc.Library (ListRow)

/-- One of a bank's lists as committed, the tables that hold its values, and the writes under way. -/
structure Curation where
  rows : ListTable
  tables : Tables := fun _ => {}
  underway : List (Id × ListWrite) := []

inductive CurationStep where
  /-- A call locks the rows it names, reads and checks. -/
  | begin_ (transaction : Id) (call : ListCall)
  /-- It writes and commits. -/
  | commit (transaction : Id) (by_ : Merger)
  | abort (transaction : Id)
  /-- The records of the bank change. -/
  | elsewhere (tables : Tables)

namespace Curation
variable (guard : TenantLink → Table → Except Refusal Unit) (entry : TenantList) (cap : Nat) (state : Curation)

def usage (row : ListRow) : Nat := usageCount { rows := state.rows.rows, tables := state.tables, audit := [] } entry row.id

/-- The records a write re-points: a merge's. -/
def repoint (by_ : Merger) : ListWrite → Except Refusal Tables
  | .merge source target =>
    let (answer, after) := (tenantLinks guard source.id target.id by_.actor.id by_.at_ false entry.links).execute state.tables
    answer.map fun _ => after
  | _ => .ok state.tables

def step : CurationStep → Except Refusal Curation
  | .begin_ transaction call => do
    require (∀ each ∈ state.underway, each.1 ≠ transaction) waits
    let write ← planned entry state.rows cap (state.usage entry) (fun _ => []) call
    require (∀ row ∈ write.loaded, lockedRow ListRow.id ListWrite.loaded state.underway row = false) waits
    .ok { state with underway := state.underway ++ [(transaction, write)] }
  | .commit transaction by_ => do
    let each ← demand (state.underway.find? (·.1 == transaction)) waits
    let tables ← state.repoint guard entry by_ each.2
    let rows ← each.2.apply state.rows
    .ok { rows, tables, underway := state.underway.filter (·.1 ≠ transaction) }
  | .abort transaction => .ok { state with underway := state.underway.filter (·.1 ≠ transaction) }
  | .elsewhere tables => .ok { state with tables }

end Curation

/-- The rows of a list sit in its categories, and each category has an active one. -/
structure Filled (entry : TenantList) (table : ListTable) : Prop where
  placed : ∀ row ∈ table.rows, ∃ kind ∈ entry.kinds, row.kind = some kind
  active : ∀ kind ∈ entry.kinds, ∃ row ∈ table.rows, row.kind = some kind ∧ row.active = true

/-- A write that keeps what it should, and whose new row, if any, comes into a category of the list. -/
def ListWrite.Checked (entry : TenantList) (write : ListWrite) : Prop :=
  write.Kept ∧ ∀ row, write = .create row → ∃ kind ∈ entry.kinds, row.kind = some kind

/-- Where a retirement or a merge commits, `_refuse_emptying_category` accepts the row it retires as the list then is. -/
def Spares (entry : TenantList) (state : Curation) : CurationStep → Prop
  | .commit transaction _ => ∀ each ∈ state.underway.find? (·.1 == transaction), ∀ row ∈ each.2.retires,
      refuseEmptyingCategory entry state.rows row = .ok ()
  | _ => True

instance (entry : TenantList) : ∀ (state : Curation) (step : CurationStep), Decidable (Spares entry state step) := by
  intro state step
  cases step <;> unfold Spares <;> infer_instance

variable {guard : TenantLink → Table → Except Refusal Unit} {entry : TenantList} {cap : Nat} {state next : Curation}
  {table after : ListTable} {write : ListWrite} {row source target : ListRow} {key into : String}

theorem validatedKind_ok {kind valid : Option String} (required : entry.kindRequired = true) (kinds : entry.kinds ≠ [])
    (checked : validatedKind entry kind = .ok valid) : ∃ one ∈ entry.kinds, valid = some one := by
  rw [validatedKind, if_neg kinds] at checked
  rw [if_pos required] at checked
  split at checked
  · cases checked
  · rename_i given
    split at checked
    · rename_i one
      cases checked
      cases kind with
      | none => exact absurd (.inl rfl) given
      | some kind => exact ⟨kind, one, rfl⟩
    · cases checked

theorem planned_ok {usage : ListRow → Nat} {openWork : ListRow → List (String × Nat)} {call : ListCall}
    (required : entry.kindRequired = true) (kinds : entry.kinds ≠ []) (done : planned entry table cap usage openWork call = .ok write) :
    (∀ row ∈ write.loaded, row ∈ table.rows) ∧ write.Checked entry := by
  obtain ⟨loaded, kept⟩ := planned_kept done
  refine ⟨loaded, kept, fun row created => ?_⟩
  subst created
  cases call with
  | create draft near force =>
    obtain ⟨made, checks, same⟩ := map_ok.mp done
    obtain rfl := ListWrite.create.inj same
    simp only [createRow, bind_ok, Except.ok.injEq] at checks
    obtain ⟨_, _, _, _, _, _, kind, valid, rfl⟩ := checks
    exact validatedKind_ok required kinds valid
  | patch | retire | restore | merge =>
    obtain ⟨_, _, other⟩ := map_ok.mp done
    cases other

theorem apply_keeps (checked : write.Checked entry) (loaded : ∀ row ∈ write.loaded, row ∈ table.rows)
    (done : write.apply table = .ok after) (there : row ∈ table.rows) (spared : ∀ mine ∈ write.retires, row.id ≠ mine.id) :
    ∃ later ∈ after.rows, later.kind = row.kind ∧ later.isSystem = row.isSystem ∧ (row.active = true → later.active = true) := by
  cases write with
  | create made =>
    exact ⟨row, apply_spares done there fun _ none_ => absurd none_ List.not_mem_nil, rfl, rfl, id⟩
  | save loaded_ changed =>
    cases done
    refine ⟨_, Keyed.mem_update.mpr ⟨row, there, rfl⟩, ?_⟩
    split
    · rename_i same
      obtain ⟨sameKind, sameActive, sameSystem⟩ := checked.1
      obtain rfl := table.eq_of_key there (loaded loaded_ (List.mem_singleton_self _)) (beq_iff_eq.mp same)
      exact ⟨sameKind, sameSystem, sameActive.trans⟩
    · exact ⟨rfl, rfl, id⟩
  | restore loaded_ =>
    cases done
    refine ⟨_, Keyed.mem_update.mpr ⟨row, there, rfl⟩, ?_⟩
    split
    · exact ⟨rfl, rfl, fun _ => rfl⟩
    · exact ⟨rfl, rfl, id⟩
  | retire source | merge source target =>
    cases done
    exact ⟨row, mem_setActive_other there (spared source rfl), rfl, rfl, id⟩

theorem apply_placed (checked : write.Checked entry) (loaded : ∀ row ∈ write.loaded, row ∈ table.rows)
    (placed : ∀ row ∈ table.rows, ∃ kind ∈ entry.kinds, row.kind = some kind) (done : write.apply table = .ok after) :
    ∀ row ∈ after.rows, ∃ kind ∈ entry.kinds, row.kind = some kind := by
  cases write with
  | create made =>
    obtain ⟨-, -, done⟩ := bind_ok.mp done
    cases done
    intro row member
    rcases (Keyed.mem_create _).mp member with old | rfl
    · exact placed row old
    · exact checked.2 made rfl
  | save loaded_ changed =>
    cases done
    intro row member
    obtain ⟨old, before, rfl⟩ := Keyed.mem_update.mp member
    split
    · rw [checked.1.1]
      exact placed loaded_ (loaded loaded_ (List.mem_singleton_self _))
    · exact placed old before
  | retire | restore | merge =>
    cases done
    intro row member
    obtain ⟨old, before, -, kind, -⟩ := of_mem_setActive member
    exact kind ▸ placed old before

theorem Filled.kept (filled : Filled entry table) (checked : write.Checked entry) (loaded : ∀ row ∈ write.loaded, row ∈ table.rows)
    (none_ : write.retires = none) (done : write.apply table = .ok after) : Filled entry after := by
  refine ⟨apply_placed checked loaded filled.placed done, fun category listed => ?_⟩
  obtain ⟨row, there, of_, active⟩ := filled.active category listed
  have spared : ∀ mine ∈ write.retires, row.id ≠ mine.id := fun mine its => by simp [none_] at its
  obtain ⟨later, here, kind, -, still⟩ := apply_keeps checked loaded done there spared
  exact ⟨later, here, kind.trans of_, still active⟩

/-- Taking a row out of the active ones leaves each category an active row exactly when the check of its category accepts it. -/
theorem Filled.retired_iff (required : entry.kindRequired = true) (filled : Filled entry table) (checked : write.Checked entry)
    (loaded : ∀ row ∈ write.loaded, row ∈ table.rows) (retires : write.retires = some source) (done : write.apply table = .ok after) :
    Filled entry after ↔ refuseEmptyingCategory entry table source = .ok () := by
  have there : source ∈ table.rows := loaded source (retires_own checked.1 retires).1
  have same : after = setActive table source false := by
    cases write with
    | retire | merge =>
      cases done
      rw [Option.some.inj retires]
    | create | save | restore => cases retires
  have placed := apply_placed checked loaded filled.placed done
  have kept : ∀ category ∈ entry.kinds, ∀ row ∈ table.rows, row.kind = some category → row.active = true → row.id ≠ source.id →
      ∃ later ∈ after.rows, later.kind = some category ∧ later.active = true :=
    fun category _ row member of_ active other => ⟨row, same ▸ mem_setActive_other member other, of_, active⟩
  obtain ⟨kind, listed, its⟩ := filled.placed source there
  unfold refuseEmptyingCategory
  by_cases live : source.active = true
  · have checks : ¬(entry.kindRequired = false ∨ source.kind = none ∨ source.active = false) := by simp [required, its, live]
    rw [if_neg checks, require_ok]
    constructor
    · intro stays
      obtain ⟨row, member, of_, active⟩ := stays.active kind listed
      obtain ⟨old, here, -, -, -, ⟨-, retired⟩ | ⟨other, rfl⟩⟩ := of_mem_setActive (same ▸ member)
      · rw [active] at retired
        cases retired
      · refine List.ne_nil_of_mem (List.mem_filter.mpr ⟨here, ?_⟩)
        simp [of_, its, active, other]
    · intro left
      obtain ⟨other, member⟩ := List.exists_mem_of_ne_nil _ left
      obtain ⟨here, is_⟩ := List.mem_filter.mp member
      simp only [Bool.and_eq_true, beq_iff_eq, bne_iff_ne] at is_
      obtain ⟨⟨alike, active⟩, apart⟩ := is_
      refine ⟨placed, fun category among => ?_⟩
      by_cases mine : category = kind
      · subst mine
        exact kept category among other here (alike.trans its) active apart
      · obtain ⟨row, member, of_, active⟩ := filled.active category among
        refine kept category among row member of_ active fun same => mine ?_
        obtain rfl := table.eq_of_key member there same
        exact Option.some.inj (of_.symm.trans its)
  · have out : source.active = false := Bool.not_eq_true _ ▸ live
    rw [if_pos (.inr (.inr out))]
    refine iff_of_true ⟨placed, fun category among => ?_⟩ rfl
    obtain ⟨row, member, of_, active⟩ := filled.active category among
    refine kept category among row member of_ active fun same => live ?_
    obtain rfl := table.eq_of_key member there same
    exact active

/-- The writes under way have their rows loaded as they are, and were checked. -/
structure Curation.Sound (entry : TenantList) (state : Curation) : Prop where
  holding : Holding ListWrite.loaded state.rows state.underway
  checked : ∀ each ∈ state.underway, each.2.Checked entry

theorem commit_ok {transaction : Id} {by_ : Merger} (done : state.step guard entry cap (.commit transaction by_) = .ok next) :
    ∃ each, state.underway.find? (·.1 == transaction) = some each ∧ (transaction, each.2) ∈ state.underway ∧
      each.2.apply state.rows = .ok next.rows ∧ next.underway = state.underway.filter (·.1 ≠ transaction) := by
  obtain ⟨each, found, done⟩ := bind_ok.mp done
  obtain ⟨tables, -, done⟩ := bind_ok.mp done
  obtain ⟨rows, written, done⟩ := bind_ok.mp done
  cases done
  rw [demand_ok] at found
  have named := List.find?_some found
  refine ⟨each, found, ?_, written, rfl⟩
  rw [← beq_iff_eq.mp named]
  exact List.mem_of_find?_eq_some found

theorem Curation.Sound.step {step : CurationStep} (required : entry.kindRequired = true) (kinds : entry.kinds ≠ [])
    (sound : state.Sound entry) (done : state.step guard entry cap step = .ok next) : next.Sound entry := by
  cases step with
  | begin_ transaction call =>
    obtain ⟨_, -, done⟩ := bind_ok.mp done
    obtain ⟨write, plan, done⟩ := bind_ok.mp done
    obtain ⟨_, free, done⟩ := bind_ok.mp done
    cases done
    obtain ⟨loaded, checked⟩ := planned_ok required kinds plan
    refine ⟨sound.holding.begin_ loaded (require_ok.mp free), fun each there => ?_⟩
    rcases mem_concat.mp there with old | rfl
    · exact sound.checked each old
    · exact checked
  | commit transaction by_ =>
    obtain ⟨each, -, there, written, ended⟩ := commit_ok done
    refine ⟨?_, fun each left => sound.checked each ?_⟩
    · rw [ended]
      exact sound.holding.finish there fun row here apart => apply_spares written here apart
    · rw [ended] at left
      exact (List.mem_filter.mp left).1
  | abort transaction =>
    cases done
    exact ⟨sound.holding.abort, fun each left => sound.checked each (List.mem_filter.mp left).1⟩
  | elsewhere tables =>
    cases done
    exact ⟨sound.holding, sound.checked⟩

/-- One step leaves each category an active row exactly when it meets the condition. -/
theorem step_filled_iff {step : CurationStep} (required : entry.kindRequired = true) (sound : state.Sound entry)
    (filled : Filled entry state.rows) (done : state.step guard entry cap step = .ok next) :
    Filled entry next.rows ↔ Spares entry state step := by
  cases step with
  | begin_ transaction call =>
    obtain ⟨_, -, done⟩ := bind_ok.mp done
    obtain ⟨write, -, done⟩ := bind_ok.mp done
    obtain ⟨_, -, done⟩ := bind_ok.mp done
    cases done
    exact iff_of_true filled trivial
  | commit transaction by_ =>
    obtain ⟨each, found, there, written, -⟩ := commit_ok done
    have checked := sound.checked _ there
    have loaded := sound.holding.there _ there
    rw [Spares, found]
    cases retires : each.2.retires with
    | none =>
      refine iff_of_true (filled.kept checked loaded retires written) fun held its row mine => ?_
      obtain rfl := Option.some.inj its
      rw [retires] at mine
      cases mine
    | some source =>
      rw [filled.retired_iff required checked loaded retires written]
      refine ⟨fun spares held its row mine => ?_, fun spares => spares each rfl source retires⟩
      obtain rfl := Option.some.inj its
      obtain rfl := Option.some.inj (retires.symm.trans mine)
      exact spares
  | abort transaction | elsewhere tables =>
    cases done
    exact iff_of_true filled trivial

theorem kinds_of_required : ∀ entry ∈ tenantRegistry, entry.kindRequired = true → entry.kinds ≠ [] := by decide

/-- On every list whose rows sit in fixed categories, and from every state in which each has an active row, a run of calls in any overlap
leaves each category an active row exactly when, as each retirement and each merge commits, the check of its category still accepts it. -/
theorem run_filled_iff (guard : TenantLink → Table → Except Refusal Unit) (entry : TenantList) (cap : Nat) (rows : ListTable)
    (tables : Tables) (listed : entry ∈ tenantRegistry) (required : entry.kindRequired = true) (filled : Filled entry rows)
    (calls : List CurationStep) :
    (∀ first, first <+: calls → Filled entry (run (Curation.step guard entry cap) { rows, tables } first).rows) ↔
      Meets (Curation.step guard entry cap) (Spares entry) { rows, tables } calls := by
  refine holds_throughout_iff (fun state : Curation => state.Sound entry ∧ Filled entry state.rows)
    ⟨⟨Holding.nil, fun each there => absurd there List.not_mem_nil⟩, filled⟩ (fun _ both => both.2) ?_ ?_ calls
  · rintro state step next ⟨sound, filled⟩ done
    exact step_filled_iff required sound filled done
  · rintro state step next ⟨sound, filled⟩ spares done
    exact ⟨sound.step required (kinds_of_required entry listed required) done, (step_filled_iff required sound filled done).mpr spares⟩

/-- The list of risk ratings. -/
def ratings : TenantList where
  name := "risk_rating"
  kindName := "risk_level"
  kindRequired := true
  links := [{ table := "tenant_obligation", field := "risk_rating" }, { table := "tenant_obligation_scope", field := "risk_rating" },
    { table := "gap", field := "severity" }]

def listAdmin : Merger := { actor := { kind := .user, id := some 7 }, tenant := 9, at_ := 100 }

/-- A bank's ratings: one of its own beside the system value of the level low, which may be retired. -/
def ratingRows (systemActive : Bool) : ListTable where
  rows := [{ id := 1, list := "risk_rating", key := "low", kind := some "low", isSystem := true, active := systemActive },
    { id := 2, list := "risk_rating", key := "ours", kind := some "low" },
    { id := 3, list := "risk_rating", key := "medium", kind := some "medium", isSystem := true },
    { id := 4, list := "risk_rating", key := "high", kind := some "high", isSystem := true }]
  keyed := by cases systemActive <;> decide

theorem ratingRows_filled (systemActive : Bool) : Filled ratings (ratingRows systemActive) := by
  constructor
  · cases systemActive <;> decide
  · cases systemActive <;> decide

/-- The bank retires its own rating beside the system value. -/
theorem retiresOwn_filled :
    Filled ratings (run (Curation.step (fun _ _ => .ok ()) ratings 500) { rows := ratingRows true }
      [.begin_ 0 (.retire "ours" true), .commit 0 listAdmin]).rows :=
  (run_filled_iff (fun _ _ => .ok ()) ratings 500 (ratingRows true) (fun _ => {}) (by decide) rfl (ratingRows_filled true)
    [.begin_ 0 (.retire "ours" true), .commit 0 listAdmin]).mpr (by decide +kernel) _ List.prefix_rfl

/-- The bank merges its last active rating of a level into the retired system value. -/
theorem mergesLast_empties : Filled ratings (ratingRows false) ∧
    ¬Filled ratings (run (Curation.step (fun _ _ => .ok ()) ratings 500) { rows := ratingRows false }
      [.begin_ 0 (.merge "ours" "low"), .commit 0 listAdmin]).rows := by
  refine ⟨ratingRows_filled false, fun filled => ?_⟩
  have active := filled.active "low" (by decide)
  revert active
  decide +kernel

end Grc.Taxonomy
