import Mathlib.Data.List.Nodup
import Mathlib.Data.List.MinMax

/-! Tables whose rows have primary keys: no two rows share one, whatever is created, updated or deleted. -/
namespace Grc.Lib

universe u

theorem mem_concat {α : Type u} {items : List α} {last item : α} : item ∈ items ++ [last] ↔ item ∈ items ∨ item = last := by
  rw [List.mem_append, List.mem_singleton]

/-- The rows of a table, each under a primary key of its own. -/
structure Keyed {Row : Type} (key : Row → Nat) where
  rows : List Row := []
  keyed : (rows.map key).Nodup := by exact List.nodup_nil

namespace Keyed

variable {Row : Type} {key : Row → Nat} {table : Keyed key} {picked : Row → Bool} {change : Row → Row}
  {make : Nat → Row} {row other : Row}

def fresh (table : Keyed key) : Nat := table.rows.foldr (fun row above => max (key row + 1) above) 0

theorem key_lt_fresh (there : row ∈ table.rows) : key row < table.fresh := by
  unfold fresh
  generalize table.rows = rows at there ⊢
  induction rows with
  | nil => cases there
  | cons first rest ih =>
    rw [List.foldr_cons]
    rcases List.mem_cons.mp there with rfl | later
    · exact Nat.lt_of_lt_of_le (Nat.lt_succ_self _) (Nat.le_max_left _ _)
    · exact Nat.lt_of_lt_of_le (ih later) (Nat.le_max_right _ _)

/-- `create(…)`: one more row, under a fresh key. -/
def create (table : Keyed key) (make : Nat → Row) (named : ∀ id, key (make id) = id) : Keyed key where
  rows := table.rows ++ [make table.fresh]
  keyed := by
    rw [List.map_append, List.map_singleton, named]
    refine List.nodup_append.mpr ⟨table.keyed, List.nodup_singleton _, ?_⟩
    intro held member added new same
    obtain ⟨row, there, rfl⟩ := List.mem_map.mp member
    have below := key_lt_fresh there
    rw [List.mem_singleton] at new
    omega

/-- `filter(…).update(…)`. -/
def update (table : Keyed key) (picked : Row → Bool) (change : Row → Row) (named : ∀ row, key (change row) = key row) :
    Keyed key where
  rows := table.rows.map fun row => if picked row = true then change row else row
  keyed := by
    have same : ∀ row ∈ table.rows, key (if picked row = true then change row else row) = key row := by
      intro row _
      split
      · exact named row
      · rfl
    rw [List.map_map]
    exact List.map_congr_left same ▸ table.keyed

/-- `filter(…).delete()`. -/
def delete (table : Keyed key) (picked : Row → Bool) : Keyed key where
  rows := table.rows.filter fun row => !picked row
  keyed := table.keyed.sublist (List.filter_sublist.map _)

@[simp] theorem mem_create (named : ∀ id, key (make id) = id) :
    row ∈ (table.create make named).rows ↔ row ∈ table.rows ∨ row = make table.fresh := by
  rw [create, List.mem_append, List.mem_singleton]

@[simp] theorem mem_delete : row ∈ (table.delete picked).rows ↔ row ∈ table.rows ∧ picked row = false := by
  rw [delete, List.mem_filter, Bool.not_eq_true']

theorem eq_of_key (table : Keyed key) (here : row ∈ table.rows) (there : other ∈ table.rows) (same : key row = key other) :
    row = other :=
  List.inj_on_of_nodup_map table.keyed here there same

theorem listed_lt_fresh {id : Nat} (listed : id ∈ (table.rows.filter picked).map key) : id < table.fresh := by
  obtain ⟨row, there, rfl⟩ := List.mem_map.mp listed
  exact key_lt_fresh (List.mem_filter.mp there).1

theorem fresh_le {bound : Nat} (below : ∀ row ∈ table.rows, key row < bound) : table.fresh ≤ bound := by
  unfold fresh
  generalize table.rows = rows at below
  induction rows with
  | nil => exact Nat.zero_le _
  | cons first rest ih =>
    rw [List.foldr_cons]
    have later := ih fun row member => below row (List.mem_cons_of_mem _ member)
    exact Nat.max_le.mpr ⟨below first List.mem_cons_self, later⟩

theorem mem_update {named : ∀ row, key (change row) = key row} :
    row ∈ (table.update picked change named).rows ↔ ∃ old ∈ table.rows, row = if picked old = true then change old else old := by
  rw [update, List.mem_map]
  exact exists_congr fun _ => and_congr_right fun _ => eq_comm

def createAll {Made : Type} (table : Keyed key) (make : Made → Nat → Row) (named : ∀ made id, key (make made id) = id) (rows : List Made) :
    Keyed key :=
  rows.foldl (fun held made => held.create (make made) (named made)) table

section CreateAll
variable {Made : Type} {makes : Made → Nat → Row} {named : ∀ made id, key (makes made id) = id} {rows : List Made}

theorem mem_createAll_old (there : row ∈ table.rows) : row ∈ (table.createAll makes named rows).rows := by
  induction rows generalizing table with
  | nil => exact there
  | cons made rest ih => exact ih ((mem_create (named made)).mpr (.inl there))

theorem mem_createAll_new {made : Made} (filed : made ∈ rows) : ∃ id, makes made id ∈ (table.createAll makes named rows).rows := by
  induction rows generalizing table with
  | nil => cases filed
  | cons first rest ih =>
    rcases List.mem_cons.mp filed with rfl | later
    · have here : makes made table.fresh ∈ (table.create (makes made) (named made)).rows := (mem_create (named made)).mpr (.inr rfl)
      have later : makes made table.fresh ∈ ((table.create (makes made) (named made)).createAll makes named rest).rows := mem_createAll_old here
      exact ⟨table.fresh, later⟩
    · exact ih later

theorem of_mem_createAll (there : row ∈ (table.createAll makes named rows).rows) :
    row ∈ table.rows ∨ ∃ made ∈ rows, ∃ id, row = makes made id := by
  induction rows generalizing table with
  | nil => exact .inl there
  | cons first rest ih =>
    rcases ih there with before | ⟨made, filed, id, same⟩
    · rcases (mem_create (named first)).mp before with old | rfl
      · exact .inl old
      · exact .inr ⟨first, List.mem_cons_self, _, rfl⟩
    · exact .inr ⟨made, List.mem_cons_of_mem _ filed, id, same⟩

theorem createAll_rows : ∃ new, (table.createAll makes named rows).rows = table.rows ++ new ∧
    List.Forall₂ (fun made row => row = makes made (key row)) rows new := by
  induction rows generalizing table with
  | nil => exact ⟨[], (List.append_nil _).symm, .nil⟩
  | cons made rest ih =>
    obtain ⟨new, added, each⟩ := @ih (table.create (makes made) (named made))
    refine ⟨makes made table.fresh :: new, ?_, .cons ?_ each⟩
    · rw [createAll, List.foldl_cons]
      change ((table.create (makes made) (named made)).createAll makes named rest).rows = _
      rw [added, create, List.append_assoc]
      rfl
    · rw [named]

end CreateAll

theorem find?_eq_some (there : row ∈ table.rows) (chosen : picked row = true) (only : ∀ other, picked other = true → key other = key row) :
    table.rows.find? picked = some row := by
  cases found : table.rows.find? picked with
  | none => exact absurd chosen (List.find?_eq_none.mp found row there)
  | some other =>
    have same := table.eq_of_key (List.mem_of_find?_eq_some found) there (only other (List.find?_some found :))
    rw [same]

/-- What became of a row listed by its key before an update. -/
theorem listed_of_update {listed : Row → Bool} (named : ∀ row, key (change row) = key row)
    (there : row ∈ (table.update picked change named).rows) (kept : key row ∈ (table.rows.filter listed).map key) :
    ∃ old ∈ table.rows, listed old = true ∧ (row = change old ∨ picked old = false ∧ row = old) := by
  obtain ⟨old, here, rfl⟩ := mem_update.mp there
  have same : key (if picked old = true then change old else old) = key old := by
    split
    · exact named old
    · rfl
  obtain ⟨other, before, its⟩ := List.mem_map.mp kept
  obtain ⟨before, chosen⟩ := List.mem_filter.mp before
  obtain rfl := table.eq_of_key before here (its.trans same)
  refine ⟨other, here, chosen, ?_⟩
  split
  · exact .inl rfl
  · rename_i spared
    exact .inr ⟨Bool.eq_false_iff.mpr spared, rfl⟩

theorem rows_injective {first second : Keyed key} (same : first.rows = second.rows) : first = second := by
  cases first
  cases second
  cases same
  rfl

theorem rows_update (named : ∀ row, key (change row) = key row) :
    (table.update picked change named).rows = table.rows.map fun row => if picked row = true then change row else row := rfl

/-- Rows updated one after the other, each by its key: the rows of the keys listed are changed, once each. -/
theorem foldl_update (named : ∀ row, key (change row) = key row) {ids : List Nat} (apart : ids.Nodup) :
    ids.foldl (fun held id => held.update (key · == id) change named) table = table.update (fun row => ids.contains (key row)) change named := by
  apply rows_injective
  induction ids generalizing table with
  | nil =>
    simp [update]
  | cons id rest ih =>
    obtain ⟨new, later⟩ := List.nodup_cons.mp apart
    rw [List.foldl_cons, ih later, rows_update, rows_update, rows_update, List.map_map]
    refine List.map_congr_left fun row there => ?_
    by_cases here : key row = id
    · have done : key (change row) ∉ rest := by
        rw [named, here]
        exact new
      simp [here, done]
    · simp [here]

/-- Every picked row updated by its key, whatever the order. -/
theorem foldl_update_rows (named : ∀ row, key (change row) = key row) {rows : List Row} (same : rows.Perm (table.rows.filter picked)) :
    rows.foldl (fun held row => held.update (key · == key row) change named) table = table.update picked change named := by
  have apart : (rows.map key).Nodup := (same.map key).nodup_iff.mpr (table.keyed.sublist (List.filter_sublist.map key))
  have folded := @foldl_update _ _ table change named _ apart
  rw [List.foldl_map] at folded
  rw [folded]
  apply rows_injective
  rw [rows_update, rows_update]
  refine List.map_congr_left fun row there => ?_
  have listed : (rows.map key).contains (key row) = picked row := by
    rw [Bool.eq_iff_iff, List.contains_iff_mem]
    constructor
    · intro member
      obtain ⟨other, here, its⟩ := List.mem_map.mp member
      obtain ⟨before, chosen⟩ := List.mem_filter.mp (same.mem_iff.mp here)
      exact table.eq_of_key before there its ▸ chosen
    · intro chosen
      exact List.mem_map_of_mem (same.mem_iff.mpr (List.mem_filter.mpr ⟨there, chosen⟩))
  rw [listed]

/-- What became of a table: every row is still there, changed as allowed at most, and a row that was not has a key no row had. -/
structure Evolves (changed : Row → Row → Prop) (born : Row → Prop) (table next : Keyed key) : Prop where
  kept : ∀ old ∈ table.rows, ∃ row ∈ next.rows, key row = key old ∧ changed old row
  came : ∀ row ∈ next.rows, (∃ old ∈ table.rows, key row = key old ∧ changed old row) ∨ table.fresh ≤ key row ∧ born row

namespace Evolves
variable {changed : Row → Row → Prop} {born : Row → Prop} {next last : Keyed key}

theorem refl (unchanged : ∀ row, changed row row) : Evolves changed born table table where
  kept := fun row there => ⟨row, there, rfl, unchanged row⟩
  came := fun row there => .inl ⟨row, there, rfl, unchanged row⟩

theorem create (unchanged : ∀ row, changed row row) (named : ∀ id, key (make id) = id) (bears : born (make table.fresh)) :
    Evolves changed born table (table.create make named) where
  kept := fun row there => ⟨row, (mem_create named).mpr (.inl there), rfl, unchanged row⟩
  came := by
    intro row there
    rcases (mem_create named).mp there with old | rfl
    · exact .inl ⟨row, old, rfl, unchanged row⟩
    · exact .inr ⟨(named _).ge, bears⟩

theorem update (unchanged : ∀ row, changed row row) (named : ∀ row, key (change row) = key row)
    (changes : ∀ row ∈ table.rows, picked row = true → changed row (change row)) :
    Evolves changed born table (table.update picked change named) := by
  have each : ∀ old ∈ table.rows, key (if picked old = true then change old else old) = key old ∧
      changed old (if picked old = true then change old else old) := by
    intro old there
    split
    · rename_i chosen
      exact ⟨named old, changes old there chosen⟩
    · exact ⟨rfl, unchanged old⟩
  constructor
  · intro old there
    exact ⟨_, mem_update.mpr ⟨old, there, rfl⟩, each old there⟩
  · intro row there
    obtain ⟨old, here, rfl⟩ := mem_update.mp there
    exact .inl ⟨old, here, each old here⟩

theorem fresh_le (evolves : Evolves changed born table next) : table.fresh ≤ next.fresh := by
  refine Keyed.fresh_le fun old there => ?_
  obtain ⟨row, here, same, -⟩ := evolves.kept old there
  exact same ▸ key_lt_fresh here

theorem was (evolves : Evolves changed born table next) (there : row ∈ next.rows) (drawn : key row < table.fresh) :
    ∃ old ∈ table.rows, key row = key old ∧ changed old row :=
  (evolves.came row there).resolve_right fun new => absurd new.1 (Nat.not_le.mpr drawn)

theorem trans (evolves : Evolves changed born table next) (later : Evolves changed born next last)
    (composes : ∀ {first second third}, changed first second → changed second third → changed first third)
    (bears : ∀ {first second}, born first → key second = key first → changed first second → born second) : Evolves changed born table last where
  kept := by
    intro old there
    obtain ⟨row, here, same, first⟩ := evolves.kept old there
    obtain ⟨final, last, again, second⟩ := later.kept row here
    exact ⟨final, last, again.trans same, composes first second⟩
  came := by
    intro final there
    rcases later.came final there with ⟨row, here, same, second⟩ | ⟨beyond, bears_⟩
    · rcases evolves.came row here with ⟨old, before, again, first⟩ | ⟨beyond, bore⟩
      · exact .inl ⟨old, before, same.trans again, composes first second⟩
      · exact .inr ⟨same ▸ beyond, bears bore same second⟩
    · exact .inr ⟨evolves.fresh_le.trans beyond, bears_⟩

end Evolves
end Keyed
end Grc.Lib
