import Grc.Lib.Keyed
import Mathlib.Data.List.Dedup
import Mathlib.Data.List.Forall2

/-! Lists whose members stand in pairs. -/
namespace Grc.Lib

variable {Given Made : Type} {related other : Given → Made → Prop} {given : List Given} {made : List Made}

theorem fellow_of_left {each : Given} (same : given.length = made.length) (listed : each ∈ given) : ∃ fellow, (each, fellow) ∈ given.zip made := by
  rw [← List.map_fst_zip (Nat.le_of_eq same)] at listed
  obtain ⟨⟨_, fellow⟩, paired, rfl⟩ := List.mem_map.mp listed
  exact ⟨fellow, paired⟩

theorem fellow_of_right {each : Made} (same : given.length = made.length) (listed : each ∈ made) : ∃ fellow, (fellow, each) ∈ given.zip made := by
  rw [← List.map_snd_zip (Nat.le_of_eq same.symm)] at listed
  obtain ⟨⟨fellow, _⟩, paired, rfl⟩ := List.mem_map.mp listed
  exact ⟨fellow, paired⟩

theorem exists_forall₂ (answered : ∀ each ∈ given, ∃ made, related each made) : ∃ made, List.Forall₂ related given made := by
  induction given with
  | nil => exact ⟨[], .nil⟩
  | cons first rest ih =>
    obtain ⟨made, its⟩ := answered first List.mem_cons_self
    obtain ⟨others, theirs⟩ := ih fun each listed => answered each (List.mem_cons_of_mem _ listed)
    exact ⟨made :: others, .cons its theirs⟩

theorem forall₂_of_mem (paired : List.Forall₂ related given made)
    (besides : ∀ source ∈ given, ∀ each ∈ made, related source each → other source each) : List.Forall₂ other given made := by
  induction paired with
  | nil => exact .nil
  | cons first _ ih =>
    refine .cons (besides _ List.mem_cons_self _ List.mem_cons_self first) (ih fun source listed each there => ?_)
    exact besides source (List.mem_cons_of_mem _ listed) each (List.mem_cons_of_mem _ there)

theorem pairwise_of_forall₂ {apart : Given → Given → Prop} {parted : Made → Made → Prop} (paired : List.Forall₂ related given made)
    (each : given.Pairwise apart)
    (carried : ∀ first ∈ given, ∀ second ∈ given, ∀ here there, related first here → related second there → apart first second → parted here there) :
    made.Pairwise parted := by
  induction paired with
  | nil => exact .nil
  | @cons source one rest others first later ih =>
    obtain ⟨fromFirst, fromRest⟩ := List.pairwise_cons.mp each
    refine List.pairwise_cons.mpr ⟨fun fellow listed => ?_, ih fromRest fun a listed b there => carried a (.tail _ listed) b (.tail _ there)⟩
    obtain ⟨member, pair⟩ := fellow_of_right later.length_eq listed
    have there := (List.of_mem_zip pair).1
    exact carried source List.mem_cons_self member (.tail _ there) one fellow first (List.forall₂_zip later pair) (fromFirst member there)

theorem source_of_forall₂ (paired : List.Forall₂ related given made) {each : Made} (there : each ∈ made) : ∃ source ∈ given, related source each := by
  induction paired with
  | nil => cases there
  | cons first _ ih =>
    rcases List.mem_cons.mp there with rfl | later
    · exact ⟨_, List.mem_cons_self, first⟩
    · obtain ⟨source, listed, its⟩ := ih later
      exact ⟨source, List.mem_cons_of_mem _ listed, its⟩

theorem map_eq_of_forall₂ {Key : Type} {name : Given → Key} {named : Made → Key} (paired : List.Forall₂ related given made)
    (same : ∀ source each, related source each → named each = name source) : made.map named = given.map name := by
  induction paired with
  | nil => rfl
  | cons first _ ih => rw [List.map_cons, List.map_cons, ih, same _ _ first]

end Grc.Lib

/-! What a list adds to the keys already held: its items in turn, but none whose key is held by then. -/
namespace Grc.Lib

variable {Item Key : Type} [DecidableEq Key] {key : Item → Key} {held more : List Key} {items : List Item} {item : Item}

def missing (key : Item → Key) (held : List Key) : List Item → List Item
  | [] => []
  | item :: rest => if key item ∈ held then missing key held rest else item :: missing key (held ++ [key item]) rest

theorem missing_cons_held (before : key item ∈ held) : missing key held (item :: items) = missing key held items := if_pos before

theorem missing_cons_new (new : key item ∉ held) : missing key held (item :: items) = item :: missing key (held ++ [key item]) items :=
  if_neg new

theorem mem_of_missing (added : item ∈ missing key held items) : item ∈ items := by
  induction items generalizing held with
  | nil => exact added
  | cons first rest ih =>
    by_cases before : key first ∈ held
    · rw [missing_cons_held before] at added
      exact List.mem_cons_of_mem _ (ih added)
    · rw [missing_cons_new before] at added
      rcases List.mem_cons.mp added with rfl | later
      · exact List.mem_cons_self
      · exact List.mem_cons_of_mem _ (ih later)

theorem key_of_missing (added : item ∈ missing key held items) : key item ∉ held := by
  induction items generalizing held with
  | nil => cases added
  | cons first rest ih =>
    by_cases before : key first ∈ held
    · rw [missing_cons_held before] at added
      exact ih added
    · rw [missing_cons_new before] at added
      rcases List.mem_cons.mp added with rfl | later
      · exact before
      · exact fun before => ih later (List.mem_append_left _ before)

theorem missing_nodup : ((missing key held items).map key).Nodup := by
  induction items generalizing held with
  | nil => exact List.nodup_nil
  | cons first rest ih =>
    by_cases before : key first ∈ held
    · rw [missing_cons_held before]
      exact ih
    · rw [missing_cons_new before, List.map_cons, List.nodup_cons]
      refine ⟨fun again => ?_, ih⟩
      obtain ⟨other, added, same⟩ := List.mem_map.mp again
      exact key_of_missing added (same ▸ List.mem_append_right _ (List.mem_singleton_self _))

theorem held_or_missing (listed : item ∈ items) : key item ∈ held ++ (missing key held items).map key := by
  induction items generalizing held with
  | nil => cases listed
  | cons first rest ih =>
    by_cases before : key first ∈ held
    · rw [missing_cons_held before]
      rcases List.mem_cons.mp listed with rfl | later
      · exact List.mem_append_left _ before
      · exact ih later
    · rw [missing_cons_new before, List.map_cons, List.append_cons]
      rcases List.mem_cons.mp listed with rfl | later
      · exact List.mem_append_left _ (List.mem_append_right _ (List.mem_singleton_self _))
      · exact ih later

theorem missing_eq_nil (known : ∀ item ∈ items, key item ∈ held) : missing key held items = [] := by
  induction items with
  | nil => rfl
  | cons first rest ih =>
    rw [missing_cons_held (known first List.mem_cons_self)]
    exact ih fun item listed => known item (List.mem_cons_of_mem _ listed)

theorem missing_again (same : ∀ name, name ∈ more ↔ name ∈ held ++ (missing key held items).map key) : missing key more items = [] :=
  missing_eq_nil fun _ listed => (same _).mpr (held_or_missing listed)

theorem foldl_setDefault (given : List Item) : items.foldl (fun given item => if key item ∈ given.map key then given else given ++ [item]) given =
    given ++ missing key (given.map key) items := by
  induction items generalizing given with
  | nil => exact (List.append_nil _).symm
  | cons item rest ih =>
    rw [List.foldl_cons]
    by_cases held : key item ∈ given.map key
    · rw [if_pos held, ih, missing_cons_held held]
    · rw [if_neg held, ih, missing_cons_new held, List.map_append, List.append_assoc]
      rfl

section Once
variable {Ref : Type} [BEq Ref] [LawfulBEq Ref]

theorem eraseDups_of_nodup {refs : List Ref} (once : refs.Nodup) : refs.eraseDups = refs := by
  induction refs with
  | nil => rfl
  | cons ref rest ih =>
    obtain ⟨fresh, later⟩ := List.nodup_cons.mp once
    have kept : (rest.filter fun other => !other == ref) = rest := by
      refine List.filter_eq_self.mpr fun other there => ?_
      rw [Bool.not_eq_true', beq_eq_false_iff_ne]
      rintro rfl
      exact fresh there
    rw [List.eraseDups_cons, kept, ih later]

theorem nodup_eraseDups (refs : List Ref) : refs.eraseDups.Nodup := by
  generalize long : refs.length = length
  induction length using Nat.strong_induction_on generalizing refs with
  | _ length ih =>
    cases refs with
    | nil => exact List.nodup_nil
    | cons ref rest =>
      have shorter : (rest.filter fun other => !other == ref).length < length :=
        long ▸ Nat.lt_succ_of_le (List.length_filter_le _ _)
      rw [List.eraseDups_cons, List.nodup_cons]
      refine ⟨fun there => ?_, ih _ shorter _ rfl⟩
      have kept := (List.mem_filter.mp (List.mem_eraseDups.mp there)).2
      rw [beq_self_eq_true] at kept
      cases kept

end Once

end Grc.Lib

/-! Rows grouped by what they are to be given, and one update a group: every row is updated once. -/
namespace Grc.Lib

variable {Given Row Key : Type} {id : Given → Nat} {key : Given → Key} {given : List Given}
  {row : Row} {stamp : Key → Row → Row} {idOf : Row → Nat}

def grouped [DecidableEq Key] (id : Given → Nat) (key : Given → Key) (given : List Given) : List (Key × List Nat) :=
  (given.map key).dedup.map fun wanted => (wanted, (given.filter fun each => key each = wanted).map id)

def updatedBy (stamp : Key → Row → Row) (idOf : Row → Nat) (groups : List (Key × List Nat)) (row : Row) : Row :=
  groups.foldl (fun row group => if idOf row ∈ group.2 then stamp group.1 row else row) row

def Keyed.updateGroups (table : Keyed idOf) (stamp : Key → Row → Row) (named : ∀ key row, idOf (stamp key row) = idOf row)
    (groups : List (Key × List Nat)) : Keyed idOf :=
  groups.foldl (fun table group => table.update (fun row => decide (idOf row ∈ group.2)) (stamp group.1) (named group.1)) table

theorem Keyed.updateGroups_rows {table : Keyed idOf} {named : ∀ key row, idOf (stamp key row) = idOf row} {groups : List (Key × List Nat)} :
    (table.updateGroups stamp named groups).rows = table.rows.map (updatedBy stamp idOf groups) := by
  induction groups generalizing table with
  | nil => exact (List.map_id _).symm
  | cons group rest ih =>
    change ((table.update _ _ _).updateGroups stamp named rest).rows = _
    rw [ih, Keyed.update, List.map_map]
    refine List.map_congr_left fun row _ => ?_
    simp only [Function.comp_apply, updatedBy, List.foldl_cons, decide_eq_true_eq]

theorem updatedBy_none {groups : List (Key × List Nat)} (none : ∀ group ∈ groups, idOf row ∉ group.2) : updatedBy stamp idOf groups row = row := by
  induction groups with
  | nil => rfl
  | cons group rest ih =>
    obtain ⟨first, later⟩ := List.forall_mem_cons.mp none
    rw [updatedBy, List.foldl_cons, if_neg first]
    exact ih later

/-- A row one of the groups has, and no other, is updated once. -/
theorem updatedBy_once {groups : List (Key × List Nat)} {wanted : Key} (named : ∀ key row, idOf (stamp key row) = idOf row)
    (keys : (groups.map (·.1)).Nodup) (listed : ∃ group ∈ groups, group.1 = wanted)
    (held : ∀ group ∈ groups, idOf row ∈ group.2 ↔ group.1 = wanted) : updatedBy stamp idOf groups row = stamp wanted row := by
  induction groups with
  | nil =>
    obtain ⟨_, there, -⟩ := listed
    cases there
  | cons group rest ih =>
    obtain ⟨first, later⟩ := List.forall_mem_cons.mp held
    rw [List.map_cons, List.nodup_cons] at keys
    rw [updatedBy, List.foldl_cons]
    by_cases its : group.1 = wanted
    · rw [if_pos (first.mpr its), its]
      refine updatedBy_none fun other there has => ?_
      rw [named] at has
      exact keys.1 (List.mem_map.mpr ⟨other, there, ((later other there).mp has).trans its.symm⟩)
    · rw [if_neg fun has => its (first.mp has)]
      obtain ⟨other, there, same⟩ := listed
      rcases List.mem_cons.mp there with rfl | there
      · exact absurd same its
      · exact ih keys.2 ⟨other, there, same⟩ later

/-- Where rows of one id are of one key, a row that is given something is updated once, by its own key. -/
theorem updatedBy_grouped [DecidableEq Key] {each : Given} (named : ∀ key row, idOf (stamp key row) = idOf row)
    (one : ∀ first ∈ given, ∀ second ∈ given, id first = id second → key first = key second) (there : each ∈ given) (its : id each = idOf row) :
    updatedBy stamp idOf (grouped id key given) row = stamp (key each) row := by
  refine updatedBy_once named ?_ ⟨_, List.mem_map_of_mem (List.mem_dedup.mpr (List.mem_map_of_mem there)), rfl⟩ ?_
  · rw [grouped, List.map_map]
    exact (List.map_id _).symm ▸ List.nodup_dedup _
  · intro group listed
    obtain ⟨wanted, -, rfl⟩ := List.mem_map.mp listed
    simp only [List.mem_map, List.mem_filter, decide_eq_true_eq]
    constructor
    · rintro ⟨other, ⟨held, rfl⟩, same⟩
      exact one other held each there (same.trans its.symm)
    · rintro rfl
      exact ⟨each, ⟨there, rfl⟩, its⟩

theorem updatedBy_ungrouped [DecidableEq Key] (none : ∀ each ∈ given, id each ≠ idOf row) : updatedBy stamp idOf (grouped id key given) row = row := by
  refine updatedBy_none fun group listed has => ?_
  obtain ⟨wanted, -, rfl⟩ := List.mem_map.mp listed
  obtain ⟨each, there, same⟩ := List.mem_map.mp has
  exact none each (List.mem_of_mem_filter there) same

end Grc.Lib
