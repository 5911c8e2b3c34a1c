import Mathlib.Data.List.Forall2

/-! Calls written as a chain of checks, each of which may refuse. An accepted chain is
peeled apart from the front, one check at a time. -/
namespace Grc.Lib

universe u v
variable {Refused : Type u} {α β : Type v}

instance pairLawfulBEq : LawfulBEq (Nat × Nat) := inferInstance

def require (condition : Prop) [Decidable condition] (refused : Refused) : Except Refused Unit :=
  if condition then .ok () else .error refused

def demand (found : Option α) (refused : Refused) : Except Refused α :=
  match found with
  | some value => .ok value
  | none => .error refused

def optionally (lookup : β → Except Refused α) : Option β → Except Refused (Option α)
  | none => .ok none
  | some wanted => (lookup wanted).map some

@[simp] theorem require_ok {condition : Prop} [Decidable condition] {refused : Refused} {answer : Unit} :
    require condition refused = .ok answer ↔ condition := by
  unfold require
  split <;> simp_all

@[simp] theorem demand_ok {found : Option α} {refused : Refused} {value : α} :
    demand found refused = .ok value ↔ found = some value := by
  cases found <;> simp [demand]

theorem optionally_ok {lookup : β → Except Refused α} {wanted : Option β} {answer : Option α} :
    optionally lookup wanted = .ok answer ↔
      (wanted = none ∧ answer = none) ∨
        ∃ key value, wanted = some key ∧ answer = some value ∧ lookup key = .ok value := by
  cases wanted with
  | none => simp [optionally, eq_comm]
  | some key =>
    cases found : lookup key with
    | error refused => simp [optionally, found, Except.map]
    | ok value => simp [optionally, found, Except.map, eq_comm]

theorem bind_ok {first : Except Refused α} {rest : α → Except Refused β} {answer : β} :
    (first >>= rest) = .ok answer ↔ ∃ value, first = .ok value ∧ rest value = .ok answer := by
  cases first <;> simp [bind, Except.bind]

theorem map_ok {first : Except Refused α} {change : α → β} {answer : β} :
    first.map change = .ok answer ↔ ∃ value, first = .ok value ∧ change value = answer := by
  cases first <;> simp [Except.map]

theorem toOption_eq_some_iff {tried : Except Refused α} {value : α} :
    tried.toOption = some value ↔ tried = .ok value := by
  cases tried <;> simp [Except.toOption]

theorem mapM_ok {items : List β} {check : β → Except Refused α} {answers : List α}
    (checked : items.mapM check = .ok answers) : ∀ item ∈ items, ∃ answer, check item = .ok answer := by
  induction items generalizing answers with
  | nil => simp
  | cons first rest ih =>
    simp only [List.mapM_cons, bind_ok] at checked
    obtain ⟨answer, passed, others, later, -⟩ := checked
    intro item member
    rcases List.mem_cons.mp member with rfl | further
    · exact ⟨answer, passed⟩
    · exact ih later item further

theorem forM_ok {items : List β} {check : β → Except Refused PUnit.{u + 1}} {answer : PUnit} (checked : items.forM check = .ok answer) :
    ∀ item ∈ items, check item = .ok ⟨⟩ := by
  induction items with
  | nil => exact nofun
  | cons first rest ih =>
    obtain ⟨_, passed, later⟩ := bind_ok.mp checked
    exact List.forall_mem_cons.mpr ⟨passed, ih later⟩

theorem mapM_ok_iff {items : List β} {ask : β → Except Refused α} {answers : List α} :
    items.mapM ask = .ok answers ↔ List.Forall₂ (fun item answer => ask item = .ok answer) items answers := by
  induction items generalizing answers with
  | nil =>
    rw [List.mapM_nil, List.forall₂_nil_left_iff]
    exact ⟨fun done => (Except.ok.inj done).symm, fun none_ => none_ ▸ rfl⟩
  | cons item rest ih =>
    rw [List.mapM_cons, List.forall₂_cons_left_iff]
    simp only [bind_ok, ih]
    constructor
    · rintro ⟨answer, first, others, later, done⟩
      exact ⟨answer, others, first, later, (Except.ok.inj done).symm⟩
    · rintro ⟨answer, others, first, later, rfl⟩
      exact ⟨answer, first, others, later, rfl⟩

/-- The answers to a list of questions, each of which was answered. -/
theorem mapM_eq_some {items : List β} {ask : β → Option α} {answers : List α} :
    items.mapM ask = some answers ↔ items.map ask = answers.map some := by
  induction items generalizing answers with
  | nil => cases answers <;> simp
  | cons item rest ih =>
    simp only [List.mapM_cons, Option.bind_eq_bind, Option.bind_eq_some_iff, Option.pure_def, Option.some.injEq, ih, List.map_cons]
    constructor
    · rintro ⟨answer, first, others, later, rfl⟩
      rw [first, later, List.map_cons]
    · intro same
      cases answers with
      | nil => cases same
      | cons answer others =>
        obtain ⟨first, later⟩ := List.cons.inj same
        exact ⟨answer, first, others, later, rfl⟩

theorem exists_mapM {items : List β} {ask : β → Option α} (answered : ∀ item ∈ items, ∃ answer, ask item = some answer) :
    ∃ answers, items.mapM ask = some answers := by
  induction items with
  | nil => exact ⟨[], rfl⟩
  | cons item rest ih =>
    obtain ⟨answer, first⟩ := answered item List.mem_cons_self
    obtain ⟨answers, later⟩ := ih fun other there => answered other (List.mem_cons_of_mem _ there)
    refine ⟨answer :: answers, ?_⟩
    rw [List.mapM_cons, first, later]
    rfl

end Grc.Lib
