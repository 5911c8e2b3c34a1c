import Mathlib.Data.List.Basic
import Mathlib.Logic.Function.Basic
import Mathlib.Logic.Relation

/-! What lies under given keys in a table whose rows name a parent, gathered a round at a time until
a round adds nothing. Parents may run in circles. -/
namespace Grc.Lib

variable {α κ : Type} [DecidableEq κ]

def childrenOf (key : α → κ) (parent : α → Option κ) (rows : List α) (held : List κ) : List κ :=
  (rows.filter fun row => !held.contains (key row) && (parent row).any held.contains).map key

/-- `WITH RECURSIVE … UNION`: these keys and what lies under them, so many rounds down. -/
def descend (key : α → κ) (parent : α → Option κ) (rows : List α) : Nat → List κ → List κ
  | 0, held => held
  | rounds + 1, held =>
    if childrenOf key parent rows held = [] then held
    else descend key parent rows rounds (held ++ childrenOf key parent rows held)

end Grc.Lib

/-! Forests as parent pointers: from every node the pointers lead to a node with no parent, and a node may hang anywhere but
under itself. -/
namespace Grc.Lib

universe u
variable {α : Type u} {parent : α → Option α} {node upper other : α}

def Step (parent : α → Option α) (node upper : α) : Prop := parent node = some upper

def Above (parent : α → Option α) : α → α → Prop := Relation.ReflTransGen (Step parent)

/-- A node from which the pointers lead to a root. -/
inductive Rooted (parent : α → Option α) : α → Prop where
  | root {node : α} (top : parent node = none) : Rooted parent node
  | under {node upper : α} (step : Step parent node upper) (rooted : Rooted parent upper) : Rooted parent node

def Forest (parent : α → Option α) : Prop := ∀ node, Rooted parent node

theorem Rooted.acyclic (rooted : Rooted parent node) : ¬Relation.TransGen (Step parent) node node := by
  induction rooted with
  | root top =>
    intro cycle
    obtain ⟨next, step, -⟩ := Relation.TransGen.head'_iff.mp cycle
    cases top.symm.trans step
  | under step _ ih =>
    intro cycle
    obtain ⟨next, first, path⟩ := Relation.TransGen.head'_iff.mp cycle
    obtain rfl := Option.some.inj (step.symm.trans first)
    exact ih (Relation.TransGen.tail' path step)

theorem not_rooted_of_closed {held : α → Prop} (closed : ∀ node, held node → ∃ upper, Step parent node upper ∧ held upper)
    (member : held node) : ¬Rooted parent node := by
  intro rooted
  induction rooted with
  | root top =>
    obtain ⟨upper, step, -⟩ := closed _ member
    cases top.symm.trans step
  | under step _ ih =>
    obtain ⟨upper, first, there⟩ := closed _ member
    obtain rfl := Option.some.inj (step.symm.trans first)
    exact ih there

section Update

variable [DecidableEq α] {placed : Option α}

theorem step_update (apart : node ≠ other) : Step (Function.update parent other placed) node upper ↔ Step parent node upper := by
  unfold Step
  rw [Function.update_of_ne apart]

theorem step_update_self : Step (Function.update parent node (some upper)) node upper := by
  rw [Step, Function.update_self]

theorem Above.update (path : Above parent upper node) : Above (Function.update parent node placed) upper node := by
  induction path using Relation.ReflTransGen.head_induction_on with
  | refl => exact .refl
  | head step _ ih =>
    rename_i first second _
    by_cases same : first = node
    · rw [same]
      exact .refl
    · exact .head ((step_update same).mpr step) ih

/-- What is not below a moved node stays rooted. -/
theorem Rooted.update (rooted : Rooted parent upper) (outside : ¬Above parent upper node) :
    Rooted (Function.update parent node placed) upper := by
  induction rooted with
  | root top =>
    rename_i first
    have apart : first ≠ node := by
      rintro rfl
      exact outside .refl
    exact .root ((Function.update_of_ne apart _ _).trans top)
  | under step _ ih =>
    rename_i first second _
    have apart : first ≠ node := by
      rintro rfl
      exact outside .refl
    exact .under ((step_update apart).mpr step) (ih fun path => outside (path.head step))

/-- A node of a forest may move under another exactly when it is neither that one nor above it. -/
theorem forest_update_iff (forest : Forest parent) :
    Forest (Function.update parent node (some upper)) ↔ ¬Above parent upper node := by
  constructor
  · intro moved path
    exact (moved node).acyclic (Relation.TransGen.head' step_update_self path.update)
  · intro outside other
    have target : Rooted (Function.update parent node (some upper)) upper := (forest upper).update outside
    induction forest other with
    | root top =>
      rename_i first
      by_cases same : first = node
      · rw [same]
        exact .under step_update_self target
      · exact .root ((Function.update_of_ne same _ _).trans top)
    | under step _ ih =>
      rename_i first second _
      by_cases same : first = node
      · rw [same]
        exact .under step_update_self target
      · exact .under ((step_update same).mpr step) ih

end Update

/-- Walking up from a node in search of another comes to an end: at that one, or at the top. -/
inductive WalkEnds (parent : α → Option α) (sought : α) : α → Prop where
  | meets : WalkEnds parent sought sought
  | top {node : α} (top : parent node = none) : WalkEnds parent sought node
  | up {node upper : α} (step : Step parent node upper) (ends : WalkEnds parent sought upper) : WalkEnds parent sought node

theorem Rooted.walkEnds (rooted : Rooted parent node) (sought : α) : WalkEnds parent sought node := by
  induction rooted with
  | root top => exact .top top
  | under step _ ih => exact .up step ih

end Grc.Lib
