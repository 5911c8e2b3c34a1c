import Mathlib.Data.List.MinMax
import Mathlib.Data.List.Sort
import Mathlib.Data.Prod.Lex

/-! Rows in an order and the first of the least ranked of them: read off a sorted list by a fold, or
as the first row of a list sorted by rank. -/
namespace Grc.Lib

variable {α κ β : Type} [LinearOrder κ] [LinearOrder β] {rank : α → β} {place : α → κ} {rows : List α} {row other : α}

def inOrder (place : α → κ) (rows : List α) : List α := rows.insertionSort fun row other => place row ≤ place other

def byRank (rank : α → β) (place : α → κ) (rows : List α) : List α :=
  inOrder (fun row => toLex (rank row, place row)) rows

theorem mem_inOrder : row ∈ inOrder place rows ↔ row ∈ rows :=
  List.mem_insertionSort fun row other : α => place row ≤ place other

theorem inOrder_sorted (place : α → κ) (rows : List α) :
    (inOrder place rows).Pairwise fun row other => place row ≤ place other := by
  have total : Std.Total fun row other : α => place row ≤ place other := ⟨fun row other => le_total (place row) (place other)⟩
  have trans : IsTrans α fun row other : α => place row ≤ place other :=
    ⟨fun first second third early late => early.trans late⟩
  exact List.pairwise_insertionSort _ rows

theorem head_le (first : (inOrder place rows).head? = some row) (member : other ∈ rows) : place row ≤ place other := by
  obtain ⟨rest, same⟩ := List.head?_eq_some_iff.mp first
  have sorted := inOrder_sorted place rows
  rw [same, List.pairwise_cons] at sorted
  have among : other ∈ inOrder place rows := mem_inOrder.mpr member
  rw [same, List.mem_cons] at among
  rcases among with rfl | later
  · exact le_rfl
  · exact sorted.1 other later

/-- Of the least ranked rows in order, the fold keeps the first. -/
theorem argmin_le (sorted : rows.Pairwise fun row other => place row ≤ place other)
    (least : rows.argmin rank = some row) (member : other ∈ rows) (tied : rank other ≤ rank row) :
    place row ≤ place other := by
  induction rows generalizing row with
  | nil => cases member
  | cons head tail ih =>
    rw [List.pairwise_cons] at sorted
    rw [List.argmin_cons] at least
    cases found : tail.argmin rank with
    | none =>
      rw [found] at least
      obtain rfl := Option.some.inj least
      rcases List.mem_cons.mp member with rfl | later
      · exact le_rfl
      · exact sorted.1 other later
    | some held =>
      rw [found] at least
      dsimp only at least
      by_cases lower : rank held < rank head
      · rw [if_pos lower] at least
        obtain rfl := Option.some.inj least
        rcases List.mem_cons.mp member with rfl | later
        · exact absurd tied (not_le.mpr lower)
        · exact ih sorted.2 found later tied
      · rw [if_neg lower] at least
        obtain rfl := Option.some.inj least
        rcases List.mem_cons.mp member with rfl | later
        · exact le_rfl
        · exact sorted.1 other later

/-- The first row by rank is the one the fold keeps of the same rows in order, when no two share a
place. -/
theorem head_byRank {listed : List α} (sorted : listed.Pairwise fun row other => place row ≤ place other)
    (same : ∀ row, row ∈ listed ↔ row ∈ rows)
    (apart : ∀ row ∈ rows, ∀ other ∈ rows, place row = place other → row = other) :
    (byRank rank place rows).head? = listed.argmin rank := by
  cases found : listed.argmin rank with
  | none =>
    have empty : rows = [] := by
      apply List.eq_nil_iff_forall_not_mem.mpr
      intro row member
      have among := (same row).mpr member
      rw [List.argmin_eq_none.mp found] at among
      cases among
    rw [empty]
    rfl
  | some least =>
    have there : least ∈ rows := (same least).mp (List.argmin_mem found)
    cases first : (byRank rank place rows).head? with
    | none =>
      have among : least ∈ byRank rank place rows := mem_inOrder.mpr there
      rw [List.head?_eq_none_iff.mp first] at among
      cases among
    | some row =>
      have member : row ∈ rows := mem_inOrder.mp (List.mem_of_mem_head? first)
      have before := head_le first there
      have ranked : rank least ≤ rank row := List.le_of_mem_argmin ((same row).mpr member) found
      rw [Prod.Lex.toLex_le_toLex] at before
      rcases before with lower | ⟨tied, placed⟩
      · exact absurd ranked (not_le.mpr lower)
      · have back := argmin_le sorted found ((same row).mpr member) tied.le
        rw [apart row member least there (le_antisymm placed back)]

theorem argmin_map {γ : Type} (column : α → γ) (rank : γ → β) (rows : List α) :
    (rows.map column).argmin rank = (rows.argmin (rank ∘ column)).map column := by
  induction rows with
  | nil => rfl
  | cons head tail ih =>
    rw [List.map_cons, List.argmin_cons, List.argmin_cons, ih]
    cases tail.argmin (rank ∘ column) with
    | none => rfl
    | some held =>
      by_cases lower : rank (column held) < rank (column head)
      · simp only [Option.map_some, Function.comp_apply, if_pos lower]
      · simp only [Option.map_some, Function.comp_apply, if_neg lower]

/-! ## The first of many, from the first of each -/

section Slices

def putIn (place : α → κ) (row : α) (rows : List α) : List α := rows.orderedInsert (fun row other => place row ≤ place other) row

theorem inOrder_append (first second : List α) : inOrder place (first ++ second) = first.foldr (putIn place) (inOrder place second) := by
  induction first with
  | nil => rfl
  | cons row rest ih =>
    rw [List.cons_append, List.foldr_cons, ← ih]
    rfl

theorem putIn_cons : putIn place row (other :: rows) = if place row ≤ place other then row :: other :: rows else other :: putIn place row rows := rfl

theorem take_putIn (count : Nat) (rows : List α) : (putIn place row rows).take count = (putIn place row (rows.take count)).take count := by
  induction rows generalizing count with
  | nil => rw [List.take_nil]
  | cons head tail ih =>
    cases count with
    | zero => rfl
    | succ count =>
      rw [List.take_succ_cons, putIn_cons, putIn_cons]
      split
      · rw [List.take_succ_cons, List.take_succ_cons]
        cases count with
        | zero => rfl
        | succ count => rw [List.take_succ_cons, List.take_succ_cons, List.take_take, Nat.min_eq_left (Nat.le_succ count)]
      · rw [List.take_succ_cons, List.take_succ_cons, ih]

theorem take_foldr_putIn (count : Nat) (rows held : List α) :
    (rows.foldr (putIn place) held).take count = (rows.foldr (putIn place) (held.take count)).take count := by
  induction rows with
  | nil => rw [List.foldr_nil, List.foldr_nil, List.take_take, Nat.min_self]
  | cons row rest ih => rw [List.foldr_cons, List.foldr_cons, take_putIn, ih, ← take_putIn]

theorem foldr_putIn_after (after : ∀ row ∈ rows, place other < place row) (held : List α) :
    rows.foldr (putIn place) (other :: held) = other :: rows.foldr (putIn place) held := by
  induction rows with
  | nil => rfl
  | cons row rest ih =>
    obtain ⟨first, others⟩ := List.forall_mem_cons.mp after
    rw [List.foldr_cons, ih others, putIn_cons, if_neg (not_le.mpr first), List.foldr_cons]

theorem putIn_first (first : ∀ other ∈ rows, place row ≤ place other) : putIn place row rows = row :: rows := by
  cases rows with
  | nil => rfl
  | cons other rest => rw [putIn_cons, if_pos (first other List.mem_cons_self)]

theorem mem_foldr_putIn {held : List α} : other ∈ rows.foldr (putIn place) held ↔ other ∈ rows ∨ other ∈ held := by
  induction rows with
  | nil => simp
  | cons row rest ih =>
    rw [List.foldr_cons, putIn, List.mem_orderedInsert, ih, List.mem_cons, or_assoc]

/-- Of rows in order put in among others in order, the first are found with the first of them alone. -/
theorem take_putIn_sorted (count : Nat) {rows held : List α} (sorted : rows.Pairwise fun row other => place row ≤ place other)
    (heldSorted : held.Pairwise fun row other => place row ≤ place other) :
    (rows.foldr (putIn place) held).take count = ((rows.take count).foldr (putIn place) held).take count := by
  induction count generalizing rows held with
  | zero => rfl
  | succ count ih =>
    cases rows with
    | nil => rw [List.take_nil]
    | cons row rest =>
      obtain ⟨least, others⟩ := List.pairwise_cons.mp sorted
      have front : ∀ {held : List α}, (∀ other ∈ held, place row ≤ place other) → ∀ {rest : List α}, (∀ other ∈ rest, place row ≤ place other) →
          (row :: rest).foldr (putIn place) held = row :: rest.foldr (putIn place) held := by
        intro held below rest least
        rw [List.foldr_cons, putIn_first]
        intro other there
        rcases mem_foldr_putIn.mp there with among | kept
        · exact least other among
        · exact below other kept
      have fewer : ∀ other ∈ rest.take count, place row ≤ place other := fun other there => least other (List.mem_of_mem_take there)
      cases held with
      | nil =>
        rw [List.take_succ_cons, front (List.forall_mem_nil _) least, front (List.forall_mem_nil _) fewer, List.take_succ_cons, List.take_succ_cons, ih others .nil]
      | cons head tail =>
        obtain ⟨below, tails⟩ := List.pairwise_cons.mp heldSorted
        by_cases first : place row ≤ place head
        · have all : ∀ other ∈ head :: tail, place row ≤ place other :=
            List.forall_mem_cons.mpr ⟨first, fun other there => first.trans (below other there)⟩
          rw [List.take_succ_cons, front all least, front all fewer, List.take_succ_cons, List.take_succ_cons, ih others heldSorted]
        · have later : ∀ other ∈ row :: rest, place head < place other := List.forall_mem_cons.mpr
            ⟨not_le.mp first, fun other there => (not_le.mp first).trans_le (least other there)⟩
          have laterFew : ∀ other ∈ (row :: rest).take (count + 1), place head < place other :=
            fun other there => later other (List.mem_of_mem_take there)
          rw [foldr_putIn_after later, foldr_putIn_after laterFew, List.take_succ_cons, List.take_succ_cons, ih sorted tails,
            ih (sorted.sublist (List.take_sublist (count + 1) _)) tails, List.take_take, Nat.min_eq_left (Nat.le_succ count)]

theorem take_inOrder_flatten (place : α → κ) (count : Nat) (lists : List (List α))
    (sorted : ∀ rows ∈ lists, rows.Pairwise fun row other => place row ≤ place other) :
    (inOrder place lists.flatten).take count = (inOrder place (lists.map (·.take count)).flatten).take count := by
  induction lists with
  | nil => rfl
  | cons rows rest ih =>
    obtain ⟨first, others⟩ := List.forall_mem_cons.mp sorted
    rw [List.flatten_cons, List.map_cons, List.flatten_cons, inOrder_append, inOrder_append, take_foldr_putIn, ih others,
      ← take_foldr_putIn, take_putIn_sorted count first (inOrder_sorted place _)]

end Slices

end Grc.Lib
