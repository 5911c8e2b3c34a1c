import Grc.Lib.Ranked
import Mathlib.Data.List.Basic

/-! The first rows of a table in order, read a part at a time: each part's first rows, merged, begin as
the whole table does. -/
namespace Grc.Lib

variable {α κ ζ : Type} [LinearOrder κ] {place : α → κ} {rows : List α} {row other : α} {limit : Nat}

def before (place : α → κ) (rows : List α) (row : α) : Nat :=
  (rows.filter fun other => place other < place row).length

def Apart (place : α → κ) (rows : List α) : Prop := ∀ row ∈ rows, ∀ other ∈ rows, place row = place other → row = other

theorem inOrder_perm (place : α → κ) (rows : List α) : (inOrder place rows).Perm rows :=
  List.perm_insertionSort (fun row other : α => place row ≤ place other) rows

theorem before_perm {others : List α} (same : rows.Perm others) : before place rows row = before place others row :=
  (same.filter _).length_eq

theorem before_le {others : List α} (unique : rows.Nodup)
    (within : ∀ other ∈ rows, place other < place row → other ∈ others) :
    before place rows row ≤ before place others row := by
  apply (List.subperm_of_subset (unique.filter _) ?_).length_le
  intro other member
  obtain ⟨there, earlier⟩ := List.mem_filter.mp member
  exact List.mem_filter.mpr ⟨within other there (of_decide_eq_true earlier), earlier⟩

theorem before_mono (earlier : place other ≤ place row) : before place rows other ≤ before place rows row := by
  apply (List.monotone_filter_right rows ?_).length_le
  intro third placed
  exact decide_eq_true ((of_decide_eq_true placed).trans_le earlier)

theorem inOrder_strict (unique : rows.Nodup) (apart : Apart place rows) :
    (inOrder place rows).Pairwise fun row other => place row < place other := by
  have distinct : (inOrder place rows).Pairwise (· ≠ ·) := (inOrder_perm place rows).nodup_iff.mpr unique
  apply ((inOrder_sorted place rows).and distinct).imp_of_mem
  intro row other there here both
  apply lt_of_le_of_ne both.1
  intro same
  exact both.2 (apart row (mem_inOrder.mp there) other (mem_inOrder.mp here) same)

/-- The first rows in order are those with few before them. -/
theorem mem_take (sorted : rows.Pairwise fun row other => place row < place other) :
    row ∈ rows.take limit ↔ row ∈ rows ∧ before place rows row < limit := by
  induction rows generalizing limit with
  | nil => simp
  | cons head tail ih =>
    rw [List.pairwise_cons] at sorted
    cases limit with
    | zero => simp
    | succ limit =>
      rw [List.take_succ_cons, List.mem_cons, List.mem_cons, ih sorted.2]
      have first : before place (head :: tail) head = 0 := by
        apply List.length_eq_zero_iff.mpr
        apply List.filter_eq_nil_iff.mpr
        intro other member
        rw [decide_eq_true_eq, not_lt]
        rcases List.mem_cons.mp member with rfl | later
        · exact le_rfl
        · exact (sorted.1 other later).le
      have later : row ∈ tail → before place (head :: tail) row = before place tail row + 1 := by
        intro member
        have earlier : place head < place row := sorted.1 row member
        simp [before, earlier]
      constructor
      · rintro (rfl | ⟨member, few⟩)
        · exact ⟨.inl rfl, by rw [first]; exact limit.succ_pos⟩
        · exact ⟨.inr member, by rw [later member]; exact Nat.succ_lt_succ few⟩
      · rintro ⟨rfl | member, few⟩
        · exact .inl rfl
        · rw [later member] at few
          exact .inr ⟨member, Nat.lt_of_succ_lt_succ few⟩

theorem take_full (sorted : rows.Pairwise fun row other => place row < place other) (member : row ∈ rows)
    (missing : row ∉ rows.take limit) :
    (rows.take limit).length = limit ∧ ∀ other ∈ rows.take limit, place other < place row := by
  have parts := List.take_append_drop limit rows
  have dropped : row ∈ rows.drop limit := by
    rw [← parts] at member
    exact (List.mem_append.mp member).resolve_left missing
  constructor
  · rw [List.length_take, Nat.min_eq_left]
    have some_left := List.length_pos_of_mem dropped
    rw [List.length_drop] at some_left
    omega
  · rw [← parts, List.pairwise_append] at sorted
    exact fun other taken => sorted.2.2 other taken row dropped

variable [DecidableEq ζ] {zoneOf : α → ζ} {zones : List ζ}

def zoneRows (place : α → κ) (zoneOf : α → ζ) (limit : Nat) (rows : List α) (zone : ζ) : List α :=
  (inOrder place (rows.filter fun row => zoneOf row = zone)).take limit

def merged (place : α → κ) (zoneOf : α → ζ) (zones : List ζ) (limit : Nat) (rows : List α) : List α :=
  (inOrder place (zones.flatMap (zoneRows place zoneOf limit rows))).take limit

theorem zoneRows_mem {zone : ζ} (member : row ∈ zoneRows place zoneOf limit rows zone) :
    row ∈ rows ∧ zoneOf row = zone := by
  have listed := List.mem_filter.mp (mem_inOrder.mp (List.mem_of_mem_take member))
  exact ⟨listed.1, of_decide_eq_true listed.2⟩

theorem zone_strict (unique : rows.Nodup) (apart : Apart place rows) (zone : ζ) :
    (inOrder place (rows.filter fun row => zoneOf row = zone)).Pairwise fun row other => place row < place other :=
  inOrder_strict (unique.filter _) fun row member other among =>
    apart row (List.mem_of_mem_filter member) other (List.mem_of_mem_filter among)

theorem zoneRows_nodup (unique : rows.Nodup) (distinct : zones.Nodup) :
    (zones.flatMap (zoneRows place zoneOf limit rows)).Nodup := by
  rw [List.nodup_flatMap]
  constructor
  · intro zone _
    have whole := (inOrder_perm place (rows.filter fun row => zoneOf row = zone)).nodup_iff.mpr (unique.filter _)
    exact whole.sublist (List.take_sublist _ _)
  · apply List.Pairwise.imp _ distinct
    intro first second differ row one two
    exact differ ((zoneRows_mem one).2.symm.trans (zoneRows_mem two).2)

theorem limit_le_before (unique : rows.Nodup) (apart : Apart place rows) {parts : List α}
    (holds : ∀ other ∈ zoneRows place zoneOf limit rows (zoneOf row), other ∈ parts) (member : row ∈ rows)
    (missing : row ∉ zoneRows place zoneOf limit rows (zoneOf row)) : limit ≤ before place parts row := by
  have listed : row ∈ inOrder place (rows.filter fun other => zoneOf other = zoneOf row) :=
    mem_inOrder.mpr (List.mem_filter.mpr ⟨member, decide_eq_true rfl⟩)
  obtain ⟨full, earlier⟩ := take_full (zone_strict unique apart (zoneOf row)) listed missing
  have whole := (inOrder_perm place (rows.filter fun other => zoneOf other = zoneOf row)).nodup_iff.mpr
    (unique.filter _)
  have within : zoneRows place zoneOf limit rows (zoneOf row) ⊆ parts.filter fun other => place other < place row :=
    fun other taken => List.mem_filter.mpr ⟨holds other taken, decide_eq_true (earlier other taken)⟩
  calc limit = (zoneRows place zoneOf limit rows (zoneOf row)).length := full.symm
    _ ≤ before place parts row := (List.subperm_of_subset (whole.sublist (List.take_sublist _ _)) within).length_le

/-- The merge of every zone's first rows is the first rows of the whole, in order. -/
theorem merged_eq (unique : rows.Nodup) (apart : Apart place rows) (distinct : zones.Nodup)
    (covered : ∀ row ∈ rows, zoneOf row ∈ zones) :
    merged place zoneOf zones limit rows = (inOrder place rows).take limit := by
  have within : ∀ row ∈ zones.flatMap (zoneRows place zoneOf limit rows), row ∈ rows := by
    intro row member
    obtain ⟨zone, -, listed⟩ := List.mem_flatMap.mp member
    exact (zoneRows_mem listed).1
  have nodup : (zones.flatMap (zoneRows place zoneOf limit rows)).Nodup := zoneRows_nodup unique distinct
  have strict := inOrder_strict nodup fun row member other among => apart row (within row member) other (within other among)
  have whole := inOrder_strict unique apart
  have holds : ∀ row ∈ rows, ∀ other ∈ zoneRows place zoneOf limit rows (zoneOf row),
      other ∈ zones.flatMap (zoneRows place zoneOf limit rows) :=
    fun row member other listed => List.mem_flatMap.mpr ⟨zoneOf row, covered row member, listed⟩
  apply List.Pairwise.eq_of_mem_iff (strict.sublist (List.take_sublist _ _)) (whole.sublist (List.take_sublist _ _))
  intro row
  rw [mem_take strict, mem_take whole, mem_inOrder, mem_inOrder, before_perm (inOrder_perm place _),
    before_perm (inOrder_perm place _)]
  constructor
  · rintro ⟨member, few⟩
    refine ⟨within row member, lt_of_le_of_lt (before_le unique ?_) few⟩
    intro other listed earlier
    by_contra missing
    have many := limit_le_before unique apart (holds other listed) listed
      fun taken => missing (holds other listed other taken)
    exact absurd few (not_lt.mpr (many.trans (before_mono earlier.le)))
  · rintro ⟨member, few⟩
    have taken : row ∈ zoneRows place zoneOf limit rows (zoneOf row) := by
      by_contra missing
      have many := limit_le_before unique apart (fun other listed => (zoneRows_mem listed).1) member missing
      exact absurd few (not_lt.mpr many)
    exact ⟨holds row member row taken, lt_of_le_of_lt (before_le nodup fun other listed _ => within other listed) few⟩

end Grc.Lib

/-! One pass of a relay over items in order. An item's work is kept whole or undone; an item that
fails with attempts left stops the pass, and one that fails for the last time is left behind. -/
namespace Grc.Lib

variable {Item World Failure : Type} {work : Item → World → Except Failure World} {last : Item → Prop}
  {items delivered spent : List Item} {stopped : Option Item} {world after : World}

/-- What a pass delivers, what it leaves behind spent, and where it stops. -/
inductive Pass (work : Item → World → Except Failure World) (last : Item → Prop) :
    List Item → World → List Item → List Item → Option Item → World → Prop where
  | done (world : World) : Pass work last [] world [] [] none world
  | deliver {item : Item} {rest delivered spent : List Item} {stopped : Option Item} {world next after : World}
      (worked : work item world = .ok next) (goes : Pass work last rest next delivered spent stopped after) :
      Pass work last (item :: rest) world (item :: delivered) spent stopped after
  | spend {item : Item} {rest delivered spent : List Item} {stopped : Option Item} {world after : World}
      {failure : Failure} (failed : work item world = .error failure) (final : last item)
      (goes : Pass work last rest world delivered spent stopped after) :
      Pass work last (item :: rest) world delivered (item :: spent) stopped after
  | stop {item : Item} (rest : List Item) {world : World} {failure : Failure} (failed : work item world = .error failure)
      (again : ¬last item) : Pass work last (item :: rest) world [] [] (some item) world

namespace Pass

section
variable (pass : Pass work last items world delivered spent stopped after)
include pass

theorem delivered_sublist : delivered.Sublist items := by
  induction pass with
  | done world => exact .slnil
  | deliver worked goes ih => exact ih.cons_cons _
  | spend failed final goes ih => exact ih.cons _
  | stop rest failed again => exact List.nil_sublist _

theorem failed_sublist : (spent ++ stopped.toList).Sublist items := by
  induction pass with
  | done world => exact .slnil
  | deliver worked goes ih => exact ih.cons _
  | spend failed final goes ih => exact ih.cons_cons _
  | stop rest failed again => exact (List.nil_sublist rest).cons_cons _

theorem spent_last : ∀ item ∈ spent, last item := by
  induction pass with
  | done world => nofun
  | deliver worked goes ih => exact ih
  | spend failed final goes ih =>
    intro item member
    rcases List.mem_cons.mp member with rfl | later
    · exact final
    · exact ih item later
  | stop rest failed again => nofun

theorem stopped_again : ∀ item ∈ stopped, ¬last item := by
  induction pass with
  | done world => nofun
  | deliver worked goes ih | spend failed final goes ih => exact ih
  | stop rest failed again =>
    rintro item ⟨⟩
    exact again

end

/-- No item both is delivered and fails. -/
theorem apart (unique : items.Nodup) (pass : Pass work last items world delivered spent stopped after) :
    ∀ item ∈ delivered, item ∉ spent ++ stopped.toList := by
  induction pass with
  | done world => nofun
  | deliver worked goes ih =>
    rw [List.nodup_cons] at unique
    intro item member failed
    rcases List.mem_cons.mp member with rfl | later
    · exact unique.1 (goes.failed_sublist.subset failed)
    · exact ih unique.2 item later failed
  | spend failed final goes ih =>
    rw [List.nodup_cons] at unique
    intro item member failed
    rcases List.mem_cons.mp failed with rfl | later
    · exact unique.1 (goes.delivered_sublist.subset member)
    · exact ih unique.2 item member later
  | stop rest failed again => nofun

/-- What a pass leaves of the world is the work of the items it delivered, one after the other. -/
theorem effects (pass : Pass work last items world delivered spent stopped after) :
    delivered.foldlM (fun world item => work item world) world = .ok after := by
  induction pass with
  | done world => rfl
  | deliver worked goes ih =>
    rw [List.foldlM_cons, worked]
    exact ih
  | spend failed final goes ih => exact ih
  | stop rest failed again => rfl

/-- A pass that does not stop goes through every item. -/
theorem through (pass : Pass work last items world delivered spent none after) :
    ∀ item ∈ items, item ∈ delivered ∨ item ∈ spent := by
  generalize ended : none = stop at pass
  induction pass with
  | done world => nofun
  | deliver worked goes ih =>
    intro item member
    rcases List.mem_cons.mp member with rfl | later
    · exact .inl List.mem_cons_self
    · exact (ih ended item later).imp (List.mem_cons_of_mem _) id
  | spend failed final goes ih =>
    intro item member
    rcases List.mem_cons.mp member with rfl | later
    · exact .inr List.mem_cons_self
    · exact (ih ended item later).imp id (List.mem_cons_of_mem _)
  | stop rest failed again => cases ended

theorem first {item : Item} {rest : List Item} (pass : Pass work last (item :: rest) world delivered spent stopped after) :
    item ∈ delivered ∨ item ∈ spent ∨ stopped = some item := by
  cases pass with
  | deliver worked goes => exact .inl List.mem_cons_self
  | spend failed final goes => exact .inr (.inl List.mem_cons_self)
  | stop rest failed again => exact .inr (.inr rfl)

section Order

variable {precedes : Item → Item → Prop}

/-- What a pass attempts, it attempts after delivering or giving up all that comes before. -/
theorem earlier (ordered : items.Pairwise precedes) (asymmetric : ∀ item other, precedes item other → ¬precedes other item)
    (pass : Pass work last items world delivered spent stopped after) {item other : Item}
    (attempted : item ∈ delivered ∨ item ∈ spent ∨ stopped = some item) (member : other ∈ items)
    (before : precedes other item) : other ∈ delivered ∨ other ∈ spent := by
  induction pass with
  | done world => cases member
  | @deliver head rest delivered spent stopped _ _ _ worked goes ih =>
    rw [List.pairwise_cons] at ordered
    rcases List.mem_cons.mp member with rfl | later
    · exact .inl List.mem_cons_self
    · have attempted : item ∈ delivered ∨ item ∈ spent ∨ stopped = some item := by
        rcases attempted with taken | rest
        · rcases List.mem_cons.mp taken with rfl | after
          · exact absurd before (asymmetric _ _ (ordered.1 other later))
          · exact .inl after
        · exact .inr rest
      exact (ih ordered.2 attempted later).imp (List.mem_cons_of_mem _) id
  | @spend head rest delivered spent stopped _ _ _ failed final goes ih =>
    rw [List.pairwise_cons] at ordered
    rcases List.mem_cons.mp member with rfl | later
    · exact .inr List.mem_cons_self
    · have attempted : item ∈ delivered ∨ item ∈ spent ∨ stopped = some item := by
        rcases attempted with taken | taken | ended
        · exact .inl taken
        · rcases List.mem_cons.mp taken with rfl | after
          · exact absurd before (asymmetric _ _ (ordered.1 other later))
          · exact .inr (.inl after)
        · exact .inr (.inr ended)
      exact (ih ordered.2 attempted later).imp id (List.mem_cons_of_mem _)
  | @stop head rest _ failure failed again =>
    rw [List.pairwise_cons] at ordered
    obtain rfl : head = item := by
      rcases attempted with taken | taken | ended
      · cases taken
      · cases taken
      · exact Option.some.inj ended
    rcases List.mem_cons.mp member with rfl | later
    · exact absurd before (asymmetric _ _ before)
    · exact absurd before (asymmetric _ _ (ordered.1 other later))

end Order

end Pass

end Grc.Lib
