import Mathlib.Data.List.Basic
import Mathlib.Data.List.Nodup
import Mathlib.Data.List.Perm.Subperm

/-! Rows numbered from 1, one after the other, as they are filed. -/
namespace Grc.Lib

variable {Row : Type} {number : Row → Nat} {rows : List Row} {row : Row}

/-- The numbers of some rows, in the order they were filed, are 1, 2 and so on: none left out and none given twice. -/
def Numbered (number : Row → Nat) (rows : List Row) : Prop := rows.map number = List.range' 1 rows.length

instance : Decidable (Numbered number rows) := inferInstanceAs (Decidable (_ = _))

namespace Numbered

theorem append (numbered : Numbered number rows) (next : number row = rows.length + 1) : Numbered number (rows ++ [row]) := by
  have last : List.range' 1 (rows.length + 1) = List.range' 1 rows.length ++ [rows.length + 1] := by
    rw [List.range'_concat, Nat.one_mul, Nat.add_comm 1]
  rw [Numbered, List.map_append, List.map_singleton, numbered, next, List.length_append, List.length_singleton, last]

theorem nodup (numbered : Numbered number rows) : (rows.map number).Nodup := by
  rw [numbered]
  exact List.nodup_range'

end Numbered

theorem foldl_max_range' (start count : Nat) : (List.range' (start + 1) count).foldl max start = start + count := by
  induction count generalizing start with
  | zero => rfl
  | succ count ih =>
    rw [List.range'_succ, List.foldl_cons, Nat.max_eq_right (Nat.le_succ start), ih]
    omega

end Grc.Lib

/-! Names drawn from numbered families: each time the first number whose name nobody in sight holds. -/
namespace Grc.Lib

variable {Name : Type} {form : Nat → Name} {held : Name → Prop} {number other : Nat}

/-- The first number, counted from 1, whose name is not held. -/
structure FirstFree (form : Nat → Name) (held : Name → Prop) (number : Nat) : Prop where
  counted : 1 ≤ number
  free : ¬ held (form number)
  passed : ∀ earlier, 1 ≤ earlier → earlier < number → held (form earlier)

theorem FirstFree.unique (first : FirstFree form held number) (again : FirstFree form held other) : number = other := by
  rcases Nat.lt_trichotomy number other with before | same | after
  · exact absurd (again.passed number first.counted before) first.free
  · exact same
  · exact absurd (first.passed other again.counted after) again.free

/-- Where the names differ from some number on, one of as many names as are held and one more is free. -/
theorem exists_free (form : Nat → Name) (held : List Name) (start : Nat)
    (distinct : ∀ number other, start ≤ number → start ≤ other → form number = form other → number = other) :
    ∃ number, start ≤ number ∧ number ≤ start + held.length ∧ form number ∉ held := by
  by_contra none
  have all : (List.range' start (held.length + 1)).map form ⊆ held := by
    intro name listed
    obtain ⟨number, inRange, rfl⟩ := List.mem_map.mp listed
    have bounds := List.mem_range'_1.mp inRange
    by_contra free
    exact none ⟨number, bounds.1, by omega, free⟩
  have once : ((List.range' start (held.length + 1)).map form).Nodup := by
    apply List.Nodup.map_on
    · intro number inRange other alsoInRange same
      exact distinct number other (List.mem_range'_1.mp inRange).1 (List.mem_range'_1.mp alsoInRange).1 same
    · exact List.nodup_range'
  have bound := (once.subperm all).length_le
  rw [List.length_map, List.length_range'] at bound
  omega

/-- Names drawn one after the other, one from each family, each drawn name in sight of the next. -/
inductive Draws : List Name → List (Nat → Name) → List Name → Prop where
  | nil {seen : List Name} : Draws seen [] []
  | cons {seen : List Name} {form : Nat → Name} {number : Nat} {forms : List (Nat → Name)} {names : List Name}
      (first : FirstFree form (· ∈ seen) number) (rest : Draws (form number :: seen) forms names) :
      Draws seen (form :: forms) (form number :: names)

namespace Draws

variable {seen names : List Name} {forms : List (Nat → Name)}

theorem unseen (draws : Draws seen forms names) : ∀ name ∈ names, name ∉ seen := by
  induction draws with
  | nil =>
    intro name listed
    cases listed
  | cons first rest ih =>
    intro name listed held
    rcases List.mem_cons.mp listed with rfl | later
    · exact first.free held
    · exact ih name later (List.mem_cons_of_mem _ held)

theorem nodup (draws : Draws seen forms names) : names.Nodup := by
  induction draws with
  | nil => exact List.nodup_nil
  | cons first rest ih =>
    apply List.nodup_cons.mpr
    refine ⟨?_, ih⟩
    intro again
    exact rest.unseen _ again List.mem_cons_self

end Draws

/-- The numbers that give each family a name which neither `stored` holds nor the families before it were
given, where every held name passed on the way is one of `loaded`, and no number reaches the limit. -/
def InSight (loaded stored : Name → Prop) (limit : Nat) : List Name → List (Nat → Name) → Prop
  | _, [] => True
  | given, form :: forms =>
    ∃ number, FirstFree form (fun name => stored name ∨ name ∈ given) number ∧ number < limit ∧
      (∀ earlier, 1 ≤ earlier → earlier < number → stored (form earlier) → loaded (form earlier)) ∧
      InSight loaded stored limit (form number :: given) forms

/-- Names drawn with only the loaded ones in view are new to all that is stored, and keep to the limit,
exactly when none of the numbers passes a stored name out of view. -/
theorem Draws.new_iff_inSight {stored loaded fits : Name → Prop} {limit : Nat} {forms : List (Nat → Name)}
    {seen names : List Name} (draws : Draws seen forms names) (given : List Name)
    (view : ∀ name, name ∈ seen ↔ name ∈ given ∨ loaded name) (kept : ∀ name, loaded name → stored name)
    (new : ∀ name ∈ given, ¬ stored name)
    (fit : ∀ form ∈ forms, ∀ number, 1 ≤ number → (fits (form number) ↔ number < limit)) :
    (∀ name ∈ names, fits name ∧ ¬ stored name) ↔ InSight loaded stored limit given forms := by
  induction draws generalizing given with
  | nil =>
    constructor
    · intro _
      trivial
    · intro _ name listed
      cases listed
  | @cons seen form number forms names first rest ih =>
    have viewed : ∀ name, name ∈ form number :: seen ↔ name ∈ form number :: given ∨ loaded name := by
      intro name
      rw [List.mem_cons, List.mem_cons, view name, or_assoc]
    have fitted := fun later listed => fit later (List.mem_cons_of_mem form listed)
    constructor
    · intro good
      have drawn := good (form number) List.mem_cons_self
      have fresh : ∀ name ∈ form number :: given, ¬ stored name := by
        intro name listed
        rcases List.mem_cons.mp listed with rfl | before
        · exact drawn.2
        · exact new name before
      refine ⟨number, ⟨first.counted, ?_, ?_⟩, ?_, ?_, ?_⟩
      · rintro (held | before)
        · exact drawn.2 held
        · exact first.free ((view _).mpr (.inl before))
      · intro earlier counted before
        rcases (view _).mp (first.passed earlier counted before) with named | held
        · exact .inr named
        · exact .inl (kept _ held)
      · exact (fit form List.mem_cons_self number first.counted).mp drawn.1
      · intro earlier counted before held
        rcases (view _).mp (first.passed earlier counted before) with named | found
        · exact absurd held (new _ named)
        · exact found
      · exact (ih (form number :: given) viewed fresh fitted).mp
          fun name listed => good name (List.mem_cons_of_mem _ listed)
    · rintro ⟨other, right, below, inView, onward⟩
      have again : FirstFree form (· ∈ seen) other := by
        refine ⟨right.counted, ?_, ?_⟩
        · intro held
          rcases (view _).mp held with named | found
          · exact right.free (.inr named)
          · exact right.free (.inl (kept _ found))
        · intro earlier counted before
          rcases right.passed earlier counted before with held | named
          · exact (view _).mpr (.inr (inView earlier counted before held))
          · exact (view _).mpr (.inl named)
      obtain rfl := first.unique again
      have fresh : ∀ name ∈ form number :: given, ¬ stored name := by
        intro name listed
        rcases List.mem_cons.mp listed with rfl | before
        · exact fun held => right.free (.inl held)
        · exact new name before
      intro name listed
      rcases List.mem_cons.mp listed with rfl | later
      · exact ⟨(fit form List.mem_cons_self number first.counted).mpr below, fresh _ List.mem_cons_self⟩
      · exact (ih (form number :: given) viewed fresh fitted).mpr onward name later

end Grc.Lib
