import Grc.Lib.Checks
import Mathlib.Data.List.Nodup
import Mathlib.Order.Defs.Unbundled

/-! Database transactions. What a transaction writes before a refusal stands until a savepoint
around it takes the writes back, so where the savepoints are decides what a refusal leaves. -/
namespace Grc.Lib

universe u
variable {State Inner Refused α β : Type u}

/-- A stretch of a transaction: what it answers or is refused with, and the state with every
write it made by then. -/
abbrev Tx (State Refused : Type u) := ExceptT Refused (StateM State)

namespace Tx

def execute (tx : Tx State Refused α) (state : State) : Except Refused α × State := tx.run state

def left (tx : Tx State Refused α) (state : State) : State := (tx.execute state).2

def refuse (refused : Refused) : Tx State Refused α := throw refused

def check (checked : State → Except Refused α) : Tx State Refused α := fun state => (checked state, state)

def write (change : State → State) : Tx State Refused PUnit := fun state => (.ok ⟨⟩, change state)

def kept (state : State) : Except Refused α × State → Except Refused α × State
  | (.ok answer, after) => (.ok answer, after)
  | (.error refused, _) => (.error refused, state)

/-- `transaction.atomic()`: a refusal inside takes back every write made inside. -/
def atomic (tx : Tx State Refused α) : Tx State Refused α := fun state => kept state (tx.execute state)

def within (part : State → Inner) (put : Inner → State → State) (tx : Tx Inner Refused α) :
    Tx State Refused α := fun state =>
  match tx.execute (part state) with
  | (answer, after) => (answer, put after state)

def each (items : List β) (tx : β → Tx State Refused PUnit) : Tx State Refused PUnit :=
  items.foldr (fun item rest => tx item >>= fun _ => rest) (pure ⟨⟩)

def when (condition : Prop) [Decidable condition] (tx : Tx State Refused PUnit) : Tx State Refused PUnit :=
  if condition then tx else pure ⟨⟩

def given (value : Option β) (tx : β → Tx State Refused PUnit) : Tx State Refused PUnit :=
  match value with
  | some value => tx value
  | none => pure ⟨⟩

@[simp] theorem execute_pure (answer : α) (state : State) :
    (pure answer : Tx State Refused α).execute state = (.ok answer, state) := rfl

@[simp] theorem execute_refuse (refused : Refused) (state : State) :
    (refuse refused : Tx State Refused α).execute state = (.error refused, state) := rfl

@[simp] theorem execute_check (checked : State → Except Refused α) (state : State) :
    (check checked).execute state = (checked state, state) := rfl

@[simp] theorem execute_write (change : State → State) (state : State) :
    (write change : Tx State Refused PUnit).execute state = (.ok ⟨⟩, change state) := rfl

theorem execute_atomic (tx : Tx State Refused α) (state : State) :
    tx.atomic.execute state = kept state (tx.execute state) := rfl

theorem execute_bind (first : Tx State Refused α) (rest : α → Tx State Refused β) (state : State) :
    (first >>= rest).execute state =
      match first.execute state with
      | (.ok answer, after) => (rest answer).execute after
      | (.error refused, after) => (.error refused, after) := by
  change (match first.run state with | (answer, after) => (ExceptT.bindCont rest answer).run after) = _
  unfold execute
  rcases first.run state with ⟨_ | _, after⟩ <;> rfl

variable {state after : State}

theorem bind_ok {first : Tx State Refused α} {rest : α → Tx State Refused β}
    {answer : β} :
    (first >>= rest).execute state = (.ok answer, after) ↔
      ∃ value middle, first.execute state = (.ok value, middle) ∧
        (rest value).execute middle = (.ok answer, after) := by
  rw [execute_bind]
  rcases first.execute state with ⟨_ | value, middle⟩
  · simp
  · simp

theorem check_ok {checked : State → Except Refused α} {answer : α} :
    (check checked).execute state = (.ok answer, after) ↔ checked state = .ok answer ∧ after = state := by
  rw [execute_check, Prod.mk.injEq, eq_comm (a := state)]

theorem check_bind (checked : State → Except Refused α) (rest : α → Tx State Refused β) (state : State) :
    (check checked >>= rest).execute state =
      match checked state with
      | .ok answer => (rest answer).execute state
      | .error refused => (.error refused, state) := by
  rw [execute_bind, execute_check]
  cases checked state <;> rfl

theorem pure_ok {value answer : α} :
    (pure value : Tx State Refused α).execute state = (.ok answer, after) ↔ answer = value ∧ after = state := by
  rw [execute_pure, Prod.mk.injEq, Except.ok.injEq, eq_comm, eq_comm (a := state)]

theorem write_ok {change : State → State} {answer : PUnit} :
    (write change : Tx State Refused PUnit).execute state = (.ok answer, after) ↔ after = change state := by
  rw [execute_write, Prod.mk.injEq, eq_comm (a := change state)]
  exact and_iff_right rfl

theorem check_bind_ok {checked : State → Except Refused α} {rest : α → Tx State Refused β}
    {answer : β} :
    (check checked >>= rest).execute state = (.ok answer, after) ↔
      ∃ value, checked state = .ok value ∧ (rest value).execute state = (.ok answer, after) := by
  rw [check_bind]
  cases checked state <;> simp

theorem write_bind_ok {change : State → State} {rest : PUnit → Tx State Refused β}
    {answer : β} :
    ((write change : Tx State Refused PUnit) >>= rest).execute state = (.ok answer, after) ↔
      (rest ⟨⟩).execute (change state) = (.ok answer, after) := by
  rw [execute_bind, execute_write]

theorem atomic_ok {tx : Tx State Refused α} {answer : α} :
    tx.atomic.execute state = (.ok answer, after) ↔ tx.execute state = (.ok answer, after) := by
  rw [execute_atomic]
  rcases tx.execute state with ⟨_ | _, _⟩ <;> simp [kept]

theorem atomic_error {tx : Tx State Refused α} {refused : Refused}
    (refusal : tx.atomic.execute state = (.error refused, after)) : after = state := by
  rw [execute_atomic] at refusal
  rcases found : tx.execute state with ⟨_ | _, _⟩
  · rw [found] at refusal
    exact (Prod.mk.inj refusal).2.symm
  · simp [found, kept] at refusal

theorem within_ok {part : State → Inner} {put : Inner → State → State} {tx : Tx Inner Refused α}
    {answer : α} :
    (tx.within part put).execute state = (.ok answer, after) ↔
      ∃ inner, tx.execute (part state) = (.ok answer, inner) ∧ after = put inner state := by
  change (match tx.execute (part state) with | (answer, after) => (answer, put after state)) = _ ↔ _
  rcases tx.execute (part state) with ⟨found, inner⟩
  simp only [Prod.mk.injEq]
  constructor
  · rintro ⟨rfl, rfl⟩
    exact ⟨inner, ⟨rfl, rfl⟩, rfl⟩
  · rintro ⟨other, ⟨rfl, rfl⟩, rfl⟩
    exact ⟨rfl, rfl⟩

def Clean (tx : Tx State Refused α) : Prop :=
  ∀ state refused after, tx.execute state = (.error refused, after) → after = state

theorem Clean.atomic (tx : Tx State Refused α) : tx.atomic.Clean :=
  fun _ _ _ refusal => atomic_error refusal

theorem Clean.check_bind {checked : State → Except Refused α} {rest : α → Tx State Refused β}
    (clean : ∀ answer, (rest answer).Clean) : (Tx.check checked >>= rest).Clean := by
  intro state refused after refusal
  rw [Tx.check_bind] at refusal
  cases found : checked state with
  | error why =>
    rw [found] at refusal
    exact (Prod.mk.inj refusal).2.symm
  | ok answer =>
    rw [found] at refusal
    exact clean answer state refused after refusal

theorem Clean.write_pure (change : State → State) (answer : α) :
    ((Tx.write change : Tx State Refused PUnit) >>= fun _ => pure answer).Clean := by
  intro state refused after refusal
  rw [execute_bind, execute_write] at refusal
  cases refusal

theorem Clean.within {part : State → Inner} {put : Inner → State → State} {tx : Tx Inner Refused α}
    (clean : tx.Clean) (same : ∀ state, put (part state) state = state) : (tx.within part put).Clean := by
  intro state refused after refusal
  change (match tx.execute (part state) with | (answer, after) => (answer, put after state)) = _ at refusal
  rcases found : tx.execute (part state) with ⟨answer, inner⟩
  rw [found] at refusal
  obtain ⟨rfl, rfl⟩ := Prod.mk.inj refusal
  rw [clean (part state) refused inner found, same]

theorem Clean.bind_pure {tx : Tx State Refused α} (clean : tx.Clean) (answer : α → β) :
    (tx >>= fun value => pure (answer value)).Clean := by
  intro state refused after refusal
  rw [execute_bind] at refusal
  rcases found : tx.execute state with ⟨_ | value, middle⟩
  · rw [found] at refusal
    obtain ⟨-, rfl⟩ := Prod.mk.inj refusal
    exact clean state _ middle found
  · rw [found] at refusal
    cases refusal

def runs {Call : Type u} (step : Call → Tx State Refused α) (state : State) (calls : List Call) : State :=
  calls.foldl (fun state call => (step call).left state) state

variable {Call : Type u} {step : Call → Tx State Refused α}

@[simp] theorem runs_nil (state : State) : runs step state [] = state := rfl

theorem runs_append (state : State) (first second : List Call) :
    runs step state (first ++ second) = runs step (runs step state first) second :=
  List.foldl_append

theorem Clean.left_invariant {tx : Tx State Refused α} (clean : tx.Clean) (Holds : State → Prop)
    {state : State} (initial : Holds state)
    (kept : ∀ answer after, tx.execute state = (.ok answer, after) → Holds after) :
    Holds (tx.left state) := by
  cases found : tx.execute state with
  | mk outcome after =>
    have same : tx.left state = after := by rw [left, found]
    rw [same]
    cases outcome with
    | ok answer => exact kept answer after found
    | error refused =>
      rw [clean state refused after found]
      exact initial

theorem runs_invariant (Holds : State → Prop) {state : State} (initial : Holds state)
    (kept : ∀ state call, Holds state → Holds ((step call).left state)) (calls : List Call) :
    Holds (runs step state calls) := by
  induction calls generalizing state with
  | nil => exact initial
  | cons call rest ih => exact ih (kept state call initial)

section Keeps

variable {related : State → State → Prop}

/-- A transaction that goes, whatever its outcome, from a state to a related one. -/
def Keeps (related : State → State → Prop) (tx : Tx State Refused α) : Prop := ∀ state, related state (tx.left state)

theorem Keeps.write {change : State → State} (kept : ∀ state, related state (change state)) :
    (Tx.write change : Tx State Refused PUnit).Keeps related := kept

theorem Keeps.check [Std.Refl related] (checked : State → Except Refused α) : (Tx.check checked).Keeps related :=
  fun state => refl_of related state

theorem Keeps.pure [Std.Refl related] (answer : α) : (Pure.pure answer : Tx State Refused α).Keeps related :=
  fun state => refl_of related state

theorem Keeps.refuse [Std.Refl related] (refused : Refused) : (Tx.refuse refused : Tx State Refused α).Keeps related :=
  fun state => refl_of related state

theorem Keeps.bind [IsTrans State related] {first : Tx State Refused α} {rest : α → Tx State Refused β}
    (start : first.Keeps related) (goes : ∀ answer, (rest answer).Keeps related) : (first >>= rest).Keeps related := by
  intro state
  have begins := start state
  rw [left] at begins ⊢
  rw [execute_bind]
  rcases found : first.execute state with ⟨_ | answer, middle⟩
  · rwa [found] at begins
  · rw [found] at begins
    exact trans_of related begins (goes answer middle)

theorem Keeps.atomic [Std.Refl related] {tx : Tx State Refused α} (keeps : tx.Keeps related) :
    tx.atomic.Keeps related := by
  intro state
  have inside := keeps state
  rw [left] at inside ⊢
  rw [execute_atomic]
  rcases found : tx.execute state with ⟨_ | answer, after⟩
  · exact refl_of related state
  · rwa [found] at inside

theorem Keeps.each [Std.Refl related] [IsTrans State related] {tx : β → Tx State Refused PUnit}
    (keeps : ∀ item, (tx item).Keeps related) (items : List β) : (each items tx).Keeps related := by
  induction items with
  | nil => exact .pure _
  | cons item rest ih => exact .bind (keeps item) fun _ => ih

theorem Keeps.when [Std.Refl related] {condition : Prop} [Decidable condition] {tx : Tx State Refused PUnit}
    (keeps : condition → tx.Keeps related) : (Tx.when condition tx).Keeps related := by
  unfold Tx.when
  split
  · exact keeps ‹_›
  · exact .pure _

theorem Keeps.given [Std.Refl related] {tx : β → Tx State Refused PUnit} (keeps : ∀ value, (tx value).Keeps related)
    (value : Option β) : (Tx.given value tx).Keeps related := by
  cases value with
  | some value => exact keeps value
  | none => exact .pure _

theorem Keeps.mono {weaker : State → State → Prop} (implies : ∀ before after, related before after → weaker before after)
    {tx : Tx State Refused α} (keeps : tx.Keeps related) : tx.Keeps weaker :=
  fun state => implies _ _ (keeps state)

theorem Keeps.ok {tx : Tx State Refused α} (keeps : tx.Keeps related) {state after : State} {answer : α}
    (done : tx.execute state = (.ok answer, after)) : related state after := by
  have leaves := keeps state
  rwa [left, done] at leaves

end Keeps

/-- Where the transaction of an item adds what the item adds, the transactions of a list add what its items add. -/
theorem each_adds {Entry : Type*} (held : State → Entry → Prop) (adds : β → Entry → Prop) {tx : β → Tx State Refused PUnit}
    (one : ∀ item state after answer, (tx item).execute state = (.ok answer, after) →
      ∀ entry, held after entry ↔ held state entry ∨ adds item entry)
    {items : List β} {answer : PUnit} (done : (each items tx).execute state = (.ok answer, after))
    (entry : Entry) : held after entry ↔ held state entry ∨ ∃ item ∈ items, adds item entry := by
  induction items generalizing state with
  | nil =>
    obtain ⟨-, rfl⟩ := pure_ok.mp done
    simp
  | cons item rest ih =>
    obtain ⟨_, middle, first, later⟩ := bind_ok.mp done
    rw [ih later, one item state middle _ first entry, or_assoc]
    simp only [List.mem_cons, exists_eq_or_imp]

theorem when_ok {condition : Prop} [Decidable condition] {tx : Tx State Refused PUnit} {answer : PUnit}
    (done : (Tx.when condition tx).execute state = (.ok answer, after)) :
    (condition ∧ tx.execute state = (.ok answer, after)) ∨ (¬condition ∧ after = state) := by
  unfold Tx.when at done
  split at done
  · exact .inl ⟨‹_›, done⟩
  · exact .inr ⟨‹_›, (pure_ok.mp done).2⟩

end Tx
end Grc.Lib

/-! The refusals a chain of checks, or a transaction from a given state, can end in; and rows filed one after the other, each
under a key nobody holds. -/
namespace Grc.Lib

variable {Refused State α β : Type} {kind : Refused → Prop}

def RefusedAs (kind : Refused → Prop) (checked : Except Refused α) : Prop := ∀ refused, checked = .error refused → kind refused

namespace RefusedAs

theorem ok (value : α) : RefusedAs kind (.ok value : Except Refused α) := nofun

theorem require {condition : Prop} [Decidable condition] {refused : Refused} (its : kind refused) :
    RefusedAs kind (Grc.Lib.require condition refused) := by
  unfold Grc.Lib.require
  split
  · exact nofun
  · rintro _ ⟨⟩
    exact its

theorem demand {found : Option α} {refused : Refused} (its : kind refused) : RefusedAs kind (Grc.Lib.demand found refused) := by
  cases found with
  | some value => exact nofun
  | none =>
    rintro _ ⟨⟩
    exact its

theorem bind {first : Except Refused α} {rest : α → Except Refused β} (starts : RefusedAs kind first)
    (goes : ∀ value, first = .ok value → RefusedAs kind (rest value)) : RefusedAs kind (first >>= rest) := by
  cases first with
  | error refused =>
    rintro _ ⟨⟩
    exact starts refused rfl
  | ok value => exact goes value rfl

theorem map {first : Except Refused α} {change : α → β} (starts : RefusedAs kind first) : RefusedAs kind (first.map change) := by
  cases first with
  | error refused =>
    rintro _ ⟨⟩
    exact starts refused rfl
  | ok value => exact nofun

theorem optionally {lookup : β → Except Refused α} {wanted : Option β} (each : ∀ value, RefusedAs kind (lookup value)) :
    RefusedAs kind (Grc.Lib.optionally lookup wanted) := by
  cases wanted with
  | none => exact nofun
  | some value => exact map (each value)

theorem ite {condition : Prop} [Decidable condition] {yes no : Except Refused α} (ifYes : RefusedAs kind yes) (ifNo : RefusedAs kind no) :
    RefusedAs kind (if condition then yes else no) := by
  split
  · exact ifYes
  · exact ifNo

end RefusedAs

namespace Tx

def RefusedAs (kind : Refused → Prop) (tx : Tx State Refused α) (state : State) : Prop :=
  ∀ refused after, tx.execute state = (.error refused, after) → kind refused

namespace RefusedAs
variable {state : State}

theorem pure (answer : α) : RefusedAs kind (Pure.pure answer : Tx State Refused α) state := nofun

theorem write (change : State → State) : RefusedAs kind (Tx.write change : Tx State Refused PUnit) state := nofun

theorem check {checked : State → Except Refused α} (its : Grc.Lib.RefusedAs kind (checked state)) : RefusedAs kind (Tx.check checked) state := by
  intro refused after refusal
  rw [execute_check] at refusal
  exact its refused (Prod.mk.inj refusal).1

theorem bind {first : Tx State Refused α} {rest : α → Tx State Refused β} (starts : RefusedAs kind first state)
    (goes : ∀ value middle, first.execute state = (.ok value, middle) → RefusedAs kind (rest value) middle) :
    RefusedAs kind (first >>= rest) state := by
  intro refused after refusal
  rw [execute_bind] at refusal
  cases found : first.execute state with
  | mk outcome middle =>
    rw [found] at refusal
    cases outcome with
    | error why =>
      obtain ⟨same, -⟩ := Prod.mk.inj refusal
      obtain rfl := Except.error.inj same
      exact starts why middle found
    | ok value => exact goes value middle found refused after refusal

theorem check_bind {checked : State → Except Refused α} {rest : α → Tx State Refused β} (starts : Grc.Lib.RefusedAs kind (checked state))
    (goes : ∀ value, checked state = .ok value → RefusedAs kind (rest value) state) : RefusedAs kind (Tx.check checked >>= rest) state := by
  refine bind (check starts) fun value middle found => ?_
  obtain ⟨passed, rfl⟩ := check_ok.mp found
  exact goes value passed

theorem atomic {tx : Tx State Refused α} (its : RefusedAs kind tx state) : RefusedAs kind tx.atomic state := by
  intro refused after refusal
  rw [execute_atomic] at refusal
  cases found : tx.execute state with
  | mk outcome middle =>
    rw [found] at refusal
    cases outcome with
    | error why =>
      obtain ⟨same, -⟩ := Prod.mk.inj refusal
      obtain rfl := Except.error.inj same
      exact its why middle found
    | ok value => cases refusal

theorem when {condition : Prop} [Decidable condition] {tx : Tx State Refused PUnit} (its : condition → RefusedAs kind tx state) :
    RefusedAs kind (Tx.when condition tx) state := by
  unfold Tx.when
  split
  · exact its ‹_›
  · exact pure _

theorem given {value : Option β} {tx : β → Tx State Refused PUnit} (its : ∀ each ∈ value, RefusedAs kind (tx each) state) :
    RefusedAs kind (Tx.given value tx) state := by
  cases value with
  | some each => exact its each rfl
  | none => exact pure _

theorem each {tx : β → Tx State Refused PUnit} (ready : State → List β → Prop)
    (starts : ∀ item rest state, ready state (item :: rest) → RefusedAs kind (tx item) state)
    (goes : ∀ item rest state after answer, ready state (item :: rest) → (tx item).execute state = (.ok answer, after) → ready after rest)
    {items : List β} (its : ready state items) : RefusedAs kind (Tx.each items tx) state := by
  induction items generalizing state with
  | nil => exact pure _
  | cons item rest ih => exact bind (starts item rest state its) fun answer middle done => ih (goes item rest state middle answer its done)

end RefusedAs

section Same
variable {view : State → β}

def Same (view : State → β) (before after : State) : Prop := view after = view before

instance : Std.Refl (Same view) := ⟨fun _ => rfl⟩

instance : IsTrans State (Same view) := ⟨fun _ _ _ first second => Eq.trans second first⟩

theorem Same.of_done {tx : Tx State Refused α} (keeps : tx.Keeps (Same view)) {state after : State} {answer : α}
    (done : tx.execute state = (.ok answer, after)) : view after = view state := keeps.ok done

end Same

section Files
variable {Item Key : Type} {held : State → List Key} {key : Item → Key} {tx : Item → Tx State Refused PUnit} {items : List Item}
  {state after : State} {answer : PUnit}

/-- A transaction that files an item under a key nobody holds, and is otherwise refused as its kind allows. -/
structure Files (kind : Refused → Prop) (held : State → List Key) (key : Item → Key) (tx : Item → Tx State Refused PUnit) : Prop where
  adds : ∀ {item state after answer}, (tx item).execute state = (.ok answer, after) →
    key item ∉ held state ∧ held after = held state ++ [key item]
  refused : ∀ {item state}, key item ∉ held state → RefusedAs kind (tx item) state

namespace Files

theorem held_each (files : Files kind held key tx) (done : (each items tx).execute state = (.ok answer, after)) :
    held after = held state ++ items.map key := by
  induction items generalizing state with
  | nil =>
    obtain ⟨-, rfl⟩ := pure_ok.mp done
    exact (List.append_nil _).symm
  | cons item rest ih =>
    obtain ⟨_, middle, first, later⟩ := bind_ok.mp done
    rw [ih later, (files.adds first).2, List.append_assoc]
    rfl

theorem nodup_each (files : Files kind held key tx) (done : (each items tx).execute state = (.ok answer, after))
    (apart : (held state).Nodup) : (held after).Nodup := by
  induction items generalizing state with
  | nil =>
    obtain ⟨-, rfl⟩ := pure_ok.mp done
    exact apart
  | cons item rest ih =>
    obtain ⟨_, middle, first, later⟩ := bind_ok.mp done
    obtain ⟨new, grown⟩ := files.adds first
    refine ih later (grown ▸ List.nodup_append.mpr ⟨apart, List.nodup_singleton _, fun one there other last same => ?_⟩)
    exact new (List.mem_singleton.mp last ▸ same ▸ there)

theorem refused_each (files : Files kind held key tx) (apart : (held state ++ items.map key).Nodup) : RefusedAs kind (each items tx) state := by
  refine RefusedAs.each (fun state rest => (held state ++ rest.map key).Nodup) ?_ ?_ apart
  · intro item rest state apart
    exact files.refused fun there => (List.nodup_append.mp apart).2.2 _ there _ List.mem_cons_self rfl
  · intro item rest state after answer apart done
    rwa [(files.adds done).2, List.append_assoc]

end Files

theorem each_when {wanted : Item → Prop} [DecidablePred wanted] {does : Item → Tx State Refused PUnit} :
    (each items fun item => Tx.when (wanted item) (does item)) = each (items.filter fun item => wanted item) does := by
  induction items with
  | nil => rfl
  | cons item rest ih =>
    have later : (each (item :: rest) fun item => Tx.when (wanted item) (does item)) =
        Tx.when (wanted item) (does item) >>= fun _ => each (rest.filter fun item => wanted item) does := ih ▸ rfl
    rw [later, Tx.when, List.filter_cons]
    by_cases its : wanted item
    · rw [if_pos its, if_pos (decide_eq_true its)]
      rfl
    · rw [if_neg its, if_neg (by simp [its])]
      rfl

end Files
end Tx
end Grc.Lib
