import Grc.Lib.Keyed
import Mathlib.Order.Defs.Unbundled

/-! Transactions under way over a table: each has locked and loaded rows, and another waits for them. -/
namespace Grc.Lib

variable {Row Write : Type} {key : Row → Nat}

def lockedRow (key : Row → Nat) (loaded : Write → List Row) (underway : List (Nat × Write)) (row : Row) : Bool :=
  underway.any fun each => (loaded each.2).any fun held => key held == key row

/-- The transactions under way: what each has loaded is there as it loaded it, and no two have loaded one row. -/
structure Holding (loaded : Write → List Row) (table : Keyed key) (underway : List (Nat × Write)) : Prop where
  there : ∀ each ∈ underway, ∀ row ∈ loaded each.2, row ∈ table.rows
  apart : ∀ one ∈ underway, ∀ other ∈ underway, one.1 ≠ other.1 → ∀ row ∈ loaded one.2, ∀ held ∈ loaded other.2, key row ≠ key held

namespace Holding
variable {loaded : Write → List Row} {table next : Keyed key} {underway : List (Nat × Write)} {id : Nat} {write : Write}

theorem nil : Holding loaded table [] :=
  ⟨fun _ there => absurd there List.not_mem_nil, fun _ there => absurd there List.not_mem_nil⟩

/-- A transaction that begins loads rows of the table that no other has locked. -/
theorem begin_ (holding : Holding loaded table underway) (rows : ∀ row ∈ loaded write, row ∈ table.rows)
    (free : ∀ row ∈ loaded write, lockedRow key loaded underway row = false) : Holding loaded table (underway ++ [(id, write)]) := by
  have others : ∀ each ∈ underway, ∀ held ∈ loaded each.2, ∀ row ∈ loaded write, key held ≠ key row := by
    intro each there held locked row mine same
    have open_ := List.any_eq_false.mp (free row mine) each there
    exact open_ (List.any_eq_true.mpr ⟨held, locked, beq_iff_eq.mpr same⟩)
  constructor
  · intro each there row held
    rcases mem_concat.mp there with old | rfl
    · exact holding.there each old row held
    · exact rows row held
  · intro one first other second differ row mine held its
    rcases mem_concat.mp first with old | rfl
    · rcases mem_concat.mp second with older | rfl
      · exact holding.apart one old other older differ row mine held its
      · exact others one old row mine held its
    · rcases mem_concat.mp second with older | rfl
      · exact (others other older held its row mine).symm
      · exact absurd rfl differ

theorem finish (holding : Holding loaded table underway) (there : (id, write) ∈ underway)
    (spared : ∀ row ∈ table.rows, (∀ mine ∈ loaded write, key row ≠ key mine) → row ∈ next.rows) :
    Holding loaded next (underway.filter (·.1 ≠ id)) := by
  constructor
  · intro each left row held
    obtain ⟨member, other⟩ := List.mem_filter.mp left
    exact spared row (holding.there each member row held)
      fun mine its => holding.apart each member (id, write) there (of_decide_eq_true other) row held mine its
  · intro one first other second
    exact holding.apart one (List.mem_filter.mp first).1 other (List.mem_filter.mp second).1

theorem mono (holding : Holding loaded table underway) (spared : ∀ each ∈ underway, ∀ row ∈ loaded each.2, row ∈ next.rows) :
    Holding loaded next underway :=
  ⟨spared, holding.apart⟩

/-- Transactions that go on hold what they held. -/
theorem goOn {onward : Nat × Write → Nat × Write} (holding : Holding loaded table underway)
    (same : ∀ each ∈ underway, (onward each).1 = each.1 ∧ loaded (onward each).2 = loaded each.2) :
    Holding loaded table (underway.map onward) := by
  constructor
  · intro each there row held
    obtain ⟨before, was, rfl⟩ := List.mem_map.mp there
    rw [(same before was).2] at held
    exact holding.there before was row held
  · intro one first other second differ row mine held its
    obtain ⟨oneBefore, oneWas, rfl⟩ := List.mem_map.mp first
    obtain ⟨otherBefore, otherWas, rfl⟩ := List.mem_map.mp second
    rw [(same oneBefore oneWas).1, (same otherBefore otherWas).1] at differ
    rw [(same oneBefore oneWas).2] at mine
    rw [(same otherBefore otherWas).2] at its
    exact holding.apart oneBefore oneWas otherBefore otherWas differ row mine held its

theorem abort (holding : Holding loaded table underway) : Holding loaded table (underway.filter (·.1 ≠ id)) :=
  ⟨fun each left => holding.there each (List.mem_filter.mp left).1,
    fun one first other second => holding.apart one (List.mem_filter.mp first).1 other (List.mem_filter.mp second).1⟩

end Holding
end Grc.Lib

/-! Transactions under way that insert rows under a unique key: an insert finds the rows committed and those of its own transaction, and waits for
another transaction that has inserted its key. -/
namespace Grc.Lib

variable {Row Key Work : Type} {key : Row → Key} {made : Work → List Row} {rows next : List Row} {underway : List (Nat × Work)}
  {id other : Nat} {work later : Work}

def heldBy (underway : List (Nat × Work)) (id : Nat) : Option Work := (underway.find? (·.1 == id)).map (·.2)

def putBy (underway : List (Nat × Work)) (id : Nat) (later : Work) : List (Nat × Work) :=
  underway.map fun each => if each.1 = id then (id, later) else each

def withoutBy (underway : List (Nat × Work)) (id : Nat) : List (Nat × Work) := underway.filter (·.1 ≠ id)

def waitsFor [DecidableEq Key] (key : Row → Key) (made : Work → List Row) (underway : List (Nat × Work)) (id : Nat) (wanted : Key) : Prop :=
  ∃ each ∈ underway, each.1 ≠ id ∧ wanted ∈ (made each.2).map key

instance [DecidableEq Key] (wanted : Key) : Decidable (waitsFor key made underway id wanted) := by
  unfold waitsFor
  infer_instance

theorem mem_of_heldBy (held : heldBy underway id = some work) : (id, work) ∈ underway := by
  obtain ⟨⟨named, its⟩, found, rfl⟩ := Option.map_eq_some_iff.mp held
  have same : named = id := beq_iff_eq.mp (List.find?_some found :)
  subst same
  exact List.mem_of_find?_eq_some found

theorem heldBy_eq_none : heldBy underway id = none ↔ ∀ each ∈ underway, each.1 ≠ id := by
  rw [heldBy, Option.map_eq_none_iff, List.find?_eq_none]
  exact forall₂_congr fun each _ => not_congr beq_iff_eq

theorem heldBy_putBy (held : heldBy underway id = some work) : heldBy (putBy underway id later) id = some later := by
  induction underway with
  | nil => cases held
  | cons first rest ih =>
    rw [putBy, List.map_cons, heldBy]
    by_cases its : first.1 = id
    · simp [its]
    · rw [if_neg its, List.find?_cons_of_neg (by simpa using its)]
      rw [heldBy, List.find?_cons_of_neg (by simpa using its)] at held
      exact ih held

theorem heldBy_putBy_other (apart : other ≠ id) : heldBy (putBy underway id later) other = heldBy underway other := by
  induction underway with
  | nil => rfl
  | cons first rest ih =>
    rw [putBy, List.map_cons, heldBy, heldBy]
    by_cases its : first.1 = id
    · have theirs : ¬first.1 = other := fun same => apart (same.symm.trans its)
      rw [if_pos its, List.find?_cons_of_neg (by simpa using apart.symm), List.find?_cons_of_neg (by simpa using theirs)]
      exact ih
    · rw [if_neg its]
      by_cases theirs : first.1 = other
      · rw [List.find?_cons_of_pos (by simpa using theirs), List.find?_cons_of_pos (by simpa using theirs)]
      · rw [List.find?_cons_of_neg (by simpa using theirs), List.find?_cons_of_neg (by simpa using theirs)]
        exact ih

theorem heldBy_withoutBy : heldBy (withoutBy underway id) id = none :=
  heldBy_eq_none.mpr fun _ left => of_decide_eq_true (List.mem_filter.mp left).2

theorem heldBy_withoutBy_other (apart : other ≠ id) : heldBy (withoutBy underway id) other = heldBy underway other := by
  rw [heldBy, heldBy, withoutBy, List.find?_filter]
  congr 2
  funext each
  by_cases theirs : each.1 = other
  · simp [theirs, apart]
  · simp [theirs]

theorem heldBy_append (free : heldBy underway id = none) : heldBy (underway ++ [(id, work)]) id = some work := by
  rw [heldBy, Option.map_eq_none_iff] at free
  simp [heldBy, List.find?_append, free]

theorem heldBy_append_other (apart : other ≠ id) : heldBy (underway ++ [(id, work)]) other = heldBy underway other := by
  rw [heldBy, heldBy, List.find?_append, List.find?_cons_of_neg (by simpa using apart.symm), List.find?_nil, Option.or_none]

theorem of_mem_putBy {each : Nat × Work} (there : each ∈ putBy underway id later) : each = (id, later) ∨ each ∈ underway ∧ each.1 ≠ id := by
  obtain ⟨before, was, rfl⟩ := List.mem_map.mp there
  split
  · exact .inl rfl
  · rename_i others
    exact .inr ⟨was, others⟩

theorem mem_withoutBy {each : Nat × Work} : each ∈ withoutBy underway id ↔ each ∈ underway ∧ each.1 ≠ id := by
  rw [withoutBy, List.mem_filter, decide_eq_true_eq]

/-- A lock for a whole stretch of work: of the transactions under way at most one is past it. -/
def Alone (past : Work → Prop) (underway : List (Nat × Work)) : Prop :=
  ∀ one ∈ underway, ∀ other ∈ underway, past one.2 → past other.2 → one.1 = other.1

namespace Alone
variable {past : Work → Prop}

theorem nil : Alone past [] := fun _ there => absurd there List.not_mem_nil

theorem begin_ (alone : Alone past underway) (waits : ¬past work) : Alone past (underway ++ [(id, work)]) := by
  intro one first other second mine theirs
  rcases List.mem_append.mp first with old | new
  · rcases List.mem_append.mp second with older | newer
    · exact alone one old other older mine theirs
    · rw [List.mem_singleton.mp newer] at theirs
      exact absurd theirs waits
  · rw [List.mem_singleton.mp new] at mine
    exact absurd mine waits

/-- A transaction passes the lock that none is past, and one that is past it goes on. -/
theorem put (alone : Alone past underway) (held : heldBy underway id = some work)
    (passes : past later → past work ∨ ∀ each ∈ underway, ¬past each.2) : Alone past (putBy underway id later) := by
  have others : past later → ∀ each ∈ underway, each.1 ≠ id → ¬past each.2 := by
    intro mine each there apart theirs
    rcases passes mine with before | free
    · exact apart (alone each there (id, work) (mem_of_heldBy held) theirs before)
    · exact free each there theirs
  intro one first other second mine theirs
  rcases of_mem_putBy first with rfl | ⟨was, apart⟩
  · rcases of_mem_putBy second with rfl | ⟨its, apart⟩
    · rfl
    · exact absurd theirs (others mine other its apart)
  · rcases of_mem_putBy second with rfl | ⟨its, -⟩
    · exact absurd mine (others theirs one was apart)
    · exact alone one was other its mine theirs

theorem abort (alone : Alone past underway) : Alone past (withoutBy underway id) :=
  fun one first other second => alone one (mem_withoutBy.mp first).1 other (mem_withoutBy.mp second).1

theorem waits (alone : Alone past underway) (held : heldBy underway id = some work) (mine : past work) {each : Nat × Work}
    (there : each ∈ underway) (apart : each.1 ≠ id) : ¬past each.2 :=
  fun theirs => apart (alone each there (id, work) (mem_of_heldBy held) theirs mine)

end Alone

/-- A transaction that goes on holds what it held and rows no transaction had locked. -/
theorem Holding.put {named : Row → Nat} {loaded : Work → List Row} {table : Keyed named} (holding : Holding loaded table underway)
    (held : heldBy underway id = some work)
    (rows : ∀ row ∈ loaded later, row ∈ loaded work ∨ row ∈ table.rows ∧ lockedRow named loaded underway row = false) :
    Holding loaded table (putBy underway id later) := by
  have mine := mem_of_heldBy held
  have others : ∀ each ∈ underway, each.1 ≠ id → ∀ row ∈ loaded later, ∀ its ∈ loaded each.2, named row ≠ named its := by
    intro each there apart row loads its theirs
    rcases rows row loads with before | ⟨-, free⟩
    · exact holding.apart (id, work) mine each there apart.symm row before its theirs
    · intro same
      exact List.any_eq_false.mp free each there (List.any_eq_true.mpr ⟨its, theirs, beq_iff_eq.mpr same.symm⟩)
  constructor
  · intro each there row loads
    rcases of_mem_putBy there with rfl | ⟨was, -⟩
    · exact (rows row loads).elim (holding.there (id, work) mine row) (·.1)
    · exact holding.there each was row loads
  · intro one first other second differ row loads its theirs
    rcases of_mem_putBy first with rfl | ⟨was, apart⟩
    · rcases of_mem_putBy second with rfl | ⟨was, apart⟩
      · exact absurd rfl differ
      · exact others other was apart row loads its theirs
    · rcases of_mem_putBy second with rfl | ⟨its_, -⟩
      · exact (others one was apart its theirs row loads).symm
      · exact holding.apart one was other its_ differ row loads its theirs

/-- The unique key: over the rows committed with those of each transaction, and between transactions. -/
structure Inserting (key : Row → Key) (made : Work → List Row) (rows : List Row) (underway : List (Nat × Work)) : Prop where
  committed : (rows.map key).Nodup
  own : ∀ each ∈ underway, ((rows ++ made each.2).map key).Nodup
  apart : ∀ one ∈ underway, ∀ other ∈ underway, one.1 ≠ other.1 → ∀ wanted ∈ (made one.2).map key, wanted ∉ (made other.2).map key

namespace Inserting

theorem start (unique : (rows.map key).Nodup) : Inserting key made rows [] :=
  ⟨unique, fun _ there => absurd there List.not_mem_nil, fun _ there => absurd there List.not_mem_nil⟩

theorem begin_ (inserting : Inserting key made rows underway) (none : made work = []) :
    Inserting key made rows (underway ++ [(id, work)]) := by
  refine ⟨inserting.committed, List.forall_mem_append.mpr ⟨inserting.own, ?_⟩, ?_⟩
  · intro each there
    rw [List.mem_singleton.mp there, none, List.append_nil]
    exact inserting.committed
  · intro one first other second differ wanted mine theirs
    rcases List.mem_append.mp first with old | new
    · rcases List.mem_append.mp second with older | newer
      · exact inserting.apart one old other older differ wanted mine theirs
      · rw [List.mem_singleton.mp newer, none] at theirs
        cases theirs
    · rw [List.mem_singleton.mp new, none] at mine
      cases mine

/-- A transaction goes on with rows no other has inserted. -/
theorem put (inserting : Inserting key made rows underway) (unique : ((rows ++ made later).map key).Nodup)
    (alone : ∀ each ∈ underway, each.1 ≠ id → ∀ wanted ∈ (made later).map key, wanted ∉ (made each.2).map key) :
    Inserting key made rows (putBy underway id later) := by
  refine ⟨inserting.committed, ?_, ?_⟩
  · intro each there
    rcases of_mem_putBy there with rfl | ⟨was, -⟩
    · exact unique
    · exact inserting.own each was
  · intro one first other second differ wanted mine theirs
    rcases of_mem_putBy first with rfl | ⟨oneWas, oneOther⟩
    · rcases of_mem_putBy second with rfl | ⟨otherWas, apart⟩
      · exact differ rfl
      · exact alone other otherWas apart wanted mine theirs
    · rcases of_mem_putBy second with rfl | ⟨otherWas, -⟩
      · exact alone one oneWas oneOther wanted theirs mine
      · exact inserting.apart one oneWas other otherWas differ wanted mine theirs

theorem keep (inserting : Inserting key made rows underway) (there : (id, work) ∈ underway) (kept : (made later).Sublist (made work)) :
    Inserting key made rows (putBy underway id later) := by
  have fewer : ((made later).map key).Sublist ((made work).map key) := kept.map key
  refine inserting.put ?_ ?_
  · exact (inserting.own (id, work) there).sublist ((List.Sublist.append (List.Sublist.refl rows) kept).map key)
  · intro each others apart wanted mine theirs
    exact inserting.apart (id, work) there each others (Ne.symm apart) wanted (fewer.subset mine) theirs

theorem insert [DecidableEq Key] {row : Row} (inserting : Inserting key made rows underway) (there : (id, work) ∈ underway)
    (one : made later = made work ++ [row]) (new : key row ∉ (rows ++ made work).map key) (free : ¬waitsFor key made underway id (key row)) :
    Inserting key made rows (putBy underway id later) := by
  refine inserting.put ?_ ?_
  · rw [one, ← List.append_assoc, List.map_append]
    exact List.nodup_append.mpr ⟨inserting.own (id, work) there, List.nodup_singleton _,
      fun wanted before last its same => new ((List.mem_singleton.mp its).symm.trans same.symm ▸ before)⟩
  · intro each others apart wanted mine theirs
    rw [one, List.map_append] at mine
    rcases mem_concat.mp mine with before | rfl
    · exact inserting.apart (id, work) there each others (Ne.symm apart) wanted before theirs
    · exact free ⟨each, others, apart, theirs⟩

/-- It commits. -/
theorem commit (inserting : Inserting key made rows underway) (there : (id, work) ∈ underway) :
    Inserting key made (rows ++ made work) (withoutBy underway id) := by
  refine ⟨inserting.own (id, work) there, ?_, ?_⟩
  · intro each left
    obtain ⟨others, apart⟩ := mem_withoutBy.mp left
    have theirs := inserting.own each others
    rw [List.map_append] at theirs ⊢
    obtain ⟨-, unique, outside⟩ := List.nodup_append.mp theirs
    refine List.nodup_append.mpr ⟨inserting.own (id, work) there, unique, ?_⟩
    intro wanted before its held same
    rw [List.map_append] at before
    rcases List.mem_append.mp before with committed | mine
    · exact outside wanted committed its held same
    · exact inserting.apart (id, work) there each others (Ne.symm apart) wanted mine (same ▸ held)
  · intro one first other second
    exact inserting.apart one (mem_withoutBy.mp first).1 other (mem_withoutBy.mp second).1

theorem abort (inserting : Inserting key made rows underway) : Inserting key made rows (withoutBy underway id) :=
  ⟨inserting.committed, fun each left => inserting.own each (mem_withoutBy.mp left).1,
    fun one first other second => inserting.apart one (mem_withoutBy.mp first).1 other (mem_withoutBy.mp second).1⟩

theorem rekeyed (inserting : Inserting key made rows underway) (same : next.map key = rows.map key) : Inserting key made next underway := by
  refine ⟨same ▸ inserting.committed, fun each there => ?_, inserting.apart⟩
  rw [List.map_append, same, ← List.map_append]
  exact inserting.own each there

end Inserting
end Grc.Lib

/-! Programs of nested blocks, of which some undo what was done in them where they are left by an exception, and exceptions that are caught on
the way out. -/
namespace Grc.Lib

/-- A program: acts one after the other, blocks within frames, and the places where an exception is caught. -/
inductive Block (Act Frame Raised : Type) where
  | act (act : Act)
  | raises (error : Raised)
  | done
  | andThen (first second : Block Act Frame Raised)
  | within (frame : Frame) (body : Block Act Frame Raised)
  | caught (catches : Raised → Bool) (body : Block Act Frame Raised)

/-- How a program, or a part of it, ended. -/
structure Ended (State Raised : Type) where
  raised : Option Raised := none
  state : State

/-- What the acts do, and what entering and leaving each frame does: a frame is left with the state it was entered in at hand. -/
structure Meaning (Act Frame Raised State : Type) where
  act : Act → State → Ended State Raised
  enter : Frame → State → Ended State Raised
  leave : Frame → State → Ended State Raised → Ended State Raised

variable {Act Frame Raised State : Type} {meaning : Meaning Act Frame Raised State} {state later : State} {error : Raised}
  {first second body : Block Act Frame Raised} {frame : Frame} {catches : Raised → Bool}

def Ended.next (ended : Ended State Raised) (rest : State → Ended State Raised) : Ended State Raised :=
  match ended.raised with
  | none => rest ended.state
  | some _ => ended

def Ended.catching (ended : Ended State Raised) (catches : Raised → Bool) : Ended State Raised :=
  if ended.raised.any catches = true then { state := ended.state } else ended

@[simp] theorem Ended.catching_state (ended : Ended State Raised) (catches : Raised → Bool) : (ended.catching catches).state = ended.state := by
  unfold catching
  split <;> rfl

namespace Block

def exec (meaning : Meaning Act Frame Raised State) : Block Act Frame Raised → State → Ended State Raised
  | .act one, state => meaning.act one state
  | .raises error, state => { raised := some error, state }
  | .done, state => { state }
  | .andThen first second, state => (exec meaning first state).next (exec meaning second)
  | .within frame body, state => (meaning.enter frame state).next fun inside => meaning.leave frame state (exec meaning body inside)
  | .caught catches body, state => (exec meaning body state).catching catches

theorem exec_within_ok (entered : meaning.enter frame state = { state := later }) :
    exec meaning (within frame body) state = meaning.leave frame state (exec meaning body later) := by
  rw [exec, entered]
  rfl

/-- The induction over programs: a relation that composes, and that the acts and the frames keep, holds from the start of a program to its
end. -/
theorem exec_rel {Rel : State → State → Prop} (refl : ∀ state, Rel state state)
    (trans : ∀ {one two three}, Rel one two → Rel two three → Rel one three)
    (acts : ∀ act state, Rel state (meaning.act act state).state) (enters : ∀ frame state, Rel state (meaning.enter frame state).state)
    (leaves : ∀ frame outer ended, Rel outer ended.state → Rel outer (meaning.leave frame outer ended).state)
    (block : Block Act Frame Raised) (state : State) : Rel state (exec meaning block state).state := by
  induction block generalizing state with
  | act one => exact acts one state
  | raises error | done => exact refl state
  | andThen first second one two =>
    rw [exec, Ended.next]
    split
    · exact trans (one state) (two _)
    · exact one state
  | within frame body ih =>
    rw [exec, Ended.next]
    split
    · exact leaves frame state _ (trans (enters frame state) (ih _))
    · exact enters frame state
  | caught catches body ih =>
    rw [exec, Ended.catching_state]
    exact ih state

end Block
end Grc.Lib
