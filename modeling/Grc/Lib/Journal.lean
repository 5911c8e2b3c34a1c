import Mathlib.Data.List.Basic
import Mathlib.Data.List.Chain
import Mathlib.Data.List.Induction
import Mathlib.Logic.Function.Basic

/-! Journals of switches. An entry names what it turned and which way; replaying the entries
in the order they were written gives back what is on. -/
namespace Grc.Lib

universe u
variable {α : Type u} [DecidableEq α]

/-- One entry of a journal. -/
structure Switch (α : Type u) where
  subject : α
  on : Bool

def Switch.apply (held : List α) (switch : Switch α) : List α :=
  if switch.on then held.insert switch.subject else held.filter (· ≠ switch.subject)

def replay (journal : List (Switch α)) : List α := journal.foldl Switch.apply []

def lastTurn (journal : List (Switch α)) : α → Option Bool :=
  journal.foldl (fun turned switch => Function.update turned switch.subject (some switch.on)) fun _ => none

@[simp] theorem replay_nil : replay ([] : List (Switch α)) = [] := rfl

@[simp] theorem lastTurn_nil (subject : α) : lastTurn ([] : List (Switch α)) subject = none := rfl

theorem replay_append (journal : List (Switch α)) (switch : Switch α) :
    replay (journal ++ [switch]) = switch.apply (replay journal) := by
  simp [replay]

theorem lastTurn_append (journal : List (Switch α)) (switch : Switch α) (subject : α) :
    lastTurn (journal ++ [switch]) subject =
      if subject = switch.subject then some switch.on else lastTurn journal subject := by
  simp [lastTurn, Function.update_apply]

theorem mem_replay_append {journal : List (Switch α)} {switch : Switch α} {subject : α} :
    subject ∈ replay (journal ++ [switch]) ↔
      if subject = switch.subject then switch.on = true else subject ∈ replay journal := by
  rw [replay_append]
  unfold Switch.apply
  cases switch.on <;> by_cases same : subject = switch.subject <;> simp [same]

def Alternates (journal : List (Switch α)) : Prop :=
  ∀ earlier switch later, journal = earlier ++ switch :: later →
    (switch.subject ∈ replay earlier ↔ switch.on = false)

theorem alternates_append {journal : List (Switch α)} {switch : Switch α}
    (alternates : Alternates journal) (turned : switch.subject ∈ replay journal ↔ switch.on = false) :
    Alternates (journal ++ [switch]) := by
  intro earlier other later split
  rcases List.eq_nil_or_concat later with rfl | ⟨rest, final, rfl⟩
  · obtain ⟨rfl, same⟩ := List.append_inj' split rfl
    cases same
    exact turned
  · have inner : journal = earlier ++ other :: rest := by
      have whole : journal ++ [switch] = (earlier ++ other :: rest) ++ [final] := by simpa using split
      exact (List.append_inj' whole rfl).1
    exact alternates earlier other rest inner

/-- A journal records a set: its replay is the set, and every entry turned something. -/
structure Records (journal : List (Switch α)) (held : α → Prop) : Prop where
  replayed : ∀ subject, subject ∈ replay journal ↔ held subject
  alternates : Alternates journal

theorem records_nil : Records ([] : List (Switch α)) fun _ => False where
  replayed := by simp
  alternates := by
    intro earlier switch later split
    simp at split

variable {journal : List (Switch α)} {held after : α → Prop} {subject : α}

theorem Records.turnOn (records : Records journal held) (off : ¬held subject)
    (now : ∀ other, after other ↔ other = subject ∨ held other) :
    Records (journal ++ [⟨subject, true⟩]) after where
  replayed other := by
    rw [mem_replay_append, now, records.replayed]
    by_cases same : other = subject <;> simp [same]
  alternates := alternates_append records.alternates (by simp [records.replayed, off])

theorem Records.turnOff (records : Records journal held) (on : held subject)
    (now : ∀ other, after other ↔ other ≠ subject ∧ held other) :
    Records (journal ++ [⟨subject, false⟩]) after where
  replayed other := by
    rw [mem_replay_append, now, records.replayed]
    by_cases same : other = subject <;> simp [same]
  alternates := alternates_append records.alternates (by simp [records.replayed, on])

end Grc.Lib

/-! A ledger of moves read as a path: each move leaves where the one before it arrived. -/
namespace Grc.Lib

universe u v
variable {Node : Type u} {Row : Type v} (source target : Row → Node) (edge : Node → Node → Prop)

/-- The rows lead from `start` to `finish` along edges, in the order they were written. -/
def Path : Node → List Row → Node → Prop
  | start, [], finish => start = finish
  | start, row :: rest, finish =>
    source row = start ∧ edge (source row) (target row) ∧ Path (target row) rest finish

variable {source target edge} {start finish : Node} {rows : List Row}

theorem Path.snoc {row : Row} (path : Path source target edge start rows finish)
    (leaves : source row = finish) (drawn : edge (source row) (target row)) :
    Path source target edge start (rows ++ [row]) (target row) := by
  induction rows generalizing start with
  | nil =>
    cases path
    exact ⟨leaves, drawn, rfl⟩
  | cons head rest ih =>
    obtain ⟨from_start, head_drawn, tail⟩ := path
    exact ⟨from_start, head_drawn, ih tail⟩

theorem Path.edge_of_mem {row : Row} (path : Path source target edge start rows finish)
    (member : row ∈ rows) : edge (source row) (target row) := by
  induction rows generalizing start with
  | nil => simp at member
  | cons head rest ih =>
    obtain ⟨-, drawn, tail⟩ := path
    rcases List.mem_cons.mp member with same | later
    · exact same ▸ drawn
    · exact ih tail later

theorem Path.isChain (path : Path source target edge start rows finish) :
    rows.IsChain (fun row next => target row = source next) := by
  induction rows generalizing start with
  | nil => exact .nil
  | cons head rest ih =>
    obtain ⟨-, -, tail⟩ := path
    cases rest with
    | nil => exact .singleton head
    | cons next later =>
      obtain ⟨meets, -, -⟩ := id tail
      exact .cons_cons meets.symm (ih tail)

theorem Path.head (path : Path source target edge start rows finish) {row : Row}
    (first : rows.head? = some row) : source row = start := by
  cases rows with
  | nil => simp at first
  | cons head rest =>
    cases first
    exact path.1

theorem Path.last (path : Path source target edge start rows finish) :
    (rows.getLast?.map target).getD start = finish := by
  induction rows generalizing start with
  | nil => exact path
  | cons head rest ih =>
    obtain ⟨-, -, tail⟩ := path
    rw [← ih tail]
    cases rest with
    | nil => rfl
    | cons next later => simp [List.getLast?_eq_some_getLast]

end Grc.Lib

/-! Who wrote what last: a log of writings, oldest first, read back for the last author of a thing. -/
namespace Grc.Lib

variable {Thing Author : Type} [DecidableEq Thing]

/-- Every writing of a thing, with its author. -/
abbrev Authors (Thing Author : Type) := List (Thing × Author)

namespace Authors

variable {log : Authors Thing Author} {things : List Thing} {thing : Thing} {author : Author}

def wrote (things : List Thing) (author : Author) : Authors Thing Author := things.map fun thing => (thing, author)

def lastBy (log : Authors Thing Author) (thing : Thing) : Option Author :=
  ((log.filter fun writing => writing.1 = thing).getLast?).map Prod.snd

@[simp] theorem lastBy_nil (thing : Thing) : lastBy ([] : Authors Thing Author) thing = none := rfl

theorem lastBy_append (log more : Authors Thing Author) (thing : Thing) :
    lastBy (log ++ more) thing = (lastBy more thing).or (lastBy log thing) := by
  unfold lastBy
  rw [List.filter_append, List.getLast?_append, Option.map_or]

theorem lastBy_wrote (member : thing ∈ things) (author : Author) : lastBy (wrote things author) thing = some author := by
  have listed : (thing, author) ∈ (wrote things author).filter fun writing => writing.1 = thing :=
    List.mem_filter.mpr ⟨List.mem_map_of_mem member, decide_eq_true rfl⟩
  have last := List.getLast?_eq_some_getLast (List.ne_nil_of_mem listed)
  rw [lastBy, last, Option.map_some, Option.some.injEq]
  obtain ⟨other, -, same⟩ := List.mem_map.mp (List.mem_of_mem_filter (List.getLast_mem (List.ne_nil_of_mem listed)))
  rw [← same]

theorem lastBy_of_not_mem (missing : ∀ writing ∈ log, writing.1 ≠ thing) : lastBy log thing = none := by
  have none : log.filter (fun writing => writing.1 = thing) = [] :=
    List.filter_eq_nil_iff.mpr fun writing member same => missing writing member (of_decide_eq_true same)
  rw [lastBy, none]
  rfl

theorem lastBy_append_wrote (log : Authors Thing Author) (member : thing ∈ things) (author : Author) :
    lastBy (log ++ wrote things author) thing = some author := by
  rw [lastBy_append, lastBy_wrote member, Option.some_or]

theorem lastBy_append_of_not_mem {more : Authors Thing Author} (missing : ∀ writing ∈ more, writing.1 ≠ thing) :
    lastBy (log ++ more) thing = lastBy log thing := by
  rw [lastBy_append, lastBy_of_not_mem missing, Option.none_or]

theorem mem_wrote {writing : Thing × Author} (member : writing ∈ wrote things author) : writing.1 ∈ things := by
  obtain ⟨thing, listed, rfl⟩ := List.mem_map.mp member
  exact listed

end Authors
end Grc.Lib
