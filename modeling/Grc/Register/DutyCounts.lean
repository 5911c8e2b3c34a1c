import Grc.Register.DutyRuns
import Grc.Library.ShiftedExpansion

/-! Duties whose rule counts its dates. Each next date is looked for by counting again from the last one, so a
chain keeps to its count exactly as long as no occurrence is completed at the count while the rule, without it,
falls due again within the horizon. -/
namespace Grc.Register

open Grc.Shared Grc.Lib Grc.Library

variable {Rule : Type} {dateutil : Dateutil Rule} {falls : Rule → Day → Day → Prop} {cap : Nat}

def Counted (dateutil : Dateutil Rule) (cap : Nat) (rule text : String) (count : Nat) : Prop :=
  ∃ start parsed, validated dateutil cap rule start = .ok text ∧ dateutil.rrulestr text start = some parsed ∧
    parsed.count = some count

/-- The first dates of a series from its anchor on. -/
structure FirstDates (series : Day → Prop) (anchor : Day) (dates : List Day) : Prop where
  falls : ∀ day ∈ dates, series day ∧ anchor ≤ day
  all : ∀ day ∈ dates, ∀ other, series other → anchor ≤ other → other ≤ day → other ∈ dates

def DutyTable.dates (table : DutyTable) (key : ChainKey) : List Day := (table.chain key).map (·.dueDate)

section Next
variable {rule text : String} {count : Nat} {start finish : Day}

end Next

/-! ## The chains of counted rules over a run -/

theorem FirstDates.append {series : Day → Prop} {anchor day next : Day} {dates : List Day} (first : FirstDates series anchor dates)
    (listed : day ∈ dates) (falls : series next) (after : day < next) (least : ∀ other, series other → day < other → next ≤ other) :
    FirstDates series anchor (dates ++ [next]) where
  falls := by
    intro date member
    rcases mem_concat.mp member with old | rfl
    · exact first.falls date old
    · exact ⟨falls, le_trans (first.falls day listed).2 (le_of_lt after)⟩
  all := by
    intro date member other its above below
    rcases mem_concat.mp member with old | rfl
    · exact List.mem_append_left _ (first.all date old other its above below)
    · by_cases early : other ≤ day
      · exact List.mem_append_left _ (first.all day listed other its above early)
      · exact List.mem_append_right _ (List.mem_singleton.mpr (le_antisymm below (least other its (not_le.mp early))))

namespace DutyDesk
variable {desk next : DutyDesk} {call : DutyStep}

theorem dates_of_map (table : DutyTable) (change : DutyOccurrence → DutyOccurrence) (same : ∀ row, (change row).chain = row.chain)
    (dated : ∀ row, (change row).dueDate = row.dueDate) (key : ChainKey) :
    ({ table with occurrences := table.occurrences.map change } : DutyTable).dates key = table.dates key := by
  rw [DutyTable.dates, chain_map table same, List.map_map, DutyTable.dates]
  exact List.map_congr_left fun row _ => dated row

theorem dates_eq_nil {table : DutyTable} {key : ChainKey} : table.dates key = [] ↔ table.chain key = [] := List.map_eq_nil_iff

/-- What a step does to the dates of a chain: nothing, its first one from today, or its next one. -/
inductive Dated (dateutil : Dateutil Rule) (cap : Nat) (desk next : DutyDesk) (call : DutyStep) (key : ChainKey) : Prop where
  | same (dates : next.table.dates key = desk.table.dates key)
  | first (rule : String) (today due : Day) (duty : DutyRule) (known : duty ∈ desk.duties) (about : duty.id = key.duty)
      (its : duty.rule = rule) (empty : desk.table.dates key = []) (dates : next.table.dates key = [due])
      (found : nextDue dateutil cap rule today true = .ok (some due)) (begun : (key, today) ∈ next.firstDays)
  | following (request : Id) (actor : Actor) (note : String) (at_ : Instant) (row : DutyOccurrence) (duty : DutyRule) (due : Day)
      (its : call = .commitComplete request actor note at_) (under : (request, .completing row duty) ∈ desk.underway)
      (is_open : row.status ≠ .done) (active : duty.active = true) (chain : row.chain = key)
      (found : nextDue dateutil cap duty.rule row.dueDate false = .ok (some due))
      (dates : next.table.dates key = desk.table.dates key ++ [due])

theorem Effect.dated (sound : desk.Sound) (effect : Effect dateutil cap desk next call) (key : ChainKey) :
    Dated dateutil cap desk next call key := by
  cases effect with
  | aside quiet table => exact .same (by rw [table])
  | reassigned occurrence owner ownerTeam version rows =>
    refine .same ?_
    have moved := dates_of_map desk.table (fun row =>
      if row.id = occurrence then row.reassigned owner ownerTeam version else row)
      (fun row => by split <;> rfl) (fun row => by split <;> rfl) key
    rw [← moved, DutyTable.dates, DutyTable.dates]
    exact congrArg _ (chain_of_occurrences rows key)
  | scheduled request today pairs read rows chains answers firstDays =>
    rcases chains key with unchanged | ⟨pair, listed, named, empty, row, begun, -, found⟩
    · exact .same (by rw [DutyTable.dates, unchanged, DutyTable.dates])
    · obtain ⟨duty, known, same⟩ := read pair listed
      refine .first pair.2.rule today row.dueDate duty known ?_ same.rule (dates_eq_nil.mpr empty) ?_ found ?_
      · rw [named]
        exact same.id
      · rw [DutyTable.dates, begun, List.map_singleton]
      · rw [firstDays]
        refine List.mem_append_right _ (List.mem_map.mpr ⟨key, ?_, rfl⟩)
        rw [DutyDesk.begun, List.mem_filter, decide_eq_true_eq]
        refine ⟨List.mem_map.mpr ⟨pair, listed, named.symm⟩, empty, ?_⟩
        rw [begun]
        exact nofun
  | again request actor note at_ row duty due under done table => exact .same (by rw [table])
  | completed request actor note at_ row duty due person completion under is_open following finished =>
    have there := (sound.reads _ under).1
    have completing : (desk.table.completing row person note at_).dates key = desk.table.dates key := by
      rw [completing_eq sound.table there]
      exact dates_of_map _ _ (fun row => by split <;> rfl) (fun row => by split <;> rfl) key
    have dates : next.table.dates key = desk.table.dates key ++ ((if row.chain = key then completion.next.toList else []).map (·.dueDate)) := by
      rw [DutyTable.dates, finished.chain, List.map_append, ← completing, DutyTable.dates]
    by_cases own : row.chain = key
    · rw [if_pos own] at dates
      cases due with
      | none =>
        rw [(finished.none_ rfl).1, Option.toList_none, List.map_nil, List.append_nil] at dates
        exact .same dates
      | some day =>
        obtain ⟨later, shown, -, dated, -⟩ := finished.next day rfl
        rw [shown, Option.toList_some, List.map_singleton, dated] at dates
        unfold followingDate at following
        split at following
        · next active => exact .following request actor note at_ row duty day rfl under is_open active own following dates
        · cases following
    · rw [if_neg own, List.map_nil, List.append_nil] at dates
      exact .same dates

theorem Effect.firstDays (effect : Effect dateutil cap desk next call) : ∀ pair ∈ desk.firstDays, pair ∈ next.firstDays := by
  intro pair there
  cases effect with
  | aside quiet table answers firstDays | reassigned occurrence owner ownerTeam version rows answers firstDays => exact firstDays ▸ there
  | scheduled request today pairs read rows chains answers firstDays => exact firstDays ▸ List.mem_append_left _ there
  | again request actor note at_ row duty due under done table following answers firstDays => exact firstDays ▸ there
  | completed request actor note at_ row duty due person completion under is_open following finished answers firstDays =>
    exact firstDays ▸ there

theorem sameRule (sound : desk.Sound) (done : step dateutil cap desk call = .ok next) {old duty : DutyRule} (known : old ∈ desk.duties)
    (there : duty ∈ next.duties) (same : old.id = duty.id) : old.rule = duty.rule := by
  obtain ⟨nextSound, keeps, -⟩ := step_spec sound done
  obtain ⟨now, nowIn, still⟩ := keeps.duties old known
  rw [← nextSound.dutyIds now nowIn duty there (still.id.trans same)]
  exact still.rule.symm

section Step
variable {row : DutyOccurrence} {duty : DutyRule} {request : Id} {text : String} {count : Nat}

end Step

end DutyDesk

end Grc.Register
