import Grc.Register.DutyDesk

/-! The chains of a bank's duties: what each write of an occurrence does to them. -/
namespace Grc.Register

open Grc.Shared Grc.Lib Grc.Library

def Follows (earlier later : DutyOccurrence) : Prop := earlier.dueDate < later.dueDate ∧ earlier.status = .done

def IsChain (rows : List DutyOccurrence) : Prop := rows.Pairwise Follows

/-- The rows of a table, where `placed` says which entry a duty is the business of. -/
structure TableSound (placed : Id → Id → Prop) (table : DutyTable) : Prop where
  ids : (table.occurrences.map (·.id)).Nodup
  below : ∀ row ∈ table.occurrences, row.id < table.nextId
  known : ∀ row ∈ table.occurrences, placed row.recurringDuty row.tenantObligation
  chains : ∀ key, IsChain (table.chain key)

theorem mem_chain {table : DutyTable} {key : ChainKey} {row : DutyOccurrence} :
    row ∈ table.chain key ↔ row ∈ table.occurrences ∧ row.chain = key := by
  rw [DutyTable.chain, List.mem_filter, decide_eq_true_eq]

variable {rows : List DutyOccurrence}

theorem IsChain.comparable (chain : IsChain rows) {one other : DutyOccurrence} (here : one ∈ rows)
    (there : other ∈ rows) : one = other ∨ Follows one other ∨ Follows other one := by
  induction rows with
  | nil => cases here
  | cons first rest ih =>
    obtain ⟨before, later⟩ := List.pairwise_cons.mp chain
    rcases List.mem_cons.mp here with rfl | hereLater
    · rcases List.mem_cons.mp there with rfl | thereLater
      · exact .inl rfl
      · exact .inr (.inl (before other thereLater))
    · rcases List.mem_cons.mp there with rfl | thereLater
      · exact .inr (.inr (before one hereLater))
      · exact ih later hereLater thereLater

theorem IsChain.last (chain : IsChain rows) {row other : DutyOccurrence} (here : row ∈ rows)
    (is_open : row.status ≠ .done) (there : other ∈ rows) : other = row ∨ Follows other row := by
  rcases chain.comparable there here with same | before | after
  · exact .inl same
  · exact .inr before
  · exact absurd after.2 is_open

theorem IsChain.append (chain : IsChain rows) {row : DutyOccurrence}
    (after : ∀ other ∈ rows, Follows other row) : IsChain (rows ++ [row]) := by
  apply List.pairwise_append.mpr
  refine ⟨chain, List.pairwise_singleton _ _, ?_⟩
  intro other there last listed
  obtain rfl := List.mem_singleton.mp listed
  exact after other there

section Change
variable {change : DutyOccurrence → DutyOccurrence}

theorem IsChain.map {rows : List DutyOccurrence} (chain : IsChain rows) (dated : ∀ row, (change row).dueDate = row.dueDate)
    (done : ∀ row, row.status = .done → (change row).status = .done) : IsChain (rows.map change) := by
  rw [IsChain, List.pairwise_map]
  refine chain.imp ?_
  intro earlier later follows
  refine ⟨?_, done earlier follows.2⟩
  rw [dated, dated]
  exact follows.1

theorem chain_map (table : DutyTable) (same : ∀ row, (change row).chain = row.chain) (key : ChainKey) :
    ({ table with occurrences := table.occurrences.map change } : DutyTable).chain key = (table.chain key).map change := by
  simp only [DutyTable.chain, List.filter_map]
  congr 2
  funext row
  simp only [Function.comp_apply, same]

theorem TableSound.map {placed : Id → Id → Prop} {table : DutyTable} (sound : TableSound placed table)
    (named : ∀ row, (change row).id = row.id) (same : ∀ row, (change row).chain = row.chain)
    (dated : ∀ row, (change row).dueDate = row.dueDate) (done : ∀ row, row.status = .done → (change row).status = .done) :
    TableSound placed { table with occurrences := table.occurrences.map change } where
  ids := by
    rw [List.map_map]
    exact List.map_congr_left (fun row _ => named row) ▸ sound.ids
  below := by
    intro row listed
    obtain ⟨old, there, rfl⟩ := List.mem_map.mp listed
    rw [named]
    exact sound.below old there
  known := by
    intro row listed
    obtain ⟨old, there, rfl⟩ := List.mem_map.mp listed
    have its : (change old).recurringDuty = old.recurringDuty ∧ (change old).tenantObligation = old.tenantObligation := by
      have keys := same old
      simp only [DutyOccurrence.chain, ChainKey.mk.injEq] at keys
      exact ⟨keys.1, keys.2.1⟩
    rw [its.1, its.2]
    exact sound.known old there
  chains := by
    intro key
    rw [chain_map table same]
    exact (sound.chains key).map dated done

end Change

theorem TableSound.mono {placed known : Id → Id → Prop} {table : DutyTable} (sound : TableSound placed table)
    (more : ∀ duty entry, placed duty entry → known duty entry) : TableSound known table where
  ids := sound.ids
  below := sound.below
  known := fun row there => more _ _ (sound.known row there)
  chains := sound.chains

/-! ## Writing an occurrence -/

/-- The row `_occurrence` writes. -/
def newOccurrence (table : DutyTable) (dutyId : Id) (target : DutyTarget) (due : Day) : DutyOccurrence where
  id := table.nextId
  recurringDuty := dutyId
  tenantObligation := target.tenantObligation
  orgUnit := target.orgUnit
  dueDate := due
  owner := if target.ownerTeam = none then target.owner else none
  ownerTeam := target.ownerTeam

def DutyTable.added (table : DutyTable) (row : DutyOccurrence) : DutyTable :=
  { table with occurrences := table.occurrences ++ [row], nextId := table.nextId + 1 }

theorem chain_added (table : DutyTable) (row : DutyOccurrence) (key : ChainKey) :
    (table.added row).chain key = if row.chain = key then table.chain key ++ [row] else table.chain key := by
  simp only [DutyTable.chain, DutyTable.added, List.filter_append, List.filter_singleton]
  split
  · next same => rw [decide_eq_true same, cond_true]
  · next other => rw [decide_eq_false other, cond_false, List.append_nil]

section Written
variable {placed : Id → Id → Prop} {table : DutyTable} {duty : DutyRule} {target : DutyTarget} {due : Day}

theorem TableSound.chain_of_onKey (sound : TableSound placed table)
    (one : ∀ duty entry other, placed duty entry → placed duty other → entry = other)
    (its : placed duty.id target.tenantObligation) {row : DutyOccurrence} (there : row ∈ table.occurrences)
    (onKey : row.onKey duty.id target.orgUnit due = true) : row ∈ table.chain (target.chain duty) ∧ row.dueDate = due := by
  simp only [DutyOccurrence.onKey, Bool.and_eq_true, beq_iff_eq] at onKey
  obtain ⟨⟨same, unit⟩, dated⟩ := onKey
  have known := sound.known row there
  rw [same] at known
  refine ⟨mem_chain.mpr ⟨there, ?_⟩, dated⟩
  rw [DutyOccurrence.chain, DutyTarget.chain, same, unit, one _ _ _ known its]

theorem occurrenceOn_new (sound : TableSound placed table)
    (one : ∀ duty entry other, placed duty entry → placed duty other → entry = other)
    (its : placed duty.id target.tenantObligation)
    (without_ : ∀ row ∈ table.chain (target.chain duty), row.dueDate ≠ due) :
    occurrenceOn table duty.id target due =
      (table.added (newOccurrence table duty.id target due), newOccurrence table duty.id target due, true) := by
  have none_ : table.occurrences.find? (·.onKey duty.id target.orgUnit due) = none := by
    rw [List.find?_eq_none]
    intro row there onKey
    obtain ⟨listed, dated⟩ := sound.chain_of_onKey one its there onKey
    exact without_ row listed dated
  simp only [occurrenceOn, none_]
  rfl

theorem TableSound.added (sound : TableSound placed table) {row : DutyOccurrence} (named : row.id = table.nextId)
    (its : placed row.recurringDuty row.tenantObligation) (after : ∀ other ∈ table.chain row.chain, Follows other row) :
    TableSound placed (table.added row) where
  ids := by
    rw [DutyTable.added, List.map_append]
    refine List.nodup_append.mpr ⟨sound.ids, List.nodup_singleton _, ?_⟩
    intro id listed last single same
    obtain ⟨old, there, rfl⟩ := List.mem_map.mp listed
    rw [List.map_singleton, List.mem_singleton] at single
    have below := sound.below old there
    exact absurd (same.trans (single.trans named)) (Nat.ne_of_lt below)
  below := by
    intro other listed
    rcases mem_concat.mp listed with old | rfl
    · exact Nat.lt_succ_of_lt (sound.below other old)
    · rw [named]
      exact Nat.lt_succ_self _
  known := by
    intro other listed
    rcases mem_concat.mp listed with old | rfl
    · exact sound.known other old
    · exact its
  chains := by
    intro key
    rw [chain_added]
    split
    · next same =>
      subst same
      exact (sound.chains _).append after
    · exact sound.chains key

end Written

/-! ## The first occurrences -/

/-- A chain that is still to begin, or that began in this call: with the first date from today. -/
def BeginsToday (dateutil : Dateutil Rule) (cap : Nat) (today : Day) (table : DutyTable) (pair : DutyTarget × DutyRule) : Prop :=
  table.chain (pair.1.chain pair.2) = [] ∨
    ∃ row, table.chain (pair.1.chain pair.2) = [row] ∧ row.status ≠ .done ∧
      nextDue dateutil cap pair.2.rule today true = .ok (some row.dueDate)

section Firsts
variable {dateutil : Dateutil Rule} {cap : Nat} {actor : Actor} {today : Day} {placed : Id → Id → Prop} {table after : DutyTable}
  {pair : DutyTarget × DutyRule}

/-- One duty on one target: its chain is begun where it was not, and no other chain is touched. -/
theorem scheduleOne_spec (sound : TableSound placed table)
    (one : ∀ duty entry other, placed duty entry → placed duty other → entry = other)
    (its : placed pair.2.id pair.1.tenantObligation) (begins : BeginsToday dateutil cap today table pair)
    (done : scheduleOne dateutil cap actor today pair.1 table pair.2 = .ok after) :
    TableSound placed after ∧ (∀ row ∈ table.occurrences, row ∈ after.occurrences) ∧
      (∀ key, after.chain key = table.chain key ∨
        key = pair.1.chain pair.2 ∧ table.chain key = [] ∧ ∃ row, after.chain key = [row] ∧ row.status ≠ .done ∧
          nextDue dateutil cap pair.2.rule today true = .ok (some row.dueDate)) := by
  obtain ⟨due, found, done⟩ := bind_ok.mp done
  cases due with
  | none =>
    obtain rfl := Except.ok.inj done
    exact ⟨sound, fun row there => there, fun key => .inl rfl⟩
  | some due =>
    rcases begins with empty | ⟨row, begun, is_open, first⟩
    · have absent : ∀ row ∈ table.chain (pair.1.chain pair.2), row.dueDate ≠ due := by
        rw [empty]
        intro row listed
        cases listed
      have new := occurrenceOn_new sound one its absent
      simp only [new] at done
      obtain rfl := Except.ok.inj done
      have nothing : table.chain (newOccurrence table pair.2.id pair.1 due).chain = [] := empty
      have first : ∀ other ∈ table.chain (newOccurrence table pair.2.id pair.1 due).chain,
          Follows other (newOccurrence table pair.2.id pair.1 due) := by
        rw [nothing]
        intro other listed
        cases listed
      have added : TableSound placed (table.added (newOccurrence table pair.2.id pair.1 due)) := sound.added rfl its first
      refine ⟨⟨added.ids, added.below, added.known, added.chains⟩, ?_, ?_⟩
      · intro row there
        exact List.mem_append_left _ there
      · intro key
        have chain := chain_added table (newOccurrence table pair.2.id pair.1 due) key
        by_cases same : (newOccurrence table pair.2.id pair.1 due).chain = key
        · rw [if_pos same] at chain
          obtain rfl := same
          refine .inr ⟨rfl, empty, newOccurrence table pair.2.id pair.1 due, ?_, nofun, found⟩
          rw [nothing] at chain
          exact chain
        · rw [if_neg same] at chain
          exact .inl chain
    · have there : row ∈ table.occurrences ∧ row.chain = pair.1.chain pair.2 := mem_chain.mp (begun ▸ List.mem_singleton.mpr rfl)
      have dated : row.dueDate = due := by
        rw [first] at found
        exact Option.some.inj (Except.ok.inj found)
      have onKey : row.onKey pair.2.id pair.1.orgUnit due = true := by
        have keys := there.2
        simp only [DutyOccurrence.chain, DutyTarget.chain, ChainKey.mk.injEq] at keys
        simp only [DutyOccurrence.onKey, keys.1, keys.2.2, dated, BEq.rfl, Bool.and_self]
      have present : (table.occurrences.find? (·.onKey pair.2.id pair.1.orgUnit due)).isSome = true :=
        List.find?_isSome.mpr ⟨row, there.1, onKey⟩
      obtain ⟨other, held⟩ := Option.isSome_iff_exists.mp present
      simp only [occurrenceOn, held] at done
      obtain rfl := Except.ok.inj done
      exact ⟨sound, fun row there => there, fun key => .inl rfl⟩

theorem writeFirsts_spec (one : ∀ duty entry other, placed duty entry → placed duty other → entry = other)
    {pairs : List (DutyTarget × DutyRule)} (sound : TableSound placed table)
    (its : ∀ pair ∈ pairs, placed pair.2.id pair.1.tenantObligation)
    (same : ∀ pair ∈ pairs, ∀ other ∈ pairs, pair.1.chain pair.2 = other.1.chain other.2 → pair.2.rule = other.2.rule)
    (begins : ∀ pair ∈ pairs, BeginsToday dateutil cap today table pair)
    (done : writeFirsts dateutil cap actor today pairs table = .ok after) :
    TableSound placed after ∧ (∀ row ∈ table.occurrences, row ∈ after.occurrences) ∧
      ∀ key, after.chain key = table.chain key ∨
        ∃ pair ∈ pairs, key = pair.1.chain pair.2 ∧ table.chain key = [] ∧ ∃ row, after.chain key = [row] ∧ row.status ≠ .done ∧
          nextDue dateutil cap pair.2.rule today true = .ok (some row.dueDate) := by
  induction pairs generalizing table with
  | nil =>
    obtain rfl := Except.ok.inj done
    exact ⟨sound, fun row there => there, fun key => .inl rfl⟩
  | cons pair rest ih =>
    rw [writeFirsts, List.foldlM_cons] at done
    obtain ⟨between, scheduled, done⟩ := bind_ok.mp done
    obtain ⟨betweenSound, kept, changed⟩ :=
      scheduleOne_spec sound one (its pair List.mem_cons_self) (begins pair List.mem_cons_self) scheduled
    have stillBegins : ∀ other ∈ rest, BeginsToday dateutil cap today between other := by
      intro other later
      rcases changed (other.1.chain other.2) with unchanged | ⟨its, -, row, chain, is_open, first⟩
      · have before := begins other (List.mem_cons_of_mem _ later)
        rw [BeginsToday, unchanged]
        exact before
      · rw [same pair List.mem_cons_self other (List.mem_cons_of_mem _ later) its.symm] at first
        exact .inr ⟨row, chain, is_open, first⟩
    obtain ⟨afterSound, keptOn, changedOn⟩ := ih betweenSound (fun other later => its other (List.mem_cons_of_mem _ later))
      (fun one first other second => same one (List.mem_cons_of_mem _ first) other (List.mem_cons_of_mem _ second)) stillBegins done
    refine ⟨afterSound, fun row there => keptOn row (kept row there), ?_⟩
    intro key
    rcases changedOn key with unchanged | ⟨later, listed, named, empty, row, chain, is_open, first⟩
    · rcases changed key with before | ⟨named, empty, row, chain, is_open, first⟩
      · exact .inl (unchanged.trans before)
      · refine .inr ⟨pair, List.mem_cons_self, named, empty, row, ?_, is_open, first⟩
        rw [unchanged, chain]
    · rcases changed key with before | ⟨-, -, other, its, -, -⟩
      · rw [before] at empty
        exact .inr ⟨later, List.mem_cons_of_mem _ listed, named, empty, row, chain, is_open, first⟩
      · rw [its] at empty
        cases empty

end Firsts

/-! ## Completing an occurrence -/

def DutyOccurrence.completed (person : Id) (note : String) (now : Instant) (row : DutyOccurrence) : DutyOccurrence :=
  { row with status := .done, completedAt := some now, completedBy := some person, note, version := row.version + 1 }

def DutyTable.completing (table : DutyTable) (row : DutyOccurrence) (person : Id) (note : String) (now : Instant) : DutyTable :=
  { table with occurrences := table.occurrences.map fun other => if other.id = row.id then row.completed person note now else other }

section Finish
variable {placed : Id → Id → Prop} {table : DutyTable} {row : DutyOccurrence} {duty : DutyRule} {person : Id} {note : String}
  {now : Instant}

section
variable (sound : TableSound placed table) (there : row ∈ table.occurrences)
include sound there

theorem completing_eq : table.completing row person note now =
      { table with occurrences := table.occurrences.map fun other => if other.id = row.id then other.completed person note now else other } := by
  rw [DutyTable.completing]
  congr 1
  apply List.map_congr_left
  intro other listed
  split
  · next same => rw [List.inj_on_of_nodup_map sound.ids listed there same]
  · rfl

theorem completing_sound : TableSound placed (table.completing row person note now) := by
  rw [completing_eq sound there]
  apply sound.map
  · intro other
    split <;> rfl
  · intro other
    split <;> rfl
  · intro other
    split <;> rfl
  · intro other done
    split
    · rfl
    · exact done

theorem completing_chain (key : ChainKey) : (table.completing row person note now).chain key =
      (table.chain key).map fun other => if other.id = row.id then other.completed person note now else other := by
  rw [completing_eq sound there]
  apply chain_map
  intro other
  split <;> rfl

end

theorem nextDue_after {Rule : Type} {dateutil : Dateutil Rule} {cap : Nat} {rule : String} {start due : Day}
    (found : nextDue dateutil cap rule start false = .ok (some due)) : start < due := by
  obtain ⟨finish, -, found⟩ := bind_ok.mp found
  cases expanded : expand dateutil cap rule start finish with
  | ok days =>
    simp only [expanded, Except.ok.injEq] at found
    simpa using List.find?_some found
  | error refusal =>
    simp only [expanded] at found
    split at found
    · cases found
    · cases found

/-- What completing an open occurrence leaves: the occurrence done, and its next one where there is a date for it. -/
structure Completed (table after : DutyTable) (row : DutyOccurrence) (person : Id) (note : String) (now : Instant)
    (due : Option Day) (completion : DutyCompletion) : Prop where
  shown : completion.completed = row.completed person note now
  none_ : due = none → completion.next = none ∧ after.occurrences = (table.completing row person note now).occurrences
  next : ∀ day, due = some day → ∃ next, completion.next = some next ∧ next.id = table.nextId ∧ next.dueDate = day ∧
    next.chain = row.chain ∧ next.status ≠ .done ∧ after.occurrences = (table.completing row person note now).occurrences ++ [next]

theorem chain_of_occurrences {one other : DutyTable} (same : one.occurrences = other.occurrences) (key : ChainKey) :
    one.chain key = other.chain key := by
  rw [DutyTable.chain, DutyTable.chain, same]

variable {completion : DutyCompletion} {due : Option Day} {after : DutyTable}

section
variable (completed : Completed table after row person note now due completion)
include completed

theorem Completed.occurrences : after.occurrences = (table.completing row person note now).occurrences ++ completion.next.toList := by
  cases due with
  | none =>
    obtain ⟨nothing, same⟩ := completed.none_ rfl
    rw [nothing, same, Option.toList_none, List.append_nil]
  | some day =>
    obtain ⟨next, its, -, -, -, -, same⟩ := completed.next day rfl
    rw [its, same, Option.toList_some]

theorem Completed.next_chain : ∀ next ∈ completion.next, next.chain = row.chain := by
  intro next its
  cases due with
  | none =>
    rw [(completed.none_ rfl).1] at its
    cases its
  | some day =>
    obtain ⟨other, same, -, -, chain, -, -⟩ := completed.next day rfl
    rw [same] at its
    obtain rfl := Option.some.inj its
    exact chain

theorem Completed.chain (key : ChainKey) :
    after.chain key = (table.completing row person note now).chain key ++ if row.chain = key then completion.next.toList else [] := by
  rw [DutyTable.chain, completed.occurrences, List.filter_append]
  congr 1
  split
  · next same =>
    rw [List.filter_eq_self]
    intro next listed
    exact decide_eq_true ((completed.next_chain next (Option.mem_toList.mp listed)).trans same)
  · next other =>
    rw [List.filter_eq_nil_iff]
    intro next listed same
    exact other ((completed.next_chain next (Option.mem_toList.mp listed)).symm.trans (of_decide_eq_true same))

end

theorem finishOccurrence_spec (sound : TableSound placed table)
    (one : ∀ duty entry other, placed duty entry → placed duty other → entry = other) (there : row ∈ table.occurrences)
    (is_open : row.status ≠ .done) (its : duty.id = row.recurringDuty) (actor : Actor)
    (later : ∀ day, due = some day → row.dueDate < day) :
    let written := finishOccurrence actor person note now duty row due table
    TableSound placed written.1 ∧ Completed table written.1 row person note now due written.2 := by
  have completed := (completing_sound sound there : TableSound placed (table.completing row person note now))
  cases due with
  | none => exact ⟨⟨completed.ids, completed.below, completed.known, completed.chains⟩, ⟨rfl, fun _ => ⟨rfl, rfl⟩, nofun⟩⟩
  | some day =>
    have placedRow : placed duty.id (row.target duty).tenantObligation := its ▸ sound.known row there
    have sameChain : (row.target duty).chain duty = row.chain := by
      simp only [DutyTarget.chain, DutyOccurrence.target, DutyOccurrence.chain, its]
    have all : ∀ other ∈ (table.completing row person note now).chain row.chain, other.dueDate < day ∧ other.status = .done := by
      rw [completing_chain sound there]
      intro other listed
      obtain ⟨old, member, rfl⟩ := List.mem_map.mp listed
      rcases (sound.chains row.chain).last (mem_chain.mpr ⟨there, rfl⟩) is_open member with rfl | before
      · rw [if_pos rfl]
        exact ⟨later day rfl, rfl⟩
      · split
        · exact ⟨lt_trans before.1 (later day rfl), rfl⟩
        · exact ⟨lt_trans before.1 (later day rfl), before.2⟩
    have absent : ∀ other ∈ (table.completing row person note now).chain ((row.target duty).chain duty), other.dueDate ≠ day := by
      rw [sameChain]
      intro other listed
      exact ne_of_lt (all other listed).1
    have new := occurrenceOn_new completed one placedRow absent
    have chainOf : (newOccurrence (table.completing row person note now) duty.id (row.target duty) day).chain = row.chain := sameChain
    have added : TableSound placed ((table.completing row person note now).added
        (newOccurrence (table.completing row person note now) duty.id (row.target duty) day)) := by
      apply completed.added rfl placedRow
      rw [chainOf]
      exact all
    simp only [finishOccurrence, writeFollowing]
    have saved : ({ table with
        occurrences := table.occurrences.map fun other => if other.id = row.id then
          ({ row with status := .done, completedAt := some now, completedBy := some person, note, version := row.version + 1 } : DutyOccurrence)
          else other } : DutyTable) = table.completing row person note now := rfl
    rw [saved, new]
    refine ⟨⟨added.ids, added.below, added.known, added.chains⟩, ⟨rfl, nofun, ?_⟩⟩
    intro other same
    obtain rfl := Option.some.inj same
    exact ⟨_, rfl, rfl, rfl, chainOf, nofun, rfl⟩

end Finish

end Grc.Register
