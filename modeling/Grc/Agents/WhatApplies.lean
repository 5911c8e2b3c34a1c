import Grc.Search.Timeline

/-! The ranking of what-applies: how many of a description's words the library's text of each obligation holds, its titles and the search
chunks of the day. The index is the one a full rebuild writes. -/
namespace Grc.Agents.WhatApplies

open Grc.Shared Grc.Lib Grc.Library Grc.Search

/-- The obligation chunks of the index, none where a rebuild raises. -/
def indexOf (records : Records) : Option (List ChunkSource) :=
  (records.obligations.mapM fun obligation => obligationChunks records obligation.id).map fun read => read.flatMap (·.chunks)

/-- The dates `_ranked` reads a chunk on. -/
def rankedOn (on : Day) (chunk : ChunkSource) : Bool := chunk.validFrom.all (decide <| · ≤ on) && chunk.validTo.all (decide <| on < ·)

/-- `_filtered`: the dates a search as of `on` admits a chunk on. -/
def filteredOn (on : Day) (chunk : ChunkSource) : Bool := chunk.validFrom.all (decide <| · ≤ on) && chunk.validTo.all (decide <| on ≤ ·)

/-- The chunks `_ranked` counts words in. -/
def rankedChunks (index : List ChunkSource) (ids : List Id) (on : Day) : List ChunkSource :=
  index.filter fun chunk => chunk.metadata.obligationId.any ids.contains && rankedOn on chunk

section Ranked
variable (words : String → List String) (records : Records) (index : List ChunkSource) (ids : List Id) (asked : List String) (on : Day)

/-- `text[obligation_id]`: the words of an obligation's titles and of its chunks. -/
def textOf (id : Id) : List String :=
  ((records.obligationTitles.filter (·.holder == id)).flatMap fun title => words title.text) ++
    ((rankedChunks index ids on).filter (·.metadata.obligationId == some id)).flatMap fun chunk => words (chunk.title ++ " " ++ chunk.body)

def keyOf (id : Id) : String := ((records.obligations.find? (·.id == id)).map (·.stableKey)).getD ""

/-- `_ranked`, the asked words given once each. -/
def ranked : List Id :=
  let held := fun id => (asked.filter (textOf words records index ids on id).contains).length
  ids.insertionSort fun one other => held other < held one ∨ held one = held other ∧ keyOf records one ≤ keyOf records other

end Ranked

variable {records : Records} {index : List ChunkSource} {ids : List Id} {on : Day} {id : Id}

/-- The obligation is one the index holds: no bank owns it or its instrument. -/
def Shared (records : Records) (id : Id) : Prop :=
  ∃ obligation instrument, records.obligations.find? (·.id == id) = some obligation ∧ records.instrumentOf obligation.instrument = some instrument ∧
    obligation.ownerTenant = none ∧ instrument.ownerTenant = none

def Summarised (records : Records) (version : ObligationVersion) : Prop := ∃ summary ∈ records.summaries, summary.holder = version.id

/-- A version the index shows on a date: it has begun, and what follows it has not and begins after it. -/
def Shown (records : Records) (id : Id) (on : Day) (version : ObligationVersion) (following : Option ObligationVersion) : Prop :=
  Shared records id ∧ startDay version ≤ on ∧ ∀ next ∈ following, startDay version < startDay next ∧ on < startDay next

/-- What the ranking reads of the obligations asked about: what a search reads on the same date, which is the text in force. -/
structure ReadsTextInForce (records : Records) (index : List ChunkSource) (ids : List Id) (on : Day) : Prop where
  same : ∀ id ∈ ids, ∀ chunk, chunk.metadata.obligationId = some id →
    (chunk ∈ rankedChunks index ids on ↔ chunk ∈ index ∧ filteredOn on chunk = true)
  current : ∀ id ∈ ids, ∀ source language,
    (∃ chunk ∈ index, chunk.metadata.obligationId = some id ∧ filteredOn on chunk = true ∧ chunk.sourceId = source ∧ chunk.language = language) ↔
      ∃ version, inForce (versionsOf records id) on = some version ∧ version.id = source ∧
        ∃ summary ∈ records.summaries, summary.holder = version.id ∧ summary.language = language

/-- On a date, the versions with a text that the index shows are the one in force, and none of them is on its last day. -/
structure TextStands (records : Records) (id : Id) (on : Day) : Prop where
  current : ∀ pair ∈ withFollowing (versionsOf records id), Summarised records pair.1 →
    (Shown records id on pair.1 pair.2 ↔ inForce (versionsOf records id) on = some pair.1)
  notLast : ∀ pair ∈ withFollowing (versionsOf records id), Summarised records pair.1 → Shown records id on pair.1 pair.2 →
    ∀ next ∈ pair.2, (startDay next).yesterday ≠ some on

/-- What is indexed of a version: its dates, the last of them the day before the next one begins. -/
theorem indexedVersion_dates {version : ObligationVersion} {following : Option ObligationVersion} {entry : Indexed ObligationVersion}
    (indexed : indexedVersion (·.effectiveFrom) version following = some (some entry)) :
    entry.version = version ∧ entry.validFrom = version.effectiveFrom ∧ entry.validTo = following.bind (fun next => (startDay next).yesterday) ∧
      ∀ next ∈ following, startDay version < startDay next := by
  cases following with
  | none =>
    simp only [indexedVersion, supersededAtBirth, inForceUntil, Option.map_none, Option.bind_none, Bool.false_eq_true, if_false,
      Option.map_some, Option.some.injEq] at indexed
    subst indexed
    exact ⟨rfl, rfl, rfl, fun _ there => absurd there (Option.not_mem_none _)⟩
  | some next =>
    unfold indexedVersion at indexed
    split at indexed
    · cases indexed
    · rename_i lives
      cases starts : next.effectiveFrom with
      | none =>
        rw [Option.map_some, starts] at lives
        exact absurd rfl lives
      | some nextStart =>
        rw [Option.map_some, starts, supersededAtBirth, decide_eq_true_eq] at lives
        rw [Option.bind_some, starts, inForceUntil, if_neg lives, Option.map_map, Option.map_eq_some_iff] at indexed
        obtain ⟨last, before, same⟩ := indexed
        obtain rfl := Option.some.inj same
        have nextDay : startDay next = nextStart := by rw [startDay, starts, Option.getD_some]
        refine ⟨rfl, rfl, by rw [Option.bind_some, nextDay, before], fun other its => ?_⟩
        obtain rfl := Option.some.inj its
        rw [nextDay]
        cases own : version.effectiveFrom with
        | none =>
          rw [startDay, own, Option.getD_none]
          exact lt_of_le_of_lt (Day.first_le last) ((Day.le_yesterday before).mp le_rfl)
        | some start =>
          rw [startDay, own, Option.getD_some]
          exact not_le.mp fun born => lives ⟨start, own, born⟩

/-- The chunks of a record, with the entry and the summary each is of. -/
theorem mem_obligationChunks {read : RecordChunks} (found : obligationChunks records id = some read) {chunk : ChunkSource} (inside : chunk ∈ read.chunks) :
    chunk.metadata.obligationId = some id ∧ Shared records id ∧ ∃ entries, indexedVersions (·.effectiveFrom) (versionsOf records id) = some entries ∧
      ∃ entry ∈ entries, ∃ summary ∈ records.summaries, summary.holder = entry.version.id ∧ chunk.sourceId = entry.version.id ∧
        chunk.language = summary.language ∧ chunk.validFrom = entry.validFrom ∧ chunk.validTo = entry.validTo := by
  unfold obligationChunks at found
  split at found
  · cases found
    cases inside
  · rename_i obligation its
    obtain rfl : obligation.id = id := by simpa using List.find?_some its
    obtain ⟨instrument, under, found⟩ := Option.bind_eq_some_iff.mp found
    dsimp only at found
    split at found
    · cases found
      cases inside
    · rename_i owned
      obtain ⟨entries, indexed, found⟩ := Option.bind_eq_some_iff.mp found
      cases found
      obtain ⟨entry, listed, written⟩ := List.mem_flatMap.mp inside
      obtain ⟨summary, held, rfl⟩ := List.mem_map.mp written
      obtain ⟨known, holds⟩ := List.mem_filter.mp held
      exact ⟨rfl, ⟨obligation, instrument, its, under, by_contra fun own => owned (.inl own), by_contra fun own => owned (.inr own)⟩, entries, indexed,
        entry, listed, summary, known, beq_iff_eq.mp holds, rfl, rfl, rfl, rfl⟩

/-- A version of a shared record that the next one begins after has a chunk for each of its summaries. -/
theorem exists_chunk {read : RecordChunks} (found : obligationChunks records id = some read) (shared : Shared records id) {version : ObligationVersion}
    {following : Option ObligationVersion} (there : (version, following) ∈ withFollowing (versionsOf records id))
    (later : ∀ next ∈ following, startDay version < startDay next) {summary : Translation} (known : summary ∈ records.summaries)
    (holds : summary.holder = version.id) : ∃ chunk ∈ read.chunks, chunk.sourceId = version.id ∧ chunk.language = summary.language := by
  obtain ⟨obligation, instrument, its, under, own, owns⟩ := shared
  obtain rfl : obligation.id = id := by simpa using List.find?_some its
  simp only [obligationChunks, its, under, own, owns, bind, Option.bind, ne_eq, not_true_eq_false, or_self, if_false] at found
  split at found
  · cases found
  · rename_i entries indexed
    cases found
    obtain ⟨entry, dated, rfl, -⟩ := indexedVersion_contains later
    obtain ⟨before, rest, cut, rfl⟩ := mem_withFollowing.mp there
    have listed := (mem_indexedVersions indexed).mpr ⟨before, entry.version, rest, cut, dated⟩
    exact ⟨_, List.mem_flatMap.mpr ⟨entry, listed, List.mem_map.mpr ⟨summary, List.mem_filter.mpr ⟨known, beq_iff_eq.mpr holds⟩, rfl⟩⟩, rfl, rfl⟩

theorem withFollowing_fst {Row : Type} (rows : List Row) : (withFollowing rows).map (·.1) = rows := by
  induction rows with
  | nil => rfl
  | cons row rest ih => rw [withFollowing, List.map_cons, ih]

/-- A version has one follower. -/
theorem pair_unique (unique : (records.versions.map (·.id)).Nodup) {one other : ObligationVersion × Option ObligationVersion}
    (first : one ∈ withFollowing (versionsOf records id)) (second : other ∈ withFollowing (versionsOf records id)) (same : one.1.id = other.1.id) :
    one = other := by
  have sorted : ((versionsOf records id).map (·.id)).Nodup :=
    ((List.perm_insertionSort _ _).map _).nodup_iff.mpr (unique.sublist (List.filter_sublist.map _))
  rw [← withFollowing_fst (versionsOf records id), List.map_map] at sorted
  exact List.inj_on_of_nodup_map sorted first second same

section Index
variable (built : indexOf records = some index)
include built

theorem mem_index_iff {chunk : ChunkSource} : chunk ∈ index ↔
    ∃ obligation ∈ records.obligations, ∃ read, obligationChunks records obligation.id = some read ∧ chunk ∈ read.chunks := by
  obtain ⟨reads, asked, rfl⟩ := Option.map_eq_some_iff.mp built
  have listed : ∀ read, read ∈ reads ↔ ∃ obligation ∈ records.obligations, obligationChunks records obligation.id = some read := by
    intro read
    rw [← List.mem_map, mapM_eq_some.mp asked, List.mem_map]
    simp
  simp only [List.mem_flatMap, listed]
  exact ⟨fun ⟨read, ⟨obligation, known, found⟩, inside⟩ => ⟨obligation, known, read, found, inside⟩,
    fun ⟨obligation, known, read, found, inside⟩ => ⟨read, ⟨obligation, known, found⟩, inside⟩⟩

/-- A chunk is of a version that begins before the next one, and is read on the days the version is shown, the last of them left out by the
ranking. -/
theorem chunk_of {chunk : ChunkSource} (inside : chunk ∈ index) (its : chunk.metadata.obligationId = some id) (on : Day) :
    ∃ pair ∈ withFollowing (versionsOf records id), ∃ summary ∈ records.summaries, summary.holder = pair.1.id ∧ chunk.sourceId = pair.1.id ∧
      chunk.language = summary.language ∧ (filteredOn on chunk = true ↔ Shown records id on pair.1 pair.2) ∧
      (rankedOn on chunk = true ↔ filteredOn on chunk = true ∧ ∀ next ∈ pair.2, (startDay next).yesterday ≠ some on) := by
  obtain ⟨obligation, -, read, found, inside⟩ := (mem_index_iff built).mp inside
  obtain ⟨same, shared, entries, indexed, entry, listed, summary, known, holds, source, language, from_, to_⟩ := mem_obligationChunks found inside
  obtain rfl := Option.some.inj (same.symm.trans its)
  obtain ⟨before, version, rest, cut, dated⟩ := (mem_indexedVersions indexed).mp listed
  obtain ⟨rfl, validFrom, validTo, later⟩ := indexedVersion_dates dated
  refine ⟨_, mem_withFollowing.mpr ⟨before, rest, cut, rfl⟩, summary, known, holds, source, language, ?_, ?_⟩
  · simp only [filteredOn, from_, to_, validFrom, validTo, Bool.and_eq_true, Option.all_eq_true, decide_eq_true_eq, Shown]
    have begun : (∀ day, entry.version.effectiveFrom = some day → day ≤ on) ↔ startDay entry.version ≤ on := started_iff
    rw [begun]
    cases rest with
    | nil => simp [shared]
    | cons next others =>
      have after := later next rfl
      obtain ⟨last, yesterday⟩ := Day.exists_yesterday (lt_of_le_of_lt (Day.first_le _) after)
      simp [shared, yesterday, Day.le_yesterday yesterday, after]
  · simp only [rankedOn, filteredOn, to_, validTo, Bool.and_eq_true, Option.all_eq_true, decide_eq_true_eq, and_assoc]
    refine and_congr_right fun _ => ?_
    cases rest with
    | nil => simp
    | cons next others =>
      obtain ⟨last, yesterday⟩ := Day.exists_yesterday (lt_of_le_of_lt (Day.first_le _) (later next rfl))
      simp [yesterday, lt_iff_le_and_ne, eq_comm]

theorem exists_shown {pair : ObligationVersion × Option ObligationVersion} (there : pair ∈ withFollowing (versionsOf records id))
    (shown : Shown records id on pair.1 pair.2) {summary : Translation} (known : summary ∈ records.summaries) (holds : summary.holder = pair.1.id) :
    ∃ chunk ∈ index, chunk.metadata.obligationId = some id ∧ chunk.sourceId = pair.1.id ∧ chunk.language = summary.language := by
  obtain ⟨obligation, instrument, its, -⟩ := shown.1
  have same : obligation.id = id := by simpa using List.find?_some its
  obtain ⟨reads, asked, -⟩ := Option.map_eq_some_iff.mp built
  have read : obligationChunks records obligation.id ∈ reads.map some :=
    mapM_eq_some.mp asked ▸ List.mem_map_of_mem (List.mem_of_find?_eq_some its)
  obtain ⟨read, -, found⟩ := List.mem_map.mp read
  obtain ⟨chunk, inside, source, language⟩ := exists_chunk (same ▸ found.symm) shown.1 there (fun next its => (shown.2.2 next its).1) known holds
  exact ⟨chunk, (mem_index_iff built).mpr ⟨obligation, List.mem_of_find?_eq_some its, read, found.symm, inside⟩,
    (mem_obligationChunks (same ▸ found.symm) inside).1, source, language⟩

/-- The ranking reads the text in force exactly where, for each obligation asked about, the version in force is the one with a text that the
index shows, and no such version is on its last day. -/
theorem readsTextInForce_iff (unique : (records.versions.map (·.id)).Nodup) :
    ReadsTextInForce records index ids on ↔ ∀ id ∈ ids, TextStands records id on := by
  have counted : ∀ id ∈ ids, ∀ chunk : ChunkSource, chunk.metadata.obligationId = some id →
      (chunk ∈ rankedChunks index ids on ↔ chunk ∈ index ∧ rankedOn on chunk = true) := by
    intro id asked chunk its
    simp [rankedChunks, its, asked]
  constructor
  · intro reads id asked
    have admitted : ∀ pair ∈ withFollowing (versionsOf records id), Summarised records pair.1 → Shown records id on pair.1 pair.2 →
        ∃ chunk ∈ index, chunk.metadata.obligationId = some id ∧ chunk.sourceId = pair.1.id ∧ filteredOn on chunk = true ∧
          ∀ next ∈ pair.2, (startDay next).yesterday ≠ some on := by
      rintro pair there ⟨summary, known, holds⟩ shown
      obtain ⟨chunk, inside, its, source, -⟩ := exists_shown built there shown known holds
      obtain ⟨other, listed, _, -, -, from_, -, filtered, ranked⟩ := chunk_of built inside its on
      obtain rfl := pair_unique unique there listed (source.symm.trans from_)
      have admits_ := filtered.mpr shown
      exact ⟨chunk, inside, its, source, admits_, (ranked.mp ((counted id asked chunk its).mp
        ((reads.same id asked chunk its).mpr ⟨inside, admits_⟩)).2).2⟩
    refine ⟨fun pair there text => ⟨fun shown => ?_, fun current => ?_⟩, fun pair there text shown =>
      (admitted pair there text shown).choose_spec.2.2.2.2⟩
    · obtain ⟨chunk, inside, its, source, admits_, -⟩ := admitted pair there text shown
      obtain ⟨version, current, same, -⟩ := (reads.current id asked _ _).mp ⟨chunk, inside, its, admits_, source, rfl⟩
      obtain ⟨before, rest, cut⟩ := List.append_of_mem (mem_of_inForce current)
      have one := pair_unique unique (mem_withFollowing.mpr ⟨before, rest, cut, rfl⟩) there same
      exact one ▸ current
    · obtain ⟨summary, known, holds⟩ := text
      obtain ⟨chunk, inside, its, admits_, source, -⟩ := (reads.current id asked _ _).mpr ⟨pair.1, current, rfl, summary, known, holds, rfl⟩
      obtain ⟨other, listed, _, -, -, from_, -, filtered, -⟩ := chunk_of built inside its on
      obtain rfl := pair_unique unique there listed (source.symm.trans from_)
      exact filtered.mp admits_
  · intro stands
    refine ⟨fun id asked chunk its => ?_, fun id asked source language => ⟨?_, ?_⟩⟩
    · rw [counted id asked chunk its]
      refine and_congr_right fun inside => ?_
      obtain ⟨pair, there, summary, known, holds, -, -, filtered, ranked⟩ := chunk_of built inside its on
      rw [ranked, and_iff_left_iff_imp]
      exact fun admits_ => (stands id asked).notLast pair there ⟨summary, known, holds⟩ (filtered.mp admits_)
    · rintro ⟨chunk, inside, its, admits_, rfl, rfl⟩
      obtain ⟨pair, there, summary, known, holds, from_, language, filtered, -⟩ := chunk_of built inside its on
      exact ⟨pair.1, ((stands id asked).current pair there ⟨summary, known, holds⟩).mp (filtered.mp admits_), from_.symm, summary, known, holds,
        language.symm⟩
    · rintro ⟨version, current, rfl, summary, known, holds, rfl⟩
      obtain ⟨before, rest, cut⟩ := List.append_of_mem (mem_of_inForce current)
      have there : (version, rest.head?) ∈ withFollowing (versionsOf records id) := mem_withFollowing.mpr ⟨before, rest, cut, rfl⟩
      have shown := ((stands id asked).current _ there ⟨summary, known, holds⟩).mpr current
      obtain ⟨chunk, inside, its, source, language⟩ := exists_shown built there shown known holds
      obtain ⟨other, listed, _, -, -, from_, -, filtered, -⟩ := chunk_of built inside its on
      obtain rfl := pair_unique unique there listed (source.symm.trans from_)
      exact ⟨chunk, inside, its, filtered.mpr shown, source, language⟩

end Index

section LastDay

/-- Two versions of one obligation, the second from the 10th of January. -/
def twoVersions : Records where
  rows := []
  instruments := [{ id := 2, stableKey := "act", shortName := "Act", officialRef := "2026:1", level := 5, jurisdiction := 6, regime := 7 }]
  obligations := [{ id := 1, stableKey := "keep-records", instrument := 2, dutyType := 8 }]
  versions := [dated 1 (some 1), dated 2 (some 10)]
  summaries := [
    { holder := 1, language := "en", text := "Keep records.", isOriginal := true, isMachine := false },
    { holder := 2, language := "en", text := "Keep records for five years.", isOriginal := true, isMachine := false }]

theorem twoVersions_reads : ∃ index on, indexOf twoVersions = some index ∧ Day.ofFields 2026 1 12 = some on ∧
    (ReadsTextInForce twoVersions index [1] on ↔ ∀ id ∈ [1], TextStands twoVersions id on) := by
  obtain ⟨index, built⟩ : ∃ index, indexOf twoVersions = some index := Option.isSome_iff_exists.mp (by decide +kernel)
  exact ⟨index, _, built, rfl, readsTextInForce_iff built (by decide +kernel)⟩

/-- On the 9th, the last day of the first version, the ranking reads no text at all. -/
theorem twoVersions_lastDay : ∃ index on, indexOf twoVersions = some index ∧ Day.ofFields 2026 1 9 = some on ∧
    ¬ReadsTextInForce twoVersions index [1] on := by
  have missed : ∃ index ∈ indexOf twoVersions, ∃ on ∈ Day.ofFields 2026 1 9, ∃ chunk ∈ index, chunk.metadata.obligationId = some 1 ∧
      filteredOn on chunk = true ∧ chunk ∉ rankedChunks index [1] on := by decide +kernel
  obtain ⟨index, built, on, day, chunk, inside, its, filtered, left_⟩ := missed
  exact ⟨index, on, built, day, fun reads => left_ ((reads.same 1 (.head []) chunk its).mpr ⟨inside, filtered⟩)⟩

end LastDay

end Grc.Agents.WhatApplies
