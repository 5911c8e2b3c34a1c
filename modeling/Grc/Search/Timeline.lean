import Grc.Lib.Numbering
import Grc.Library.InForce
import Grc.Library.Reading
import Mathlib.Data.List.Chain
import Mathlib.Data.List.ReduceOption

/-! What the search index reads out of the library: the chunks of an obligation and of a provision, one for each version in each of its
languages, with the dates the version is in force. -/
namespace Grc.Search

open Grc.Shared Grc.Lib Grc.Library

/-- `SearchSource`. -/
inductive SearchSource where
  | provisionVersion
  | obligationVersion
  | change

/-- `SearchChunkMetadata`. -/
structure Metadata where
  instrumentId : Option Id := none
  obligationId : Option Id := none
  regime : Option String := none
  binding : Option Bool := none
  termIds : List Id := []
  jurisdiction : Option String := none
  dutyType : Option String := none
  authority : Option String := none
  deriving DecidableEq

/-- `ChunkSource`. -/
structure ChunkSource where
  sourceId : Id
  language : String
  title : String
  body : String
  hierarchyPath : String
  validFrom : Option Day
  validTo : Option Day
  metadata : Metadata
  deriving DecidableEq

/-- `RecordChunks`. -/
structure RecordChunks where
  sourceType : SearchSource
  sourceIds : List Id
  chunks : List ChunkSource

/-- `_superseded_at_birth`, of the first day of the version that follows, if one does. -/
def supersededAtBirth (start : Option Day) : Option (Option Day) → Bool
  | none => false
  | some none => true
  | some (some nextStart) => decide (∃ own ∈ start, nextStart ≤ own)

/-- `_in_force_until`; there is no day before the first of the calendar. -/
def inForceUntil (start : Option Day) : Option Day → Option (Option Day)
  | none => some none
  | some nextStart => if ∃ own ∈ start, nextStart ≤ own then some none else nextStart.yesterday.map some

/-- The dates of the chunks of a version that is indexed. -/
structure Indexed (Version : Type) where
  version : Version
  validFrom : Option Day
  validTo : Option Day

/-- One version of the loop of a record's chunks: what its chunks are dated, unless it was superseded when it began. -/
def indexedVersion {Version : Type} (effectiveFrom : Version → Option Day) (version : Version) (following : Option Version) :
    Option (Option (Indexed Version)) :=
  if supersededAtBirth (effectiveFrom version) (following.map effectiveFrom) = true then some none
  else (inForceUntil (effectiveFrom version) (following.bind effectiveFrom)).map fun validTo =>
    some { version, validFrom := effectiveFrom version, validTo }

/-- The versions of a record that are indexed, none where a date falls off the calendar. -/
def indexedVersions {Version : Type} (effectiveFrom : Version → Option Day) (versions : List Version) :
    Option (List (Indexed Version)) :=
  ((withFollowing versions).mapM fun pair => indexedVersion effectiveFrom pair.1 pair.2).map List.reduceOption

def joinedParts (separator : String) (parts : List String) : String := separator.intercalate (parts.filter (· != ""))

/-- `_title`. -/
def titleOf (officialRef refLabel text : String) : String :=
  let citation := joinedParts " " [officialRef, refLabel]
  if text = "" then citation else citation ++ " — " ++ text

/-- `_path`. -/
def pathOf (officialRef refLabel : String) : String := joinedParts " > " [officialRef, refLabel]

section Read
variable (records : Records)

def keyOfRow (id : Id) : Option String := (records.rowOf id).map (·.key)

def keyOfTerm (id : Id) : Option String := (records.terms.find? (·.id == id)).map (·.key)

/-- `_metadata`. -/
def metadataOf (instrument : Instrument) (obligationId : Option Id) (dutyType : Option String) (termIds : List Id) : Metadata where
  instrumentId := some instrument.id
  obligationId := obligationId
  regime := keyOfTerm records instrument.regime
  binding := some instrument.binding
  termIds := termIds
  jurisdiction := keyOfRow records instrument.jurisdiction
  dutyType := dutyType

def versionsOf (obligation : Id) : List ObligationVersion :=
  (records.versions.filter (·.obligation == obligation)).insertionSort fun first second => first.versionNumber ≤ second.versionNumber

def titleIn (obligation : Id) (language : String) : String :=
  let titles := records.obligationTitles.filter (·.holder == obligation)
  ((titles.find? (·.language == language)).or (titles.find? (·.isOriginal))).map (·.text) |>.getD ""

def obligationChunks (id : Id) : Option RecordChunks :=
  match records.obligations.find? (·.id == id) with
  | none => some { sourceType := .obligationVersion, sourceIds := [], chunks := [] }
  | some obligation => do
    let rows := versionsOf records obligation.id
    let sourceIds := rows.map (·.id)
    let instrument ← records.instrumentOf obligation.instrument
    if obligation.ownerTenant ≠ none ∨ instrument.ownerTenant ≠ none then
      return { sourceType := .obligationVersion, sourceIds, chunks := [] }
    let indexed ← indexedVersions (·.effectiveFrom) rows
    let termIds := (records.obligationTerms.filter (·.obligation == obligation.id)).map (·.term)
    let metadata := metadataOf records instrument (some obligation.id) (keyOfRow records obligation.dutyType) termIds
    let chunks := indexed.flatMap fun entry => (records.summaries.filter (·.holder == entry.version.id)).map fun summary => {
      sourceId := entry.version.id
      language := summary.language
      title := titleOf instrument.officialRef obligation.refLabel (titleIn records obligation.id summary.language)
      body := summary.text
      hierarchyPath := pathOf instrument.officialRef obligation.refLabel
      validFrom := entry.validFrom
      validTo := entry.validTo
      metadata }
    return { sourceType := .obligationVersion, sourceIds, chunks }

end Read

/-! The three readings of an obligation's versions by date: the one in force, the dates on its card and the dates of its search chunks. -/

variable {versions before rest : List ObligationVersion} {version : ObligationVersion} {on : Day}

def Indexed.contains {Version : Type} (entry : Indexed Version) (on : Day) : Prop :=
  (∀ first ∈ entry.validFrom, first ≤ on) ∧ ∀ last ∈ entry.validTo, on ≤ last

/-- What `in_force` answers once it no longer answers what it answers on a date, if it ever does. -/
def AnswersNext (versions : List ObligationVersion) (on : Day) : Option ObligationVersion → Prop
  | none => ∀ later, on < later → inForce versions later = inForce versions on
  | some next => inForce versions on ≠ some next ∧ ∃ start, on < start ∧ inForce versions start = some next ∧
      ∀ between, on < between → between < start → inForce versions between = inForce versions on

/-- The card, the search index and `upcoming` all name the version that is in force, and the one that is in force next. -/
structure OneTimeline (versions : List ObligationVersion) : Prop where
  card : ∃ rows, versionRows versions = some rows ∧ ∀ on, ∀ row ∈ rows,
    row.contains on ↔ ∃ version, inForce versions on = some version ∧ version.versionNumber = row.versionNumber
  apart : ∀ rows, versionRows versions = some rows → ∀ on, ∀ one ∈ rows, ∀ other ∈ rows, one.contains on → other.contains on → one = other
  index : ∃ entries, indexedVersions (·.effectiveFrom) versions = some entries ∧ ∀ on, ∀ version ∈ versions,
    (∃ entry ∈ entries, entry.version = version ∧ entry.contains on) ↔ inForce versions on = some version
  next : ∀ on, AnswersNext versions on (upcoming versions on)

/-- A version that the next one begins after is indexed, from its first day to the day before the next one's. -/
theorem indexedVersion_contains {following : Option ObligationVersion} (later : ∀ next ∈ following, startDay version < startDay next) :
    ∃ entry, indexedVersion (·.effectiveFrom) version following = some (some entry) ∧ entry.version = version ∧
      ∀ on, entry.contains on ↔ startDay version ≤ on ∧ ∀ next ∈ following, on < startDay next := by
  cases following with
  | none =>
    refine ⟨{ version, validFrom := version.effectiveFrom, validTo := none }, rfl, rfl, fun on => ?_⟩
    rw [Indexed.contains, ← started_iff]
    simp
  | some next =>
    have after := later next rfl
    cases dated : next.effectiveFrom with
    | none =>
      rw [show startDay next = Day.first by rw [startDay, dated, Option.getD_none]] at after
      exact absurd (Day.first_le _) (not_le.mpr after)
    | some starts =>
      have nextStart : startDay next = starts := by rw [startDay, dated, Option.getD_some]
      rw [nextStart] at after
      obtain ⟨before, yesterday⟩ := Day.exists_yesterday (lt_of_le_of_lt (Day.first_le _) after)
      have own : ¬∃ own ∈ version.effectiveFrom, starts ≤ own := by
        rintro ⟨own, its, born⟩
        rw [startDay, show version.effectiveFrom = some own from its, Option.getD_some] at after
        exact absurd born (not_le.mpr after)
      have living : ¬supersededAtBirth version.effectiveFrom ((some next).map (·.effectiveFrom)) = true := by
        rw [Option.map_some, dated, supersededAtBirth, decide_eq_true_eq]
        exact own
      have until_ : inForceUntil version.effectiveFrom ((some next).bind (·.effectiveFrom)) = some (some before) := by
        rw [Option.bind_some, dated, inForceUntil, if_neg own, yesterday, Option.map_some]
      refine ⟨{ version, validFrom := version.effectiveFrom, validTo := some before }, ?_, rfl, fun on => ?_⟩
      · rw [indexedVersion, if_neg living, until_, Option.map_some]
      · rw [Indexed.contains, ← started_iff]
        simp [Day.le_yesterday yesterday, nextStart]

theorem mem_indexedVersions {entries : List (Indexed ObligationVersion)}
    (found : indexedVersions (·.effectiveFrom) versions = some entries) {entry : Indexed ObligationVersion} :
    entry ∈ entries ↔ ∃ before version rest, versions = before ++ version :: rest ∧
      indexedVersion (·.effectiveFrom) version rest.head? = some (some entry) := by
  obtain ⟨answers, asked, rfl⟩ := Option.map_eq_some_iff.mp found
  have listed : some entry ∈ answers ↔ some (some entry) ∈ answers.map some := by simp
  rw [List.reduceOption_mem_iff, listed, ← mapM_eq_some.mp asked, List.mem_map]
  constructor
  · rintro ⟨⟨version, following⟩, there, indexed⟩
    obtain ⟨before, rest, split, rfl⟩ := mem_withFollowing.mp there
    exact ⟨before, version, rest, split, indexed⟩
  · rintro ⟨before, version, rest, split, indexed⟩
    exact ⟨(version, rest.head?), mem_withFollowing.mpr ⟨before, rest, split, rfl⟩, indexed⟩

theorem mem_of_inForce (found : inForce versions on = some version) : version ∈ versions :=
  (List.mem_filter.mp (List.argmax_mem found)).1

theorem inForce_congr {later : Day} (same : ∀ version ∈ versions, startDay version ≤ later ↔ startDay version ≤ on) :
    inForce versions later = inForce versions on := by
  rw [inForce, inForce, List.filter_congr]
  intro version there
  rw [decide_eq_decide, started_iff, started_iff]
  exact same version there

section Successive
variable (successive : Successive versions)
include successive

variable {following : Option ObligationVersion}

section
variable (there : (version, following) ∈ withFollowing versions)
include there

theorem later_of_successive : ∀ next ∈ following, startDay version < startDay next := by
  obtain ⟨before, rest, rfl, rfl⟩ := mem_withFollowing.mp there
  exact fun next head => successive.split.2 next (List.mem_of_mem_head? head)

theorem row_of_successive : ∃ row, versionRow version following = some row ∧ row.versionNumber = version.versionNumber ∧
      ∀ on, row.contains on ↔ inForce versions on = some version := by
  obtain ⟨row, found, number, dates⟩ := versionRow_contains (later_of_successive successive there)
  obtain ⟨before, rest, rfl, rfl⟩ := mem_withFollowing.mp there
  exact ⟨row, found, number, fun on => (dates on).trans (inForce_successive successive).symm⟩

theorem entry_of_successive : ∃ entry, indexedVersion (·.effectiveFrom) version following = some (some entry) ∧ entry.version = version ∧
      ∀ on, entry.contains on ↔ inForce versions on = some version := by
  obtain ⟨entry, found, its, dates⟩ := indexedVersion_contains (later_of_successive successive there)
  obtain ⟨before, rest, rfl, rfl⟩ := mem_withFollowing.mp there
  exact ⟨entry, found, its, fun on => (dates on).trans (inForce_successive successive).symm⟩

end

theorem card_of_successive (once : (versions.map (·.versionNumber)).Nodup) :
    ∃ rows, versionRows versions = some rows ∧ ∀ on, ∀ row ∈ rows,
      row.contains on ↔ ∃ version, inForce versions on = some version ∧ version.versionNumber = row.versionNumber := by
  obtain ⟨rows, found⟩ : ∃ rows, versionRows versions = some rows := exists_mapM fun pair there =>
    (row_of_successive successive there).imp fun _ row => row.1
  refine ⟨rows, found, fun on row there => ?_⟩
  obtain ⟨before, version, rest, split, its⟩ := (mem_versionRows found).mp there
  obtain ⟨other, same, number, dates⟩ := row_of_successive successive (mem_withFollowing.mpr ⟨before, rest, split, rfl⟩)
  obtain rfl := Option.some.inj (same.symm.trans its)
  rw [dates on]
  constructor
  · exact fun current => ⟨version, current, number.symm⟩
  · rintro ⟨current, found, equal⟩
    have member : version ∈ versions := split ▸ List.mem_append_right _ List.mem_cons_self
    have one : current = version := List.inj_on_of_nodup_map once (mem_of_inForce found) member (equal.trans number)
    exact one ▸ found

theorem index_of_successive : ∃ entries, indexedVersions (·.effectiveFrom) versions = some entries ∧ ∀ on, ∀ version ∈ versions,
    (∃ entry ∈ entries, entry.version = version ∧ entry.contains on) ↔ inForce versions on = some version := by
  obtain ⟨answers, asked⟩ := @exists_mapM _ _ (withFollowing versions) _ fun pair there =>
    (entry_of_successive successive there).elim fun entry its => ⟨some entry, its.1⟩
  have found : indexedVersions (·.effectiveFrom) versions = some answers.reduceOption := by rw [indexedVersions, asked, Option.map_some]
  refine ⟨_, found, fun on version there => ?_⟩
  constructor
  · rintro ⟨entry, listed, rfl, contains⟩
    obtain ⟨before, version, rest, split, its⟩ := (mem_indexedVersions found).mp listed
    obtain ⟨other, same, own, dates⟩ := entry_of_successive successive (mem_withFollowing.mpr ⟨before, rest, split, rfl⟩)
    obtain rfl := Option.some.inj (Option.some.inj (same.symm.trans its))
    rw [own]
    exact (dates on).mp contains
  · intro current
    obtain ⟨before, rest, split⟩ := List.append_of_mem there
    obtain ⟨entry, its, own, dates⟩ := entry_of_successive successive (mem_withFollowing.mpr ⟨before, rest, split, rfl⟩)
    exact ⟨entry, (mem_indexedVersions found).mpr ⟨before, version, rest, split, its⟩, own, (dates on).mpr current⟩

theorem next_of_successive (on : Day) : AnswersNext versions on (upcoming versions on) := by
  have listed : ∀ row, row ∈ (versions.filter fun version => decide (∃ day ∈ version.effectiveFrom, on < day)) ↔
      row ∈ versions ∧ on < startDay row := by
    intro row
    rw [List.mem_filter, decide_eq_true_eq, ← not_le, ← started_iff]
    simp
  cases found : upcoming versions on with
  | none =>
    intro later after
    have empty := List.argmin_eq_none.mp found
    refine inForce_congr fun version there => ⟨fun _ => ?_, fun begun => begun.trans after.le⟩
    by_contra waits
    have pending := (listed version).mpr ⟨there, not_le.mp waits⟩
    rw [empty] at pending
    exact absurd pending List.not_mem_nil
  | some next =>
    obtain ⟨member, waits⟩ := (listed next).mp (List.argmin_mem found)
    have first : ∀ version ∈ versions, on < startDay version → startDay next ≤ startDay version :=
      fun version there pending => startDay_le (List.le_of_mem_argmin ((listed version).mpr ⟨there, pending⟩) found)
    obtain ⟨before, rest, split⟩ := List.append_of_mem member
    subst split
    refine ⟨?_, startDay next, waits, ?_, ?_⟩
    · rw [Ne, inForce_successive successive]
      exact fun begun => absurd begun.1 (not_le.mpr waits)
    · rw [inForce_successive successive]
      exact ⟨le_refl _, fun later head => successive.split.2 later (List.mem_of_mem_head? head)⟩
    · intro between after before_
      refine inForce_congr fun version there => ⟨fun begun => ?_, fun begun => begun.trans after.le⟩
      by_contra pending
      exact absurd (first version there (not_le.mp pending)) (not_le.mpr (lt_of_le_of_lt begun before_))

end Successive

/-- Where the card names the version in force on every date, each version begins after the one before it. -/
theorem successive_of_card (numbered : Numbered (·.versionNumber) versions) {rows : List ObligationVersionRow}
    (found : versionRows versions = some rows) (card : ∀ on, ∀ row ∈ rows,
      row.contains on ↔ ∃ version, inForce versions on = some version ∧ version.versionNumber = row.versionNumber) :
    Successive versions := by
  -- Two rows without an end both contain the last day, and one version is in force on it.
  have single : ∀ one ∈ rows, ∀ other ∈ rows, one.contains Day.last → other.contains Day.last →
      one.versionNumber = other.versionNumber := by
    intro one first other second oneLast otherLast
    obtain ⟨current, its, number⟩ := (card Day.last one first).mp oneLast
    obtain ⟨same, also, equal⟩ := (card Day.last other second).mp otherLast
    obtain rfl := Option.some.inj (its.symm.trans also)
    exact number.symm.trans equal
  have rowOf : ∀ before version rest, versions = before ++ version :: rest →
      ∃ row ∈ rows, versionRow version rest.head? = some row := by
    intro before version rest split
    have asked : (version, rest.head?) ∈ withFollowing versions := mem_withFollowing.mpr ⟨before, rest, split, rfl⟩
    have answered : versionRow version rest.head? ∈ rows.map some :=
      mapM_eq_some.mp found ▸ List.mem_map.mpr ⟨_, asked, rfl⟩
    obtain ⟨row, there, its⟩ := List.mem_map.mp answered
    exact ⟨row, there, its.symm⟩
  rw [Successive, ← List.isChain_iff_pairwise, List.isChain_map, List.isChain_iff_forall_rel_of_append_cons_cons]
  rintro version next before rest split
  by_contra passed
  obtain ⟨row, there, its⟩ := rowOf before version (next :: rest) split
  obtain ⟨number, open_⟩ := versionRow_open its fun other head => Option.some.inj head ▸ not_lt.mp passed
  obtain ⟨until_, final, ends⟩ := (next :: rest).eq_nil_or_concat.resolve_left (List.cons_ne_nil _ _)
  rw [List.concat_eq_append] at ends
  have last : versions = (before ++ version :: until_) ++ final :: [] := by
    rw [split, ends, List.append_assoc, List.cons_append]
  obtain ⟨lastRow, listed, lasts⟩ := rowOf _ final [] last
  obtain ⟨lastNumber, lastOpen⟩ := versionRow_open lasts fun other head => absurd head (Option.not_mem_none other)
  have same : version.versionNumber = final.versionNumber :=
    number.symm.trans ((single row there lastRow listed open_ lastOpen).trans lastNumber)
  have once := numbered.nodup
  rw [split, ends, List.map_append, List.map_cons] at once
  refine (List.nodup_cons.mp once.of_append_right).1 ?_
  rw [same]
  exact List.mem_map_of_mem (List.mem_append_right _ List.mem_cons_self)

/-- The three readings agree on the versions of an obligation where each takes effect after the one before it, and there only. -/
theorem oneTimeline_iff (numbered : Numbered (·.versionNumber) versions) : OneTimeline versions ↔ Successive versions := by
  constructor
  · rintro ⟨⟨rows, found, card⟩, -, -, -⟩
    exact successive_of_card numbered found card
  · intro successive
    obtain ⟨rows, found, card⟩ := card_of_successive successive numbered.nodup
    refine ⟨⟨rows, found, card⟩, ?_, index_of_successive successive, next_of_successive successive⟩
    intro others also on one first other second oneOn otherOn
    obtain rfl := Option.some.inj (found.symm.trans also)
    obtain ⟨current, its, number⟩ := (card on one first).mp oneOn
    obtain ⟨same, its_, equal⟩ := (card on other second).mp otherOn
    obtain rfl := Option.some.inj (its.symm.trans its_)
    have once : (rows.map (·.versionNumber)).Nodup := versionRows_numbers found ▸ numbered.nodup
    exact List.inj_on_of_nodup_map once first second (number.symm.trans equal)

section Dated

/-- A version of an obligation that takes effect on a day of January 2026, or is undated. -/
def dated (number : Nat) (day : Option Nat) : ObligationVersion where
  id := number
  obligation := 1
  versionNumber := number
  effectiveFrom := day.bind (Day.ofFields 2026 1)
  effectiveFromPrecision := "day"

theorem ascending_oneTimeline : Numbered (·.versionNumber) [dated 1 none, dated 2 (some 5), dated 3 (some 10)] ∧
    (OneTimeline [dated 1 none, dated 2 (some 5), dated 3 (some 10)] ↔ Successive [dated 1 none, dated 2 (some 5), dated 3 (some 10)]) :=
  ⟨by decide +kernel, oneTimeline_iff (by decide +kernel)⟩

/-- The third version takes effect before the second, and the card shows the first and the third in force on the 8th. -/
theorem backdated_apart : Numbered (·.versionNumber) [dated 1 (some 5), dated 2 (some 10), dated 3 (some 7)] ∧
    ¬OneTimeline [dated 1 (some 5), dated 2 (some 10), dated 3 (some 7)] := by
  refine ⟨by decide +kernel, fun one => ?_⟩
  have overlap : ∃ on ∈ Day.ofFields 2026 1 8, ∃ rows ∈ versionRows [dated 1 (some 5), dated 2 (some 10), dated 3 (some 7)],
      ∃ first ∈ rows, ∃ third ∈ rows, first.contains on ∧ third.contains on ∧ first ≠ third := by decide +kernel
  obtain ⟨on, -, rows, found, first, there, third, listed, firstOn, thirdOn, different⟩ := overlap
  exact different (one.apart rows found on first there third listed firstOn thirdOn)

end Dated

end Grc.Search
