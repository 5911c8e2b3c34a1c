import Grc.Library.Records
import Grc.Lib.Checks
import Mathlib.Data.List.MinMax

/-! Which version of a record is in force on a date, which comes next, and the dates the card of an obligation shows its versions with. -/
namespace Grc.Library

open Grc.Shared Grc.Lib

def withFollowing {Row : Type} : List Row → List (Row × Option Row)
  | [] => []
  | row :: rest => (row, rest.head?) :: withFollowing rest

section InForce
variable (versions : List ObligationVersion) (on : Day)

/-- `v.effective_from or datetime.date.min`. -/
def startDay (version : ObligationVersion) : Day := version.effectiveFrom.getD Day.first

/-- What `in_force` and `upcoming` compare versions by. -/
def startKey (version : ObligationVersion) : Day ×ₗ Nat := toLex (startDay version, version.versionNumber)

def inForce : Option ObligationVersion :=
  (versions.filter fun version => decide (∀ day ∈ version.effectiveFrom, day ≤ on)).argmax startKey

def upcoming : Option ObligationVersion :=
  (versions.filter fun version => decide (∃ day ∈ version.effectiveFrom, on < day)).argmin startKey

/-- `PartialDate`. -/
structure PartialDate where
  date : Day
  precision : String
  deriving DecidableEq

def partialDate (value : Option Day) (precision : String) : Option PartialDate := value.map fun date => { date, precision }

/-- `ObligationVersionRow`, with the dates. -/
structure ObligationVersionRow where
  versionNumber : Nat
  effectiveFrom : Option PartialDate
  effectiveTo : Option PartialDate
  deriving DecidableEq

/-- The end of one version: the day before the next one takes effect. There is no day before the first of the calendar. -/
def endsBefore (version : ObligationVersion) : Option ObligationVersion → Option (Option PartialDate)
  | none => some none
  | some following =>
    match following.effectiveFrom with
    | none => some none
    | some starts =>
      if ∀ own ∈ version.effectiveFrom, own < starts then
        starts.yesterday.map fun date => some { date, precision := following.effectiveFromPrecision }
      else some none

/-- One row of `version_rows`. -/
def versionRow (version : ObligationVersion) (following : Option ObligationVersion) : Option ObligationVersionRow := do
  let effectiveTo ← endsBefore version following
  some {
    versionNumber := version.versionNumber
    effectiveFrom := partialDate version.effectiveFrom version.effectiveFromPrecision
    effectiveTo }

/-- `version_rows`, none where a date falls off the calendar. -/
def versionRows : Option (List ObligationVersionRow) := (withFollowing versions).mapM fun pair => versionRow pair.1 pair.2

end InForce

def ObligationVersionRow.contains (row : ObligationVersionRow) (on : Day) : Prop :=
  (∀ start ∈ row.effectiveFrom, start.date ≤ on) ∧ ∀ last ∈ row.effectiveTo, on ≤ last.date

instance (row : ObligationVersionRow) (on : Day) : Decidable (row.contains on) := by
  unfold ObligationVersionRow.contains
  infer_instance

section Rules
variable {versions before rest : List ObligationVersion} {on : Day} {version other : ObligationVersion}

theorem mem_withFollowing {Row : Type} {rows : List Row} {row : Row} {following : Option Row} :
    (row, following) ∈ withFollowing rows ↔ ∃ before rest, rows = before ++ row :: rest ∧ following = rest.head? := by
  induction rows with
  | nil => simp [withFollowing]
  | cons first later ih =>
    rw [withFollowing, List.mem_cons, ih]
    constructor
    · rintro (here | ⟨before, rest, rfl, rfl⟩)
      · obtain ⟨rfl, rfl⟩ := Prod.mk.inj here
        exact ⟨[], later, rfl, rfl⟩
      · exact ⟨first :: before, rest, rfl, rfl⟩
    · rintro ⟨before, rest, split, rfl⟩
      cases before with
      | nil =>
        obtain ⟨rfl, rfl⟩ := List.cons.inj split
        exact .inl rfl
      | cons head before =>
        obtain ⟨rfl, rfl⟩ := List.cons.inj split
        exact .inr ⟨before, rest, rfl, rfl⟩

theorem started_iff : (∀ day ∈ version.effectiveFrom, day ≤ on) ↔ startDay version ≤ on := by
  rw [startDay]
  cases version.effectiveFrom with
  | none => exact ⟨fun _ => Day.first_le on, fun _ _ found => nomatch found⟩
  | some day => exact ⟨fun started => started day rfl, fun started _ found => Option.some.inj found ▸ started⟩

def Successive (versions : List ObligationVersion) : Prop := (versions.map startDay).Pairwise (· < ·)

instance : Decidable (Successive versions) := by
  unfold Successive
  infer_instance

theorem Successive.split (successive : Successive (before ++ version :: rest)) :
    (∀ earlier ∈ before, startDay earlier < startDay version) ∧ ∀ later ∈ rest, startDay version < startDay later := by
  rw [Successive, List.map_append, List.map_cons, List.pairwise_append] at successive
  obtain ⟨-, after, across⟩ := successive
  constructor
  · exact fun earlier there => across _ (List.mem_map_of_mem there) _ List.mem_cons_self
  · exact fun later there => (List.pairwise_cons.mp after).1 _ (List.mem_map_of_mem there)

theorem startKey_lt (below : startDay version < startDay other) : startKey version < startKey other := by
  rw [startKey, startKey, Prod.Lex.toLex_lt_toLex]
  exact .inl below

theorem startDay_le (above : startKey version ≤ startKey other) : startDay version ≤ startDay other := by
  rw [startKey, startKey, Prod.Lex.toLex_le_toLex] at above
  exact above.elim le_of_lt fun same => same.1.le

theorem inForce_successive (successive : Successive (before ++ version :: rest)) :
    inForce (before ++ version :: rest) on = some version ↔ startDay version ≤ on ∧ ∀ next ∈ rest.head?, on < startDay next := by
  obtain ⟨earlier, later⟩ := successive.split
  have listed : ∀ row, row ∈ ((before ++ version :: rest).filter fun version => decide (∀ day ∈ version.effectiveFrom, day ≤ on)) ↔
      row ∈ before ++ version :: rest ∧ startDay row ≤ on := by
    intro row
    rw [List.mem_filter, decide_eq_true_eq, started_iff]
  rw [inForce, List.argmax_eq_some_iff]
  simp only [listed]
  constructor
  · rintro ⟨⟨-, begun⟩, most, -⟩
    refine ⟨begun, fun next head => ?_⟩
    by_contra passed
    have there : next ∈ rest := List.mem_of_mem_head? head
    have above := most next ⟨List.mem_append_right _ (List.mem_cons_of_mem _ there), not_lt.mp passed⟩
    exact absurd (later next there) (not_lt.mpr (startDay_le above))
  · rintro ⟨begun, ends⟩
    have others : ∀ row ∈ before ++ version :: rest, startDay row ≤ on → startDay row < startDay version ∨ row = version := by
      intro row there started
      rcases List.mem_append.mp there with old | new
      · exact .inl (earlier row old)
      · rcases List.mem_cons.mp new with rfl | further
        · exact .inr rfl
        · cases rest with
          | nil => exact absurd further List.not_mem_nil
          | cons next rest =>
            have first : startDay next ≤ startDay row := by
              rcases List.mem_cons.mp further with rfl | last
              · exact le_refl _
              · have tail : Successive ((before ++ [version]) ++ next :: rest) := by rwa [List.append_assoc]
                exact (tail.split.2 row last).le
            exact absurd (first.trans started) (not_le.mpr (ends next rfl))
    refine ⟨⟨List.mem_append_right _ List.mem_cons_self, begun⟩, ?_, ?_⟩
    · rintro row ⟨there, started⟩
      rcases others row there started with below | rfl
      · exact (startKey_lt below).le
      · exact le_refl _
    · rintro row ⟨there, started⟩ above
      rcases others row there started with below | rfl
      · exact absurd (startDay_le above) (not_le.mpr below)
      · exact le_refl _

variable {following : Option ObligationVersion}

/-- The row of a version the next one begins after: from its first day to the day before the next one's. -/
theorem versionRow_contains
    (later : ∀ next ∈ following, startDay version < startDay next) :
    ∃ row, versionRow version following = some row ∧ row.versionNumber = version.versionNumber ∧
      ∀ on, row.contains on ↔ startDay version ≤ on ∧ ∀ next ∈ following, on < startDay next := by
  have begins : ∀ on, (∀ start ∈ partialDate version.effectiveFrom version.effectiveFromPrecision, start.date ≤ on) ↔
      startDay version ≤ on := by
    intro on
    rw [← started_iff, partialDate]
    simp [Option.mem_def]
  cases following with
  | none =>
    refine ⟨_, rfl, rfl, fun on => ?_⟩
    rw [ObligationVersionRow.contains, begins on]
    simp
  | some next =>
    have after := later next rfl
    cases dated : next.effectiveFrom with
    | none =>
      rw [show startDay next = Day.first by rw [startDay, dated, Option.getD_none]] at after
      exact absurd (Day.first_le _) (not_le.mpr after)
    | some starts =>
      have nextStart : startDay next = starts := by rw [startDay, dated, Option.getD_some]
      rw [nextStart] at after
      obtain ⟨before, yesterday⟩ := Day.exists_yesterday (lt_of_le_of_lt (Day.first_le _) after)
      have own : ∀ own ∈ version.effectiveFrom, own < starts := by
        intro own its
        rw [startDay, show version.effectiveFrom = some own from its, Option.getD_some] at after
        exact after
      have ends : endsBefore version (some next) = some (some { date := before, precision := next.effectiveFromPrecision }) := by
        rw [endsBefore, dated]
        exact (if_pos own).trans (by rw [yesterday]; rfl)
      refine ⟨{ versionNumber := version.versionNumber
                effectiveFrom := partialDate version.effectiveFrom version.effectiveFromPrecision
                effectiveTo := some { date := before, precision := next.effectiveFromPrecision } }, ?_, rfl, fun on => ?_⟩
      · rw [versionRow, ends]
        rfl
      · rw [ObligationVersionRow.contains, begins on]
        simp [Day.le_yesterday yesterday, nextStart]

variable {row : ObligationVersionRow}

theorem versionRow_open
    (found : versionRow version following = some row) (open_ : ∀ next ∈ following, startDay next ≤ startDay version) :
    row.versionNumber = version.versionNumber ∧ row.contains Day.last := by
  rw [versionRow, Option.bind_eq_bind, Option.bind_eq_some_iff] at found
  obtain ⟨ends, its, same⟩ := found
  have none : ends = none := by
    cases following with
    | none => exact (Option.some.inj its).symm
    | some next =>
      have before := open_ next rfl
      rw [endsBefore] at its
      cases dated : next.effectiveFrom with
      | none =>
        rw [dated] at its
        exact (Option.some.inj its).symm
      | some starts =>
        rw [dated] at its
        rw [startDay, dated, Option.getD_some] at before
        dsimp only at its
        split at its
        · rename_i own
          obtain ⟨day, yesterday, -⟩ := Option.map_eq_some_iff.mp its
          have first : startDay version < starts := by
            rw [startDay]
            cases held : version.effectiveFrom with
            | some own_ => exact own own_ held
            | none => exact lt_of_le_of_lt (Day.first_le day) ((Day.le_yesterday yesterday).mp (le_refl day))
          exact absurd before (not_le.mpr first)
        · exact (Option.some.inj its).symm
  subst none
  obtain rfl := Option.some.inj same
  exact ⟨rfl, fun start _ => Day.le_last _, fun last there => nomatch there⟩

theorem mem_versionRows {rows : List ObligationVersionRow} (found : versionRows versions = some rows) :
    row ∈ rows ↔ ∃ before version rest, versions = before ++ version :: rest ∧ versionRow version rest.head? = some row := by
  have listed : row ∈ rows ↔ some row ∈ rows.map some := by simp
  rw [listed, ← mapM_eq_some.mp found, List.mem_map]
  constructor
  · rintro ⟨⟨version, following⟩, there, row⟩
    obtain ⟨before, rest, split, rfl⟩ := mem_withFollowing.mp there
    exact ⟨before, version, rest, split, row⟩
  · rintro ⟨before, version, rest, split, row⟩
    exact ⟨(version, rest.head?), mem_withFollowing.mpr ⟨before, rest, split, rfl⟩, row⟩

theorem versionRow_number
    (found : versionRow version following = some row) : row.versionNumber = version.versionNumber := by
  rw [versionRow, Option.bind_eq_bind, Option.bind_eq_some_iff] at found
  obtain ⟨ends, -, same⟩ := found
  exact (Option.some.inj same) ▸ rfl

theorem versionRows_numbers {rows : List ObligationVersionRow} (found : versionRows versions = some rows) :
    rows.map (·.versionNumber) = versions.map (·.versionNumber) := by
  induction versions generalizing rows with
  | nil =>
    rw [versionRows, mapM_eq_some] at found
    obtain rfl := List.map_eq_nil_iff.mp found.symm
    rfl
  | cons version rest ih =>
    rw [versionRows, withFollowing, List.mapM_cons, Option.bind_eq_bind, Option.bind_eq_some_iff] at found
    obtain ⟨row, first, found⟩ := found
    obtain ⟨later, others, same⟩ := Option.bind_eq_some_iff.mp found
    obtain rfl := Option.some.inj same
    rw [List.map_cons, List.map_cons, versionRow_number first, ih others]

end Rules

end Grc.Library
