import Grc.Lib.Lists
import Grc.Register.Units

/-! A paste's dry run against its commit. The commit writes an event for each answer, under a title made of
the instrument's name, the obligation's reference, the entity's name and the unit's reference, and the
column that holds it is shorter than the four together may be. -/
namespace Grc.Register.Units

open Grc.Shared Grc.Lib
open Grc.Proposals (strip)

variable {cap : Nat} {tables seen : Tables} {session : Session} {now : Instant} {obligation : Id} {body : PasteBody}
  {mayDecide : Bool} {heading : Heading} {scope : Scope} {existing : List String} {lines : List PasteLine}

def PasteRow.verdict (row : PasteRow) : Nat × String × String × Option PasteProblem :=
  (row.line, row.reference, row.title, row.problem)

/-- The unit of a line. -/
structure UnitOf (scope : Id) (pasted : PasteLine) (unit : SoaUnit) : Prop where
  under : unit.scope = scope
  reference : unit.reference = strip pasted.reference
  title : unit.title = strip pasted.title
  live : unit.live = true
  applicability : unit.applicability = (pasted.applicability.map fun answer => kindOf answer.word).getD .notAssessed
  reason : unit.applicabilityReason = strip (pasted.reason.getD "")

def tried (cap : Nat) (tables : Tables) (session : Session) (now : Instant) (obligation : Id) (body : PasteBody) (mayDecide : Bool)
    (dryRun : Bool) : Except Refusal (Tables × UnitPaste) :=
  pasteUnits cap tables tables session now obligation { body with dryRun } mayDecide

/-- What is promised of a paste: the commit is refused as the dry run is, stores nothing where the dry run
refuses a line, and else a unit for each line in order, with the dry run's verdicts. -/
structure PasteKept (cap : Nat) (tables : Tables) (session : Session) (now : Instant) (obligation : Id) (body : PasteBody)
    (mayDecide : Bool) : Prop where
  refused : ∀ refusal, tried cap tables session now obligation body mayDecide true = .error refusal ↔
    tried cap tables session now obligation body mayDecide false = .error refusal
  shown : ∀ after preview, tried cap tables session now obligation body mayDecide true = .ok (after, preview) → after = tables
  nothing : ∀ preview, tried cap tables session now obligation body mayDecide true = .ok (tables, preview) →
    (∃ row ∈ preview.rows, row.problem.isSome = true) →
    tried cap tables session now obligation body mayDecide false = .ok (tables, preview)
  each : ∀ preview, tried cap tables session now obligation body mayDecide true = .ok (tables, preview) →
    (∀ row ∈ preview.rows, row.problem = none) →
    ∃ stored committed made,
      tried cap tables session now obligation body mayDecide false = .ok (stored, committed) ∧
      committed.dryRun = false ∧ committed.created = made.length ∧
      committed.rows.map PasteRow.verdict = preview.rows.map PasteRow.verdict ∧
      committed.rows.map (·.unitId) = made.map (fun unit => some unit.id) ∧
      (∀ row ∈ committed.rows, row.outcome = .created) ∧
      stored.units.rows = tables.units.rows ++ made ∧
      ∃ scope ∈ tables.scopes.rows, scope.obligation = obligation ∧ scope.orgUnit = body.orgUnitId ∧
        List.Forall₂ (UnitOf scope.id) body.lines made

/-- Some check refuses the paste, or some line of it is refused, or every answer's title fits its column. -/
def TitlesFit (cap : Nat) (tables : Tables) (obligation : Id) (body : PasteBody) (mayDecide : Bool) : Prop :=
  ∀ heading scope, pasteScope cap tables obligation body mayDecide = .ok (heading, scope) →
    (∀ row ∈ judgedRows tables scope body, row.problem = none) →
    ∀ pasted ∈ body.lines, pasted.applicability.isSome = true →
      (answerTitle heading scope (strip pasted.reference)).length ≤ subjectTitleMax

/-! ## What the lines come to -/

theorem pasteRows_names (existing : List String) (line : Nat) (before : List String) (lines : List PasteLine) :
    (pasteRows existing line before lines).map (fun row => (row.reference, row.title)) =
      lines.map fun pasted => (strip pasted.reference, strip pasted.title) := by
  induction lines generalizing line before with
  | nil => rfl
  | cons pasted rest ih =>
    rw [pasteRows, List.map_cons, List.map_cons, ih]

theorem problemOf_none {reference title : String} {before : List String} (clean : problemOf reference title before existing = none) :
    reference.length ≤ unitReferenceMax ∧ reference ∉ before ∧ reference ∉ existing := by
  unfold problemOf at clean
  repeat' split at clean
  all_goals try cases clean
  refine ⟨?_, ‹_›, ‹_›⟩
  omega

theorem pasteRows_clean {line : Nat} {before : List String}
    (clean : ∀ row ∈ pasteRows existing line before lines, row.problem = none) :
    (lines.map fun pasted => strip pasted.reference).Nodup ∧
      ∀ pasted ∈ lines, (strip pasted.reference).length ≤ unitReferenceMax ∧ strip pasted.reference ∉ before ∧
        strip pasted.reference ∉ existing ∧ halfDecided pasted = none := by
  induction lines generalizing line before with
  | nil => exact ⟨List.nodup_nil, fun _ none_ => nomatch none_⟩
  | cons pasted rest ih =>
    rw [pasteRows] at clean
    obtain ⟨apart, later⟩ := ih fun row listed => clean row (List.mem_cons_of_mem _ listed)
    have first := clean _ List.mem_cons_self
    obtain ⟨judged, whole⟩ := Option.or_eq_none_iff.mp first
    obtain ⟨fits, new, free⟩ := problemOf_none judged
    constructor
    · rw [List.map_cons, List.nodup_cons]
      refine ⟨?_, apart⟩
      intro repeated
      obtain ⟨other, listed, same⟩ := List.mem_map.mp repeated
      exact (later other listed).2.1 (same ▸ List.mem_cons_self)
    · intro other listed
      rcases List.mem_cons.mp listed with rfl | further
      · exact ⟨fits, new, free, whole⟩
      · obtain ⟨fits, new, free, whole⟩ := later other further
        exact ⟨fits, fun member => new (List.mem_cons_of_mem _ member), free, whole⟩

theorem reason_of_undecided {pasted : PasteLine} (whole : halfDecided pasted = none) (undecided : pasted.applicability = none) :
    strip (pasted.reason.getD "") = "" := by
  unfold halfDecided at whole
  rw [undecided] at whole
  by_contra said
  simp [said] at whole

/-! ## What the commit stores -/

theorem pasteScope_ok (found : pasteScope cap tables obligation body mayDecide = .ok (heading, scope)) :
    tables.headings.find? (·.obligation == obligation) = some heading ∧ scope ∈ tables.scopes.rows ∧
      scope.obligation = obligation ∧ scope.orgUnit = body.orgUnitId ∧ scope.applicability = .applies ∧ body.lines.length ≤ cap := by
  unfold pasteScope conformanceScope standard at found
  simp only [bind_ok, demand_ok, require_ok, Except.ok.injEq] at found
  obtain ⟨-, ⟨here, ⟨named, known, -, -, rfl⟩, -, -, row, stored, -, applies, rfl⟩, -, few, -, -, same⟩ := found
  obtain ⟨rfl, rfl⟩ := Prod.mk.inj same
  have chosen := List.find?_some stored
  simp only [Bool.and_eq_true, beq_iff_eq] at chosen
  exact ⟨known, List.mem_of_find?_eq_some stored, chosen.1.1, chosen.1.2, applies, few⟩

theorem recordAll_ok {log events : List AuditEvent} (fits : ∀ event ∈ events, event.subjectTitle.length ≤ subjectTitleMax) :
    recordAll log events = .ok (log ++ events) := by
  unfold recordAll require
  rw [if_pos fits]
  rfl

theorem insertMany_ok {named : List (String × String)} (apart : (named.map (·.1)).Nodup)
    (free : ∀ line ∈ named, tables.referenceFree scope.id line.1 none) (fits : ∀ line ∈ named, line.1.length ≤ subjectTitleMax) :
    ∃ stored created, insertMany tables session scope named = .ok (stored, created) ∧
      stored.headings = tables.headings ∧ stored.scopes = tables.scopes ∧ stored.defaultStatus = tables.defaultStatus ∧
      stored.units.rows = tables.units.rows ++ created ∧
      List.Forall₂ (fun line unit => unit = SoaUnit.listed scope.id tables.defaultStatus line unit.id) named created := by
  obtain ⟨created, added, each⟩ := @Keyed.createAll_rows SoaUnit SoaUnit.id tables.units (String × String)
    (SoaUnit.listed scope.id tables.defaultStatus) (fun _ _ => rfl) named
  have titled : ∀ unit ∈ created, unit.reference.length ≤ subjectTitleMax := by
    intro unit listed
    obtain ⟨line, paired⟩ := fellow_of_right each.length_eq listed
    rw [List.forall₂_zip each paired]
    exact fits line (List.of_mem_zip paired).1
  have new : (tables.units.createAll (SoaUnit.listed scope.id tables.defaultStatus) (fun _ _ => rfl) named).rows.drop
      tables.units.rows.length = created := by
    rw [added, List.drop_left]
  unfold insertMany
  dsimp only
  rw [new, recordAll_ok fun event recorded => ?_, require, if_pos ⟨apart, free⟩]
  · exact ⟨_, created, rfl, rfl, rfl, rfl, added, each⟩
  · obtain ⟨unit, listed, rfl⟩ := List.mem_map.mp recorded
    exact titled unit listed

theorem zip_const {Given Made : Type} (heading : Heading) (given : List Given) (made : List Made) :
    given.zip ((given.map fun _ => heading).zip made) = (given.zip made).map fun pair => (pair.1, heading, pair.2) := by
  induction given generalizing made with
  | nil => rfl
  | cons first rest ih =>
    cases made with
    | nil => rfl
    | cons other others => rw [List.map_cons, List.zip_cons_cons, List.zip_cons_cons, ih, List.zip_cons_cons, List.map_cons]

theorem store_of {answers : List Answer} {headings : List Heading} {found : List (Scope × SoaUnit)}
    (headed : answers.mapM (headingOf seen) = .ok headings) (units : answers.mapM (lockedUnit seen tables answers) = .ok found) :
    store seen tables session now answers none =
      (recordAll tables.audit ((answers.zip (headings.zip found)).map fun each =>
        answerEvent session tables.tenant each.1 each.2.1 each.2.2)).map fun audit => { tables with
          units := tables.units.update (fun unit => answers.any (·.unit == unit.id)) (SoaUnit.answered session.person now answers)
            (SoaUnit.answered_id _ _ _)
          audit } := by
  have fresh : ∀ expected ∈ (none : Option Nat), ∀ each ∈ found.head?, expected = each.2.version := fun _ none_ => nomatch none_
  unfold store
  simp only [Session.actor, demand, bind, Except.bind, headed, units, require, if_pos fresh]
  cases recordAll tables.audit _ <;> rfl

theorem lastAnswer_eq_none {answers : List Answer} {unit : Id} : lastAnswer answers unit = none ↔ ∀ answer ∈ answers, answer.unit ≠ unit := by
  simp [lastAnswer]

theorem answered_of_none {answers : List Answer} {unit : SoaUnit} (unanswered : lastAnswer answers unit.id = none) :
    unit.answered session.person now answers = unit := by
  rw [SoaUnit.answered, unanswered]

theorem update_answered (units : Keyed SoaUnit.id) (answers : List Answer) :
    (units.update (fun unit => answers.any (·.unit == unit.id)) (SoaUnit.answered session.person now answers)
      (SoaUnit.answered_id _ _ _)).rows = units.rows.map (SoaUnit.answered session.person now answers) := by
  refine List.map_congr_left fun unit _ => ?_
  split
  · rfl
  · next unanswered =>
    refine (answered_of_none (lastAnswer_eq_none.mpr fun answer listed same => unanswered ?_)).symm
    exact List.any_eq_true.mpr ⟨answer, listed, beq_iff_eq.mpr same⟩

/-- The tables right after the units of some lines were inserted under a scope that applies. -/
structure Inserted (heading : Heading) (scope : Scope) (lines : List PasteLine) (old : List SoaUnit) (listed : Tables)
    (created : List SoaUnit) : Prop where
  known : listed.headings.find? (·.obligation == scope.obligation) = some heading
  under : scope ∈ listed.scopes.rows
  applies : scope.applicability = .applies
  rows : listed.units.rows = old ++ created
  each : List.Forall₂ (fun pasted unit => unit =
    SoaUnit.listed scope.id listed.defaultStatus (strip pasted.reference, strip pasted.title) unit.id) lines created

namespace Inserted
variable {old created : List SoaUnit} {listed : Tables} {unit other : SoaUnit} {pasted theirs : PasteLine}

section
variable (inserted : Inserted heading scope lines old listed created)
include inserted

theorem apart : (created.map (·.id)).Nodup := by
  have keyed := listed.units.keyed
  rw [inserted.rows, List.map_append] at keyed
  exact (List.nodup_append.mp keyed).2.1

theorem unit_eq (paired : (unit, pasted) ∈ created.zip lines) :
    unit = SoaUnit.listed scope.id listed.defaultStatus (strip pasted.reference, strip pasted.title) unit.id :=
  List.forall₂_zip inserted.each.flip paired

theorem reference_eq (paired : (unit, pasted) ∈ created.zip lines) : unit.reference = strip pasted.reference :=
  congrArg SoaUnit.reference (inserted.unit_eq paired)

theorem mem (paired : (unit, pasted) ∈ created.zip lines) : unit ∈ listed.units.rows := by
  rw [inserted.rows]
  exact List.mem_append_right _ (List.of_mem_zip paired).1

theorem zip_apart : ((created.zip lines).map fun pair => pair.1.id).Nodup := by
  have firsts : (created.zip lines).map Prod.fst = created := List.map_fst_zip inserted.each.length_eq.ge
  have whole := inserted.apart
  rw [← firsts, List.map_map] at whole
  exact whole

theorem line_eq (paired : (unit, pasted) ∈ created.zip lines)
    (also : (other, theirs) ∈ created.zip lines) (same : unit.id = other.id) : (unit, pasted) = (other, theirs) :=
  List.inj_on_of_nodup_map inserted.zip_apart paired also same

end

theorem mem_carried {answer : Answer} : answer ∈ carriedAnswers scope.obligation created lines ↔
    ∃ unit pasted word, (unit, pasted) ∈ created.zip lines ∧ pasted.applicability = some word ∧
      answer = { obligation := scope.obligation, unit := unit.id, applicability := word.word, reason := strip (pasted.reason.getD "") } := by
  unfold carriedAnswers
  rw [List.mem_filterMap]
  constructor
  · rintro ⟨⟨unit, pasted⟩, paired, made⟩
    obtain ⟨word, said, rfl⟩ := Option.map_eq_some_iff.mp made
    exact ⟨unit, pasted, word, paired, said, rfl⟩
  · rintro ⟨unit, pasted, word, paired, said, rfl⟩
    exact ⟨(unit, pasted), paired, Option.map_eq_some_iff.mpr ⟨word, said, rfl⟩⟩

section
variable (inserted : Inserted heading scope lines old listed created)
include inserted

theorem lastAnswer_eq (paired : (unit, pasted) ∈ created.zip lines) :
    lastAnswer (carriedAnswers scope.obligation created lines) unit.id = pasted.applicability.map fun word =>
      { obligation := scope.obligation, unit := unit.id, applicability := word.word, reason := strip (pasted.reason.getD "") } := by
  unfold lastAnswer
  cases said : pasted.applicability with
  | none =>
    refine List.find?_eq_none.mpr fun answer listed its => ?_
    obtain ⟨other, theirs, word, also, answered, rfl⟩ := mem_carried.mp (List.mem_reverse.mp listed)
    cases inserted.line_eq also paired (beq_iff_eq.mp its)
    rw [said] at answered
    cases answered
  | some word =>
    have there := (@mem_carried scope lines created _).mpr ⟨unit, pasted, word, paired, said, rfl⟩
    cases found : (carriedAnswers scope.obligation created lines).reverse.find? (·.unit == unit.id) with
    | none => exact absurd (beq_self_eq_true _) (List.find?_eq_none.mp found _ (List.mem_reverse.mpr there))
    | some answer =>
      have its : answer.unit = unit.id := beq_iff_eq.mp (List.find?_some found :)
      obtain ⟨other, theirs, word', also, answered, rfl⟩ := mem_carried.mp (List.mem_reverse.mp (List.mem_of_find?_eq_some found))
      cases inserted.line_eq also paired its
      rw [said] at answered
      cases answered
      rfl

theorem lockedUnit_ok {answer : Answer} (carried : answer ∈ carriedAnswers scope.obligation created lines) :
    ∃ unit pasted, (unit, pasted) ∈ created.zip lines ∧ pasted.applicability.isSome = true ∧ unit.id = answer.unit ∧
      lockedUnit listed listed (carriedAnswers scope.obligation created lines) answer = .ok (scope, unit) := by
  obtain ⟨unit, pasted, word, paired, said, rfl⟩ := mem_carried.mp carried
  refine ⟨unit, pasted, paired, said ▸ rfl, rfl, ?_⟩
  have stands : unit.scope = scope.id ∧ unit.live = true := by
    rw [inserted.unit_eq paired]
    exact ⟨rfl, rfl⟩
  have found : listed.units.rows.find? (fun row => row.id == unit.id && row.live) = some unit :=
    listed.units.find?_eq_some (inserted.mem paired) (by simp [stands.2]) fun other chosen => by simp_all
  have under : listed.scopes.rows.find? (·.id == unit.scope) = some scope :=
    listed.scopes.find?_eq_some inserted.under (by simp [stands.1]) fun other chosen => by simp_all
  have last := inserted.lastAnswer_eq paired
  rw [said] at last
  simp only [lockedUnit, found, under, demand, last, Option.map_some, inserted.applies, require, if_true, bind, Except.bind]

/-- `_store` of the carried answers: it fails exactly where the titles of their events do not fit. -/
theorem store_eq : ∃ events, store listed listed session now (carriedAnswers scope.obligation created lines) none =
      (recordAll listed.audit events).map (fun audit => { listed with
        units := listed.units.update (fun unit => (carriedAnswers scope.obligation created lines).any (·.unit == unit.id))
          (SoaUnit.answered session.person now (carriedAnswers scope.obligation created lines)) (SoaUnit.answered_id _ _ _)
        audit }) ∧
      ((∀ event ∈ events, event.subjectTitle.length ≤ subjectTitleMax) ↔
        ∀ pasted ∈ lines, pasted.applicability.isSome = true →
          (answerTitle heading scope (strip pasted.reference)).length ≤ subjectTitleMax) := by
  generalize named : carriedAnswers scope.obligation created lines = answers
  have headed : answers.mapM (headingOf listed) = .ok (answers.map fun _ => heading) := by
    rw [mapM_ok_iff, List.forall₂_map_right_iff]
    refine List.forall₂_same.mpr fun answer carried => ?_
    obtain ⟨_, _, _, -, -, rfl⟩ := mem_carried.mp (named ▸ carried)
    simp only [headingOf, inserted.known, demand]
  obtain ⟨found, locked⟩ := @exists_forall₂ Answer (Scope × SoaUnit)
    (fun answer found => lockedUnit listed listed answers answer = .ok found ∧ found.1 = scope ∧ found.2.id = answer.unit ∧
      ∃ pasted, (found.2, pasted) ∈ created.zip lines ∧ pasted.applicability.isSome = true) answers
    (fun answer carried => by
      obtain ⟨unit, pasted, paired, said, same, its⟩ := inserted.lockedUnit_ok (named ▸ carried)
      rw [named] at its
      exact ⟨(scope, unit), its, rfl, same, pasted, paired, said⟩)
  have units : answers.mapM (lockedUnit listed listed answers) = .ok found :=
    mapM_ok_iff.mpr (locked.imp fun _ _ its => its.1)
  refine ⟨_, store_of headed units, ?_⟩
  rw [zip_const]
  constructor
  · intro fit pasted line said
    obtain ⟨unit, paired⟩ := fellow_of_right inserted.each.length_eq.symm line
    obtain ⟨word, answered⟩ := Option.isSome_iff_exists.mp said
    have carried := named ▸ mem_carried.mpr ⟨unit, pasted, word, paired, answered, rfl⟩
    obtain ⟨found_, both⟩ := fellow_of_left locked.length_eq carried
    obtain ⟨-, under, same, theirs, also, -⟩ := List.forall₂_zip locked both
    have title := fit _ (List.mem_map_of_mem (List.mem_map_of_mem both))
    cases inserted.line_eq also paired same
    rw [← inserted.reference_eq paired]
    simpa only [answerEvent, under] using title
  · intro fit event recorded
    obtain ⟨each, listed_, rfl⟩ := List.mem_map.mp recorded
    obtain ⟨⟨answer, found_⟩, both, rfl⟩ := List.mem_map.mp listed_
    obtain ⟨-, under, -, pasted, paired, said⟩ := List.forall₂_zip locked both
    have title := fit pasted (List.of_mem_zip paired).2 said
    rw [← inserted.reference_eq paired] at title
    simpa only [answerEvent, under] using title

theorem carried_nodup : ((carriedAnswers scope.obligation created lines).map fun answer => (answer.obligation, answer.unit)).Nodup := by
  have within : ∀ pairs : List (SoaUnit × PasteLine), List.Sublist ((pairs.filterMap fun pair =>
      pair.2.applicability.map fun word => ({
        obligation := scope.obligation, unit := pair.1.id, applicability := word.word, reason := strip (pair.2.reason.getD "") } : Answer)).map (·.unit))
      (pairs.map fun pair => pair.1.id) := by
    intro pairs
    induction pairs with
    | nil => exact List.Sublist.refl _
    | cons pair rest ih =>
      rw [List.filterMap_cons]
      split
      · exact ih.cons _
      · next made =>
        obtain ⟨_, -, rfl⟩ := Option.map_eq_some_iff.mp made
        exact ih.cons_cons _
  have apart : ((created.zip lines).map fun pair => pair.1.id).Nodup := inserted.zip_apart
  have units := apart.sublist (within (created.zip lines))
  exact List.Nodup.of_map Prod.snd (by rwa [List.map_map])

theorem unitOf_answered (paired : (unit, pasted) ∈ created.zip lines) (whole : halfDecided pasted = none) :
    UnitOf scope.id pasted (unit.answered session.person now (carriedAnswers scope.obligation created lines)) := by
  have its := inserted.unit_eq paired
  have last := inserted.lastAnswer_eq paired
  cases said : pasted.applicability with
  | none =>
    rw [said] at last
    rw [answered_of_none last]
    have silent := reason_of_undecided whole said
    constructor
    · rw [its]; rfl
    · rw [its]; rfl
    · rw [its]; rfl
    · rw [its]; rfl
    · rw [its, said]; rfl
    · rw [its, silent]; rfl
  | some word =>
    rw [said] at last
    rw [SoaUnit.answered, last]
    constructor
    · exact congrArg SoaUnit.scope its
    · exact congrArg SoaUnit.reference its
    · exact congrArg SoaUnit.title its
    · exact congrArg SoaUnit.live its
    · rw [said]; rfl
    · rfl

end

theorem carried_length (obligation : Id) (created : List SoaUnit) (lines : List PasteLine) :
    (carriedAnswers obligation created lines).length ≤ lines.length := by
  have pairs := List.length_filterMap_le (fun pair : SoaUnit × PasteLine => pair.2.applicability.map fun word => ({
    obligation, unit := pair.1.id, applicability := word.word, reason := strip (pair.2.reason.getD "") } : Answer)) (created.zip lines)
  rw [List.length_zip] at pairs
  exact pairs.trans (Nat.min_le_right _ _)

theorem answered_rows (inserted : Inserted heading scope lines old listed created)
    (whole : ∀ pasted ∈ lines, halfDecided pasted = none) :
    ∃ made, (listed.units.update (fun unit => (carriedAnswers scope.obligation created lines).any (·.unit == unit.id))
        (SoaUnit.answered session.person now (carriedAnswers scope.obligation created lines)) (SoaUnit.answered_id _ _ _)).rows = old ++ made ∧
      made.map (·.id) = created.map (·.id) ∧ List.Forall₂ (UnitOf scope.id) lines made := by
  let change := SoaUnit.answered session.person now (carriedAnswers scope.obligation created lines)
  refine ⟨created.map change, ?_, ?_, ?_⟩
  · have keyed := listed.units.keyed
    rw [inserted.rows, List.map_append, List.nodup_append] at keyed
    have spared : old.map change = old := by
      refine (List.map_congr_left fun unit there => ?_).trans (List.map_id' old)
      refine answered_of_none (lastAnswer_eq_none.mpr fun answer carried same => ?_)
      obtain ⟨other, _, _, paired, -, rfl⟩ := mem_carried.mp carried
      exact keyed.2.2 _ (List.mem_map_of_mem there) _ (List.mem_map_of_mem (List.of_mem_zip paired).1) same.symm
    rw [update_answered, inserted.rows, List.map_append, spared]
  · rw [List.map_map]
    exact List.map_congr_left fun unit _ => SoaUnit.answered_id _ _ _ unit
  · rw [List.forall₂_map_right_iff]
    refine List.Forall₂.flip (List.forall₂_iff_zip.mpr ⟨inserted.each.length_eq.symm, fun {unit pasted} paired => ?_⟩)
    exact inserted.unitOf_answered paired (whole pasted (List.of_mem_zip paired).2)

end Inserted

theorem createdRows_verdict {rows : List PasteRow} {created : List SoaUnit} (as_long : rows.length = created.length) :
    (createdRows rows created).map PasteRow.verdict = rows.map PasteRow.verdict := by
  have firsts : (rows.zip created).map Prod.fst = rows := List.map_fst_zip as_long.le
  rw [createdRows, List.map_map]
  nth_rewrite 2 [← firsts]
  rw [List.map_map]
  rfl

theorem createdRows_unitId {rows : List PasteRow} {created : List SoaUnit} (as_long : rows.length = created.length) :
    (createdRows rows created).map (·.unitId) = created.map fun unit => some unit.id := by
  have seconds : (rows.zip created).map Prod.snd = created := List.map_snd_zip as_long.ge
  rw [createdRows, List.map_map]
  nth_rewrite 2 [← seconds]
  rw [List.map_map]
  rfl

/-! ## Dry run and commit -/

section Commit
variable (found : pasteScope cap tables obligation body mayDecide = .ok (heading, scope))
include found

theorem tried_dry : tried cap tables session now obligation body mayDecide true =
    .ok (tables, { dryRun := true, rows := judgedRows tables scope body, created := 0 }) := by
  have same : pasteScope cap tables obligation { body with dryRun := true } mayDecide = .ok (heading, scope) := found
  simp only [tried, pasteUnits, same, bind, Except.bind, true_or, if_true]
  rfl

theorem tried_refused (refused : ∃ row ∈ judgedRows tables scope body, row.problem.isSome = true) :
    tried cap tables session now obligation body mayDecide false =
      .ok (tables, { dryRun := true, rows := judgedRows tables scope body, created := 0 }) := by
  have same : pasteScope cap tables obligation { body with dryRun := false } mayDecide = .ok (heading, scope) := found
  simp only [tried, pasteUnits, same, bind, Except.bind]
  exact if_pos (.inr refused)

variable (clean : ∀ row ∈ judgedRows tables scope body, row.problem = none)
include clean

theorem exists_inserted : ∃ listed created,
    insertMany tables session scope ((judgedRows tables scope body).map fun row => (row.reference, row.title)) = .ok (listed, created) ∧
      Inserted heading scope body.lines tables.units.rows listed created := by
  obtain ⟨known, stored, same, -, applies, -⟩ := pasteScope_ok found
  obtain ⟨apart, each⟩ := pasteRows_clean clean
  have names : (judgedRows tables scope body).map (fun row => (row.reference, row.title)) =
      body.lines.map fun pasted => (strip pasted.reference, strip pasted.title) := pasteRows_names _ _ _ _
  have apart' : ((body.lines.map fun pasted => (strip pasted.reference, strip pasted.title)).map (·.1)).Nodup := by
    rwa [List.map_map]
  have free : ∀ line ∈ body.lines.map fun pasted => (strip pasted.reference, strip pasted.title),
      tables.referenceFree scope.id line.1 none := by
    intro line given unit live _ taken
    obtain ⟨pasted, listed, rfl⟩ := List.mem_map.mp given
    exact (each pasted listed).2.2.1 (List.mem_map.mpr ⟨unit, live, taken⟩)
  have fits : ∀ line ∈ body.lines.map fun pasted => (strip pasted.reference, strip pasted.title), line.1.length ≤ subjectTitleMax := by
    intro line given
    obtain ⟨pasted, listed, rfl⟩ := List.mem_map.mp given
    exact (each pasted listed).1.trans (by decide)
  obtain ⟨listed, created, done, heads, scopes, status, rows, made⟩ := insertMany_ok apart' free fits
  refine ⟨listed, created, names ▸ done, ?_⟩
  rw [List.forall₂_map_left_iff] at made
  exact {
    known := by rw [heads, same]; exact known
    under := by rw [scopes]; exact stored
    applies := applies
    rows := rows
    each := by rw [status]; exact made }

theorem tried_commit :
    if ∀ pasted ∈ body.lines, pasted.applicability.isSome = true →
        (answerTitle heading scope (strip pasted.reference)).length ≤ subjectTitleMax then
      ∃ stored created made, tried cap tables session now obligation body mayDecide false = .ok (stored, {
          dryRun := false, rows := createdRows (judgedRows tables scope body) created, created := created.length }) ∧
        stored.units.rows = tables.units.rows ++ made ∧ made.map (·.id) = created.map (·.id) ∧
        List.Forall₂ (UnitOf scope.id) body.lines made
    else tried cap tables session now obligation body mayDecide false = .error internalError := by
  have whole := fun pasted listed => ((pasteRows_clean clean).2 pasted listed).2.2.2
  obtain ⟨listed, created, done, inserted⟩ := @exists_inserted cap tables session obligation body mayDecide heading scope found clean
  obtain ⟨-, -, same, -, -, few⟩ := pasteScope_ok found
  obtain ⟨events, stores, fit⟩ := @Inserted.store_eq session now heading scope body.lines tables.units.rows created listed inserted
  obtain ⟨made, rows, ids, each⟩ := @Inserted.answered_rows session now heading scope body.lines tables.units.rows created listed inserted whole
  have commits : tried cap tables session now obligation body mayDecide false = (do
      let stored ← if carriedAnswers scope.obligation created body.lines = [] then .ok listed
        else store listed listed session now (carriedAnswers scope.obligation created body.lines) none
      .ok (stored, { dryRun := false, rows := createdRows (judgedRows tables scope body) created, created := created.length })) := by
    have again : pasteScope cap tables obligation { body with dryRun := false } mayDecide = .ok (heading, scope) := found
    have written : ¬((false : Bool) = true ∨ ∃ row ∈ judgedRows tables scope body, row.problem.isSome = true) := by
      rintro (given | ⟨row, judged, refused⟩)
      · cases given
      · rw [clean row judged] at refused
        cases refused
    have many : setApplicabilityMany cap listed listed session now (carriedAnswers scope.obligation created body.lines) =
        store listed listed session now (carriedAnswers scope.obligation created body.lines) none := by
      simp only [setApplicabilityMany, require, if_pos ((Inserted.carried_length ..).trans few), if_pos inserted.carried_nodup, bind, Except.bind]
    have rows_eq : judgedRows tables scope { body with dryRun := false } = judgedRows tables scope body := rfl
    rw [← many, same]
    simp only [tried, pasteUnits, again, bind, Except.bind, rows_eq]
    rw [if_neg written]
    simp only [done]
  by_cases undecided : carriedAnswers scope.obligation created body.lines = []
  · have unsaid : ∀ pasted ∈ body.lines, ¬pasted.applicability.isSome = true := by
      intro pasted line said
      obtain ⟨unit, paired⟩ := fellow_of_right inserted.each.length_eq.symm line
      obtain ⟨word, answered⟩ := Option.isSome_iff_exists.mp said
      have carried := (@Inserted.mem_carried scope body.lines created _).mpr ⟨unit, pasted, word, paired, answered, rfl⟩
      rw [undecided] at carried
      cases carried
    rw [if_pos fun pasted line said => absurd said (unsaid pasted line)]
    have unanswered : listed.units.rows.map (SoaUnit.answered session.person now []) = listed.units.rows :=
      (List.map_congr_left fun _ _ => rfl).trans (List.map_id' _)
    rw [update_answered, undecided, unanswered] at rows
    refine ⟨listed, created, made, ?_, rows, ids, each⟩
    rw [commits, if_pos undecided]
    rfl
  · rw [if_neg undecided, stores] at commits
    split
    · next fits =>
      rw [recordAll_ok (fit.mpr fits)] at commits
      exact ⟨_, created, made, commits, rows, ids, each⟩
    · next long =>
      rw [commits, recordAll, require, if_neg fun fits => long (fit.mp fits)]
      rfl

theorem fails_of_long {pasted : PasteLine} (line : pasted ∈ body.lines) (said : pasted.applicability.isSome = true)
    (long : subjectTitleMax < (answerTitle heading scope (strip pasted.reference)).length) :
    ¬PasteKept cap tables session now obligation body mayDecide := by
  intro kept
  have commits := @tried_commit cap tables session now obligation body mayDecide heading scope found clean
  rw [if_neg fun fits => Nat.not_le.mpr long (fits pasted line said)] at commits
  have dry := (kept.refused internalError).mpr commits
  rw [tried_dry found] at dry
  cases dry

end Commit

/-- The commit does as the dry run says exactly when some line is refused, or every answer's title fits. -/
theorem pasteKept_iff : PasteKept cap tables session now obligation body mayDecide ↔
    TitlesFit cap tables obligation body mayDecide := by
  constructor
  · intro kept heading scope found clean pasted line said
    by_contra long
    exact fails_of_long found clean line said (Nat.not_le.mp long) kept
  · intro fits
    cases checked : pasteScope cap tables obligation body mayDecide with
    | error refusal =>
      have either : ∀ dryRun, tried cap tables session now obligation body mayDecide dryRun = .error refusal := by
        intro dryRun
        have same : pasteScope cap tables obligation { body with dryRun } mayDecide = .error refusal := checked
        simp only [tried, pasteUnits, same, bind, Except.bind]
      constructor
      · intro other
        rw [either, either]
      · intro after preview shown
        rw [either] at shown
        cases shown
      · intro preview shown
        rw [either] at shown
        cases shown
      · intro preview shown
        rw [either] at shown
        cases shown
    | ok found =>
      obtain ⟨heading, scope⟩ := found
      have dry := @tried_dry cap tables session now obligation body mayDecide heading scope checked
      by_cases clean : ∀ row ∈ judgedRows tables scope body, row.problem = none
      · have commits := @tried_commit cap tables session now obligation body mayDecide heading scope checked clean
        rw [if_pos (fits heading scope checked clean)] at commits
        obtain ⟨stored, created, made, commits, rows, ids, each⟩ := commits
        have as_long : (judgedRows tables scope body).length = created.length := by
          have names := congrArg List.length (pasteRows_names ((tables.liveUnits scope.id).map (·.reference)) 1 [] body.lines)
          have units := congrArg List.length ids
          rw [List.length_map, List.length_map] at names units
          rw [judgedRows, names, each.length_eq, units]
        obtain ⟨-, stored_, same, entity, -, -⟩ := pasteScope_ok checked
        constructor
        · intro refusal
          rw [dry, commits]
          exact ⟨nofun, nofun⟩
        · intro after preview shown
          rw [dry] at shown
          cases shown
          rfl
        · rintro preview shown ⟨row, judged, refused⟩
          rw [dry] at shown
          cases shown
          rw [clean row judged] at refused
          cases refused
        · intro preview shown _
          rw [dry] at shown
          cases shown
          refine ⟨stored, _, made, commits, rfl, ?_, createdRows_verdict as_long, ?_, ?_, rows, scope, stored_, same, entity, each⟩
          · simpa using (congrArg List.length ids).symm
          · have units := congrArg (List.map some) ids
            rw [List.map_map, List.map_map] at units
            exact (createdRows_unitId as_long).trans units.symm
          · intro row listed
            obtain ⟨pair, -, rfl⟩ := List.mem_map.mp listed
            rfl
      · have refused : ∃ row ∈ judgedRows tables scope body, row.problem.isSome = true := by
          push Not at clean
          obtain ⟨row, judged, problem⟩ := clean
          exact ⟨row, judged, Option.isSome_iff_ne_none.mpr problem⟩
        have commits := @tried_refused cap tables session now obligation body mayDecide heading scope checked refused
        constructor
        · intro refusal
          rw [dry, commits]
        · intro after preview shown
          rw [dry] at shown
          cases shown
          rfl
        · intro preview shown _
          rw [dry] at shown
          cases shown
          exact commits
        · intro preview shown none_
          rw [dry] at shown
          cases shown
          exact absurd none_ clean

/-! ## A title that does not fit -/

/-- `times` letters. -/
def longName (times : Nat) : String := String.ofList (List.replicate times 'a')

def longHeading : Heading where
  obligation := 1
  standard := true
  instrumentShortName := longName 120
  refLabel := longName 200

def longScope : Scope where
  id := 1
  obligation := 1
  orgUnit := 1
  orgUnitName := longName 200
  applicability := .applies

/-- An obligation, its instrument and an entity, each under a name as long as its column holds. -/
def longNames : Tables where
  tenant := 1
  headings := [longHeading]
  legalEntities := [1]
  scopes := { rows := [longScope], keyed := List.nodup_singleton _ }

def onePaste : PasteBody where
  orgUnitId := 1
  lines := [{ reference := "A.5.1", title := "Our policies", applicability := some .applies, reason := some "Certified" }]

/-- The dry run takes the line, and the commit fails. -/
theorem longNames_fails : ¬PasteKept 100 longNames { person := 1, label := "Anna" } 0 1 onePaste true := by
  have found : pasteScope 100 longNames 1 onePaste true = .ok (longHeading, longScope) := by decide +kernel
  have clean : ∀ row ∈ judgedRows longNames longScope onePaste, row.problem = none := by decide +kernel
  have long : subjectTitleMax < (answerTitle longHeading longScope (strip "A.5.1")).length := by
    simp only [answerTitle, longHeading, longScope, longName, String.length_append, String.length_ofList, List.length_replicate]
    unfold subjectTitleMax
    omega
  exact fails_of_long found clean List.mem_cons_self rfl long

end Grc.Register.Units
