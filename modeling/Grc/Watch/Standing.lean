import Grc.Watch.Confirmations

/-! What an agent's key leaves of the facts somebody confirmed: each stands as it was, and a set the key replaces is
the set it sent beside them. -/
namespace Grc.Watch

open Grc.Shared Grc.Lib Grc.Library

/-- Every confirmed fact stands as it was. -/
structure Stands (before after : Tables) : Prop where
  types : ∀ change ∈ before.changes.rows, change.changeTypeSuggested = false → ∃ later ∈ after.changes.rows,
    later.id = change.id ∧ later.changeType = change.changeType ∧ later.typeFact = change.typeFact
  terms : ∀ link ∈ before.terms.rows, link.suggested = false → link ∈ after.terms.rows
  obligations : ∀ link ∈ before.obligations.rows, link.confirmer.at_.isSome = true → link ∈ after.obligations.rows

instance : Std.Refl Stands := ⟨fun _ =>
  ⟨fun change there _ => ⟨change, there, rfl, rfl, rfl⟩, fun _ there _ => there, fun _ there _ => there⟩⟩

instance : IsTrans Tables Stands where
  trans before middle after first second := by
    refine ⟨fun change there confirmed => ?_, fun link there confirmed => ?_, fun link there confirmed => ?_⟩
    · obtain ⟨later, here, id, type, fact⟩ := first.types change there confirmed
      have still : later.changeTypeSuggested = false := (congrArg Fact.suggested fact).trans confirmed
      obtain ⟨last, end_, id', type', fact'⟩ := second.types later here still
      exact ⟨last, end_, id'.trans id, type'.trans type, fact'.trans fact⟩
    · exact second.terms link (first.terms link there confirmed) confirmed
    · exact second.obligations link (first.obligations link there confirmed) confirmed

theorem SameFacts.stands {before after : Tables} (same : SameFacts before after) : Stands before after where
  types := fun change there _ => ⟨change, same.changes ▸ there, rfl, rfl, rfl⟩
  terms := fun _ there _ => same.terms ▸ there
  obligations := fun _ there _ => same.obligations ▸ there

theorem writeTerms_stands (change : Keyed ChangeTerm.id → Keyed ChangeTerm.id)
    (kept : ∀ table, ∀ link ∈ table.rows, link.suggested = false → link ∈ (change table).rows) :
    (writeTerms change).Keeps Stands :=
  .write fun tables => ⟨fun row there _ => ⟨row, there, rfl, rfl, rfl⟩, kept tables.terms, fun _ there _ => there⟩

theorem writeLinks_stands (change : Keyed ChangeObligation.id → Keyed ChangeObligation.id)
    (kept : ∀ table, ∀ link ∈ table.rows, link.confirmer.at_.isSome = true → link ∈ (change table).rows) :
    (writeLinks change).Keeps Stands :=
  .write fun tables => ⟨fun row there _ => ⟨row, there, rfl, rfl, rfl⟩, fun _ there _ => there, kept tables.obligations⟩

theorem createTerm_stands (change : Id) (column : TermColumn) (suggester : Suggester) (value : Id) :
    (createTerm change column suggester value).Keeps Stands :=
  .bind (.check _) fun _ => writeTerms_stands _ fun _ _ there _ => List.mem_append_left _ there

theorem createLink_stands (change : Id) (origin : OriginType) (suggester : Suggester) (input : ObligationLinkInput) :
    (createLink change origin suggester input).Keeps Stands :=
  .bind (.check _) fun _ => writeLinks_stands _ fun _ _ there _ => List.mem_append_left _ there

theorem updateChanges_stands {tables : Tables} (picked : RegulatoryChange → Bool) (change : RegulatoryChange → RegulatoryChange)
    (named : ∀ row, (change row).id = row.id)
    (kept : ∀ row ∈ tables.changes.rows, picked row = true → row.changeTypeSuggested = false →
      (change row).changeType = row.changeType ∧ (change row).typeFact = row.typeFact) :
    Stands tables { tables with changes := tables.changes.update picked change named } where
  types := by
    intro row there confirmed
    refine ⟨_, List.mem_map.mpr ⟨row, there, rfl⟩, ?_⟩
    split
    · rename_i here
      obtain ⟨type, fact⟩ := kept row there here confirmed
      exact ⟨named row, type, fact⟩
    · exact ⟨rfl, rfl, rfl⟩
  terms := fun _ there _ => there
  obligations := fun _ there _ => there

theorem stands_filing : Filing Stands where
  same := fun _ _ => SameFacts.stands
  draft := fun _ _ => .write fun _ => updateChanges_stands _ _ _ fun _ _ _ _ => ⟨rfl, rfl⟩
  change := fun _ _ _ => .write fun _ => ⟨fun row there _ => ⟨row, List.mem_append_left _ there, rfl, rfl, rfl⟩,
    fun _ there _ => there, fun _ there _ => there⟩
  term := createTerm_stands
  link := createLink_stands

theorem replaceTermLinks_stands (change : Id) (column : TermColumn) (wanted : List Id) (suggester : Suggester) :
    (replaceTermLinks change column wanted suggester false).Keeps Stands := by
  refine .bind (writeTerms_stands _ fun table link there confirmed => ?_) fun _ => ?_
  · refine Keyed.mem_delete.mpr ⟨there, ?_⟩
    rw [confirmed, Bool.and_false]
  refine .bind (.when nofun) fun _ => .bind (.check _) fun confirmed => ?_
  exact .each (fun value => .when fun _ => createTerm_stands _ _ _ _) _

variable {who : Principal}

theorem mayOverturn_agent (agent : who.kind = .agent) (stepUp : Option Id) : mayOverturn who stepUp = false := by
  rw [mayOverturn, agent]
  rfl

variable {answer : Unit} {stepUp : Option Id}

theorem refuseConfirmed_agent (agent : who.kind = .agent) {what : String} :
    refuseConfirmed who what stepUp ≠ .ok answer := by
  intro passed
  obtain ⟨_, person, -⟩ := bind_ok.mp passed
  exact require_ok.mp person agent

variable {suggester : Suggester} {body : ChangePatch}

theorem applyColumns_stands {changeType supersededBy : Option Id}
    {change : RegulatoryChange} (kept : ¬∃ named ∈ changeType, named ≠ change.changeType) :
    (applyColumns body changeType supersededBy suggester change).changeType = change.changeType ∧
      (applyColumns body changeType supersededBy suggester change).typeFact = change.typeFact := by
  have same : changeType.filter (· != change.changeType) = none := by
    refine Option.filter_eq_none_iff.mpr fun named there => ?_
    rw [Bool.not_eq_true, bne_eq_false_iff_eq]
    by_contra differs
    exact kept ⟨named, there, differs⟩
  unfold applyColumns
  rw [same]
  exact ⟨rfl, rfl⟩

theorem retype_agent (agent : who.kind = .agent) {change : RegulatoryChange}
    {changeType : Option Id}
    (passed : (if (∃ named ∈ changeType, named ≠ change.changeType) ∧ change.changeTypeSuggested = false
      then refuseConfirmed who "the type" stepUp else .ok ()) = .ok answer)
    (confirmed : change.changeTypeSuggested = false) : ¬∃ named ∈ changeType, named ≠ change.changeType := by
  intro retyped
  rw [if_pos ⟨retyped, confirmed⟩] at passed
  exact refuseConfirmed_agent agent passed

def termValues (tables : Tables) (change : Id) (column : TermColumn) : List Id :=
  (storedTerms tables change column).map (·.value)

def linkedObligations (tables : Tables) (change : Id) : List Id := (storedLinks tables change).map (·.obligation)

def termEntries (tables : Tables) : List (Id × TermColumn × Id) :=
  tables.terms.rows.map fun link => (link.change, link.column, link.value)

variable {column : TermColumn} {change value : Id}

theorem mem_termValues {tables : Tables} :
    value ∈ termValues tables change column ↔ (change, column, value) ∈ termEntries tables := by
  simp only [termValues, termEntries, storedTerms, List.mem_map, List.mem_filter, Bool.and_eq_true, beq_iff_eq, and_assoc,
    Prod.mk.injEq]

theorem mem_confirmedTermIds {tables : Tables} :
    value ∈ confirmedTermIds tables change column ↔ ∃ link ∈ tables.terms.rows,
      link.suggested = false ∧ link.change = change ∧ link.column = column ∧ link.value = value := by
  simp only [confirmedTermIds, storedTerms, List.mem_map, List.mem_filter, Bool.and_eq_true, Bool.not_eq_true', beq_iff_eq]
  constructor
  · rintro ⟨link, ⟨⟨there, here, kind⟩, confirmed⟩, named⟩
    exact ⟨link, there, confirmed, here, kind, named⟩
  · rintro ⟨link, there, confirmed, here, kind, named⟩
    exact ⟨link, ⟨⟨there, here, kind⟩, confirmed⟩, named⟩

variable {tables after : Tables}

theorem createTerm_adds
    (done : (createTerm change column suggester value).execute tables = (.ok answer, after)) (entry : Id × TermColumn × Id) :
    entry ∈ termEntries after ↔ entry ∈ termEntries tables ∨ (change, column, value) = entry := by
  obtain ⟨_, -, rest⟩ := Tx.check_bind_ok.mp done
  obtain rfl := Tx.write_ok.mp rest
  simp only [termEntries, List.mem_map, Keyed.mem_create, or_and_right, exists_or, exists_eq_left]

theorem createWanted_adds {change : Id} {wanted confirmed : List Id}

    (done : (Tx.each wanted fun value => Tx.when (value ∉ confirmed) (createTerm change column suggester value)).execute tables
      = (.ok answer, after)) (entry : Id × TermColumn × Id) :
    entry ∈ termEntries after ↔ entry ∈ termEntries tables ∨
      ∃ value ∈ wanted, value ∉ confirmed ∧ (change, column, value) = entry := by
  refine Tx.each_adds (fun tables entry => entry ∈ termEntries tables)
    (fun value entry => value ∉ confirmed ∧ (change, column, value) = entry) (fun value before later _ once entry => ?_) done entry
  rcases Tx.when_ok once with ⟨absent, created⟩ | ⟨present, rfl⟩
  · rw [createTerm_adds created, and_iff_right absent]
  · rw [or_iff_left fun added => present added.1]

theorem deleteSuggested_leaves {tables : Tables} :
    value ∈ termValues { tables with
        terms := tables.terms.delete fun link => (link.change == change && link.column == column) && link.suggested } change column ↔
      value ∈ confirmedTermIds tables change column := by
  rw [mem_termValues, mem_confirmedTermIds]
  simp only [termEntries, List.mem_map, Keyed.mem_delete]
  grind

theorem replaceTermLinks_ok {change : Id} {wanted : List Id}
    (done : (replaceTermLinks change column wanted suggester false).execute tables = (.ok answer, after))
    (value : Id) : value ∈ termValues after change column ↔ value ∈ wanted ∨ value ∈ confirmedTermIds tables change column := by
  have rest := Tx.write_bind_ok.mp done
  obtain ⟨_, _, kept, rest⟩ := Tx.bind_ok.mp rest
  obtain ⟨-, rfl⟩ := (Tx.when_ok kept).resolve_left fun overturns => nomatch overturns.1
  obtain ⟨confirmed, read, rest⟩ := Tx.check_bind_ok.mp rest
  obtain rfl := Except.ok.inj read
  rw [mem_termValues, createWanted_adds rest, ← mem_termValues, deleteSuggested_leaves]
  change _ ∨ (∃ named ∈ wanted, named ∉ termValues _ change column ∧ _) ↔ _
  simp only [deleteSuggested_leaves, Prod.mk.injEq, true_and]
  grind

def OtherKinds (column : TermColumn) (before after : Tables) : Prop :=
  ∀ link, link.column ≠ column → (link ∈ after.terms.rows ↔ link ∈ before.terms.rows)

instance (column : TermColumn) : Std.Refl (OtherKinds column) := ⟨fun _ _ _ => Iff.rfl⟩

instance (column : TermColumn) : IsTrans Tables (OtherKinds column) :=
  ⟨fun _ _ _ first second link other => (second link other).trans (first link other)⟩

theorem replaceTermLinks_others (change : Id) (column : TermColumn) (wanted : List Id) (suggester : Suggester) :
    (replaceTermLinks change column wanted suggester false).Keeps (OtherKinds column) := by
  have created : ∀ value, (createTerm change column suggester value).Keeps (OtherKinds column) := by
    refine fun value => .bind (.check _) fun _ => .write fun tables link other => ?_
    rw [Keyed.mem_create, or_iff_left]
    rintro rfl
    exact other rfl
  refine .bind (.write fun tables link other => ?_) fun _ => .bind (.when nofun) fun _ => .bind (.check _) fun confirmed => ?_
  · rw [Keyed.mem_delete, and_iff_left]
    simp only [beq_eq_false_iff_ne.mpr other, Bool.and_false, Bool.false_and]
  · exact .each (fun value => .when fun _ => created value) _

theorem OtherKinds.termValues {column kind : TermColumn} {before after : Tables} (same : OtherKinds column before after)
    (other : kind ≠ column) : value ∈ termValues after change kind ↔ value ∈ termValues before change kind := by
  simp only [mem_termValues, termEntries, List.mem_map, Prod.mk.injEq]
  refine exists_congr fun link => ⟨?_, ?_⟩
  · rintro ⟨there, change, rfl, value⟩
    exact ⟨(same link other).mp there, change, rfl, value⟩
  · rintro ⟨there, change, rfl, value⟩
    exact ⟨(same link other).mpr there, change, rfl, value⟩

theorem OtherKinds.confirmed {column kind : TermColumn} {before after : Tables} (same : OtherKinds column before after)
    (other : kind ≠ column) :
    value ∈ confirmedTermIds after change kind ↔ value ∈ confirmedTermIds before change kind := by
  simp only [mem_confirmedTermIds]
  refine exists_congr fun link => ⟨?_, ?_⟩
  · rintro ⟨there, confirmed, change, rfl, value⟩
    exact ⟨(same link other).mp there, confirmed, change, rfl, value⟩
  · rintro ⟨there, confirmed, change, rfl, value⟩
    exact ⟨(same link other).mpr there, confirmed, change, rfl, value⟩

/-- The term links are as they were. -/
structure SameTerms (before after : Tables) : Prop where
  terms : after.terms = before.terms

instance : Std.Refl SameTerms := ⟨fun _ => ⟨rfl⟩⟩

instance : IsTrans Tables SameTerms := ⟨fun _ _ _ first second => ⟨second.terms.trans first.terms⟩⟩

theorem SameFacts.sameTerms {before after : Tables} (same : SameFacts before after) : SameTerms before after := ⟨same.terms⟩

theorem storeSoWhat_terms (now : Now) (actor : Actor) (change : RegulatoryChange) (report : SoWhatInput) (run : Option Id) :
    (storeSoWhat now actor change report run).Keeps SameTerms :=
  .bind (.write fun _ => ⟨rfl⟩) fun _ => .bind ((logGeneration_same now _).mono fun _ _ => SameFacts.sameTerms) fun _ =>
    (audited_same _).mono fun _ _ => SameFacts.sameTerms

theorem SameTerms.termValues {before after : Tables} (same : SameTerms before after) (change : Id) (column : TermColumn) :
    termValues after change column = termValues before change column := by
  unfold Watch.termValues storedTerms
  rw [same.terms]

theorem SameTerms.confirmed {before after : Tables} (same : SameTerms before after) (change : Id) (column : TermColumn) :
    confirmedTermIds after change column = confirmedTermIds before change column := by
  unfold confirmedTermIds storedTerms
  rw [same.terms]

theorem updateColumns_stands (agent : who.kind = .agent) {changeType supersededBy : Option Id}
    {change : RegulatoryChange} {written : PUnit}
    (here : change ∈ tables.changes.rows)
    (passed : (if (∃ named ∈ changeType, named ≠ change.changeType) ∧ change.changeTypeSuggested = false
      then refuseConfirmed who "the type" stepUp else .ok ()) = .ok answer)
    (done : (updateChange change.id (applyColumns body changeType supersededBy suggester)
      (applyColumns_id body changeType supersededBy suggester)).execute tables = (.ok written, after)) : Stands tables after := by
  obtain rfl := Tx.write_ok.mp done
  refine updateChanges_stands _ _ _ fun row there picked confirmed => ?_
  obtain rfl := tables.changes.eq_of_key there here (beq_iff_eq.mp picked)
  exact applyColumns_stands (retype_agent agent passed confirmed)

/-- The links of one kind as a call leaves them: those it sent beside those confirmed before, where it sent any. -/
def Replaced (before after : Tables) (change : Id) (column : TermColumn) : Option (List Id) → Prop
  | some wanted =>
    ∀ value, value ∈ termValues after change column ↔ value ∈ wanted ∨ value ∈ confirmedTermIds before change column
  | none => ∀ value, value ∈ termValues after change column ↔ value ∈ termValues before change column

theorem given_replaced {change : Id} {wanted : Option (List Id)}
    {answer : PUnit}
    (done : (Tx.given wanted fun wanted => replaceTermLinks change column wanted suggester false).execute tables = (.ok answer, after)) :
    Stands tables after ∧ OtherKinds column tables after ∧ Replaced tables after change column wanted := by
  refine ⟨?_, ?_, ?_⟩
  · exact Tx.Keeps.ok (.given (fun wanted => replaceTermLinks_stands _ _ wanted _) _) done
  · exact Tx.Keeps.ok (.given (fun wanted => replaceTermLinks_others _ _ wanted _) _) done
  cases wanted with
  | some wanted => exact replaceTermLinks_ok done
  | none =>
    obtain ⟨-, rfl⟩ := Tx.pure_ok.mp done
    exact fun value => Iff.rfl

theorem Replaced.congr {before first last after : Tables} {change : Id} {wanted : Option (List Id)}
    (replaced : Replaced first last change column wanted)
    (values : ∀ value, value ∈ termValues first change column ↔ value ∈ termValues before change column)
    (confirmed : ∀ value, value ∈ confirmedTermIds first change column ↔ value ∈ confirmedTermIds before change column)
    (later : ∀ value, value ∈ termValues after change column ↔ value ∈ termValues last change column) :
    Replaced before after change column wanted := by
  cases wanted with
  | some wanted => exact fun value => (later value).trans ((replaced value).trans (or_congr Iff.rfl (confirmed value)))
  | none => exact fun value => (later value).trans ((replaced value).trans (values value))

/-- A correction by an agent's key leaves every confirmed fact, and makes each set it names the set it sent beside them. -/
theorem updateChangeFacts_agent {now : Now} (agent : who.kind = .agent) {actor : Actor} {id : Id}

    (done : (updateChangeFacts now who actor id body stepUp).execute tables = (.ok answer, after)) :
    Stands tables after ∧ ∃ flags terms,
      optionally (fun keys => (resolveKeys now.records flagList keys).map (·.map (·.id))) body.flags = .ok flags ∧
      optionally (resolveTerms now.records) body.termIds = .ok terms ∧ Replaced tables after id .flag flags ∧
      Replaced tables after id .term (terms.map fun terms => terms.map fun term => term.id) := by
  obtain ⟨change, found, rest⟩ := Tx.check_bind_ok.mp done
  obtain ⟨here, rfl⟩ := changeFor_ok found
  obtain ⟨_, -, rest⟩ := Tx.check_bind_ok.mp rest
  obtain ⟨changeType, -, rest⟩ := Tx.check_bind_ok.mp rest
  obtain ⟨flags, flagged, rest⟩ := Tx.check_bind_ok.mp rest
  obtain ⟨terms, resolved, rest⟩ := Tx.check_bind_ok.mp rest
  obtain ⟨_, -, rest⟩ := Tx.check_bind_ok.mp rest
  obtain ⟨supersededBy, -, rest⟩ := Tx.check_bind_ok.mp rest
  obtain ⟨_, retype, rest⟩ := Tx.check_bind_ok.mp rest
  obtain ⟨_, -, rest⟩ := Tx.check_bind_ok.mp rest
  obtain ⟨_, -, rest⟩ := Tx.check_bind_ok.mp rest
  obtain ⟨_, -, rest⟩ := Tx.check_bind_ok.mp rest
  rw [mayOverturn_agent agent] at rest
  obtain ⟨_, first, pages, rest⟩ := Tx.bind_ok.mp rest
  obtain ⟨_, second, columns, rest⟩ := Tx.bind_ok.mp rest
  obtain ⟨_, third, sentFlags, rest⟩ := Tx.bind_ok.mp rest
  obtain ⟨_, fourth, sentTerms, rest⟩ := Tx.bind_ok.mp rest
  have paged : SameFacts tables first := Tx.Keeps.ok (.when fun _ => flagDocuments_same _ _) pages
  have typed : Stands first second := updateColumns_stands agent (paged.changes.symm ▸ here) retype columns
  have before : SameTerms tables second := trans_of SameTerms paged.sameTerms (Tx.Keeps.ok (.write fun _ => ⟨rfl⟩) columns)
  obtain ⟨flagsStand, flagsOnly, flagsSent⟩ := given_replaced sentFlags
  obtain ⟨termsStand, termsOnly, termsSent⟩ := given_replaced sentTerms
  have tail : Stands fourth after := by
    refine Tx.Keeps.ok (.bind (.given (fun report => storeSoWhat_keeps now stands_filing _ _ report _) _) fun _ => ?_) rest
    exact .bind (.check _) fun _ => (audited_same _).mono fun _ _ => SameFacts.stands
  have last : SameTerms fourth after := by
    refine Tx.Keeps.ok (.bind (.given (fun report => storeSoWhat_terms now _ _ report _) _) fun _ => ?_) rest
    exact .bind (.check _) fun _ => (audited_same _).mono fun _ _ => SameFacts.sameTerms
  have apart : TermColumn.flag ≠ .term := by decide
  refine ⟨?_, flags, terms, flagged, resolved, ?_, ?_⟩
  · exact trans_of Stands paged.stands (trans_of Stands typed (trans_of Stands flagsStand (trans_of Stands termsStand tail)))
  · refine flagsSent.congr (fun value => ?_) (fun value => ?_) fun value => ?_
    · rw [before.termValues]
    · rw [before.confirmed]
    · rw [last.termValues]
      exact termsOnly.termValues apart
  · refine termsSent.congr (fun value => ?_) (fun value => ?_) fun value => ?_
    · rw [flagsOnly.termValues apart.symm, before.termValues]
    · rw [flagsOnly.confirmed apart.symm, before.confirmed]
    · rw [last.termValues]

theorem mem_linkedObligations {tables : Tables} {change obligation : Id} : obligation ∈ linkedObligations tables change ↔
    ∃ link ∈ tables.obligations.rows, link.change = change ∧ link.obligation = obligation := by
  simp only [linkedObligations, storedLinks, List.mem_map, List.mem_filter, beq_iff_eq, and_assoc]

theorem mem_confirmedObligations {tables : Tables} {change obligation : Id} : obligation ∈ confirmedObligations tables change ↔
    ∃ link ∈ tables.obligations.rows, link.confirmer.at_.isSome = true ∧ link.change = change ∧ link.obligation = obligation := by
  simp only [confirmedObligations, storedLinks, List.mem_map, List.mem_filter, beq_iff_eq]
  grind

theorem createLink_adds {change : Id} {origin : OriginType} {input : ObligationLinkInput}

    (done : (createLink change origin suggester input).execute tables = (.ok answer, after)) (obligation : Id) :
    obligation ∈ linkedObligations after change ↔ obligation ∈ linkedObligations tables change ∨ input.obligationId = obligation := by
  obtain ⟨_, -, rest⟩ := Tx.check_bind_ok.mp done
  obtain rfl := Tx.write_ok.mp rest
  simp only [mem_linkedObligations, Keyed.mem_create, or_and_right, exists_or, exists_eq_left, true_and]

theorem deleteUnconfirmed_leaves {tables : Tables} {change obligation : Id} :
    obligation ∈ linkedObligations { tables with
        obligations := tables.obligations.delete fun link => link.change == change && link.confirmer.at_.isNone } change ↔
      obligation ∈ confirmedObligations tables change := by
  simp only [mem_linkedObligations, mem_confirmedObligations, Keyed.mem_delete, ← Option.not_isNone]
  grind

/-- Only suggestions are deleted by a set of obligations an agent's key sends, and the set is the one it sent beside the
links confirmed before it. -/
theorem setObligationLinks_agent {now : Now} (agent : who.kind = .agent) {actor : Actor} {id : Id}
    {body : List ObligationLinkInput}
    (done : (setObligationLinks now who actor id body stepUp).execute tables = (.ok answer, after)) :
    Stands tables after ∧ ∀ obligation, obligation ∈ linkedObligations after id ↔
      obligation ∈ body.map (·.obligationId) ∨ obligation ∈ confirmedObligations tables id := by
  obtain ⟨change, found, rest⟩ := Tx.check_bind_ok.mp done
  obtain ⟨here, rfl⟩ := changeFor_ok found
  obtain ⟨_, -, rest⟩ := Tx.check_bind_ok.mp rest
  obtain ⟨_, -, rest⟩ := Tx.check_bind_ok.mp rest
  obtain ⟨confirmed, read, rest⟩ := Tx.check_bind_ok.mp rest
  obtain rfl := Except.ok.inj read
  obtain ⟨_, -, rest⟩ := Tx.check_bind_ok.mp rest
  obtain ⟨_, -, rest⟩ := Tx.check_bind_ok.mp rest
  rw [mayOverturn_agent agent] at rest
  obtain ⟨_, first, deleted, more⟩ := Tx.bind_ok.mp rest
  obtain ⟨_, _, kept, later⟩ := Tx.bind_ok.mp more
  obtain ⟨-, rfl⟩ := (Tx.when_ok kept).resolve_left fun overturns => nomatch overturns.1
  obtain ⟨_, last, created, log⟩ := Tx.bind_ok.mp later
  have logged : SameFacts last after := Tx.Keeps.ok (audited_same _) log
  refine ⟨?_, fun obligation => ?_⟩
  · refine trans_of Stands (Tx.Keeps.ok (writeLinks_stands _ fun table link there confirmed => ?_) deleted) (trans_of Stands
      (Tx.Keeps.ok (.each (fun link => .when fun _ => createLink_stands _ _ _ _) _) created) logged.stands)
    refine Keyed.mem_delete.mpr ⟨there, ?_⟩
    rw [Option.isNone_eq_false_iff.mpr confirmed, Bool.and_false]
  · obtain rfl := Tx.write_ok.mp deleted
    have same : linkedObligations after change.id = linkedObligations last change.id := by
      unfold linkedObligations storedLinks
      rw [logged.obligations]
    rw [same, Tx.each_adds (fun tables obligation => obligation ∈ linkedObligations tables change.id)
      (fun input obligation => input.obligationId ∉ confirmedObligations tables change.id ∧ input.obligationId = obligation)
      (fun input before later _ once obligation => ?_) created]
    · rw [deleteUnconfirmed_leaves, List.mem_map]
      constructor
      · rintro (confirmed | ⟨link, sent, -, named⟩)
        · exact .inr confirmed
        · exact .inl ⟨link, sent, named⟩
      · rintro (⟨link, sent, rfl⟩ | confirmed)
        · by_cases already : link.obligationId ∈ confirmedObligations tables change.id
          · exact .inl already
          · exact .inr ⟨link, sent, already, rfl⟩
        · exact .inl confirmed
    · rcases Tx.when_ok once with ⟨absent, made⟩ | ⟨present, rfl⟩
      · rw [createLink_adds made, and_iff_right absent]
      · rw [or_iff_left fun added => present added.1]

theorem confirmedTables_stands {tables : Tables} {change : RegulatoryChange} {named : NamedFacts} {confirmer : Confirmer}
    (here : change ∈ tables.changes.rows) : Stands tables (confirmedTables tables change named confirmer) where
  types := by
    intro row there confirmed
    unfold confirmedTables
    dsimp only
    split
    · rename_i typed
      have only : Stands tables { tables with
          changes := tables.changes.update (·.id == change.id) (confirmType confirmer) fun _ => rfl } := by
        refine updateChanges_stands _ _ _ fun row there picked confirmed => ?_
        obtain rfl := tables.changes.eq_of_key there here (beq_iff_eq.mp picked)
        exact absurd (Bool.and_eq_true_iff.mp typed).2 (Bool.eq_false_iff.mp confirmed)
      exact only.types row there confirmed
    · exact ⟨row, there, rfl, rfl, rfl⟩
  terms := by
    intro link there confirmed
    refine List.mem_map.mpr ⟨link, there, if_neg fun picked => ?_⟩
    exact Bool.eq_false_iff.mp confirmed (Bool.and_eq_true_iff.mp picked).2
  obligations := by
    intro link there confirmed
    refine List.mem_map.mpr ⟨link, there, if_neg fun picked => ?_⟩
    exact Option.not_isSome_iff_eq_none.mpr (Option.isNone_iff_eq_none.mp (Bool.and_eq_true_iff.mp picked).2) confirmed

def Call.isMerge : Call → Bool
  | .approveMerge .. => true
  | _ => false

theorem serve_stands {request : Request} (agent : request.who.kind = .agent) (merges : request.call.isMerge = false)
    (tables : Tables) : Stands tables ((serve request).left tables) := by
  refine (Tx.Clean.atomic _).left_invariant (Stands tables) (refl_of Stands tables) fun answer after done => ?_
  obtain ⟨who, actor, now, call⟩ := request
  cases call with
  | register body =>
    obtain ⟨_, -, done⟩ := Tx.check_bind_ok.mp (Tx.atomic_ok.mp done)
    exact Tx.Keeps.ok (registerChange_keeps now stands_filing who actor body) done
  | addDocument change body =>
    obtain ⟨_, -, done⟩ := Tx.check_bind_ok.mp (Tx.atomic_ok.mp done)
    exact (Tx.Keeps.ok (addDocument_same now who actor change body) done).stands
  | addEvent change body =>
    obtain ⟨_, -, done⟩ := Tx.check_bind_ok.mp (Tx.atomic_ok.mp done)
    exact (Tx.Keeps.ok (addEvent_same actor change body) done).stands
  | updateEvent change event body =>
    obtain ⟨_, -, done⟩ := Tx.check_bind_ok.mp (Tx.atomic_ok.mp done)
    exact (Tx.Keeps.ok (updateEvent_same actor change event body) done).stands
  | update change body =>
    obtain ⟨_, -, done⟩ := Tx.check_bind_ok.mp (Tx.atomic_ok.mp done)
    exact (updateChangeFacts_agent agent done).1
  | setObligations change body =>
    obtain ⟨_, -, done⟩ := Tx.check_bind_ok.mp (Tx.atomic_ok.mp done)
    exact (setObligationLinks_agent agent done).1
  | confirm change body =>
    obtain ⟨_, -, done⟩ := Tx.check_bind_ok.mp (Tx.atomic_ok.mp done)
    rcases confirmCuration_ok done with same | ⟨row, named, found, -, -, same⟩
    · exact same.stands
    · exact trans_of Stands (confirmedTables_stands (changeFor_ok found).1) same.stands
  | approveMerge link source target => cases merges

/-- The sets a call sends are the sets it leaves, beside what was confirmed before. -/
def SetsReplaced (request : Request) (before after : Tables) : Prop :=
  match request.call with
  | .update change body => ∃ flags terms,
    optionally (fun keys => (resolveKeys request.now.records flagList keys).map (·.map (·.id))) body.flags = .ok flags ∧
    optionally (resolveTerms request.now.records) body.termIds = .ok terms ∧ Replaced before after change .flag flags ∧
    Replaced before after change .term (terms.map fun terms => terms.map fun term => term.id)
  | .setObligations change body => ∀ obligation, obligation ∈ linkedObligations after change ↔
    obligation ∈ body.map (·.obligationId) ∨ obligation ∈ confirmedObligations before change
  | _ => True

theorem serve_replaces {request : Request} (agent : request.who.kind = .agent)
    (done : (serve request).execute tables = (.ok answer, after)) : SetsReplaced request tables after := by
  obtain ⟨who, actor, now, call⟩ := request
  cases call with
  | update change body =>
    obtain ⟨_, -, done⟩ := Tx.check_bind_ok.mp (Tx.atomic_ok.mp done)
    exact (updateChangeFacts_agent agent done).2
  | setObligations change body =>
    obtain ⟨_, -, done⟩ := Tx.check_bind_ok.mp (Tx.atomic_ok.mp done)
    exact (setObligationLinks_agent agent done).2
  | _ => trivial

/-- After any run of calls by anybody, no calls with agents' keys, approvals of merges aside, remove or alter a fact that is
confirmed; and a replace with an agent's key leaves exactly the set it sent beside the facts that were confirmed before it. -/
theorem run_standing (earlier calls : List Request)
    (agents : ∀ request ∈ calls, request.who.kind = .agent ∧ request.call.isMerge = false) :
    Stands (Tx.runs serve {} earlier) (Tx.runs serve {} (earlier ++ calls)) ∧
      ∀ request ∈ calls, ∀ tables answer after, (serve request).execute tables = (.ok answer, after) →
        SetsReplaced request tables after := by
  refine ⟨?_, fun request member tables answer after done => serve_replaces (agents request member).1 done⟩
  rw [Tx.runs_append]
  generalize Tx.runs serve {} earlier = tables
  induction calls generalizing tables with
  | nil => exact refl_of Stands tables
  | cons request rest ih =>
    obtain ⟨agent, merges⟩ := agents request List.mem_cons_self
    exact trans_of Stands (serve_stands agent merges tables) (ih (fun later member => agents later (List.mem_cons_of_mem _ member)) _)

def reviewingAgent : Principal where
  kind := .agent
  subjectId := 20
  scopes := [scopeProposalsReview, scopeChangesWrite]
  agentId := some 21

/-- A call with the agent's key that finds the two flags. -/
def byAgent (call : Call) : Request where
  who := reviewingAgent
  actor := { kind := .agent }
  now := twoFlags
  call := call

/-- Merging the confirmed flag into the suggested one drops the confirmed link, and an agent's key may approve the merge. -/
theorem merge_drops_confirmed : ¬∀ (earlier : List Request) (request : Request), request.who.kind = .agent →
    Stands (Tx.runs serve {} earlier) ((serve request).left (Tx.runs serve {} earlier)) := by
  intro stands
  have confirmed : ∃ link ∈ (Tx.runs serve {} flaggedRun).terms.rows, link.suggested = false := by decide +kernel
  have gone : ∀ link ∈ ((serve (byAgent (.approveMerge .flag 2 3))).left (Tx.runs serve {} flaggedRun)).terms.rows,
      link.suggested = true := by decide +kernel
  obtain ⟨link, there, isConfirmed⟩ := confirmed
  have still := gone link ((stands flaggedRun (byAgent (.approveMerge .flag 2 3)) rfl).terms link there isConfirmed)
  rw [isConfirmed] at still
  cases still

/-- The set without the suggested flag an agent's key sends, and what it leaves. -/
theorem flags_replaced :
    Stands (Tx.runs serve {} flaggedRun) (Tx.runs serve {} (flaggedRun ++ [byAgent (.update 0 { flags := some ["urgent"] })])) ∧
      SetsReplaced (byAgent (.update 0 { flags := some ["urgent"] })) (Tx.runs serve {} flaggedRun)
        ((serve (byAgent (.update 0 { flags := some ["urgent"] }))).left (Tx.runs serve {} flaggedRun)) := by
  have standing := run_standing flaggedRun [byAgent (.update 0 { flags := some ["urgent"] })]
    (fun request member => List.mem_singleton.mp member ▸ ⟨rfl, rfl⟩)
  refine ⟨standing.1, standing.2 _ (List.mem_singleton_self _) _ () _ (Prod.ext ?_ rfl)⟩
  decide +kernel

end Grc.Watch
