import Grc.Watch.Sightings

/-! Bodies that name a value more than once: what a registration or a correction stores of each, and that none without a repeat
ends in a violation of a unique constraint. -/
namespace Grc.Watch

open Grc.Shared Grc.Lib Grc.Library

variable {now : Now} {records : Records} {tables after : Tables} {change : Id} {column other : TermColumn} {suggester : Suggester}
  {origin : OriginType} {flags : List String}

def Stated (refusal : Refusal) : Prop := refusal.code ≠ "internal_error"

instance (refusal : Refusal) : Decidable (Stated refusal) := inferInstanceAs (Decidable (_ ≠ _))

def valuesOn (change : Id) (column : TermColumn) (tables : Tables) : List Id := (storedTerms tables change column).map (·.value)

def obligationsOn (change : Id) (tables : Tables) : List Id := (storedLinks tables change).map (·.obligation)

def pagesOn (change : Id) (tables : Tables) : List String := urlsOf tables change

/-! ## The rows a call files -/

theorem createTerm_files : Tx.Files Stated (valuesOn change column) (fun value => value) (createTerm change column suggester) where
  adds := by
    intro value tables after answer done
    obtain ⟨_, new, done⟩ := Tx.check_bind_ok.mp done
    obtain rfl := Tx.write_ok.mp done
    refine ⟨fun held => ?_, ?_⟩
    · obtain ⟨link, there, same⟩ := List.mem_map.mp held
      exact require_ok.mp new link there same
    · simp [valuesOn, storedTerms, Keyed.create, List.filter_append]
  refused := by
    intro value tables new
    refine .check_bind ?_ fun _ _ => .write _
    rw [require, if_pos fun link there same => new (List.mem_map.mpr ⟨link, there, same⟩)]
    exact .ok _

theorem addDocumentRow_files (duplicate : ChangeDocumentInput → Bool) : Tx.Files Stated (pagesOn change) (·.url)
    (fun page => addDocumentRow now change page flags (duplicate page)) where
  adds := by
    intro page tables after answer done
    obtain ⟨_, new, done⟩ := Tx.check_bind_ok.mp done
    obtain rfl := Tx.write_ok.mp done
    refine ⟨documentWithUrl_eq_none.mp (Option.isNone_iff_eq_none.mp (require_ok.mp new)), ?_⟩
    simp [pagesOn, urlsOf, Keyed.create, List.filter_append]
  refused := by
    intro page tables new
    refine .check_bind ?_ fun _ _ => .write _
    rw [require, if_pos (Option.isNone_iff_eq_none.mpr (documentWithUrl_eq_none.mpr new))]
    exact .ok _

theorem createLink_files : Tx.Files Stated (obligationsOn change) (·.obligationId) (createLink change origin suggester) where
  adds := by
    intro link tables after answer done
    obtain ⟨_, new, done⟩ := Tx.check_bind_ok.mp done
    obtain rfl := Tx.write_ok.mp done
    refine ⟨fun held => ?_, ?_⟩
    · obtain ⟨held, there, same⟩ := List.mem_map.mp held
      exact require_ok.mp new held there same
    · simp [obligationsOn, storedLinks, Keyed.create, List.filter_append]
  refused := by
    intro link tables new
    refine .check_bind ?_ fun _ _ => .write _
    rw [require, if_pos fun held there same => new (List.mem_map.mpr ⟨held, there, same⟩)]
    exact .ok _

/-! ## What each of them leaves as it was -/

theorem createTerm_other (differ : column ≠ other) (value : Id) :
    (createTerm change column suggester value).Keeps (Tx.Same (valuesOn change other)) := by
  refine .bind (.check _) fun _ => .write fun tables => ?_
  have skipped : (column == other) = false := beq_eq_false_iff_ne.mpr differ
  simp [Tx.Same, valuesOn, storedTerms, Keyed.create, List.filter_append, skipped]

theorem createTerm_pages (value : Id) : (createTerm change column suggester value).Keeps (Tx.Same Tables.documents) :=
  .bind (.check _) fun _ => .write fun _ => rfl

theorem createTerm_links (value : Id) : (createTerm change column suggester value).Keeps (Tx.Same Tables.obligations) :=
  .bind (.check _) fun _ => .write fun _ => rfl

theorem createLink_terms (link : ObligationLinkInput) : (createLink change origin suggester link).Keeps (Tx.Same Tables.terms) :=
  .bind (.check _) fun _ => .write fun _ => rfl

theorem createLink_pages (link : ObligationLinkInput) : (createLink change origin suggester link).Keeps (Tx.Same Tables.documents) :=
  .bind (.check _) fun _ => .write fun _ => rfl

theorem createTerm_changes (value : Id) : (createTerm change column suggester value).Keeps (Tx.Same Tables.changes) :=
  .bind (.check _) fun _ => .write fun _ => rfl

theorem createLink_changes (link : ObligationLinkInput) : (createLink change origin suggester link).Keeps (Tx.Same Tables.changes) :=
  .bind (.check _) fun _ => .write fun _ => rfl

def rowsOf (tables : Tables) : Keyed ChangeDocument.id × Keyed ChangeTerm.id × Keyed ChangeObligation.id :=
  (tables.documents, tables.terms, tables.obligations)

theorem valuesOn_congr (same : Tx.Same Tables.terms tables after) : valuesOn change column after = valuesOn change column tables := by
  unfold valuesOn storedTerms
  rw [same]

theorem pagesOn_congr (same : Tx.Same Tables.documents tables after) : pagesOn change after = pagesOn change tables := by
  unfold pagesOn urlsOf
  rw [same]

theorem obligationsOn_congr (same : Tx.Same Tables.obligations tables after) : obligationsOn change after = obligationsOn change tables := by
  unfold obligationsOn storedLinks
  rw [same]

theorem audited_rows (event : AuditEvent) : (audited event).Keeps (Tx.Same rowsOf) := .write fun _ => rfl

theorem logGeneration_rows (generation : AiGeneration) : (logGeneration now generation).Keeps (Tx.Same rowsOf) :=
  .bind (.check _) fun _ => .write fun _ => rfl

theorem storeSoWhat_rows (actor : Actor) (row : RegulatoryChange) (report : SoWhatInput) (run : Option Id) :
    (storeSoWhat now actor row report run).Keeps (Tx.Same rowsOf) :=
  .bind (.write fun _ => rfl) fun _ => .bind (logGeneration_rows _) fun _ => audited_rows _

theorem addEventRow_rows (entry : ChangeEventInput) : (addEventRow change entry).Keeps (Tx.Same rowsOf) := .write fun _ => rfl

def Known (id : Id) (stableKey : String) (tables : Tables) : Prop := ∃ held ∈ tables.changes.rows, held.id = id ∧ held.stableKey = stableKey

def StaysKnown (id : Id) (stableKey : String) (before after : Tables) : Prop := Known id stableKey before → Known id stableKey after

instance (id : Id) (stableKey : String) : Std.Refl (StaysKnown id stableKey) := ⟨fun _ known => known⟩

instance (id : Id) (stableKey : String) : IsTrans Tables (StaysKnown id stableKey) := ⟨fun _ _ _ first second known => second (first known)⟩

variable {id : Id}

theorem Known.of_same {stableKey : String} (known : Known id stableKey tables) (same : Tx.Same Tables.changes tables after) :
    Known id stableKey after := by
  unfold Known
  rwa [same]

theorem storeSoWhat_known {stableKey : String} (actor : Actor) (row : RegulatoryChange) (report : SoWhatInput) (run : Option Id) :
    (storeSoWhat now actor row report run).Keeps (StaysKnown id stableKey) := by
  refine .bind (.write ?_) fun _ => .bind (.bind (.check _) fun _ => .write fun _ known => known) fun _ => .write fun _ known => known
  rintro tables ⟨held, there, its, key⟩
  refine ⟨_, List.mem_map_of_mem there, ?_⟩
  split
  · exact ⟨its, key⟩
  · exact ⟨its, key⟩

/-! ## A first registration -/

/-- What the database's constraints hold of the tables: unique pages, terms and obligations on a change, and each of them on a
change there is. -/
structure Constrained (tables : Tables) : Prop where
  terms : ∀ change column, (valuesOn change column tables).Nodup
  pages : ∀ change, (pagesOn change tables).Nodup
  obligations : ∀ change, (obligationsOn change tables).Nodup
  termsOf : ∀ link ∈ tables.terms.rows, ∃ held ∈ tables.changes.rows, held.id = link.change
  pagesOf : ∀ document ∈ tables.documents.rows, ∃ held ∈ tables.changes.rows, held.id = document.change
  obligationsOf : ∀ link ∈ tables.obligations.rows, ∃ held ∈ tables.changes.rows, held.id = link.change

namespace Constrained

theorem fresh_terms (constrained : Constrained tables) (column : TermColumn) : valuesOn tables.changes.fresh column tables = [] := by
  refine List.map_eq_nil_iff.mpr (List.filter_eq_nil_iff.mpr fun link there its => ?_)
  obtain ⟨held, listed, same⟩ := constrained.termsOf link there
  have below := Keyed.key_lt_fresh listed
  rw [same, beq_iff_eq.mp (Bool.and_eq_true_iff.mp its).1] at below
  exact Nat.lt_irrefl _ below

theorem fresh_pages (constrained : Constrained tables) : pagesOn tables.changes.fresh tables = [] := by
  refine List.map_eq_nil_iff.mpr (List.filter_eq_nil_iff.mpr fun document there its => ?_)
  obtain ⟨held, listed, same⟩ := constrained.pagesOf document there
  have below := Keyed.key_lt_fresh listed
  rw [same, beq_iff_eq.mp its] at below
  exact Nat.lt_irrefl _ below

theorem fresh_obligations (constrained : Constrained tables) : obligationsOn tables.changes.fresh tables = [] := by
  refine List.map_eq_nil_iff.mpr (List.filter_eq_nil_iff.mpr fun link there its => ?_)
  obtain ⟨held, listed, same⟩ := constrained.obligationsOf link there
  have below := Keyed.key_lt_fresh listed
  rw [same, beq_iff_eq.mp its] at below
  exact Nat.lt_irrefl _ below

end Constrained

/-- What a first registration leaves on its change. -/
structure FiledOnce (after : Tables) (id : Id) (stableKey : String) (flags terms : List Id) (pages : List String) (obligations : List Id) : Prop where
  known : Known id stableKey after
  flags : valuesOn id .flag after = flags ∧ (valuesOn id .flag after).Nodup
  terms : valuesOn id .term after = terms ∧ (valuesOn id .term after).Nodup
  pages : pagesOn id after = pages ∧ (pagesOn id after).Nodup
  obligations : obligationsOn id after = obligations ∧ (obligationsOn id after).Nodup

variable {run : Option AgentRun}

theorem given_spend_ok {answer : PUnit} (done : (Tx.given run (spend now)).execute tables = (.ok answer, after)) :
    after = tables := by
  cases run with
  | none => exact (Tx.pure_ok.mp done).2
  | some run => exact (Tx.check_ok.mp done).2

variable {body : ChangeInput} {actor : Actor} {who : Principal} {answer : Unit} {resolved : Resolved}

theorem fileChange_ok
    (constrained : Constrained tables)
    (done : (fileChange now who actor body resolved flags run).execute tables = (.ok answer, after)) :
    FiledOnce after tables.changes.fresh body.stableKey (resolved.flags.map (·.id)) (resolved.terms.map (·.id)) (body.documents.map (·.url))
      (body.obligationLinks.map (·.obligationId)) := by
  obtain ⟨_, begun, spent, rest⟩ := Tx.bind_ok.mp done
  rw [given_spend_ok spent] at rest
  obtain ⟨id, drawn, rest⟩ := Tx.check_bind_ok.mp rest
  obtain rfl := Except.ok.inj drawn
  have rest := Tx.write_bind_ok.mp rest
  obtain ⟨_, first, events, rest⟩ := Tx.bind_ok.mp rest
  obtain ⟨_, second, pages, rest⟩ := Tx.bind_ok.mp rest
  obtain ⟨_, third, flagged, rest⟩ := Tx.bind_ok.mp rest
  obtain ⟨_, fourth, scoped_, rest⟩ := Tx.bind_ok.mp rest
  obtain ⟨_, fifth, linked, rest⟩ := Tx.bind_ok.mp rest
  obtain ⟨_, sixth, drafted, rest⟩ := Tx.bind_ok.mp rest
  obtain ⟨_, seventh, logged, recorded⟩ := Tx.bind_ok.mp rest
  -- the milestones go to a table of their own, and so do the pages
  have milestones := Tx.Same.of_done (.each (fun entry => addEventRow_rows entry) body.events) events
  have sameTimeline := Tx.Keeps.ok (.each (fun entry => addEventRow_same _ entry) body.events) events
  have besidePages := Tx.Keeps.ok (.each (fun page => addDocumentRow_same now _ page flags page.isDuplicate) body.documents) pages
  have tail : Tx.Same rowsOf fifth after := by
    refine trans_of (Tx.Same rowsOf) (Tx.Same.of_done (.given (fun report => storeSoWhat_rows _ _ _ _) _) drafted) ?_
    refine trans_of (Tx.Same rowsOf) (Tx.Same.of_done (.given (fun run => logGeneration_rows _) _) logged) ?_
    exact Tx.Same.of_done (audited_rows _) recorded
  have documentsThen : first.documents = tables.documents := congrArg Prod.fst milestones
  have termsThen : second.terms = tables.terms := besidePages.terms.trans sameTimeline.terms
  have obligationsThen : second.obligations = tables.obligations := besidePages.obligations.trans sameTimeline.obligations
  have documentsNow : after.documents = second.documents := by
    have flagRows := Tx.Same.of_done (.each (fun value => createTerm_pages value) _) flagged
    have termRows := Tx.Same.of_done (.each (fun value => createTerm_pages value) _) scoped_
    have linkRows := Tx.Same.of_done (.each (fun link => createLink_pages link) _) linked
    exact (congrArg Prod.fst tail).trans (linkRows.trans (termRows.trans flagRows))
  have termsNow : after.terms = fourth.terms :=
    (congrArg (·.2.1) tail).trans (Tx.Same.of_done (.each (fun link => createLink_terms link) _) linked)
  have obligationsNow : after.obligations = fifth.obligations := congrArg (·.2.2) tail
  refine ⟨?_, ?_, ?_, ?_, ?_⟩
  · have filed : Known tables.changes.fresh body.stableKey second := by
      refine Known.of_same ?_ (besidePages.changes.trans sameTimeline.changes)
      exact ⟨_, (Keyed.mem_create fun _ => rfl).mpr (.inr rfl), rfl, rfl⟩
    have flagged := Tx.Same.of_done (.each (fun value => createTerm_changes value) _) flagged
    have scoped_ := Tx.Same.of_done (.each (fun value => createTerm_changes value) _) scoped_
    have linked := Tx.Same.of_done (.each (fun link => createLink_changes link) _) linked
    have linksFiled := ((filed.of_same flagged).of_same scoped_).of_same linked
    have drafted := Tx.Keeps.ok (.given (fun report => storeSoWhat_known _ _ _ _) _) drafted linksFiled
    have logged := Tx.Keeps.ok (.given (fun run => logGeneration_same now _) _) logged
    exact (drafted.of_same logged.changes).of_same (Tx.Keeps.ok (audited_same _) recorded).changes
  · have before : valuesOn tables.changes.fresh .flag second = [] := (valuesOn_congr termsThen).trans (constrained.fresh_terms .flag)
    have kept : valuesOn tables.changes.fresh .flag after = valuesOn tables.changes.fresh .flag third :=
      (valuesOn_congr termsNow).trans (Tx.Same.of_done (.each (fun value => createTerm_other (by decide) value) _) scoped_)
    have apart := createTerm_files.nodup_each flagged (before ▸ List.nodup_nil)
    rw [kept]
    exact ⟨by rw [createTerm_files.held_each flagged, before, List.map_id']; rfl, apart⟩
  · have before : valuesOn tables.changes.fresh .term third = [] :=
      (Tx.Same.of_done (.each (fun value => createTerm_other (by decide) value) _) flagged).trans
        ((valuesOn_congr termsThen).trans (constrained.fresh_terms .term))
    have apart := createTerm_files.nodup_each scoped_ (before ▸ List.nodup_nil)
    rw [valuesOn_congr termsNow]
    exact ⟨by rw [createTerm_files.held_each scoped_, before, List.map_id']; rfl, apart⟩
  · have before : pagesOn tables.changes.fresh first = [] := (pagesOn_congr documentsThen).trans constrained.fresh_pages
    have files := @addDocumentRow_files now tables.changes.fresh flags (·.isDuplicate)
    have apart := files.nodup_each pages (before ▸ List.nodup_nil)
    rw [pagesOn_congr documentsNow]
    exact ⟨by rw [files.held_each pages, before]; rfl, apart⟩
  · have before : obligationsOn tables.changes.fresh fourth = [] := by
      have flagRows := Tx.Same.of_done (.each (fun value => createTerm_links value) _) flagged
      have termRows := Tx.Same.of_done (.each (fun value => createTerm_links value) _) scoped_
      exact (obligationsOn_congr (termRows.trans (flagRows.trans obligationsThen))).trans constrained.fresh_obligations
    have apart := createLink_files.nodup_each linked (before ▸ List.nodup_nil)
    rw [obligationsOn_congr obligationsNow]
    exact ⟨by rw [createLink_files.held_each linked, before]; rfl, apart⟩

/-! ## The refusals the code states -/

theorem given_refused {α : Type} {sent : Option α} {checked : α → Except Refusal Unit} (each : ∀ value, RefusedAs Stated (checked value)) :
    RefusedAs Stated (given sent checked) := by
  cases sent with
  | none => exact .ok _
  | some value => exact each value

theorem resolveKeys_refused (list : String) (keys : List String) : RefusedAs Stated (resolveKeys records list keys) :=
  .bind (.require (by simp [Stated])) fun _ _ => .ok _

theorem resolveKeys_ok {list : String} {keys : List String} {rows : List ListRow} (done : resolveKeys records list keys = .ok rows) :
    rows = keys.filterMap (activeRow records list) ∧ ∀ key ∈ keys, ∃ row, activeRow records list key = some row := by
  obtain ⟨_, known, done⟩ := bind_ok.mp done
  refine ⟨(Except.ok.inj done).symm, fun key listed => ?_⟩
  have known := List.filter_eq_nil_iff.mp (require_ok.mp known) key (List.mem_eraseDups.mpr listed)
  exact Option.ne_none_iff_exists'.mp (by simpa using known)

theorem resolveKey_refused (list key : String) : RefusedAs Stated (resolveKey now list key) := by
  refine .bind (resolveKeys_refused list [key]) fun rows done => ?_
  obtain ⟨rfl, known⟩ := resolveKeys_ok done
  obtain ⟨row, found⟩ := known key List.mem_cons_self
  -- the one key named has its row, so the list is not empty
  rw [List.filterMap_cons, found, List.head?_cons]
  exact .ok _

theorem resolveTerms_refused (ids : List Id) : RefusedAs Stated (resolveTerms records ids) :=
  .bind (.require (by simp [Stated])) fun _ _ => .bind (.require (by simp [Stated, Records.mirroredRefusal])) fun _ _ => .ok _

theorem activeTerm_id {term : Term} (found : activeTerm records id = some term) : term.id = id := by
  have named := List.find?_some found
  exact beq_iff_eq.mp (Bool.and_eq_true_iff.mp (Bool.and_eq_true_iff.mp named).1).1

theorem resolveTerms_ok {ids : List Id} {terms : List Term} (done : resolveTerms records ids = .ok terms) : terms.map (·.id) = ids := by
  obtain ⟨_, known, done⟩ := bind_ok.mp done
  obtain ⟨_, -, done⟩ := bind_ok.mp done
  obtain rfl := Except.ok.inj done
  have known := List.filter_eq_nil_iff.mp (require_ok.mp known)
  have each : ∀ id ∈ ids, (activeTerm records id).map (·.id) = some id := by
    intro id listed
    have found := known id (List.mem_eraseDups.mpr listed)
    obtain ⟨term, found⟩ := Option.ne_none_iff_exists'.mp (by simpa using found)
    rw [found, Option.map_some, activeTerm_id found]
  rw [List.map_filterMap]
  exact (List.filterMap_congr each).trans List.filterMap_some

theorem authorityNamed_refused (code : String) : RefusedAs Stated (authorityNamed records code) :=
  .ite (.ok _) (.map (.demand (by simp [Stated])))

theorem oneLinkPerObligation_refused (links : List ObligationLinkInput) : RefusedAs Stated (oneLinkPerObligation links) := by
  induction links with
  | nil => exact .ok _
  | cons link rest ih => exact .bind (.require (by simp [Stated, validationError])) fun _ _ => ih

theorem oneLinkPerObligation_ok {links : List ObligationLinkInput} (done : oneLinkPerObligation links = .ok answer) :
    (links.map (·.obligationId)).Nodup := by
  induction links with
  | nil => exact List.nodup_nil
  | cons link rest ih =>
    obtain ⟨_, apart, done⟩ := bind_ok.mp done
    refine List.nodup_cons.mpr ⟨fun again => ?_, ih done⟩
    obtain ⟨other, listed, same⟩ := List.mem_map.mp again
    exact require_ok.mp apart other listed same

theorem resolveChange_refused (body : ChangeInput) : RefusedAs Stated (resolveChange now body) := by
  refine .bind (resolveKey_refused _ _) fun _ _ => .bind (resolveKeys_refused _ _) fun _ _ => .bind (resolveTerms_refused _) fun _ _ => ?_
  refine .bind (.optionally fun _ => resolveKey_refused _ _) fun _ _ => .bind (authorityNamed_refused _) fun _ _ => ?_
  refine .bind (oneLinkPerObligation_refused _) fun _ _ => .bind (.require (by simp [Stated])) fun _ _ => ?_
  exact .bind (.require (by simp [Stated, validationError])) fun _ _ => .ok _

theorem requireRegime_refused (terms : List Term) : RefusedAs Stated (requireRegime records terms) := .require (by simp [Stated])

theorem requireStandardsBody_refused (bodies : List Id) (terms : List Term) (authority : Option Id) :
    RefusedAs Stated (requireStandardsBody records bodies terms authority) := .require (by simp [Stated])

theorem requireChangeWriter_refused (who : Principal) : RefusedAs Stated (requireChangeWriter who) := by
  refine .ite (.bind (.require (by simp [Stated])) fun _ _ => .require (by simp [Stated, deny])) (.require (by simp [Stated, deny]))

theorem requireOpenRun_refused (runs : List AgentRun) (who : Principal) (run : Option Id) : RefusedAs Stated (requireOpenRun runs who run) := by
  refine .bind (.require (by simp [Stated])) fun _ _ => .bind (.demand (by simp [Stated])) fun _ _ => ?_
  exact .bind (.demand (by simp [Stated, notFound])) fun _ _ => .bind (.require (by simp [Stated])) fun _ _ => .ok _

theorem storeSoWhat_refused (actor : Actor) (row : RegulatoryChange) (report : SoWhatInput) (run : Option Id) :
    Tx.RefusedAs Stated (storeSoWhat now actor row report run) tables := by
  refine .bind (.write _) fun _ _ _ => .bind (.check_bind ?_ fun _ _ => .write _) fun _ _ _ => .write _
  exact .require (by simp [Stated, validationError])

theorem events_refused {entries : List ChangeEventInput} : Tx.RefusedAs Stated (Tx.each entries (addEventRow id)) tables :=
  .each (fun _ _ => True) (fun _ _ _ _ => .write _) (fun _ _ _ _ _ _ _ => trivial) trivial

theorem spend_refused (run : AgentRun) : Tx.RefusedAs Stated (spend now run) tables :=
  .check (.bind (.require (by simp [Stated])) fun _ _ => .require (by simp [Stated]))

theorem logGeneration_refused (generation : AiGeneration) : Tx.RefusedAs Stated (logGeneration now generation) tables :=
  .check_bind (.require (by simp [Stated, validationError])) fun _ _ => .write _

theorem fileChange_refused
    (constrained : Constrained tables) (flagsOnce : (resolved.flags.map (·.id)).Nodup) (termsOnce : (resolved.terms.map (·.id)).Nodup)
    (pagesOnce : (body.documents.map (·.url)).Nodup) (linksOnce : (body.obligationLinks.map (·.obligationId)).Nodup) :
    Tx.RefusedAs Stated (fileChange now who actor body resolved flags run) tables := by
  refine .bind (.given fun run _ => spend_refused run) fun _ begun spent => ?_
  rw [given_spend_ok spent]
  refine .check_bind (.ok _) fun id drawn => ?_
  obtain rfl := Except.ok.inj drawn
  refine .bind (.write _) fun _ made wrote => ?_
  have created := Tx.write_ok.mp wrote
  refine .bind events_refused fun _ first events => ?_
  have milestones := Tx.Same.of_done (.each (fun entry => addEventRow_rows entry) body.events) events
  have rowsThen : rowsOf first = rowsOf tables := milestones.trans (created ▸ rfl)
  have pagesThen : pagesOn tables.changes.fresh first = [] := (pagesOn_congr (congrArg Prod.fst rowsThen)).trans constrained.fresh_pages
  refine .bind ((addDocumentRow_files (·.isDuplicate)).refused_each (by rwa [pagesThen])) fun _ second pages => ?_
  have besidePages := Tx.Keeps.ok (.each (fun page => addDocumentRow_same now _ page flags page.isDuplicate) body.documents) pages
  have termsThen (column : TermColumn) : valuesOn tables.changes.fresh column second = [] :=
    (valuesOn_congr (besidePages.terms.trans (congrArg (·.2.1) rowsThen))).trans (constrained.fresh_terms column)
  refine .bind (createTerm_files.refused_each (by rwa [termsThen, List.map_id'])) fun _ third flagged => ?_
  have scopeThen : valuesOn tables.changes.fresh .term third = [] :=
    (Tx.Same.of_done (.each (fun value => createTerm_other (by decide) value) _) flagged).trans (termsThen .term)
  refine .bind (createTerm_files.refused_each (by rwa [scopeThen, List.map_id'])) fun _ fourth scoped_ => ?_
  have linksThen : obligationsOn tables.changes.fresh fourth = [] := by
    have flagRows := Tx.Same.of_done (.each (fun value => createTerm_links value) _) flagged
    have termRows := Tx.Same.of_done (.each (fun value => createTerm_links value) _) scoped_
    have rows := termRows.trans (flagRows.trans (besidePages.obligations.trans (congrArg (·.2.2) rowsThen)))
    exact (obligationsOn_congr rows).trans constrained.fresh_obligations
  refine .bind (createLink_files.refused_each (by rwa [linksThen])) fun _ _ _ => ?_
  refine .bind (.given fun report _ => storeSoWhat_refused _ _ report _) fun _ _ _ => ?_
  exact .bind (.given fun run _ => logGeneration_refused _) fun _ _ _ => .write _

theorem mergeSighting_refused {row : RegulatoryChange} :
    Tx.RefusedAs Stated (mergeSighting now actor row body flags run) tables := by
  refine .check_bind (.ok _) fun _ _ => .bind ?_ fun _ _ _ => .check_bind (.ok _) fun _ _ => .bind ?_ fun _ _ _ => ?_
  · refine .each (fun _ _ => True) (fun entry _ state _ => ?_) (fun _ _ _ _ _ _ _ => trivial) trivial
    exact .check_bind (.ok _) fun _ _ => .when fun _ => .write _
  -- a page is attached only where the change does not carry its address by then
  · refine .each (fun _ _ => True) (fun page _ state _ => ?_) (fun _ _ _ _ _ _ _ => trivial) trivial
    refine .check_bind (.ok _) fun held looked => .when fun new => ?_
    obtain rfl := Except.ok.inj looked
    exact (addDocumentRow_files fun _ => true).refused (documentWithUrl_eq_none.mp new)
  · exact .bind (.given fun report _ => .when fun _ => storeSoWhat_refused _ _ report _) fun _ _ _ => .write _

/-! ## A correction -/

theorem deleteTerms_fewer {picked : ChangeTerm → Bool} {answer : PUnit} (done : (writeTerms (·.delete picked)).execute tables = (.ok answer, after)) :
    (valuesOn change column after).Sublist (valuesOn change column tables) := by
  obtain rfl := Tx.write_ok.mp done
  exact (List.filter_sublist.filter _).map _

theorem overturned_fewer {picked also : ChangeTerm → Bool} {overturn : Prop} [Decidable overturn] {middle : Tables} {first second : PUnit}
    (dropped : (writeTerms (·.delete picked)).execute tables = (.ok first, middle))
    (overturned : (Tx.when overturn (writeTerms (·.delete also))).execute middle = (.ok second, after)) :
    (valuesOn change column after).Sublist (valuesOn change column tables) := by
  rcases Tx.when_ok overturned with ⟨-, more⟩ | ⟨-, rfl⟩
  · exact (deleteTerms_fewer more).trans (deleteTerms_fewer dropped)
  · exact deleteTerms_fewer dropped

theorem deleteTerms_other {picked : ChangeTerm → Bool} (differ : column ≠ other)
    (of : ∀ link, picked link = true → link.column = column) : (writeTerms (·.delete picked)).Keeps (Tx.Same (valuesOn change other)) := by
  refine .write fun tables => ?_
  change ((tables.terms.rows.filter fun link => !picked link).filter _).map _ = _
  rw [List.filter_filter]
  refine congrArg (List.map _) (List.filter_congr fun link _ => ?_)
  cases its : picked link with
  | false => simp
  | true =>
    have skipped : (link.column == other) = false := beq_eq_false_iff_ne.mpr fun same => differ ((of link its).symm.trans same)
    simp [skipped]

variable {overturn : Bool} {wanted : List Id}

theorem replaceTermLinks_other (differ : column ≠ other) :
    (replaceTermLinks change column wanted suggester overturn).Keeps (Tx.Same (valuesOn change other)) := by
  refine .bind (deleteTerms_other differ fun link its => ?_) fun _ => .bind (.when fun _ => deleteTerms_other differ fun link its => ?_) fun _ => ?_
  · simp_all
  · simp_all
  · exact .bind (.check _) fun _ => .each (fun value => .when fun _ => createTerm_other differ value) _

theorem replaceTermLinks_held (apart : (valuesOn change column tables).Nodup)
    (done : (replaceTermLinks change column wanted suggester overturn).execute tables = (.ok answer, after)) :
    (∀ value ∈ wanted, value ∈ valuesOn change column after) ∧ (valuesOn change column after).Nodup := by
  obtain ⟨_, first, dropped, rest⟩ := Tx.bind_ok.mp done
  obtain ⟨_, second, overturned, rest⟩ := Tx.bind_ok.mp rest
  obtain ⟨confirmed, read, rest⟩ := Tx.check_bind_ok.mp rest
  obtain rfl : valuesOn change column second = confirmed := Except.ok.inj read
  have fewer := apart.sublist (overturned_fewer dropped overturned)
  rw [Tx.each_when] at rest
  have grown := createTerm_files.held_each rest
  refine ⟨fun value listed => ?_, createTerm_files.nodup_each rest fewer⟩
  rw [grown, List.map_id']
  by_cases there : value ∈ valuesOn change column second
  · exact List.mem_append_left _ there
  · exact List.mem_append_right _ (List.mem_filter.mpr ⟨listed, decide_eq_true there⟩)

theorem replaceTermLinks_refusals (apart : (valuesOn change column tables).Nodup) (once : wanted.Nodup) :
    Tx.RefusedAs Stated (replaceTermLinks change column wanted suggester overturn) tables := by
  refine .bind (.write _) fun _ first dropped => .bind (.when fun _ => .write _) fun _ second overturned => .check_bind (.ok _) fun confirmed read => ?_
  obtain rfl : valuesOn change column second = confirmed := Except.ok.inj read
  have fewer := apart.sublist (overturned_fewer dropped overturned)
  rw [Tx.each_when]
  refine createTerm_files.refused_each ?_
  rw [List.map_id']
  refine List.nodup_append.mpr ⟨fewer, once.filter _, fun value there other new same => ?_⟩
  exact of_decide_eq_true (List.mem_filter.mp new).2 (same ▸ there)

theorem refuseConfirmed_refused (who : Principal) (what : String) (stepUp : Option Id) : RefusedAs Stated (refuseConfirmed who what stepUp) :=
  .bind (.require (by simp [Stated])) fun _ _ => .require (by simp [Stated])

theorem changeFor_refused (id : Id) : RefusedAs Stated (changeFor tables id) := .demand (by simp [Stated, notFound])

theorem superseding_refused (id named : Id) : RefusedAs Stated (superseding tables id named) :=
  .bind (.require (by simp [Stated, validationError])) fun _ _ => .map (.demand (by simp [Stated]))

theorem updateChange_terms {to_ : RegulatoryChange → RegulatoryChange} {named : ∀ row, (to_ row).id = row.id} :
    (updateChange id to_ named).Keeps (Tx.Same Tables.terms) := .write fun _ => rfl

theorem flagDocuments_terms (found : List String) : (flagDocuments change found).Keeps (Tx.Same Tables.terms) := .write fun _ => rfl

/-- The flags and the terms a correction names, as the rows they stand for. -/
structure Named (records : Records) (body : ChangePatch) (flags terms : Option (List Id)) : Prop where
  flags : ∀ keys ∈ body.flags, ∃ rows, resolveKeys records flagList keys = .ok rows ∧ flags = some (rows.map (·.id))
  terms : ∀ ids ∈ body.termIds, terms = some ids

theorem named_ok {body : ChangePatch} {flags : Option (List Id)} {terms : Option (List Term)}
    (flagged : optionally (fun keys => (resolveKeys records flagList keys).map (·.map (·.id))) body.flags = .ok flags)
    (scoped_ : optionally (resolveTerms records) body.termIds = .ok terms) : Named records body flags (terms.map (·.map (·.id))) := by
  constructor
  · intro keys named
    rw [Option.mem_def.mp named] at flagged
    obtain ⟨ids, resolved, rfl⟩ := map_ok.mp flagged
    obtain ⟨rows, found, rfl⟩ := map_ok.mp resolved
    exact ⟨rows, found, rfl⟩
  · intro ids named
    rw [Option.mem_def.mp named] at scoped_
    obtain ⟨rows, resolved, rfl⟩ := map_ok.mp scoped_
    exact congrArg some (resolveTerms_ok resolved)

/-- The values a correction names are all on the change, each once. -/
structure Corrected (records : Records) (after : Tables) (change : Id) (body : ChangePatch) : Prop where
  flags : ∀ keys ∈ body.flags, ∃ rows, resolveKeys records flagList keys = .ok rows ∧ ∀ row ∈ rows, row.id ∈ valuesOn change .flag after
  terms : ∀ ids ∈ body.termIds, ∀ id ∈ ids, id ∈ valuesOn change .term after
  once : ∀ column, (valuesOn change column after).Nodup

theorem given_replace_ok {wanted : Option (List Id)} {answer : PUnit} (apart : (valuesOn change column tables).Nodup)
    (done : (Tx.given wanted fun values => replaceTermLinks change column values suggester overturn).execute tables = (.ok answer, after)) :
    (∀ values ∈ wanted, ∀ value ∈ values, value ∈ valuesOn change column after) ∧ (valuesOn change column after).Nodup := by
  cases wanted with
  | none =>
    obtain ⟨-, rfl⟩ := Tx.pure_ok.mp done
    exact ⟨nofun, apart⟩
  | some values =>
    obtain ⟨held, nodup⟩ := replaceTermLinks_held apart done
    refine ⟨fun others same => ?_, nodup⟩
    obtain rfl := Option.some.inj same
    exact held

theorem updateChangeFacts_ok {body : ChangePatch} {stepUp : Option Id}
    (constrained : Constrained tables)
    (done : (updateChangeFacts now who actor change body stepUp).execute tables = (.ok answer, after)) :
    Corrected now.records after change body := by
  obtain ⟨held, found, done⟩ := Tx.check_bind_ok.mp done
  obtain ⟨_, -, done⟩ := Tx.check_bind_ok.mp done
  obtain ⟨_, -, done⟩ := Tx.check_bind_ok.mp done
  obtain ⟨flags, flagged, done⟩ := Tx.check_bind_ok.mp done
  obtain ⟨terms, scoped_, done⟩ := Tx.check_bind_ok.mp done
  obtain ⟨_, -, done⟩ := Tx.check_bind_ok.mp done
  obtain ⟨_, -, done⟩ := Tx.check_bind_ok.mp done
  obtain ⟨_, -, done⟩ := Tx.check_bind_ok.mp done
  obtain ⟨_, -, done⟩ := Tx.check_bind_ok.mp done
  obtain ⟨_, -, done⟩ := Tx.check_bind_ok.mp done
  obtain ⟨_, -, done⟩ := Tx.check_bind_ok.mp done
  obtain ⟨_, first, screened_, done⟩ := Tx.bind_ok.mp done
  obtain ⟨_, second, updated, done⟩ := Tx.bind_ok.mp done
  obtain ⟨_, third, flagRows, done⟩ := Tx.bind_ok.mp done
  obtain ⟨_, fourth, termRows, done⟩ := Tx.bind_ok.mp done
  obtain ⟨_, fifth, drafted, done⟩ := Tx.bind_ok.mp done
  obtain ⟨_, -, recorded⟩ := Tx.check_bind_ok.mp done
  obtain ⟨-, rfl⟩ := changeFor_ok found
  have named := named_ok flagged scoped_
  have before : second.terms = tables.terms := by
    exact (Tx.Same.of_done updateChange_terms updated).trans (Tx.Same.of_done (.when fun _ => flagDocuments_terms _) screened_)
  have later : after.terms = fourth.terms := by
    have drafts := Tx.Same.of_done (.given (fun report => storeSoWhat_rows _ _ _ _) _) drafted
    exact congrArg (·.2.1) ((Tx.Same.of_done (audited_rows _) recorded).trans drafts)
  have apart (column : TermColumn) : (valuesOn held.id column second).Nodup := (valuesOn_congr before).symm ▸ constrained.terms held.id column
  obtain ⟨flagged, flagsOnce⟩ := given_replace_ok (apart .flag) flagRows
  have scopeThen : valuesOn held.id .term third = valuesOn held.id .term second :=
    Tx.Same.of_done (.given (fun values => replaceTermLinks_other (by decide)) _) flagRows
  obtain ⟨scoped_, termsOnce⟩ := given_replace_ok (scopeThen ▸ apart .term) termRows
  have flagsThen : valuesOn held.id .flag fourth = valuesOn held.id .flag third :=
    Tx.Same.of_done (.given (fun values => replaceTermLinks_other (by decide)) _) termRows
  refine ⟨fun keys wanted => ?_, fun ids wanted id listed => ?_, fun column => ?_⟩
  · obtain ⟨rows, resolved, its⟩ := named.flags keys wanted
    refine ⟨rows, resolved, fun row listed => ?_⟩
    rw [valuesOn_congr later, flagsThen]
    exact flagged _ its row.id (List.mem_map_of_mem listed)
  · rw [valuesOn_congr later]
    exact scoped_ _ (named.terms ids wanted) id listed
  · rw [valuesOn_congr later]
    cases column with
    | flag => rwa [flagsThen]
    | term => exact termsOnce

theorem flags_named {body : ChangePatch} {flags : Option (List Id)} {values : List Id}
    (flagged : optionally (fun keys => (resolveKeys records flagList keys).map (·.map (·.id))) body.flags = .ok flags) (named : values ∈ flags) :
    ∃ keys ∈ body.flags, ∃ rows, resolveKeys records flagList keys = .ok rows ∧ values = rows.map (·.id) := by
  rcases optionally_ok.mp flagged with ⟨-, rfl⟩ | ⟨keys, ids, sent, rfl, resolved⟩
  · cases named
  · obtain ⟨rows, found, rfl⟩ := map_ok.mp resolved
    exact ⟨keys, sent, rows, found, (Option.some.inj named).symm⟩

theorem terms_named {body : ChangePatch} {terms : Option (List Term)} {values : List Id}
    (scoped_ : optionally (resolveTerms records) body.termIds = .ok terms) (named : values ∈ terms.map (·.map (·.id))) :
    values ∈ body.termIds := by
  rcases optionally_ok.mp scoped_ with ⟨-, rfl⟩ | ⟨ids, rows, sent, rfl, resolved⟩
  · cases named
  · exact sent.trans (congrArg some ((resolveTerms_ok resolved).symm.trans (Option.some.inj named)))

theorem updateChangeFacts_refused {body : ChangePatch} {stepUp : Option Id} (constrained : Constrained tables)
    (flagsOnce : ∀ keys ∈ body.flags, ∀ rows, resolveKeys now.records flagList keys = .ok rows → (rows.map (·.id)).Nodup)
    (termsOnce : ∀ ids ∈ body.termIds, ids.Nodup) :
    Tx.RefusedAs Stated (updateChangeFacts now who actor change body stepUp) tables := by
  refine .check_bind (changeFor_refused change) fun held found => .check_bind (.ite (.require (by simp [Stated])) (.ok _)) fun _ _ => ?_
  refine .check_bind (.optionally fun _ => .map (resolveKeys_refused _ _)) fun _ _ => ?_
  refine .check_bind (.optionally fun _ => .map (resolveKeys_refused _ _)) fun flags flagged => ?_
  refine .check_bind (.optionally fun _ => resolveTerms_refused _) fun terms scoped_ => ?_
  refine .check_bind (given_refused fun _ => .bind (requireRegime_refused _) fun _ _ => requireStandardsBody_refused _ _ _) fun _ _ => ?_
  refine .check_bind (.optionally fun _ => superseding_refused _ _) fun _ _ => ?_
  refine .check_bind (.ite (refuseConfirmed_refused _ _ _) (.ok _)) fun _ _ => ?_
  refine .check_bind (given_refused fun _ => .ite (refuseConfirmed_refused _ _ _) (.ok _)) fun _ _ => ?_
  refine .check_bind (given_refused fun _ => .ite (refuseConfirmed_refused _ _ _) (.ok _)) fun _ _ => .check_bind (.ok _) fun _ _ => ?_
  refine .bind (.when fun _ => .write _) fun _ first screened_ => .bind (.write _) fun _ second updated => ?_
  have before : second.terms = tables.terms :=
    (Tx.Same.of_done updateChange_terms updated).trans (Tx.Same.of_done (.when fun _ => flagDocuments_terms _) screened_)
  have apart (column : TermColumn) : (valuesOn held.id column second).Nodup := (valuesOn_congr before).symm ▸ constrained.terms held.id column
  refine .bind (.given fun values named => replaceTermLinks_refusals (apart .flag) ?_) fun _ third flagRows => ?_
  · obtain ⟨keys, sent, rows, resolved, rfl⟩ := flags_named flagged named
    exact flagsOnce keys sent rows resolved
  have scopeThen : valuesOn held.id .term third = valuesOn held.id .term second :=
    Tx.Same.of_done (.given (fun values => replaceTermLinks_other (by decide)) _) flagRows
  refine .bind (.given fun values named => replaceTermLinks_refusals (scopeThen ▸ apart .term) ?_) fun _ _ _ => ?_
  · exact termsOnce values (terms_named scoped_ named)
  refine .bind (.given fun report _ => storeSoWhat_refused _ _ report _) fun _ _ _ => .check_bind (.ok _) fun _ _ => .write _

/-! ## The calls -/

theorem rows_nodup {list : String} {keys : List String} {rows : List ListRow} (unique : (records.rows.map (·.id)).Nodup)
    (once : keys.Nodup) (resolved : resolveKeys records list keys = .ok rows) : (rows.map (·.id)).Nodup := by
  obtain ⟨rfl, -⟩ := resolveKeys_ok resolved
  have ofKey {key : String} {row : ListRow} (found : activeRow records list key = some row) : row ∈ records.rows ∧ row.key = key := by
    have named := List.find?_some found
    exact ⟨List.mem_of_find?_eq_some found, beq_iff_eq.mp (Bool.and_eq_true_iff.mp (Bool.and_eq_true_iff.mp named).1).2⟩
  have apart : (keys.filterMap (activeRow records list)).Nodup :=
    once.filterMap fun key other row here there => (ofKey here).2.symm.trans (ofKey there).2
  refine apart.map_on fun row listed other also same => ?_
  obtain ⟨_, -, here⟩ := List.mem_filterMap.mp listed
  obtain ⟨_, -, there⟩ := List.mem_filterMap.mp also
  exact List.inj_on_of_nodup_map unique (ofKey here).1 (ofKey there).1 same

/-- The values a body names are on the change, each of them once. -/
structure StoredOnce (records : Records) (after : Tables) (change : Id) (flags : List String) (terms : List Id) (pages : List String)
    (obligations : List Id) : Prop where
  flags : ∀ key ∈ flags, ∃ row, activeRow records flagList key = some row ∧ (valuesOn change .flag after).count row.id = 1
  terms : ∀ id ∈ terms, (valuesOn change .term after).count id = 1
  pages : ∀ url ∈ pages, (pagesOn change after).count url = 1
  obligations : ∀ id ∈ obligations, (obligationsOn change after).count id = 1

/-- A body that names no flag or term twice and, of a change nobody registered before, no page. -/
def NoRepeats (tables : Tables) : Call → Prop
  | .register body => changeWithStableKey tables body.stableKey = none →
      body.flags.Nodup ∧ body.termIds.Nodup ∧ (body.documents.map (·.url)).Nodup
  | .update _ body => (∀ keys ∈ body.flags, keys.Nodup) ∧ ∀ ids ∈ body.termIds, ids.Nodup
  | _ => True

/-- What a registration or a correction is to do. -/
structure Recorded (tables : Tables) (request : Request) : Prop where
  refused : ∀ refusal after, (serve request).execute tables = (.error refusal, after) → after = tables
  stated : (∃ body, request.call = .register body) ∨ (∃ id body, request.call = .update id body) → NoRepeats tables request.call →
    ∀ refusal after, (serve request).execute tables = (.error refusal, after) → Stated refusal
  first : ∀ body, request.call = .register body → changeWithStableKey tables body.stableKey = none →
    ∀ answer after, (serve request).execute tables = (.ok answer, after) → ∃ id, Known id body.stableKey after ∧
      StoredOnce request.now.records after id body.flags body.termIds (body.documents.map (·.url)) (body.obligationLinks.map (·.obligationId))
  again : ∀ body change, request.call = .register body → changeWithStableKey tables body.stableKey = some change →
    ∀ answer after, (serve request).execute tables = (.ok answer, after) →
      StoredOnce request.now.records after change.id [] [] (body.documents.map (·.url)) [] ∧
        after.terms = tables.terms ∧ after.obligations = tables.obligations
  corrected : ∀ id body, request.call = .update id body → ∀ answer after, (serve request).execute tables = (.ok answer, after) →
    StoredOnce request.now.records after id (body.flags.getD []) (body.termIds.getD []) [] []

theorem resolveChange_ok (done : resolveChange now body = .ok resolved) :
    resolveKeys now.records flagList body.flags = .ok resolved.flags ∧ resolved.terms.map (·.id) = body.termIds ∧
      (body.obligationLinks.map (·.obligationId)).Nodup := by
  obtain ⟨_, -, done⟩ := bind_ok.mp done
  obtain ⟨flags, flagged, done⟩ := bind_ok.mp done
  obtain ⟨terms, scoped_, done⟩ := bind_ok.mp done
  obtain ⟨_, -, done⟩ := bind_ok.mp done
  obtain ⟨_, -, done⟩ := bind_ok.mp done
  obtain ⟨_, once, done⟩ := bind_ok.mp done
  obtain ⟨_, -, done⟩ := bind_ok.mp done
  obtain ⟨_, -, done⟩ := bind_ok.mp done
  obtain rfl := Except.ok.inj done
  exact ⟨flagged, resolveTerms_ok scoped_, oneLinkPerObligation_ok once⟩

theorem registered_first {request : Request} (asked : request.call = .register body)
    (new : changeWithStableKey tables body.stableKey = none) (done : (serve request).execute tables = (.ok answer, after)) :
    ∃ resolved run flags, resolveChange request.now body = .ok resolved ∧
      (fileChange request.now request.who request.actor body resolved flags run).execute tables = (.ok answer, after) := by
  have routed := Tx.atomic_ok.mp done
  rw [route, asked] at routed
  obtain ⟨_, -, registers⟩ := Tx.check_bind_ok.mp routed
  obtain ⟨run, -, registers⟩ := Tx.check_bind_ok.mp registers
  obtain ⟨resolved, resolves, registers⟩ := Tx.check_bind_ok.mp registers
  obtain ⟨existing, found, registers⟩ := Tx.check_bind_ok.mp registers
  obtain rfl := Except.ok.inj found
  rw [new] at registers
  obtain ⟨_, -, registers⟩ := Tx.check_bind_ok.mp registers
  obtain ⟨_, -, files⟩ := Tx.check_bind_ok.mp registers
  exact ⟨resolved, run, _, resolves, files⟩

theorem registerChange_refused (constrained : Constrained tables)
    (unique : (now.records.rows.map (·.id)).Nodup) (once : NoRepeats tables (.register body)) :
    Tx.RefusedAs Stated (registerChange now who actor body) tables := by
  refine .check_bind (.ite (.map (requireOpenRun_refused _ _ _)) (.ok _)) fun run _ => ?_
  refine .check_bind (resolveChange_refused body) fun resolved resolves => .check_bind (.ok _) fun existing found => ?_
  obtain rfl := Except.ok.inj found
  obtain ⟨flagged, terms, links⟩ := resolveChange_ok resolves
  cases known : changeWithStableKey tables body.stableKey with
  | some change => exact mergeSighting_refused
  | none =>
    obtain ⟨flagsOnce, termsOnce, pagesOnce⟩ := once known
    refine .check_bind (requireRegime_refused _) fun _ _ => .check_bind (requireStandardsBody_refused _ _ _) fun _ _ => ?_
    exact fileChange_refused constrained (rows_nodup unique flagsOnce flagged) (terms.symm ▸ termsOnce) pagesOnce links

/-- Whatever a body repeats, a refusal leaves the tables as they were and an accepted call stores each value of it once; and a
body that repeats no value it is to file never ends in a violation of a constraint. A second sighting files no flag, term or link. -/
theorem repeats_recorded (request : Request) (tables : Tables) (constrained : Constrained tables)
    (unique : (request.now.records.rows.map (·.id)).Nodup) : Recorded tables request where
  refused := fun _ _ refusal => Tx.atomic_error refusal
  stated := by
    intro asked once
    refine (Tx.RefusedAs.atomic ?_ :)
    rcases asked with ⟨body, asked⟩ | ⟨id, body, asked⟩
    · rw [asked] at once
      rw [route, asked]
      exact .check_bind (requireChangeWriter_refused _) fun _ _ => registerChange_refused constrained unique once
    · rw [asked] at once
      rw [route, asked]
      refine .check_bind (requireChangeWriter_refused _) fun _ _ => updateChangeFacts_refused constrained ?_ once.2
      exact fun keys sent rows resolved => rows_nodup unique (once.1 keys sent) resolved
  first := by
    intro body asked new answer after done
    obtain ⟨resolved, run, flags, resolves, files⟩ := registered_first asked new done
    obtain ⟨flagged, terms, -⟩ := resolveChange_ok resolves
    obtain ⟨known, ⟨flagRows, flagsOnce⟩, ⟨termRows, termsOnce⟩, ⟨pageRows, pagesOnce⟩, linkRows, linksOnce⟩ := fileChange_ok constrained files
    obtain ⟨rowsAre, found⟩ := resolveKeys_ok flagged
    refine ⟨_, known, fun key listed => ?_, ?_, ?_, ?_⟩
    · obtain ⟨row, its⟩ := found key listed
      have there : row ∈ resolved.flags := rowsAre ▸ List.mem_filterMap.mpr ⟨key, listed, its⟩
      exact ⟨row, its, List.count_eq_one_of_mem flagsOnce (flagRows ▸ List.mem_map_of_mem there)⟩
    · exact fun id listed => List.count_eq_one_of_mem termsOnce (termRows ▸ terms ▸ listed)
    · exact fun url listed => List.count_eq_one_of_mem pagesOnce (pageRows ▸ listed)
    · exact fun id listed => List.count_eq_one_of_mem linksOnce (linkRows ▸ listed)
  again := by
    intro body change asked known answer after done
    obtain ⟨flags, sighted⟩ := registered_known asked known done
    refine ⟨⟨fun _ none_ => absurd none_ List.not_mem_nil, fun _ none_ => absurd none_ List.not_mem_nil, fun url listed => ?_,
      fun _ none_ => absurd none_ List.not_mem_nil⟩, sighted.terms, sighted.obligations⟩
    obtain ⟨page, there, rfl⟩ := List.mem_map.mp listed
    have urls := sighted.urls
    have once : (pagesOn change.id after).Nodup := by
      rw [pagesOn, urls]
      refine List.nodup_append.mpr ⟨constrained.pages change.id, missing_nodup, fun held there added new same => ?_⟩
      obtain ⟨other, listed, rfl⟩ := List.mem_map.mp new
      exact key_of_missing listed (same ▸ there)
    have held : page.url ∈ pagesOn change.id after := by
      rw [pagesOn, urls]
      exact held_or_missing there
    exact List.count_eq_one_of_mem once held
  corrected := by
    intro id body asked answer after done
    have routed := Tx.atomic_ok.mp done
    rw [route, asked] at routed
    obtain ⟨_, -, corrects⟩ := Tx.check_bind_ok.mp routed
    obtain ⟨flags, terms, once⟩ := updateChangeFacts_ok constrained corrects
    refine ⟨fun key listed => ?_, fun term listed => ?_, fun _ none_ => absurd none_ List.not_mem_nil,
      fun _ none_ => absurd none_ List.not_mem_nil⟩
    · cases sent : body.flags with
      | none =>
        rw [sent] at listed
        cases listed
      | some keys =>
        rw [sent] at listed
        obtain ⟨rows, resolved, there⟩ := flags keys sent
        obtain ⟨rfl, found⟩ := resolveKeys_ok resolved
        obtain ⟨row, its⟩ := found key listed
        exact ⟨row, its, List.count_eq_one_of_mem (once .flag) (there row (List.mem_filterMap.mpr ⟨key, listed, its⟩))⟩
    · cases sent : body.termIds with
      | none =>
        rw [sent] at listed
        cases listed
      | some ids =>
        rw [sent] at listed
        exact List.count_eq_one_of_mem (once .term) (terms ids sent term listed)

/-- A reform registered with flags. -/
def flagged (flags : List String) : Request where
  who := reviewer 8
  actor := { kind := .user }
  now := twoFlags
  call := .register { stableKey := "reform", title := "A reform", changeType := "rule", flags, termIds := [5], documents := [{ url := "one" }] }

def flaggedOnce : Tables := (serve (flagged ["urgent"])).left {}

def refusalCode (outcome : Except Refusal Unit) : Option String :=
  match outcome with
  | .ok _ => none
  | .error refusal => some refusal.code

/-- A second sighting is accepted and stores no flag; and a first one with a flag twice ends in the constraint's violation. -/
theorem flags_notStored :
    (refusalCode ((serve (flagged ["pressing"])).execute flaggedOnce).1 = none ∧
      (valuesOn 0 .flag ((serve (flagged ["pressing"])).execute flaggedOnce).2).count 3 ≠ 1) ∧
      refusalCode ((serve (flagged ["urgent", "urgent"])).execute {}).1 = some internalError.code := by
  have accepted : refusalCode ((serve (flagged ["pressing"])).execute flaggedOnce).1 = none := by decide +kernel
  have dropped : (valuesOn 0 .flag ((serve (flagged ["pressing"])).execute flaggedOnce).2).count 3 = 0 := by decide +kernel
  have violated : refusalCode ((serve (flagged ["urgent", "urgent"])).execute {}).1 = some internalError.code := by decide +kernel
  exact ⟨⟨accepted, dropped ▸ Nat.zero_ne_one⟩, violated⟩

/-- Two flags and a page, filed on an empty library. -/
theorem twoFlags_recorded : Recorded {} (flagged ["urgent", "pressing"]) ∧ NoRepeats {} (flagged ["urgent", "pressing"]).call ∧
    refusalCode ((serve (flagged ["urgent", "pressing"])).execute {}).1 = none := by
  have empty : Constrained {} := ⟨fun _ _ => List.nodup_nil, fun _ => List.nodup_nil, fun _ => List.nodup_nil, List.forall_mem_nil _,
    List.forall_mem_nil _, List.forall_mem_nil _⟩
  have accepted : refusalCode ((serve (flagged ["urgent", "pressing"])).execute {}).1 = none := by decide +kernel
  exact ⟨repeats_recorded (flagged ["urgent", "pressing"]) {} empty (by decide), fun _ => ⟨by decide, by decide, by decide⟩, accepted⟩

end Grc.Watch
