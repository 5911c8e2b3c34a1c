import Grc.Lib.Lists
import Grc.Watch.Confirmations

/-! A registration of a change the library holds already: what it adds, and that it adds nothing a second time. -/
namespace Grc.Watch

open Grc.Shared Grc.Lib Grc.Library

variable {now : Now} {tables after : Tables} {change : RegulatoryChange} {body : ChangeInput} {actor : Actor} {flags : List String}
  {run : Option AgentRun}

def labelsOf (tables : Tables) (change : Id) : List String := (tables.events.rows.filter (·.change == change)).map (·.label)

def urlsOf (tables : Tables) (change : Id) : List String := (tables.documents.rows.filter (·.change == change)).map (·.url)

def primaryPages (tables : Tables) (change : Id) : List ChangeDocument :=
  tables.documents.rows.filter fun document => document.change == change && document.isPrimary

/-- The row `_add_event` makes of an entry. -/
def ChangeEventInput.row (change : Id) (entry : ChangeEventInput) (id : Id) : ChangeEvent where
  id := id
  change := change
  label := entry.label
  eventDate := entry.eventDate
  datePrecision := entry.datePrecision.getD "day"
  occurred := entry.occurred
  sortOrder := entry.sortOrder
  sourceUrl := entry.sourceUrl.getD ""

/-- The row `_add_document` makes of a page seen again. -/
def ChangeDocumentInput.duplicate (now : Now) (change : Id) (flags : List String) (page : ChangeDocumentInput) (id : Id) : ChangeDocument where
  id := id
  change := change
  url := page.url
  title := page.title.getD ""
  publisher := page.publisher.getD ""
  fetchedAt := page.fetchedAt
  contentHash := page.contentHash.getD ""
  isDuplicate := true
  riskFlags := sorted (flags ++ page.riskFlags ++ now.screen (page.title.getD "")).dedup

theorem eventWithLabel_eq_none {id : Id} {label : String} : eventWithLabel tables id label = none ↔ label ∉ labelsOf tables id := by
  unfold eventWithLabel timeline labelsOf
  rw [List.find?_eq_none]
  constructor
  · intro none_ listed
    obtain ⟨event, there, rfl⟩ := List.mem_map.mp listed
    exact none_ event ((List.perm_insertionSort _ _).mem_iff.mpr there) (beq_self_eq_true _)
  · intro new event there its
    have member := (List.perm_insertionSort _ _).mem_iff.mp there
    exact new (List.mem_map.mpr ⟨event, member, beq_iff_eq.mp its⟩)

theorem documentWithUrl_eq_none {id : Id} {url : String} : documentWithUrl tables id url = none ↔ url ∉ urlsOf tables id := by
  unfold documentWithUrl urlsOf
  rw [List.find?_eq_none]
  constructor
  · intro none_ listed
    obtain ⟨document, there, rfl⟩ := List.mem_map.mp listed
    obtain ⟨there, its⟩ := List.mem_filter.mp there
    exact none_ document there (by rw [its, beq_self_eq_true]; rfl)
  · intro new document there its
    obtain ⟨under, same⟩ := Bool.and_eq_true_iff.mp its
    exact new (List.mem_map.mpr ⟨document, List.mem_filter.mpr ⟨there, under⟩, beq_iff_eq.mp same⟩)

/-! ## What the loops add -/

def Tables.addEvents (tables : Tables) (change : Id) (entries : List ChangeEventInput) : Tables :=
  { tables with events := tables.events.createAll (ChangeEventInput.row change) (fun _ _ => rfl) entries }

def Tables.addPages (tables : Tables) (now : Now) (change : Id) (flags : List String) (pages : List ChangeDocumentInput) : Tables :=
  { tables with documents := tables.documents.createAll (ChangeDocumentInput.duplicate now change flags) (fun _ _ => rfl) pages }

theorem labelsOf_addEvent (id : Id) (entry : ChangeEventInput) :
    labelsOf (tables.addEvents id [entry]) id = labelsOf tables id ++ [entry.label] := by
  simp [labelsOf, Tables.addEvents, Keyed.createAll, Keyed.create, ChangeEventInput.row, List.filter_append]

theorem urlsOf_addPage (id : Id) (page : ChangeDocumentInput) :
    urlsOf (tables.addPages now id flags [page]) id = urlsOf tables id ++ [page.url] := by
  simp [urlsOf, Tables.addPages, Keyed.createAll, Keyed.create, ChangeDocumentInput.duplicate, List.filter_append]

theorem sightEvents_ok {id : Id} {entries : List ChangeEventInput} {answer : PUnit}
    (done : (Tx.each entries fun entry => do
      let held ← Tx.check fun tables => .ok (eventWithLabel tables id entry.label)
      Tx.when (held = none) (addEventRow id entry) : Writing PUnit).execute tables = (.ok answer, after)) :
    after = tables.addEvents id (missing (·.label) (labelsOf tables id) entries) := by
  induction entries generalizing tables with
  | nil => exact (Tx.pure_ok.mp done).2
  | cons entry rest ih =>
    obtain ⟨_, middle, first, later⟩ := Tx.bind_ok.mp done
    obtain ⟨held, looked, first⟩ := Tx.check_bind_ok.mp first
    obtain rfl := Except.ok.inj looked
    rcases Tx.when_ok first with ⟨new, added⟩ | ⟨known, rfl⟩
    · obtain rfl : middle = tables.addEvents id [entry] := Tx.write_ok.mp added
      rw [ih later, labelsOf_addEvent, missing_cons_new (eventWithLabel_eq_none.mp new)]
      rfl
    · rw [eventWithLabel_eq_none, not_not] at known
      rw [ih later, missing_cons_held known]

theorem sightPages_ok {id : Id} {pages : List ChangeDocumentInput} {answer : PUnit}
    (done : (Tx.each pages fun page => do
      let held ← Tx.check fun tables => .ok (documentWithUrl tables id page.url)
      Tx.when (held = none) (addDocumentRow now id page flags true) : Writing PUnit).execute tables = (.ok answer, after)) :
    after = tables.addPages now id flags (missing (·.url) (urlsOf tables id) pages) := by
  induction pages generalizing tables with
  | nil => exact (Tx.pure_ok.mp done).2
  | cons page rest ih =>
    obtain ⟨_, middle, first, later⟩ := Tx.bind_ok.mp done
    obtain ⟨held, looked, first⟩ := Tx.check_bind_ok.mp first
    obtain rfl := Except.ok.inj looked
    rcases Tx.when_ok first with ⟨new, added⟩ | ⟨known, rfl⟩
    · obtain ⟨_, -, added⟩ := Tx.check_bind_ok.mp added
      obtain rfl : middle = tables.addPages now id flags [page] := by
        rw [Tx.write_ok.mp added]
        simp only [Bool.not_true, Bool.and_false]
        rfl
      rw [ih later, urlsOf_addPage, missing_cons_new (documentWithUrl_eq_none.mp new)]
      rfl
    · rw [documentWithUrl_eq_none, not_not] at known
      rw [ih later, missing_cons_held known]

theorem labelsOf_addEvents (id : Id) (entries : List ChangeEventInput) :
    labelsOf (tables.addEvents id entries) id = labelsOf tables id ++ entries.map (·.label) := by
  induction entries generalizing tables with
  | nil => exact (List.append_nil _).symm
  | cons entry rest ih =>
    change labelsOf ((tables.addEvents id [entry]).addEvents id rest) id = _
    rw [ih, labelsOf_addEvent, List.append_assoc]
    rfl

theorem urlsOf_addPages (id : Id) (pages : List ChangeDocumentInput) :
    urlsOf (tables.addPages now id flags pages) id = urlsOf tables id ++ pages.map (·.url) := by
  induction pages generalizing tables with
  | nil => exact (List.append_nil _).symm
  | cons page rest ih =>
    change urlsOf ((tables.addPages now id flags [page]).addPages now id flags rest) id = _
    rw [ih, urlsOf_addPage, List.append_assoc]
    rfl

/-! ## The second sighting -/

def RegulatoryChange.drafted (report : SoWhatInput) (change : RegulatoryChange) : RegulatoryChange :=
  { change with soWhatDraft := report.text }

/-- What a second sighting of a change leaves of the tables. -/
structure Sighted (now : Now) (tables after : Tables) (change : RegulatoryChange) (body : ChangeInput) (flags : List String) : Prop where
  events : after.events = (tables.addEvents change.id (missing (·.label) (labelsOf tables change.id) body.events)).events
  documents : after.documents = (tables.addPages now change.id flags (missing (·.url) (urlsOf tables change.id) body.documents)).documents
  terms : after.terms = tables.terms
  obligations : after.obligations = tables.obligations
  draft : (body.soWhat = none ∨ change.soWhatDraft ≠ "") ∧ after.changes = tables.changes ∧ after.generations = tables.generations ∨
    ∃ report, body.soWhat = some report ∧ change.soWhatDraft = "" ∧
      after.changes = tables.changes.update (·.id == change.id) (RegulatoryChange.drafted report) fun _ => rfl

theorem mergeSighting_ok {answer : Unit}
    (done : (mergeSighting now actor change body flags run).execute tables = (.ok answer, after)) :
    Sighted now tables after change body flags := by
  obtain ⟨_, -, done⟩ := Tx.check_bind_ok.mp done
  obtain ⟨_, first, events, done⟩ := Tx.bind_ok.mp done
  obtain rfl := sightEvents_ok events
  obtain ⟨_, -, done⟩ := Tx.check_bind_ok.mp done
  obtain ⟨_, second, pages, done⟩ := Tx.bind_ok.mp done
  obtain rfl := sightPages_ok pages
  obtain ⟨_, third, drafts, done⟩ := Tx.bind_ok.mp done
  obtain rfl := Tx.write_ok.mp done
  cases said : body.soWhat with
  | none =>
    rw [said] at drafts
    obtain rfl := (Tx.pure_ok.mp drafts).2
    exact ⟨rfl, rfl, rfl, rfl, .inl ⟨.inl said, rfl, rfl⟩⟩
  | some report =>
    rw [said] at drafts
    rcases Tx.when_ok drafts with ⟨empty, stores⟩ | ⟨held, rfl⟩
    · obtain ⟨_, fourth, updated, stores⟩ := Tx.bind_ok.mp stores
      obtain rfl := Tx.write_ok.mp updated
      obtain ⟨_, fifth, logged, recorded⟩ := Tx.bind_ok.mp stores
      obtain ⟨_, -, logged⟩ := Tx.check_bind_ok.mp logged
      obtain rfl := Tx.write_ok.mp logged
      obtain rfl := Tx.write_ok.mp recorded
      exact ⟨rfl, rfl, rfl, rfl, .inr ⟨report, said, empty, rfl⟩⟩
    · exact ⟨rfl, rfl, rfl, rfl, .inl ⟨.inr held, rfl, rfl⟩⟩

/-- The same facts, whatever was logged: the same changes, milestones, pages, terms, obligations and drafts' reports. -/
structure SameRecord (before after : Tables) : Prop where
  changes : after.changes = before.changes
  events : after.events = before.events
  documents : after.documents = before.documents
  terms : after.terms = before.terms
  obligations : after.obligations = before.obligations
  generations : after.generations = before.generations

/-- A milestone of the change that the body names and the change did not carry. -/
structure NewMilestone (tables : Tables) (change : Id) (body : ChangeInput) (event : ChangeEvent) : Prop where
  named : ∃ entry ∈ body.events, event = entry.row change event.id
  missed : event.label ∉ labelsOf tables change

/-- A page the body names and the change did not carry, attached as a duplicate. -/
structure NewPage (now : Now) (tables : Tables) (change : Id) (body : ChangeInput) (document : ChangeDocument) : Prop where
  named : ∃ page ∈ body.documents, ∃ flags, document = page.duplicate now change flags document.id
  missed : document.url ∉ urlsOf tables change

/-- What is promised of registering a known change again: it adds what the change misses and leaves the rest,
leaves one primary page at most, and the same body again changes nothing. -/
structure Additive (tables : Tables) (change : RegulatoryChange) (request : Request) (body : ChangeInput) : Prop where
  change_ : ((serve request).left tables).changes = tables.changes ∨
    ∃ report, body.soWhat = some report ∧ change.soWhatDraft = "" ∧ ((serve request).left tables).changes =
      tables.changes.update (·.id == change.id) (RegulatoryChange.drafted report) fun _ => rfl
  milestones : ∃ new, ((serve request).left tables).events.rows = tables.events.rows ++ new ∧ (new.map (·.label)).Nodup ∧
    ∀ event ∈ new, NewMilestone tables change.id body event
  pages : ∃ new, ((serve request).left tables).documents.rows = tables.documents.rows ++ new ∧ (new.map (·.url)).Nodup ∧
    ∀ document ∈ new, NewPage request.now tables change.id body document
  links : ((serve request).left tables).terms = tables.terms ∧ ((serve request).left tables).obligations = tables.obligations
  primary : (primaryPages ((serve request).left tables) change.id).length ≤ 1
  again : ∀ answer after, (serve request).execute tables = (.ok answer, after) →
    ∀ retry : Request, retry.call = .register body → SameRecord after ((serve retry).left after)

theorem left_of_execute {α : Type} {tx : Writing α} {outcome : Except Refusal α} (done : tx.execute tables = (outcome, after)) :
    tx.left tables = after := by
  rw [Tx.left, done]

theorem registered_known {request : Request} {answer : Unit} (asked : request.call = .register body)
    (known : changeWithStableKey tables body.stableKey = some change)
    (done : (serve request).execute tables = (.ok answer, after)) : ∃ flags, Sighted request.now tables after change body flags := by
  have routed := Tx.atomic_ok.mp done
  rw [route, asked] at routed
  obtain ⟨_, -, registers⟩ := Tx.check_bind_ok.mp routed
  obtain ⟨run, -, registers⟩ := Tx.check_bind_ok.mp registers
  obtain ⟨resolved, -, registers⟩ := Tx.check_bind_ok.mp registers
  obtain ⟨existing, found, registers⟩ := Tx.check_bind_ok.mp registers
  obtain rfl := Except.ok.inj found
  rw [known] at registers
  exact ⟨_, mergeSighting_ok registers⟩

namespace Sighted
variable {answer : Unit}

section
variable (sighted : Sighted now tables after change body flags)
include sighted

theorem labels :
    labelsOf after change.id = labelsOf tables change.id ++ (missing (·.label) (labelsOf tables change.id) body.events).map (·.label) := by
  rw [← labelsOf_addEvents, labelsOf, sighted.events]
  rfl

theorem urls : urlsOf after change.id = urlsOf tables change.id ++ (missing (·.url) (urlsOf tables change.id) body.documents).map (·.url) := by
  rw [← @urlsOf_addPages now tables flags, urlsOf, sighted.documents]
  rfl

theorem known (stored : changeWithStableKey tables body.stableKey = some change) (written : ∀ report ∈ body.soWhat, report.text ≠ "") :
    ∃ later, changeWithStableKey after body.stableKey = some later ∧ later.id = change.id ∧
      (body.soWhat = none ∨ later.soWhatDraft ≠ "") := by
  rcases sighted.draft with ⟨kept, same, -⟩ | ⟨report, said, -, drafted⟩
  · exact ⟨change, by rw [changeWithStableKey, same]; exact stored, rfl, kept⟩
  · refine ⟨change.drafted report, ?_, rfl, .inr (written report said)⟩
    have keys : (fun row : RegulatoryChange => row.stableKey == body.stableKey) ∘
        (fun row => if (row.id == change.id) = true then row.drafted report else row) = (·.stableKey == body.stableKey) := by
      funext row
      dsimp only [Function.comp_apply]
      split <;> rfl
    rw [changeWithStableKey, drafted]
    change (tables.changes.rows.map _).find? _ = _
    rw [List.find?_map, keys]
    rw [changeWithStableKey] at stored
    rw [stored, Option.map_some, if_pos (beq_self_eq_true _)]

end

theorem again {more : List String} {later : RegulatoryChange} {last : Tables} {elsewhere : Now}
    (sighted : Sighted now tables after change body flags) (same : later.id = change.id)
    (kept : body.soWhat = none ∨ later.soWhatDraft ≠ "") (resighted : Sighted elsewhere after last later body more) : SameRecord after last := by
  have events : missing (·.label) (labelsOf after later.id) body.events = [] := by
    rw [same]
    exact missing_again fun name => by rw [sighted.labels]
  have documents : missing (·.url) (urlsOf after later.id) body.documents = [] := by
    rw [same]
    exact missing_again fun name => by rw [sighted.urls]
  have drafts : last.changes = after.changes ∧ last.generations = after.generations := by
    rcases resighted.draft with ⟨-, changes, generations⟩ | ⟨report, said, empty, -⟩
    · exact ⟨changes, generations⟩
    · rcases kept with none_ | held
      · rw [none_] at said
        cases said
      · exact absurd empty held
  exact {
    changes := drafts.1
    events := by rw [resighted.events, events]; rfl
    documents := by rw [resighted.documents, documents]; rfl
    terms := resighted.terms
    obligations := resighted.obligations
    generations := drafts.2 }

section
variable (sighted : Sighted now tables after change body flags)
include sighted

theorem milestones : ∃ new, after.events.rows = tables.events.rows ++ new ∧ (new.map (·.label)).Nodup ∧
      ∀ event ∈ new, NewMilestone tables change.id body event := by
  obtain ⟨new, rows, each⟩ := @Keyed.createAll_rows ChangeEvent ChangeEvent.id tables.events ChangeEventInput
    (ChangeEventInput.row change.id) (fun _ _ => rfl) (missing (·.label) (labelsOf tables change.id) body.events)
  have labels : new.map (·.label) = (missing (·.label) (labelsOf tables change.id) body.events).map (·.label) :=
    map_eq_of_forall₂ each fun entry event its => congrArg ChangeEvent.label its
  refine ⟨new, by rw [sighted.events]; exact rows, labels ▸ missing_nodup, fun event listed => ?_⟩
  obtain ⟨entry, paired⟩ := fellow_of_right each.length_eq listed
  have its := List.forall₂_zip each paired
  have added := (List.of_mem_zip paired).1
  have label : event.label = entry.label := congrArg ChangeEvent.label its
  exact ⟨⟨entry, mem_of_missing added, its⟩, label ▸ key_of_missing added⟩

theorem pages : ∃ new, after.documents.rows = tables.documents.rows ++ new ∧ (new.map (·.url)).Nodup ∧
      ∀ document ∈ new, NewPage now tables change.id body document := by
  obtain ⟨new, rows, each⟩ := @Keyed.createAll_rows ChangeDocument ChangeDocument.id tables.documents ChangeDocumentInput
    (ChangeDocumentInput.duplicate now change.id flags) (fun _ _ => rfl) (missing (·.url) (urlsOf tables change.id) body.documents)
  have urls : new.map (·.url) = (missing (·.url) (urlsOf tables change.id) body.documents).map (·.url) :=
    map_eq_of_forall₂ each fun page document its => congrArg ChangeDocument.url its
  refine ⟨new, by rw [sighted.documents]; exact rows, urls ▸ missing_nodup, fun document listed => ?_⟩
  obtain ⟨page, paired⟩ := fellow_of_right each.length_eq listed
  have its := List.forall₂_zip each paired
  have added := (List.of_mem_zip paired).1
  have url : document.url = page.url := congrArg ChangeDocument.url its
  exact ⟨⟨page, mem_of_missing added, flags, its⟩, url ▸ key_of_missing added⟩

theorem primaryPages_eq : primaryPages after change.id = primaryPages tables change.id := by
  obtain ⟨new, rows, -, each⟩ := sighted.pages
  have none_ : new.filter (fun document => document.change == change.id && document.isPrimary) = [] := by
    refine List.filter_eq_nil_iff.mpr fun document listed chief => ?_
    obtain ⟨_, _, _, its⟩ := (each document listed).named
    rw [its] at chief
    simp [ChangeDocumentInput.duplicate] at chief
  rw [primaryPages, rows, List.filter_append, none_, List.append_nil]
  rfl

end

end Sighted

/-- Registering a known change again does as promised exactly when the change has one primary page at most. -/
theorem additive_iff {request : Request} (asked : request.call = .register body)
    (known : changeWithStableKey tables body.stableKey = some change) (written : ∀ report ∈ body.soWhat, report.text ≠ "") :
    Additive tables change request body ↔ (primaryPages tables change.id).length ≤ 1 := by
  cases done : (serve request).execute tables with
  | mk outcome after =>
    cases outcome with
    | error refusal =>
      obtain rfl := Tx.atomic_error done
      have same := left_of_execute done
      constructor
      · intro additive
        simpa only [same] using additive.primary
      · intro few
        refine ⟨.inl (by rw [same]), ⟨[], by rw [same, List.append_nil], List.nodup_nil, nofun⟩,
          ⟨[], by rw [same, List.append_nil], List.nodup_nil, nofun⟩, by rw [same]; exact ⟨rfl, rfl⟩, by rwa [same], ?_⟩
        intro answer after accepted
        rw [done] at accepted
        cases accepted
    | ok answer =>
      have same := left_of_execute done
      obtain ⟨flags, sighted⟩ := registered_known asked known done
      constructor
      · intro additive
        have few := additive.primary
        rwa [same, sighted.primaryPages_eq] at few
      · intro few
        refine ⟨?_, same ▸ sighted.milestones, same ▸ sighted.pages, same ▸ ⟨sighted.terms, sighted.obligations⟩, ?_, ?_⟩
        · rw [same]
          rcases sighted.draft with ⟨-, kept, -⟩ | drafted
          · exact .inl kept
          · exact .inr drafted
        · rwa [same, sighted.primaryPages_eq]
        · intro answer_ after_ accepted retry resent
          rw [done] at accepted
          obtain ⟨-, rfl⟩ := Prod.mk.inj accepted
          cases redone : (serve retry).execute after with
          | mk verdict last =>
            rw [left_of_execute redone]
            cases verdict with
            | error refusal =>
              obtain rfl := Tx.atomic_error redone
              exact ⟨rfl, rfl, rfl, rfl, rfl, rfl⟩
            | ok answer =>
              obtain ⟨later, found, itself, kept⟩ := sighted.known known written
              obtain ⟨more, resighted⟩ := registered_known resent found redone
              exact sighted.again itself kept resighted

/-- The reform as a run sights it: two milestones, the pages it was found on and a report. -/
def sighting (pages : List ChangeDocumentInput) : ChangeInput where
  stableKey := "reform"
  title := "A reform"
  changeType := "rule"
  termIds := [5]
  events := [{ label := "Adopted" }, { label := "In force" }]
  documents := pages
  soWhat := some { text := "It binds the bank.", model := "reader", modelVersion := "1", citations := [] }

def sightingRequest (pages : List ChangeDocumentInput) : Request where
  who := reviewer 8
  actor := { kind := .user }
  now := twoFlags
  call := .register (sighting pages)

def sightedOnce : Tables := (serve (sightingRequest [{ url := "one", isPrimary := true }])).left {}

/-- Sighted again with another primary page: the page is attached beside the first. -/
theorem sightedAgain_additive : ∃ change, changeWithStableKey sightedOnce (sighting [{ url := "two", isPrimary := true }]).stableKey = some change ∧
    Additive sightedOnce change (sightingRequest [{ url := "two", isPrimary := true }]) (sighting [{ url := "two", isPrimary := true }]) := by
  have held : (changeWithStableKey sightedOnce "reform").isSome = true := by decide +kernel
  obtain ⟨change, known⟩ := Option.isSome_iff_exists.mp held
  have named : change.id = 0 := by
    have same : (changeWithStableKey sightedOnce "reform").map (·.id) = some 0 := by decide +kernel
    rw [known] at same
    exact Option.some.inj same
  have few : (primaryPages sightedOnce change.id).length ≤ 1 := by
    rw [named]
    decide +kernel
  refine ⟨change, known, (additive_iff rfl known ?_).mpr few⟩
  intro report said
  obtain rfl := Option.some.inj said
  decide

end Grc.Watch
