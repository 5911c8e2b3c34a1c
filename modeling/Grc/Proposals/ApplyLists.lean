import Grc.Proposals.Writing

/-! Applying a proposal of a list's row or of a taxonomy term, and of a bank's own control. A row
is reworded in place, a piece at a time, and keeps the stamp of who confirmed what is left on it. -/
namespace Grc.Proposals

open Grc.Shared Grc.Lib Grc.Library

variable {Rule : Type} (platform : Platform Rule) (now : Now)

def notFoundRow (key list : String) : Refusal :=
  { code := "not_found", detail := quoted key ++ " is not a row of " ++ quoted list ++ "." }

/-- `_entry`. -/
def entryOf (records : Records) (name : String) (kind : ProposalKind) (keys : List String) :
    Except Refusal VocabularyList := do
  let entry ← proposable name
  refuseVocabularyChange records entry kind keys
  .ok entry

/-- `_row`. -/
def rowFor (records : Records) (entry : VocabularyList) (key : String) : Except Refusal ListRow :=
  demand (records.row entry.name key) (notFoundRow key entry.name)

def confirmation (filed : Filed) (reviewer : Reviewer) : Confirmation where
  verifiedOrigin := some (verifiedOrigin reviewer)
  verifiedByAgent := reviewer.agentId
  appliedByProposal := some filed.id

/-- `_restamp`: the stamp after some of a row's wording was written. -/
def restamp (held : Confirmation) (usageNote : String) (labels : List Translation) (usageNoteWritten : Bool)
    (filed : Filed) (reviewer : Reviewer) : Confirmation :=
  if reviewer.agentId = none ∧ held.verifiedOrigin = some .agent ∧
      (labels.any (·.isMachine) = true ∨ (usageNote ≠ "" ∧ usageNoteWritten = false)) then held
  else confirmation filed reviewer

def originalLanguage : String := "en"

def originalOf (existing : List Translation) (labels : Dict String) : Option String :=
  if existing.any (·.isOriginal) then none
  else if labels.has originalLanguage then some originalLanguage
  else labels.keys.head?

/-- `_write_labels` and `_term_labels`: each label rewritten in place or added, marked
machine-made when an agent approved. -/
def writeLabels (held : List Translation) (holder : Id) (labels : Dict String) (reviewer : Reviewer) :
    List Translation :=
  let existing := held.filter (·.holder == holder)
  let isMachine := reviewer.agentId.isSome
  let rewritten := held.map fun label =>
    match if label.holder = holder then labels.get label.language else none with
    | none => label
    | some text => { label with text, isMachine }
  rewritten ++ (labels.filter fun label => !existing.any (·.language == label.1)).map fun label =>
    { holder, language := label.1, text := label.2, isOriginal := originalOf existing labels == some label.1,
      isMachine }

def labelsOf (labels : List Translation) (holder : Id) : Dict String :=
  (labels.filter (·.holder == holder)).map fun label => (label.language, label.text)

def updateRow (id : Id) (change : ListRow → ListRow) (records : Records) : Records :=
  { records with rows := records.rows.map fun row => if row.id = id then change row else row }

def updateTerm (id : Id) (change : Term → Term) (records : Records) : Records :=
  { records with terms := records.terms.map fun term => if term.id = id then change term else term }

/-- An audit row of a list's row. -/
def listEvent (action summary : String) (list key : String) (row : Id) (before after : List (String × AuditValue))
    (filed : Filed) (actor : Actor) (stepUp : Option Id) : AuditEvent where
  action := action
  actor := actor
  subjectType := "vocabulary"
  subjectId := some row
  subjectTitle := list ++ ":" ++ key
  summary := summary ++ named filed.id
  tenantId := none
  before := before
  after := after ++ [("proposal", .ref filed.id)]
  stepUpAssertionId := stepUp

/-- An audit row of a term. -/
def termEvent (action summary : String) (dimension key : String) (term : Id)
    (before after : List (String × AuditValue)) (filed : Filed) (actor : Actor) (stepUp : Option Id) :
    AuditEvent :=
  { listEvent action summary dimension key term before after filed actor stepUp with
    subjectType := "taxonomy_term" }

def nextPlace (taken : List Nat) : Nat := ((highest taken).map (· + 1)).getD 0

def vocabularyCreate (payload : VocabularyCreatePayload) (filed : Filed) (actor : Actor) (reviewer : Reviewer)
    (stepUp : Option Id) : Writing Unit := do
  let entry ← Tx.check fun records => entryOf records payload.list filed.kind [payload.key]
  Tx.check fun records => require
    (stableKeyTaken platform ((records.rows.filter (·.list == entry.name)).map (·.key)) payload.key = false)
    (duplicateKey (quoted payload.key ++ " already exists on " ++ quoted payload.list ++ "."))
  let columns ← Tx.check fun records => extraColumns platform records entry [] payload.extra
  let row ← created fun id records => { records with rows := records.rows ++ [{
    id, list := entry.name, key := payload.key, kind := if entry.kinds = [] then none else payload.kind,
    usageNote := payload.usageNote,
    sortOrder := payload.sortOrder.getD
      (nextPlace ((records.rows.filter (·.list == entry.name)).map (·.sortOrder))),
    columns, confirmation := confirmation filed reviewer }] }
  Tx.write fun records => { records with rowLabels := writeLabels records.rowLabels row payload.labels reviewer }
  audited (listEvent "vocabulary.created" ("Added " ++ payload.key ++ " to " ++ payload.list) payload.list
    payload.key row []
    [("list", .text payload.list), ("key", .text payload.key), ("labels", labelsValue payload.labels)]
    filed actor stepUp)

/-- `_mirrored_term_follows`: the terms that mirror a jurisdiction take what was just written. -/
def mirroredTermFollows (jurisdiction : ListRow) (labels : Dict String) (sortOrder : Option Nat) (filed : Filed)
    (actor : Actor) (reviewer : Option Reviewer) (stepUp : Option Id) (term : Term) : Writing Unit := do
  let before ← Tx.check fun records => .ok records
  let dimension := ((before.dimensionOf term).map (·.key)).getD ""
  if ¬(labels = [] ∧ sortOrder = none ∧ term.active = jurisdiction.active) then
    Tx.write fun records =>
      match (if labels = [] then none else reviewer) with
      | none => records
      | some reviewer =>
        let termLabels := writeLabels records.termLabels term.id labels reviewer
        updateTerm term.id (fun held => { held with
          confirmation := restamp held.confirmation held.usageNote
            (termLabels.filter (·.holder == term.id)) false filed reviewer }) { records with termLabels }
    Tx.write (updateTerm term.id fun held => { held with
      sortOrder := sortOrder.getD held.sortOrder, active := jurisdiction.active, version := held.version + 1 })
    let held := labelsOf before.termLabels term.id
    audited (termEvent "taxonomy.term_updated"
      ("The term " ++ term.key ++ " in " ++ dimension ++ " followed the jurisdiction " ++ jurisdiction.key)
      dimension term.key term.id [("labels", labelsValue held), ("active", .flag term.active)]
      [("labels", labelsValue (Dict.update held labels)), ("active", .flag jurisdiction.active)] filed actor stepUp)

def mirrorsOf (records : Records) (row : ListRow) : List Term :=
  if row.list = "jurisdiction" then records.terms.filter (·.jurisdiction == some row.id) else []

def columnsValue (entry : VocabularyList) (columns : Dict Json) : AuditValue :=
  .json (.dict (columns.map fun column => (camelOf entry column.1, column.2)))

def vocabularyRelabel (payload : VocabularyRelabelPayload) (filed : Filed) (actor : Actor) (reviewer : Reviewer)
    (stepUp : Option Id) : Writing Unit := do
  let entry ← Tx.check fun records => entryOf records payload.list filed.kind [payload.key]
  let row ← Tx.check fun records => rowFor records entry payload.key
  let before ← Tx.check fun records => .ok (labelsOf records.rowLabels row.id)
  let columns ← Tx.check fun records => extraColumns platform records entry [] (payload.extra.getD [])
  Tx.write fun records => { records with rowLabels := writeLabels records.rowLabels row.id payload.labels reviewer }
  let wording := payload.labels ≠ [] ∨ payload.usageNote ≠ none ∨ columns ≠ []
  Tx.write fun records => updateRow row.id (fun held =>
    let usageNote := payload.usageNote.getD held.usageNote
    { held with
      usageNote
      sortOrder := payload.sortOrder.getD held.sortOrder
      columns := Dict.update held.columns columns
      confirmation := if wording then restamp held.confirmation usageNote
          (records.rowLabels.filter (·.holder == row.id)) payload.usageNote.isSome filed reviewer
        else held.confirmation
      version := held.version + 1 }) records
  let mirrors ← Tx.check fun records => .ok (mirrorsOf records row)
  Tx.each mirrors fun term =>
    mirroredTermFollows row payload.labels payload.sortOrder filed actor (some reviewer) stepUp term
  let was := columns.map fun column => (column.1, (row.columns.get column.1).getD .null)
  let extra (values : Dict Json) : List (String × AuditValue) :=
    if columns = [] then [] else [("extra", columnsValue entry values)]
  audited (listEvent "vocabulary.updated" ("Changed " ++ payload.key ++ " on " ++ payload.list) payload.list
    payload.key row.id ([("labels", labelsValue before)] ++ extra was)
    ([("labels", labelsValue (Dict.update before payload.labels))] ++ extra columns) filed actor stepUp)

def vocabularyActive (payload : VocabularyRetirePayload) (filed : Filed) (actor : Actor) (stepUp : Option Id)
    (active : Bool) : Writing Unit := do
  let entry ← Tx.check fun records => entryOf records payload.list filed.kind [payload.key]
  let row ← Tx.check fun records => rowFor records entry payload.key
  Tx.check fun _ => require (¬(active = false ∧ row.isSystem = true ∧ entry.fixedKeys = false)) {
    code := "system_row"
    detail := payload.key ++ " is a system value: it can be relabelled but not retired." }
  Tx.check fun _ => require (row.active ≠ active) {
    code := "invalid_transition"
    detail := payload.key ++ " is already " ++ (if active then "active" else "retired") ++ "." }
  Tx.write (updateRow row.id fun held => { held with active, version := held.version + 1 })
  let mirrors ← Tx.check fun records => .ok (mirrorsOf records row)
  Tx.each mirrors (mirroredTermFollows { row with active } [] none filed actor none stepUp)
  audited (listEvent (if active then "vocabulary.restored" else "vocabulary.retired")
    ((if active then "Restored " else "Retired ") ++ payload.key ++ " on " ++ payload.list) payload.list
    payload.key row.id [("active", .flag (!active))] [("active", .flag active)] filed actor stepUp)

/-- Whose row a link's row is: its own, or the other columns' of a unique constraint. -/
inductive Owner where
  | own (id : Id)
  | columns (values : List (Option Id))
  deriving DecidableEq

/-- A row of a linked table, as a merge reads it. -/
structure LinkRow where
  id : Id
  value : Id
  owner : Owner

def carrierRow (unique : Bool) (row : Carrier) : LinkRow where
  id := row.id
  value := row.value
  owner := if unique then .columns row.unique else .own row.id

/-- The rows of a link's table. -/
def linkRows (records : Records) : Link → List LinkRow
  | .instrumentLevel => records.instruments.map fun row => { id := row.id, value := row.level, owner := .own row.id }
  | .provisionKind => records.provisions.map fun row => { id := row.id, value := row.kind, owner := .own row.id }
  | .obligationDutyType => records.obligations.map fun row => { id := row.id, value := row.dutyType, owner := .own row.id }
  | .carried table unique => (records.carriers.filter (·.table == table)).map (carrierRow unique)

/-- A row identical but for this column already holds the target; a null column is equal to none. -/
def isTwin (rows : List LinkRow) (target : Id) (row : LinkRow) : Bool :=
  match row.owner with
  | .own _ => false
  | .columns values => values.all (·.isSome) && rows.any fun twin => twin.value == target && twin.owner == row.owner

/-- `split`: the rows of a link that move, and the twins that do not. -/
def split (records : Records) (source target : Id) (link : Link) : List LinkRow × List LinkRow :=
  let rows := (linkRows records link).filter (·.value == source)
  (rows.filter fun row => !isTwin (linkRows records link) target row, rows.filter (isTwin (linkRows records link) target))

/-- `Moved`: the ids of one table's rows a merge moves, and of the twins it drops. -/
structure Moved where
  table : String
  moved : List Id
  dropped : List Id

/-- `_ids`. -/
def idsOf (rows : List LinkRow) : List Id := (rows.map (·.id)).insertionSort (· ≤ ·)

def movedOf (records : Records) (source target : Id) (link : Link) : Moved where
  table := link.table
  moved := idsOf (split records source target link).1
  dropped := idsOf (split records source target link).2

/-- `repoint.count`: dropped twins are not counted. -/
def countMoved (moves : List Moved) : Nat := (moves.map (·.moved.length)).sum

/-- One link of a merge: its rows move to the target, a twin is dropped. -/
def moveLink (source target : Id) (link : Link) (records : Records) : Records :=
  match link with
  | .instrumentLevel => { records with instruments := records.instruments.map fun row =>
      if row.level = source then { row with level := target } else row }
  | .provisionKind => { records with provisions := records.provisions.map fun row =>
      if row.kind = source then { row with kind := target } else row }
  | .obligationDutyType => { records with obligations := records.obligations.map fun row =>
      if row.dutyType = source then { row with dutyType := target } else row }
  | .carried table unique => { records with carriers :=
      (records.carriers.filter fun row => !(row.table == table && row.value == source &&
        isTwin (linkRows records link) target (carrierRow unique row))).map fun row =>
          if row.table = table ∧ row.value = source then { row with value := target } else row }

/-- The trigger `instrument_level_not_standard_with_provisions`, over the rows a merge moves. -/
def levelRefused (records : Records) (source target : ListRow) (link : Link) : Bool :=
  link == .instrumentLevel && target.kind == some "standard" && records.instruments.any fun instrument =>
    instrument.level == source.id && records.provisions.any (·.instrument == instrument.id)

/-- One link of `repoint.move`: its rows are split, locked and written. -/
def moveOne (source target : ListRow) (payload : VocabularyMergePayload) (link : Link) : Writing Moved := do
  let moved ← Tx.check fun records => .ok (movedOf records source.id target.id link)
  Tx.check fun records => require (levelRefused records source target link = false) {
    code := "invalid_transition"
    detail := payload.key ++ " cannot be merged into " ++ payload.into ++
      ": a record that carries it cannot take " ++ payload.into ++ "." }
  Tx.write (moveLink source.id target.id link)
  pure moved

/-- `repoint.move`: every link in turn, each as it is once those before it were moved. -/
def moveAll (source target : ListRow) (payload : VocabularyMergePayload) : List Link → Writing (List Moved)
  | [] => pure []
  | link :: rest => do
    let moved ← moveOne source target payload link
    let more ← moveAll source target payload rest
    pure (moved :: more)

/-- `repoint.audit_rows`, of one table. -/
def movedValue (moved : Moved) : List (String × (Id ⊕ String)) :=
  moved.moved.map (fun id => (moved.table, .inl id)) ++ moved.dropped.map fun id => (moved.table ++ " dropped", .inl id)

/-- The audit row of a merge. -/
def mergedEvent (payload : VocabularyMergePayload) (source : Id) (moves : List Moved) (filed : Filed) (actor : Actor)
    (stepUp : Option Id) : AuditEvent :=
  listEvent "vocabulary.merged"
    ("Merged " ++ payload.key ++ " into " ++ payload.into ++ " on " ++ payload.list) payload.list payload.key
    source [("from", .text payload.key), ("active", .flag true)]
    [("into", .text payload.into), ("repointed", .number (countMoved moves)),
      ("moved", .json (.dict (moves.map fun moved => (moved.table, .number moved.moved.length)))),
      ("rows", .records (moves.map movedValue)), ("active", .flag false)] filed actor stepUp

def vocabularyMerge (payload : VocabularyMergePayload) (filed : Filed) (actor : Actor) (stepUp : Option Id) :
    Writing Unit := do
  let entry ← Tx.check fun records => entryOf records payload.list filed.kind [payload.key, payload.into]
  let (source, target) ← Tx.check fun records => mergePair records entry payload.key payload.into
  Tx.check fun _ => require (source.isSystem = false) {
    code := "system_row"
    detail := payload.key ++ " is a system value: it can be relabelled but not merged away." }
  let moves ← Tx.atomic (moveAll source target payload entry.links)
  Tx.write (updateRow source.id fun held => { held with active := false, version := held.version + 1 })
  audited (mergedEvent payload source.id moves filed actor stepUp)

/-- `_dimension`. -/
def dimensionFor (records : Records) (key : String) : Except Refusal ListRow := do
  let dimension ← demand (records.liveDimension key) (unknownKey (quoted key ++ " is not a taxonomy dimension."))
  records.refuseMirrored [dimension.id]
  .ok dimension

def termCreate (payload : TermCreatePayload) (filed : Filed) (actor : Actor) (reviewer : Reviewer)
    (stepUp : Option Id) : Writing Unit := do
  let dimension ← Tx.check fun records => dimensionFor records payload.dimension
  Tx.check fun records => require
    (stableKeyTaken platform ((records.terms.filter (·.dimension == dimension.id)).map (·.key)) payload.key = false)
    (duplicateKey (quoted payload.key ++ " already exists in " ++ quoted payload.dimension ++ "."))
  let parent ← Tx.check fun records => optionally (fun key =>
    demand (records.terms.find? fun term => term.dimension == dimension.id && term.key == key)
      (unknownKey (quoted key ++ " is not a term of " ++ quoted payload.dimension ++ ".")))
    (payload.parent.filter (· != ""))
  let term ← created fun id records => { records with terms := records.terms ++ [{
    id, dimension := dimension.id, key := payload.key, parent := parent.map (·.id),
    usageNote := payload.usageNote,
    sortOrder := nextPlace ((records.terms.filter (·.dimension == dimension.id)).map (·.sortOrder)),
    confirmation := confirmation filed reviewer }] }
  Tx.write fun records => { records with termLabels := writeLabels records.termLabels term payload.labels reviewer }
  audited (termEvent "taxonomy.term_created" ("Added the term " ++ payload.key ++ " to " ++ payload.dimension)
    payload.dimension payload.key term []
    [("dimension", .text payload.dimension), ("key", .text payload.key), ("labels", labelsValue payload.labels)]
    filed actor stepUp)

def termUpdate (payload : TermUpdatePayload) (filed : Filed) (actor : Actor) (reviewer : Reviewer)
    (stepUp : Option Id) : Writing Unit := do
  let dimension ← Tx.check fun records => dimensionFor records payload.dimension
  let term ← Tx.check fun records =>
    demand (records.terms.find? fun term => term.dimension == dimension.id && term.key == payload.key)
      { code := "not_found", detail := quoted payload.key ++ " is not a term of " ++ quoted payload.dimension ++ "." }
  let before ← Tx.check fun records => .ok (labelsOf records.termLabels term.id)
  Tx.write fun records => { records with termLabels := writeLabels records.termLabels term.id payload.labels reviewer }
  let wording := payload.labels ≠ [] ∨ payload.usageNote ≠ none
  Tx.write fun records => updateTerm term.id (fun held =>
    let usageNote := payload.usageNote.getD held.usageNote
    { held with
      usageNote
      sortOrder := payload.sortOrder.getD held.sortOrder
      confirmation := if wording then restamp held.confirmation usageNote
          (records.termLabels.filter (·.holder == term.id)) payload.usageNote.isSome filed reviewer
        else held.confirmation
      version := held.version + 1 }) records
  audited (termEvent "taxonomy.term_updated"
    ("Changed the term " ++ payload.key ++ " in " ++ payload.dimension) payload.dimension payload.key term.id
    [("labels", labelsValue before)] [("labels", labelsValue (Dict.update before payload.labels))] filed actor stepUp)

end Grc.Proposals
