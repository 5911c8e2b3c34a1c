import Grc.Lib.Runs
import Grc.Proposals.Rewording

/-! Who wrote what a person's stamp stands over: runs of approvals by persons and by agents, with a log of
the pieces each of them wrote. -/
namespace Grc.Proposals

open Grc.Shared Grc.Lib Grc.Library

variable {Rule : Type} {platform : Platform Rule} {records after : Records} {log : Log} {reviewer : Reviewer}
  {filed : Filed} {row : ListRow} {term : Term} {labels : Dict String} {note : Option String} {columns : List String}

theorem wording_holders (records : Records) : (wording records).map (·.holder) =
    (records.rows.map (·.id)).map Holder.row ++ (records.terms.map (·.id)).map Holder.term := by
  rw [wording, List.map_append, List.map_map, List.map_map, List.map_map, List.map_map]
  rfl

theorem updateRow_ids (id : Id) {change : ListRow → ListRow} (same : ∀ held, (change held).id = held.id) (records : Records) :
    (updateRow id change records).rows.map (·.id) = records.rows.map (·.id) := by
  rw [updateRow, List.map_map]
  apply List.map_congr_left
  intro held _
  by_cases named : held.id = id
  · rw [Function.comp_apply, if_pos named, same]
  · rw [Function.comp_apply, if_neg named]

theorem updateTerm_ids (id : Id) {change : Term → Term} (same : ∀ held, (change held).id = held.id) (records : Records) :
    (updateTerm id change records).terms.map (·.id) = records.terms.map (·.id) := by
  rw [updateTerm, List.map_map]
  apply List.map_congr_left
  intro held _
  by_cases named : held.id = id
  · rw [Function.comp_apply, if_pos named, same]
  · rw [Function.comp_apply, if_neg named]

theorem Authored.rewordRow (authored : Authored records log) (filed : Filed) (there : row ∈ records.rows)
    (writes : writtenPieces labels note columns ≠ [])
    (completes : reviewer.agentId = none → (rowWorded records row).Completes log (writtenPieces labels note columns))
    (change : ListRow → ListRow) (same : ∀ held, (change held).id = held.id)
    (noted : (change row).usageNote = note.getD row.usageNote)
    (columned : ∀ column ∈ (change row).columns.keys, column ∈ columns ∨ column ∈ row.columns.keys)
    (stamped : (change row).confirmation = restamp row.confirmation (change row).usageNote
      ((writeLabels records.rowLabels row.id labels reviewer).filter (·.holder == row.id)) note.isSome filed reviewer) :
    Authored (updateRow row.id change { records with rowLabels := writeLabels records.rowLabels row.id labels reviewer })
      (log ++ rewriting (.row row.id) (writtenPieces labels note columns) reviewer) := by
  refine authored.reword writes (List.mem_append_left _ (List.mem_map_of_mem there)) completes rfl ?_ ?_
  · rw [wording_holders, wording_holders, updateRow_ids _ same]
    rfl
  · intro worded member
    rcases List.mem_append.mp member with rowed | termed
    · obtain ⟨changed, listed, rfl⟩ := List.mem_map.mp rowed
      obtain ⟨held, here, rfl⟩ := List.mem_map.mp listed
      by_cases named : held.id = row.id
      · obtain rfl := authored.row_unique here there named
        right
        rw [if_pos rfl]
        refine rewords_of_written filed held.confirmation (congrArg Holder.row (same held)) rfl ?_ noted columned rfl ?_
        · rw [rowWorded, same]
          rfl
        · rw [rowWorded]
          dsimp only
          rw [stamped, same]
          rfl
      · left
        rw [if_neg named]
        have kept : rowWorded (updateRow row.id change { records with
            rowLabels := writeLabels records.rowLabels row.id labels reviewer }) held = rowWorded records held := by
          unfold rowWorded
          congr 1
          exact writeLabels_other named
        rw [kept]
        exact ⟨List.mem_append_left _ (List.mem_map_of_mem here), fun equal => named (Holder.row.inj equal)⟩
    · obtain ⟨held, here, rfl⟩ := List.mem_map.mp termed
      exact .inl ⟨List.mem_append_right _ (List.mem_map_of_mem here), nofun⟩

theorem Authored.rewordTerm (authored : Authored records log) (filed : Filed) (there : term ∈ records.terms)
    (writes : writtenPieces labels note [] ≠ []) (change : Term → Term) (same : ∀ held, (change held).id = held.id)
    (noted : (change term).usageNote = note.getD term.usageNote)
    (stamped : (change term).confirmation = restamp term.confirmation (change term).usageNote
      ((writeLabels records.termLabels term.id labels reviewer).filter (·.holder == term.id)) note.isSome filed reviewer) :
    Authored (updateTerm term.id change { records with
        termLabels := writeLabels records.termLabels term.id labels reviewer })
      (log ++ rewriting (.term term.id) (writtenPieces labels note []) reviewer) := by
  refine authored.reword writes (List.mem_append_right _ (List.mem_map_of_mem there)) (fun _ _ => nofun) rfl ?_ ?_
  · rw [wording_holders, wording_holders, updateTerm_ids _ same]
    rfl
  · intro worded member
    rcases List.mem_append.mp member with rowed | termed
    · obtain ⟨held, here, rfl⟩ := List.mem_map.mp rowed
      exact .inl ⟨List.mem_append_left _ (List.mem_map_of_mem here), nofun⟩
    · obtain ⟨changed, listed, rfl⟩ := List.mem_map.mp termed
      obtain ⟨held, here, rfl⟩ := List.mem_map.mp listed
      by_cases named : held.id = term.id
      · obtain rfl := authored.term_unique here there named
        right
        rw [if_pos rfl]
        refine rewords_of_written filed held.confirmation (congrArg Holder.term (same held)) rfl ?_ noted
          (fun _ none => absurd none List.not_mem_nil) rfl ?_
        · rw [termWorded, same]
          rfl
        · rw [termWorded]
          dsimp only
          rw [stamped, same]
          rfl
      · left
        rw [if_neg named]
        have kept : termWorded (updateTerm term.id change { records with
            termLabels := writeLabels records.termLabels term.id labels reviewer }) held = termWorded records held := by
          unfold termWorded
          congr 1
          exact writeLabels_other named
        rw [kept]
        exact ⟨List.mem_append_right _ (List.mem_map_of_mem here), fun equal => named (Holder.term.inj equal)⟩

theorem restamp_fresh (usageNote : String) (labels : List Translation) (noted : Bool) (filed : Filed) (reviewer : Reviewer) :
    restamp {} usageNote labels noted filed reviewer = confirmation filed reviewer := by
  apply if_neg
  rintro ⟨-, agent, -⟩
  cases agent

theorem Authored.createRow (authored : Authored records log) (fresh : row.id = records.nextId)
    (stamped : row.confirmation = confirmation filed reviewer) :
    Authored { records with
        rows := records.rows ++ [row]
        rowLabels := writeLabels records.rowLabels row.id labels reviewer
        nextId := records.nextId + 1 }
      (log ++ rewriting (.row row.id) (writtenPieces labels (some row.usageNote) row.columns.keys) reviewer) := by
  refine authored.add (records.rowLabels.filter (·.holder == row.id)) ?_ fresh rfl ?_ ?_
  · exact List.ne_nil_of_mem (note_mem_written.mpr rfl)
  · rw [wording_holders, wording_holders, List.map_append, List.map_append, List.append_assoc]
    exact List.perm_middle
  · intro worded member
    rcases List.mem_append.mp member with rowed | termed
    · obtain ⟨held, listed, rfl⟩ := List.mem_map.mp rowed
      rcases List.mem_append.mp listed with here | new
      · left
        have other : held.id ≠ row.id := by
          have below := authored.below _ (List.mem_append_left _ (List.mem_map_of_mem here))
          rw [fresh]
          exact Nat.ne_of_lt below
        have kept : rowWorded { records with
            rows := records.rows ++ [row], rowLabels := writeLabels records.rowLabels row.id labels reviewer
            nextId := records.nextId + 1 } held = rowWorded records held := by
          unfold rowWorded
          congr 1
          exact writeLabels_other other
        rw [kept]
        exact List.mem_append_left _ (List.mem_map_of_mem here)
      · right
        obtain rfl := List.mem_singleton.mp new
        refine rewords_of_written filed {} rfl rfl rfl rfl (fun _ listed => .inl listed) rfl ?_
        rw [restamp_fresh, rowWorded, stamped]
    · obtain ⟨held, here, rfl⟩ := List.mem_map.mp termed
      exact .inl (List.mem_append_right _ (List.mem_map_of_mem here))

theorem Authored.createTerm (authored : Authored records log) (fresh : term.id = records.nextId)
    (stamped : term.confirmation = confirmation filed reviewer) :
    Authored { records with
        terms := records.terms ++ [term]
        termLabels := writeLabels records.termLabels term.id labels reviewer
        nextId := records.nextId + 1 }
      (log ++ rewriting (.term term.id) (writtenPieces labels (some term.usageNote) []) reviewer) := by
  refine authored.add (records.termLabels.filter (·.holder == term.id)) ?_ fresh rfl ?_ ?_
  · exact List.ne_nil_of_mem (note_mem_written.mpr rfl)
  · rw [wording_holders, wording_holders, List.map_append, List.map_append, ← List.append_assoc]
    exact List.perm_append_singleton _ _
  · intro worded member
    rcases List.mem_append.mp member with rowed | termed
    · obtain ⟨held, here, rfl⟩ := List.mem_map.mp rowed
      exact .inl (List.mem_append_left _ (List.mem_map_of_mem here))
    · obtain ⟨held, listed, rfl⟩ := List.mem_map.mp termed
      rcases List.mem_append.mp listed with here | new
      · left
        have other : held.id ≠ term.id := by
          have below := authored.below _ (List.mem_append_right _ (List.mem_map_of_mem here))
          rw [fresh]
          exact Nat.ne_of_lt below
        have kept : termWorded { records with
            terms := records.terms ++ [term], termLabels := writeLabels records.termLabels term.id labels reviewer
            nextId := records.nextId + 1 } held = termWorded records held := by
          unfold termWorded
          congr 1
          exact writeLabels_other other
        rw [kept]
        exact List.mem_append_right _ (List.mem_map_of_mem here)
      · right
        obtain rfl := List.mem_singleton.mp new
        refine rewords_of_written filed {} rfl rfl rfl rfl (fun _ none => absurd none List.not_mem_nil) rfl ?_
        rw [restamp_fresh, termWorded, stamped]

section Kinds

variable {actor : Actor} {stepUp : Option Id} {answer : Unit}

theorem created_bind_ok {Answer : Type} {make : Id → Records → Records} {rest : Id → Writing Answer} {answer : Answer} :
    (created make >>= rest).execute records = (.ok answer, after) ↔ (rest records.nextId).execute
      { make records.nextId records with nextId := records.nextId + 1 } = (.ok answer, after) := by
  rw [Tx.execute_bind]
  rfl

theorem writeLabels_nil (held : List Translation) (id : Id) (reviewer : Reviewer) : writeLabels held id [] reviewer = held := by
  have same : ∀ label : Translation, (if label.holder = id then Dict.get ([] : Dict String) label.language else none) = none :=
    fun label => ite_self none
  rw [writeLabels]
  simp [same]

theorem rewriting_nil (holder : Holder) (reviewer : Reviewer) : rewriting holder [] reviewer = [] := rfl

def createdColumns (platform : Platform Rule) (records : Records) (kind : ProposalKind) (payload : VocabularyCreatePayload) :
    Except Refusal (Dict Json) := do
  let entry ← entryOf records payload.list kind [payload.key]
  extraColumns platform records entry [] payload.extra

theorem vocabularyCreate_authored {payload : VocabularyCreatePayload} (authored : Authored records log)
    (done : (vocabularyCreate platform payload filed actor reviewer stepUp).execute records = (.ok answer, after)) :
    ∃ columns, createdColumns platform records filed.kind payload = .ok columns ∧
      Authored after (log ++ rewriting (.row records.nextId)
        (writtenPieces payload.labels (some payload.usageNote) columns.keys) reviewer) := by
  simp only [vocabularyCreate, Tx.check_bind_ok, created_bind_ok, Tx.write_bind_ok] at done
  obtain ⟨entry, listed, _, -, columns, read, logs⟩ := done
  refine ⟨columns, bind_ok.mpr ⟨entry, listed, read⟩, ?_⟩
  exact (authored.createRow rfl rfl).grows ((audited_grows _).ok logs)

theorem termCreate_authored {payload : TermCreatePayload} (authored : Authored records log)
    (done : (termCreate platform payload filed actor reviewer stepUp).execute records = (.ok answer, after)) :
    Authored after (log ++ rewriting (.term records.nextId) (writtenPieces payload.labels (some payload.usageNote) [])
      reviewer) := by
  simp only [termCreate, Tx.check_bind_ok, created_bind_ok, Tx.write_bind_ok] at done
  obtain ⟨dimension, -, _, -, parent, -, logs⟩ := done
  exact (authored.createTerm rfl rfl).grows ((audited_grows _).ok logs)

def updatedTerm (records : Records) (payload : TermUpdatePayload) : Except Refusal Term := do
  let dimension ← dimensionFor records payload.dimension
  demand (records.terms.find? fun term => term.dimension == dimension.id && term.key == payload.key)
    { code := "not_found", detail := quoted payload.key ++ " is not a term of " ++ quoted payload.dimension ++ "." }

theorem updatedTerm_mem {payload : TermUpdatePayload} (found : updatedTerm records payload = .ok term) :
    term ∈ records.terms := by
  simp only [updatedTerm, bind_ok, demand_ok] at found
  obtain ⟨dimension, -, named⟩ := found
  exact List.mem_of_find?_eq_some named

theorem termUpdate_authored {payload : TermUpdatePayload} (authored : Authored records log)
    (done : (termUpdate payload filed actor reviewer stepUp).execute records = (.ok answer, after)) :
    ∃ term, updatedTerm records payload = .ok term ∧
      Authored after (log ++ rewriting (.term term.id) (writtenPieces payload.labels payload.usageNote []) reviewer) := by
  simp only [termUpdate, Tx.check_bind_ok, Tx.write_bind_ok] at done
  obtain ⟨dimension, dimensioned, term, found, _, -, logs⟩ := done
  have named : updatedTerm records payload = .ok term := bind_ok.mpr ⟨dimension, dimensioned, found⟩
  refine ⟨term, named, Authored.grows ?_ ((audited_grows _).ok logs)⟩
  by_cases writes : payload.labels ≠ [] ∨ payload.usageNote ≠ none
  · have some : writtenPieces payload.labels payload.usageNote [] ≠ [] := by
      rw [Ne, writtenPieces_eq_nil]
      tauto
    refine authored.rewordTerm filed (updatedTerm_mem named) some _ (fun _ => rfl) rfl ?_
    exact if_pos writes
  · rw [not_or, not_not, not_not] at writes
    obtain ⟨labels, note⟩ := writes
    rw [labels, note, writeLabels_nil]
    have silent : writtenPieces [] none [] = [] := rfl
    rw [silent, rewriting_nil, List.append_nil]
    apply authored.grows
    apply updateTerm_grows
    intro held
    simp only [ne_eq, not_true_eq_false, or_self, if_false, Option.getD_none]
    rfl

def followed (terms : List Term) (labels : Dict String) (reviewer : Reviewer) : Log :=
  terms.flatMap fun term => rewriting (.term term.id) (writtenPieces labels none []) reviewer

theorem Authored.term_of_holder (authored : Authored records log) {id : Id}
    (there : .term id ∈ (wording records).map (·.holder)) : ∃ held ∈ records.terms, held.id = id := by
  rw [wording_holders, List.mem_append] at there
  rcases there with rowed | termed
  · obtain ⟨other, -, same⟩ := List.mem_map.mp rowed
    cases same
  · obtain ⟨other, listed, same⟩ := List.mem_map.mp termed
    obtain ⟨held, here, rfl⟩ := List.mem_map.mp listed
    exact ⟨held, here, Holder.term.inj same⟩

/-- A mirrored term takes the labels just written on its row, and no other piece. -/
theorem mirrored_authored {jurisdiction : ListRow} {sortOrder : Option Nat} (authored : Authored records log)
    (there : .term term.id ∈ (wording records).map (·.holder))
    (done : (mirroredTermFollows jurisdiction labels sortOrder filed actor (some reviewer) stepUp term).execute records =
      (.ok answer, after)) :
    Authored after (log ++ rewriting (.term term.id) (writtenPieces labels none []) reviewer) ∧
      (wording after).map (·.holder) = (wording records).map (·.holder) := by
  by_cases empty : labels = []
  · have grows := (mirroredTermFollows_grows jurisdiction labels sortOrder (some reviewer) (.inl empty) term).ok done
    have silent : writtenPieces labels none [] = [] := writtenPieces_eq_nil.mpr ⟨empty, rfl, rfl⟩
    rw [silent, rewriting_nil, List.append_nil, grows.wording]
    exact ⟨authored.grows grows, rfl⟩
  · obtain ⟨held, here, same⟩ := authored.term_of_holder there
    have follows : ¬(labels = [] ∧ sortOrder = none ∧ term.active = jurisdiction.active) := fun all => empty all.1
    simp only [mirroredTermFollows, Tx.check_bind_ok, follows, not_false_eq_true, if_true, if_neg empty,
      Tx.write_bind_ok] at done
    obtain ⟨_, -, logs⟩ := done
    have writes : writtenPieces labels none [] ≠ [] := fun none => empty (writtenPieces_eq_nil.mp none).1
    rw [← same] at logs ⊢
    have reworded := authored.rewordTerm filed here writes (fun held => { held with
      confirmation := restamp held.confirmation held.usageNote
        ((writeLabels records.termLabels term.id labels reviewer).filter (·.holder == term.id)) false filed reviewer })
      (fun _ => rfl) rfl (by rw [← same]; rfl)
    rw [← same] at reworded
    have audits := (audited_grows _).ok logs
    refine ⟨Authored.grows ?_ audits, ?_⟩
    · exact reworded.grows (updateTerm_grows _ _ fun _ => rfl)
    · rw [audits.wording, wording_holders, wording_holders]
      rw [updateTerm_ids, updateTerm_ids]
      · rfl
      · exact fun _ => rfl
      · exact fun _ => rfl

theorem mirrors_authored {jurisdiction : ListRow} {sortOrder : Option Nat} {terms : List Term} (authored : Authored records log)
    (there : ∀ term ∈ terms, .term term.id ∈ (wording records).map (·.holder))
    (done : (Tx.each terms (mirroredTermFollows jurisdiction labels sortOrder filed actor (some reviewer) stepUp)).execute
      records = (.ok answer, after)) :
    Authored after (log ++ followed terms labels reviewer) := by
  induction terms generalizing records log with
  | nil =>
    obtain ⟨-, rfl⟩ := Tx.pure_ok.mp done
    rw [followed, List.flatMap_nil, List.append_nil]
    exact authored
  | cons term rest ih =>
    obtain ⟨_, middle, follows, goes⟩ := Tx.bind_ok.mp done
    obtain ⟨next, holders⟩ := mirrored_authored authored (there term List.mem_cons_self) follows
    have later : ∀ term ∈ rest, .term term.id ∈ (wording middle).map (·.holder) := by
      intro term member
      rw [holders]
      exact there term (List.mem_cons_of_mem _ member)
    have whole := ih next later goes
    rw [List.append_assoc] at whole
    exact whole

/-- The row a relabel is of, and the columns it writes. -/
def relabelTarget (platform : Platform Rule) (records : Records) (kind : ProposalKind) (payload : VocabularyRelabelPayload) :
    Except Refusal (ListRow × Dict Json) := do
  let entry ← entryOf records payload.list kind [payload.key]
  let row ← rowFor records entry payload.key
  let columns ← extraColumns platform records entry [] (payload.extra.getD [])
  .ok (row, columns)

variable {payload : VocabularyRelabelPayload} {columns : Dict Json}

theorem relabelTarget_mem {kind : ProposalKind}
    (found : relabelTarget platform records kind payload = .ok (row, columns)) : row ∈ records.rows := by
  simp only [relabelTarget, bind_ok, rowFor, demand_ok, Except.ok.injEq, Prod.mk.injEq] at found
  obtain ⟨entry, -, held, named, read, -, rfl, -⟩ := found
  exact List.mem_of_find?_eq_some named

def relabelPieces (payload : VocabularyRelabelPayload) (columns : Dict Json) : List Piece :=
  writtenPieces payload.labels payload.usageNote columns.keys

/-- What a relabel does to its row, once its labels are written. -/
def relabelChange (payload : VocabularyRelabelPayload) (columns : Dict Json) (labels : List Translation) (filed : Filed)
    (reviewer : Reviewer) (held : ListRow) : ListRow :=
  let usageNote := payload.usageNote.getD held.usageNote
  { held with
    usageNote
    sortOrder := payload.sortOrder.getD held.sortOrder
    columns := Dict.update held.columns columns
    confirmation := if payload.labels ≠ [] ∨ payload.usageNote ≠ none ∨ columns ≠ [] then
        restamp held.confirmation usageNote labels payload.usageNote.isSome filed reviewer
      else held.confirmation
    version := held.version + 1 }

/-- The library after a relabel wrote its row, before its mirrors follow. -/
def relabelledRow (records : Records) (row : ListRow) (payload : VocabularyRelabelPayload) (columns : Dict Json)
    (filed : Filed) (reviewer : Reviewer) : Records :=
  let rowLabels := writeLabels records.rowLabels row.id payload.labels reviewer
  updateRow row.id (relabelChange payload columns (rowLabels.filter (·.holder == row.id)) filed reviewer)
    { records with rowLabels }

theorem vocabularyRelabel_ok
    (done : (vocabularyRelabel platform payload filed actor reviewer stepUp).execute records = (.ok answer, after)) :
    ∃ row columns middle event, relabelTarget platform records filed.kind payload = .ok (row, columns) ∧
      (Tx.each (mirrorsOf records row)
        (mirroredTermFollows row payload.labels payload.sortOrder filed actor (some reviewer) stepUp)).execute
          (relabelledRow records row payload columns filed reviewer) = (.ok (), middle) ∧
      (audited event).execute middle = (.ok answer, after) := by
  simp only [vocabularyRelabel, Tx.check_bind_ok, Tx.write_bind_ok] at done
  obtain ⟨entry, listed, row, named, _, -, columns, read, mirrors, same, goes⟩ := done
  obtain ⟨_, middle, follows, logs⟩ := Tx.bind_ok.mp goes
  have found : relabelTarget platform records filed.kind payload = .ok (row, columns) :=
    bind_ok.mpr ⟨entry, listed, bind_ok.mpr ⟨row, named, bind_ok.mpr ⟨columns, read, rfl⟩⟩⟩
  have mirrored : mirrors = mirrorsOf records row := (Except.ok.inj same).symm
  rw [mirrored] at follows
  exact ⟨row, columns, middle, _, found, follows, logs⟩

theorem relabelPieces_eq_nil :
    relabelPieces payload columns = [] ↔ payload.labels = [] ∧ payload.usageNote = none ∧ columns = [] := by
  rw [relabelPieces, writtenPieces_eq_nil, Dict.keys, List.map_eq_nil_iff]

theorem vocabularyRelabel_authored (authored : Authored records log)
    (completes : ∀ row columns, relabelTarget platform records filed.kind payload = .ok (row, columns) →
      reviewer.agentId = none → (rowWorded records row).Completes log (relabelPieces payload columns))
    (done : (vocabularyRelabel platform payload filed actor reviewer stepUp).execute records = (.ok answer, after)) :
    ∃ row columns, relabelTarget platform records filed.kind payload = .ok (row, columns) ∧
      Authored after (log ++ rewriting (.row row.id) (relabelPieces payload columns) reviewer ++
        followed (mirrorsOf records row) payload.labels reviewer) := by
  obtain ⟨row, columns, middle, event, found, follows, logs⟩ := vocabularyRelabel_ok done
  have there : row ∈ records.rows := relabelTarget_mem found
  refine ⟨row, columns, found, Authored.grows (mirrors_authored ?_ ?_ follows) ((audited_grows event).ok logs)⟩
  · by_cases writes : payload.labels ≠ [] ∨ payload.usageNote ≠ none ∨ columns ≠ []
    · have some : relabelPieces payload columns ≠ [] := by
        rw [Ne, relabelPieces_eq_nil]
        tauto
      refine authored.rewordRow filed there some (completes row columns found) _ (fun _ => rfl) rfl ?_ ?_
      · intro column member
        exact (Dict.mem_keys_update.mp member).symm
      · exact if_pos writes
    · rw [not_or, not_or, not_not, not_not, not_not] at writes
      have silent : relabelPieces payload columns = [] := relabelPieces_eq_nil.mpr writes
      obtain ⟨labels, note, none⟩ := writes
      rw [silent, rewriting_nil, List.append_nil, relabelledRow, labels, writeLabels_nil]
      apply authored.grows
      apply updateRow_grows
      intro held
      simp only [relabelChange, labels, note, none, ne_eq, not_true_eq_false, or_self, if_false, Option.getD_none,
        Dict.update_nil]
      rfl
  · intro term member
    rw [mirrorsOf] at member
    rw [wording_holders]
    apply List.mem_append_right
    split at member
    · exact List.mem_map_of_mem (List.mem_map_of_mem (List.mem_of_mem_filter member))
    · cases member

def SameRows (before after : Records) : Prop := after.rows = before.rows

instance : IsPreorder Records SameRows where
  refl _ := rfl
  trans _ _ _ first second := second.trans first

theorem mirroredTermFollows_rows (jurisdiction : ListRow) (labels : Dict String) (sortOrder : Option Nat)
    (by_ : Option Reviewer) (term : Term) :
    (mirroredTermFollows jurisdiction labels sortOrder filed actor by_ stepUp term).Keeps SameRows := by
  refine .bind (.check _) fun before => ?_
  dsimp only
  split
  · refine .bind (.write fun records => ?_) fun _ => .bind (.write fun _ => rfl) fun _ => .write fun _ => rfl
    split
    · rfl
    · rfl
  · exact .pure _

/-- A person's relabel that rewrites every mark of the agents on a row says that a person confirmed it. -/
theorem vocabularyRelabel_stamps
    (done : (vocabularyRelabel platform payload filed actor reviewer stepUp).execute records = (.ok answer, after))
    (found : relabelTarget platform records filed.kind payload = .ok (row, columns)) (person : reviewer.agentId = none)
    (cleared : (rowWorded records row).Cleared (relabelPieces payload columns)) :
    ∃ worded ∈ wording after, worded.holder = .row row.id ∧ worded.stamp = some .user ∧
      ∀ column ∈ row.columns.keys, column ∈ worded.columns := by
  obtain ⟨other, others, middle, event, same, follows, logs⟩ := vocabularyRelabel_ok done
  rw [found] at same
  obtain ⟨rfl, rfl⟩ := Prod.mk.inj (Except.ok.inj same)
  have stays : after.rows = (relabelledRow records row payload columns filed reviewer).rows := by
    have kept : SameRows (relabelledRow records row payload columns filed reviewer) middle :=
      (Tx.Keeps.each (mirroredTermFollows_rows row payload.labels payload.sortOrder (some reviewer)) _).ok follows
    rw [Tx.write_ok.mp logs]
    exact kept
  have there : row ∈ records.rows := relabelTarget_mem found
  obtain ⟨writes, -, marks, noted⟩ := cleared
  let labels := (writeLabels records.rowLabels row.id payload.labels reviewer).filter (·.holder == row.id)
  have member : relabelChange payload columns labels filed reviewer row ∈ after.rows := by
    rw [stays]
    exact List.mem_map.mpr ⟨row, there, if_pos rfl⟩
  refine ⟨_, List.mem_append_left _ (List.mem_map_of_mem member), rfl, ?_, ?_⟩
  · have wording : payload.labels ≠ [] ∨ payload.usageNote ≠ none ∨ columns ≠ [] := by
      rw [Ne, relabelPieces_eq_nil] at writes
      tauto
    have unmarked : ¬(labels.any (·.isMachine) = true ∨
        (payload.usageNote.getD row.usageNote ≠ "" ∧ payload.usageNote.isSome = false)) := by
      rintro (machine | ⟨note, kept⟩)
      · obtain ⟨label, listed, marked⟩ := List.any_eq_true.mp machine
        rcases mem_writeLabels listed with ⟨-, agent⟩ | ⟨unwritten, held⟩
        · rw [person, marked] at agent
          cases agent
        · exact unwritten (label_mem_written.mp (marks label held marked))
      · rw [Option.isSome_eq_false_iff, Option.isNone_iff_eq_none] at kept
        rcases noted with empty | written
        · rw [kept] at note
          exact note empty
        · rw [relabelPieces, note_mem_written, kept] at written
          cases written
    rw [rowWorded, relabelChange]
    dsimp only
    rw [if_pos wording]
    exact restamp_person person unmarked
  · intro column held
    exact Dict.mem_keys_update.mpr (.inl held)

end Kinds

end Grc.Proposals
