import Grc.Lib.Journal
import Grc.Proposals.Apply

/-! The wording of the lists and of the terms, who wrote each piece of it last, and what one
rewording under the one stamp of a row leaves of that. -/
namespace Grc.Proposals

open Grc.Shared Grc.Lib Grc.Library

/-- What carries wording: a row of a list, or a term. -/
inductive Holder where
  | row (id : Id)
  | term (id : Id)
  deriving DecidableEq

def Holder.id : Holder → Id
  | row id => id
  | term id => id

inductive Piece where
  | label (language : String)
  | usageNote
  | column (name : String)
  deriving DecidableEq

/-- A row's or a term's wording, with the stamp of who confirmed it. -/
structure Worded where
  holder : Holder
  labels : List Translation
  usageNote : String := ""
  columns : List String := []
  stamp : Option OriginType := none

def Worded.pieces (worded : Worded) : List Piece :=
  worded.labels.map (fun label => .label label.language) ++
    (if worded.usageNote = "" then [] else [.usageNote]) ++ worded.columns.map .column

def rowWorded (records : Records) (row : ListRow) : Worded where
  holder := .row row.id
  labels := records.rowLabels.filter (·.holder == row.id)
  usageNote := row.usageNote
  columns := row.columns.keys
  stamp := row.confirmation.verifiedOrigin

def termWorded (records : Records) (term : Term) : Worded where
  holder := .term term.id
  labels := records.termLabels.filter (·.holder == term.id)
  usageNote := term.usageNote
  stamp := term.confirmation.verifiedOrigin

def wording (records : Records) : List Worded :=
  records.rows.map (rowWorded records) ++ records.terms.map (termWorded records)

/-- Each piece an approval wrote, with who approved it. -/
abbrev Log := Authors (Holder × Piece) OriginType

def rewriting (holder : Holder) (pieces : List Piece) (reviewer : Reviewer) : Log :=
  .wrote (pieces.map fun piece => (holder, piece)) (verifiedOrigin reviewer)

/-- The stamp says no less than the log: what an agent's approval wrote last is marked so while the
stamp still names the agents, and none of it is left once it does not. -/
structure Worded.Sound (log : Log) (worded : Worded) : Prop where
  marked : ∀ label ∈ worded.labels, log.lastBy (worded.holder, .label label.language) = some .agent →
    label.isMachine = true
  honest : worded.stamp ≠ some .agent → ∀ piece ∈ worded.pieces, log.lastBy (worded.holder, piece) ≠ some .agent

/-- What an approval that writes some pieces does to a wording. -/
structure Rewords (reviewer : Reviewer) (pieces : List Piece) (before after : Worded) : Prop where
  holder : after.holder = before.holder
  /-- A label it writes is marked by who approves it, and any other is as it was. -/
  labels : ∀ label ∈ after.labels, (.label label.language ∈ pieces ∧ label.isMachine = reviewer.agentId.isSome) ∨
    (.label label.language ∉ pieces ∧ label ∈ before.labels)
  keeps : ∀ label ∈ before.labels, .label label.language ∈ pieces ∨ label ∈ after.labels
  note : .usageNote ∈ pieces ∨ after.usageNote = before.usageNote
  columns : ∀ column ∈ after.columns, .column column ∈ pieces ∨ column ∈ before.columns
  /-- The stamp leaves the agents only by a person's approval, with no mark of theirs in sight. -/
  stamp : after.stamp = some .agent ∨ (reviewer.agentId = none ∧ ¬(before.stamp = some .agent ∧
    (after.labels.any (·.isMachine) = true ∨ (after.usageNote ≠ "" ∧ .usageNote ∉ pieces))))

/-- A rewording takes the stamp from the agents: it rewrites every label marked machine-made, and the
note when there is one. -/
def Worded.Cleared (worded : Worded) (pieces : List Piece) : Prop :=
  pieces ≠ [] ∧ worded.stamp = some .agent ∧ (∀ label ∈ worded.labels, label.isMachine = true → .label label.language ∈ pieces) ∧
    (worded.usageNote = "" ∨ .usageNote ∈ pieces)

/-- A rewording that takes the stamp from the agents rewrites every column they wrote last as well. -/
def Worded.Completes (log : Log) (worded : Worded) (pieces : List Piece) : Prop :=
  worded.Cleared pieces → ∀ column ∈ worded.columns,
    log.lastBy (worded.holder, .column column) = some .agent → .column column ∈ pieces

variable {log more : Log} {before after worded : Worded} {pieces : List Piece} {reviewer : Reviewer} {holder : Holder}
  {piece : Piece}

theorem lastBy_rewriting (member : piece ∈ pieces) :
    (log ++ rewriting holder pieces reviewer).lastBy (holder, piece) = some (verifiedOrigin reviewer) :=
  Authors.lastBy_append_wrote log (List.mem_map_of_mem member) _

theorem lastBy_rewriting_kept (missing : piece ∉ pieces) :
    (log ++ rewriting holder pieces reviewer).lastBy (holder, piece) = log.lastBy (holder, piece) := by
  apply Authors.lastBy_append_of_not_mem
  intro writing written same
  obtain ⟨other, listed, named⟩ := List.mem_map.mp (Authors.mem_wrote written)
  rw [same] at named
  rw [(Prod.mk.inj named).2] at listed
  exact missing listed

theorem Worded.Sound.frame (sound : worded.Sound log) (apart : ∀ writing ∈ more, writing.1.1 ≠ worded.holder) :
    worded.Sound (log ++ more) := by
  have same : ∀ piece, (log ++ more).lastBy (worded.holder, piece) = log.lastBy (worded.holder, piece) := by
    intro piece
    apply Authors.lastBy_append_of_not_mem
    intro writing written equal
    apply apart writing written
    rw [equal]
  constructor
  · intro label member last
    rw [same] at last
    exact sound.marked label member last
  · intro person piece member
    rw [same]
    exact sound.honest person piece member

theorem mem_pieces : piece ∈ worded.pieces ↔ (∃ label ∈ worded.labels, piece = .label label.language) ∨
    (worded.usageNote ≠ "" ∧ piece = .usageNote) ∨ ∃ column ∈ worded.columns, piece = .column column := by
  unfold Worded.pieces
  rw [List.mem_append, List.mem_append, List.mem_map, List.mem_map, or_assoc]
  simp only [eq_comm (b := piece)]
  by_cases empty : worded.usageNote = ""
  · simp [empty]
  · simp [empty]

/-- A person's rewording of what nothing of the agents is left on, or is about to be. -/
theorem Rewords.unmarked (rewords : Rewords reviewer pieces before after) (writes : pieces ≠ []) (sound : before.Sound log)
    (completes : before.Completes log pieces)
    (cleared : ¬(before.stamp = some .agent ∧
      (after.labels.any (·.isMachine) = true ∨ (after.usageNote ≠ "" ∧ .usageNote ∉ pieces))))
    (member : piece ∈ after.pieces) (kept : piece ∉ pieces) : log.lastBy (before.holder, piece) ≠ some .agent := by
  by_cases agents : before.stamp = some .agent
  · rw [not_and_or, or_iff_right (not_not.mpr agents), not_or] at cleared
    obtain ⟨unmarked, noted⟩ := cleared
    have clears : before.Cleared pieces := by
      refine ⟨writes, agents, ?_, ?_⟩
      · intro label there machine
        rcases rewords.keeps label there with written | stays
        · exact written
        · exact absurd (List.any_eq_true.mpr ⟨label, stays, machine⟩) unmarked
      · by_cases written : Piece.usageNote ∈ pieces
        · exact .inr written
        · have same := rewords.note.resolve_left written
          rw [same] at noted
          exact .inl (by_contra fun note => noted ⟨note, written⟩)
    rcases mem_pieces.mp member with ⟨label, there, rfl⟩ | ⟨note, rfl⟩ | ⟨column, there, rfl⟩
    · rcases rewords.labels label there with ⟨written, -⟩ | ⟨-, held⟩
      · exact absurd written kept
      · intro last
        exact unmarked (List.any_eq_true.mpr ⟨label, there, sound.marked label held last⟩)
    · exact absurd ⟨note, kept⟩ noted
    · have held := (rewords.columns column there).resolve_left kept
      exact fun last => kept (completes clears column held last)
  · apply sound.honest agents
    rcases mem_pieces.mp member with ⟨label, there, rfl⟩ | ⟨note, rfl⟩ | ⟨column, there, rfl⟩
    · rcases rewords.labels label there with ⟨written, -⟩ | ⟨-, held⟩
      · exact absurd written kept
      · exact mem_pieces.mpr (.inl ⟨label, held, rfl⟩)
    · rw [rewords.note.resolve_left kept] at note
      exact mem_pieces.mpr (.inr (.inl ⟨note, rfl⟩))
    · have held := (rewords.columns column there).resolve_left kept
      exact mem_pieces.mpr (.inr (.inr ⟨column, held, rfl⟩))

theorem Rewords.sound (rewords : Rewords reviewer pieces before after) (writes : pieces ≠ []) (sound : before.Sound log)
    (completes : reviewer.agentId = none → before.Completes log pieces) :
    after.Sound (log ++ rewriting before.holder pieces reviewer) := by
  constructor
  · intro label member last
    rw [rewords.holder] at last
    rcases rewords.labels label member with ⟨written, machine⟩ | ⟨kept, held⟩
    · rw [lastBy_rewriting written, Option.some.injEq, verifiedOrigin, ite_eq_left_iff] at last
      rw [machine]
      by_contra person
      exact absurd (last person) nofun
    · rw [lastBy_rewriting_kept kept] at last
      exact sound.marked label held last
  · intro person piece member
    rw [rewords.holder]
    obtain ⟨nobody, cleared⟩ := rewords.stamp.resolve_left person
    by_cases written : piece ∈ pieces
    · rw [lastBy_rewriting written, verifiedOrigin, nobody]
      nofun
    · rw [lastBy_rewriting_kept written]
      exact rewords.unmarked writes sound (completes nobody) cleared member written

end Grc.Proposals

/-! What an approval that rewords nothing leaves of the wording: all of it, whatever else of the library
it writes. -/
namespace Grc.Proposals

open Grc.Shared Grc.Lib Grc.Library

variable {Rule : Type} {platform : Platform Rule} {now : Now} {zone : Option Id}

/-- The wording stays, and no primary key comes back. -/
structure Grows (before after : Records) : Prop where
  wording : wording after = wording before
  nextId : before.nextId ≤ after.nextId

instance : IsPreorder Records Grows where
  refl records := ⟨rfl, Nat.le_refl _⟩
  trans _ _ _ first second := ⟨second.wording.trans first.wording, Nat.le_trans first.nextId second.nextId⟩

theorem created_grows {make : Id → Records → Records} (kept : ∀ id records, wording (make id records) = wording records) :
    (created make).Keeps Grows :=
  fun records => ⟨kept records.nextId records, Nat.le_succ _⟩

theorem audited_grows (event : AuditEvent) : (audited event).Keeps Grows := .write fun _ => ⟨rfl, Nat.le_refl _⟩

theorem reindex_grows (id : Id) : (reindex now id).Keeps Grows :=
  .bind (.check _) fun _ => .write fun _ => ⟨rfl, Nat.le_refl _⟩

variable {filed : Filed} {actor : Actor} {reviewer : Reviewer} {stepUp : Option Id}

theorem newInstrument_grows (payload : InstrumentPayload) :
    (newInstrument platform zone payload filed actor reviewer stepUp).Keeps Grows := by
  refine .bind (.check _) ?_
  rintro ⟨payload, refs, regime⟩
  refine .bind (.check _) fun _ => .bind (created_grows fun _ _ => rfl) fun instrument => ?_
  exact .bind (.write fun _ => ⟨rfl, Nat.le_refl _⟩) fun _ => audited_grows _

theorem newObligation_grows (payload : ObligationPayload) :
    (newObligation platform now zone payload filed actor reviewer stepUp).Keeps Grows := by
  refine .bind (.check _) ?_
  rintro ⟨payload, instrument, terms⟩
  refine .bind (.check _) fun _ => .bind (.check _) fun _ => .bind (.check _) fun dutyType => ?_
  refine .bind (created_grows fun _ _ => rfl) fun obligation => .bind (.write fun _ => ⟨rfl, Nat.le_refl _⟩) fun _ => ?_
  refine .bind (created_grows fun _ _ => rfl) fun version => .bind (.write fun _ => ⟨rfl, Nat.le_refl _⟩) fun _ => ?_
  dsimp only
  split
  · exact .bind (reindex_grows _) fun _ => audited_grows _
  · exact .bind (.pure _) fun _ => audited_grows _

theorem newRecurringDuty_grows (payload : RecurringDutyPayload) :
    (newRecurringDuty platform now payload filed actor reviewer stepUp).Keeps Grows := by
  refine .bind (.check _) fun target => .bind (.check _) fun obligation => .bind (.check _) ?_
  rintro ⟨payload, authority⟩
  refine .bind (.check _) fun _ => .bind (created_grows fun _ _ => rfl) fun row => ?_
  exact .bind (reindex_grows _) fun _ => audited_grows _

theorem obligationVersion_grows (payload : ObligationVersionPayload) :
    (obligationVersion platform now zone payload filed actor reviewer stepUp).Keeps Grows := by
  refine .bind (.check _) fun target => .bind (.check _) fun obligation => .bind (.check _) fun terms => ?_
  refine .bind (.check _) fun instrument => .bind (.check _) fun _ => .bind (.check _) fun last => .bind (.check _) fun before => ?_
  refine .bind (created_grows fun _ _ => rfl) fun version => .bind (.write fun _ => ⟨rfl, Nat.le_refl _⟩) fun _ => ?_
  exact .bind (reindex_grows _) fun _ => .bind (.check _) fun after => audited_grows _

theorem fileProvisionVersion_grows (provision : Id) (number : Nat) (payload : ProvisionVersionPayload) :
    (fileProvisionVersion now provision number payload filed reviewer).Keeps Grows := by
  refine .bind (created_grows fun _ _ => rfl) fun version => .bind (.write fun _ => ⟨rfl, Nat.le_refl _⟩) fun _ => ?_
  exact .bind (reindex_grows _) fun _ => .pure _

theorem newProvision_grows (payload : ProvisionPayload) :
    (newProvision platform now zone payload filed actor reviewer stepUp).Keeps Grows := by
  refine .bind (.check _) ?_
  rintro ⟨payload, instrument, parent, kind⟩
  refine .bind (.check _) fun _ => .bind (.check _) fun _ => .bind (created_grows fun _ _ => rfl) fun provision => ?_
  exact .bind (fileProvisionVersion_grows _ _ _) fun version => audited_grows _

theorem provisionVersion_grows (payload : ProvisionVersionPayload) :
    (provisionVersion platform now zone payload filed actor reviewer stepUp).Keeps Grows := by
  refine .bind (.check _) fun target => .bind (.check _) ?_
  rintro ⟨provision, instrument⟩
  refine .bind (.check _) fun _ => .bind (.check _) fun before => ?_
  exact .bind (fileProvisionVersion_grows _ _ _) fun version => audited_grows _

theorem ensureRegisterEntry_grows (tenant obligation : Id) : (ensureRegisterEntry tenant obligation actor).Keeps Grows := by
  refine .bind (.check _) fun existing => ?_
  cases existing with
  | some entry => exact .pure _
  | none => exact .bind (created_grows fun _ _ => rfl) fun id => .bind (audited_grows _) fun _ => .pure _

theorem controlItem_grows (tenant : Id) (kind : LinkKind) (entry : RegisterEntry) (payload : ControlPayload) :
    (controlItem tenant kind entry payload filed actor stepUp).Keeps Grows := by
  refine .bind (.check _) fun held => ?_
  cases held with
  | some item => exact .bind (.check _) fun _ => .bind (.check _) fun _ => .pure _
  | none => exact .bind (created_grows fun _ _ => rfl) fun id => .bind (audited_grows _) fun _ => .pure _

theorem applyControl_grows (payload : ControlPayload) (user : Id) :
    (applyControl payload filed actor user stepUp).Keeps Grows := by
  refine .bind (.check _) fun owner => .bind (.check _) fun payload => .bind (.check _) fun obligation => ?_
  refine .bind (.check _) fun kind => .bind (ensureRegisterEntry_grows _ _) fun entry => ?_
  exact .bind (controlItem_grows _ _ _ _) fun item => .bind (created_grows fun _ _ => rfl) fun link => audited_grows _

theorem applyControlBy_grows (payload : ControlPayload) :
    (applyControlBy payload filed actor reviewer stepUp).Keeps Grows := by
  unfold applyControlBy
  split
  · exact .refuse _
  · exact applyControl_grows payload _

theorem obligationScope_grows (payload : ObligationScopePayload) (rows : List BatchRow) :
    (obligationScope platform now zone payload rows filed actor stepUp).Keeps Grows := by
  refine .bind (.check _) fun added => .bind (.check _) fun scopes => ?_
  refine .bind (.each (fun _ => .check _) _) fun _ => .bind (.check _) fun before => ?_
  refine .bind (.each (fun row => ?_) _) fun _ => .each (fun row => reindex_grows _) _
  exact .bind (audited_grows _) fun _ => .write fun _ => ⟨rfl, Nat.le_refl _⟩

section Lists

theorem updateRow_grows (id : Id) {change : ListRow → ListRow} (records : Records)
    (kept : ∀ row, rowWorded records (change row) = rowWorded records row) : Grows records (updateRow id change records) := by
  refine ⟨?_, Nat.le_refl _⟩
  unfold wording updateRow
  rw [List.map_map]
  congr 1
  apply List.map_congr_left
  intro row _
  by_cases named : row.id = id
  · rw [Function.comp_apply, if_pos named]
    exact kept row
  · rw [Function.comp_apply, if_neg named]
    rfl

theorem updateTerm_grows (id : Id) {change : Term → Term} (records : Records)
    (kept : ∀ term, termWorded records (change term) = termWorded records term) :
    Grows records (updateTerm id change records) := by
  refine ⟨?_, Nat.le_refl _⟩
  unfold wording updateTerm
  rw [List.map_map]
  congr 1
  apply List.map_congr_left
  intro term _
  by_cases named : term.id = id
  · rw [Function.comp_apply, if_pos named]
    exact kept term
  · rw [Function.comp_apply, if_neg named]
    rfl

theorem mirroredTermFollows_grows (jurisdiction : ListRow) (labels : Dict String) (sortOrder : Option Nat)
    (by_ : Option Reviewer) (silent : labels = [] ∨ by_ = none) (term : Term) :
    (mirroredTermFollows jurisdiction labels sortOrder filed actor by_ stepUp term).Keeps Grows := by
  refine .bind (.check _) fun before => ?_
  dsimp only
  split
  · have unsaid : (if labels = [] then none else by_) = none := by
      rcases silent with empty | nobody
      · exact if_pos empty
      · rw [nobody, ite_self]
    refine .bind (.write fun records => ?_) fun _ => .bind (.write fun records => ?_) fun _ => audited_grows _
    · rw [unsaid]
      exact refl_of Grows records
    · exact updateTerm_grows _ _ fun _ => rfl
  · exact .pure _

theorem vocabularyActive_grows (payload : VocabularyRetirePayload) (active : Bool) :
    (vocabularyActive payload filed actor stepUp active).Keeps Grows := by
  refine .bind (.check _) fun entry => .bind (.check _) fun row => .bind (.check _) fun _ => .bind (.check _) fun _ => ?_
  refine .bind (.write fun records => updateRow_grows _ records fun _ => rfl) fun _ => .bind (.check _) fun mirrors => ?_
  exact .bind (.each (mirroredTermFollows_grows _ _ _ _ (.inl rfl)) _) fun _ => audited_grows _

theorem moveLink_grows (source target : Id) (link : Link) (records : Records) :
    Grows records (moveLink source target link records) := by
  cases link with
  | instrumentLevel | provisionKind | obligationDutyType | carried table unique => exact ⟨rfl, Nat.le_refl _⟩

theorem moveAll_grows (source target : ListRow) (payload : VocabularyMergePayload) (links : List Link) :
    (moveAll source target payload links).Keeps Grows := by
  induction links with
  | nil => exact .pure _
  | cons link rest ih =>
    refine .bind ?_ fun _ => .bind ih fun _ => .pure _
    exact .bind (.check _) fun _ => .bind (.check _) fun _ => .bind (.write fun records => moveLink_grows _ _ link records)
      fun _ => .pure _

theorem vocabularyMerge_grows (payload : VocabularyMergePayload) :
    (vocabularyMerge payload filed actor stepUp).Keeps Grows := by
  refine .bind (.check _) fun entry => .bind (.check _) ?_
  rintro ⟨source, target⟩
  refine .bind (.check _) fun _ => .bind (.atomic (moveAll_grows _ _ _ _)) fun moves => ?_
  exact .bind (.write fun records => updateRow_grows _ records fun _ => rfl) fun _ => audited_grows _

end Lists

def rewordingKinds : List ProposalKind := [.vocabularyCreate, .vocabularyRelabel, .termCreate, .termUpdate]

theorem apply_grows {rows : List BatchRow} (other : filed.kind ∉ rewordingKinds) :
    (apply platform now zone filed actor reviewer stepUp rows).Keeps Grows := by
  unfold apply
  split
  · exact .bind (.check _) fun payload => .bind (.check _) fun _ => obligationScope_grows payload rows
  · refine .bind (.check _) fun payload => .bind (.check _) fun _ => ?_
    generalize filed.kind = kind at other
    unfold applyKind
    split
    · exact absurd (by decide) other
    · exact absurd (by decide) other
    · exact vocabularyActive_grows _ _
    · exact vocabularyActive_grows _ _
    · exact vocabularyMerge_grows _
    · exact absurd (by decide) other
    · exact absurd (by decide) other
    · exact obligationVersion_grows _
    · exact newInstrument_grows _
    · exact newObligation_grows _
    · exact newProvision_grows _
    · exact provisionVersion_grows _
    · exact newRecurringDuty_grows _
    · exact applyControlBy_grows _
    · exact .refuse _

end Grc.Proposals
