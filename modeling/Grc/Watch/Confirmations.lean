import Grc.Watch.Registration

/-! Every confirmed fact was confirmed by somebody other than whoever suggested it. -/
namespace Grc.Watch

open Grc.Shared Grc.Lib Grc.Library

namespace Confirmer

/-- The columns of a confirmation: the time, and either a person or an agent's key with its agent. -/
def Names (confirmer : Confirmer) : Prop :=
  confirmer.at_.isSome = true ∧
    ((confirmer.person.isSome = true ∧ confirmer.apiKey = none ∧ confirmer.agent = none) ∨
      (confirmer.person = none ∧ confirmer.apiKey.isSome = true ∧ confirmer.agent.isSome = true))

end Confirmer

/-- A curated fact as its columns stand: a change's type, a term link or an obligation link. -/
structure Fact where
  suggested : Bool
  suggester : Suggester
  confirmer : Confirmer

/-- A confirmation on exactly the facts that are confirmed, by another person, another key and another agent than
suggested the fact. -/
structure Fact.Sound (fact : Fact) : Prop where
  suggestion : fact.suggested = true → fact.confirmer = {}
  confirmation : fact.suggested = false → fact.confirmer.Names
  person : ∀ id, fact.confirmer.person = some id → fact.suggester.person ≠ some id
  apiKey : ∀ id, fact.confirmer.apiKey = some id → fact.suggester.apiKey ≠ some id
  agent : ∀ id, fact.confirmer.agent = some id → fact.suggester.agent ≠ some id

def RegulatoryChange.typeFact (change : RegulatoryChange) : Fact where
  suggested := change.changeTypeSuggested
  suggester := change.changeTypeSuggester
  confirmer := change.changeTypeConfirmer

def ChangeTerm.fact (link : ChangeTerm) : Fact where
  suggested := link.suggested
  suggester := link.suggester
  confirmer := link.confirmer

def ChangeObligation.fact (link : ChangeObligation) : Fact where
  suggested := link.confirmer.at_.isNone
  suggester := link.suggester
  confirmer := link.confirmer

def facts (tables : Tables) : List Fact :=
  tables.changes.rows.map RegulatoryChange.typeFact ++ tables.terms.rows.map ChangeTerm.fact ++
    tables.obligations.rows.map ChangeObligation.fact

def Sound (tables : Tables) : Prop := ∀ fact ∈ facts tables, fact.Sound

variable {tables : Tables}

theorem sound_iff : Sound tables ↔ (∀ change ∈ tables.changes.rows, change.typeFact.Sound) ∧
    (∀ link ∈ tables.terms.rows, link.fact.Sound) ∧ ∀ link ∈ tables.obligations.rows, link.fact.Sound := by
  simp only [Sound, facts, List.mem_append, or_imp, forall_and, List.forall_mem_map, and_assoc]

def Preserves (before after : Tables) : Prop := Sound before → Sound after

instance : Std.Refl Preserves := ⟨fun _ => id⟩

instance : IsTrans Tables Preserves := ⟨fun _ _ _ first second sound => second (first sound)⟩

theorem SameFacts.preserves {before after : Tables} (same : SameFacts before after) : Preserves before after := by
  intro sound
  rw [sound_iff] at sound ⊢
  rwa [same.changes, same.terms, same.obligations]

theorem suggestion_sound (suggester : Suggester) : ({ suggested := true, suggester, confirmer := {} } : Fact).Sound where
  suggestion := fun _ => rfl
  confirmation := nofun
  person := nofun
  apiKey := nofun
  agent := nofun

theorem updateChange_preserves (id : Id) (change : RegulatoryChange → RegulatoryChange) (named : ∀ row, (change row).id = row.id)
    (kept : ∀ row, row.typeFact.Sound → (change row).typeFact.Sound) : (updateChange id change named).Keeps Preserves := by
  refine .write fun tables sound => ?_
  rw [sound_iff] at sound ⊢
  refine ⟨fun row member => ?_, sound.2⟩
  obtain ⟨old, there, rfl⟩ := List.mem_map.mp member
  split
  · exact kept old (sound.1 old there)
  · exact sound.1 old there

theorem writeTerms_preserves (change : Keyed ChangeTerm.id → Keyed ChangeTerm.id)
    (kept : ∀ table, (∀ link ∈ table.rows, link.fact.Sound) → ∀ link ∈ (change table).rows, link.fact.Sound) :
    (writeTerms change).Keeps Preserves := by
  refine .write fun tables sound => ?_
  rw [sound_iff] at sound ⊢
  exact ⟨sound.1, kept _ sound.2.1, sound.2.2⟩

theorem writeLinks_preserves (change : Keyed ChangeObligation.id → Keyed ChangeObligation.id)
    (kept : ∀ table, (∀ link ∈ table.rows, link.fact.Sound) → ∀ link ∈ (change table).rows, link.fact.Sound) :
    (writeLinks change).Keeps Preserves := by
  refine .write fun tables sound => ?_
  rw [sound_iff] at sound ⊢
  exact ⟨sound.1, sound.2.1, kept _ sound.2.2⟩

theorem createTerm_preserves (change : Id) (column : TermColumn) (suggester : Suggester) (value : Id) :
    (createTerm change column suggester value).Keeps Preserves := by
  refine .bind (.check _) fun _ => writeTerms_preserves _ fun table sound link member => ?_
  rcases (Keyed.mem_create fun _ => rfl).mp member with there | rfl
  · exact sound link there
  · exact suggestion_sound suggester

theorem createLink_preserves (change : Id) (origin : OriginType) (suggester : Suggester) (input : ObligationLinkInput) :
    (createLink change origin suggester input).Keeps Preserves := by
  refine .bind (.check _) fun _ => writeLinks_preserves _ fun table sound link member => ?_
  rcases (Keyed.mem_create fun _ => rfl).mp member with there | rfl
  · exact sound link there
  · exact suggestion_sound suggester

theorem deleteTerms_preserves (picked : ChangeTerm → Bool) : (writeTerms (·.delete picked)).Keeps Preserves :=
  writeTerms_preserves _ fun _ sound link member => sound link (Keyed.mem_delete.mp member).1

theorem deleteLinks_preserves (picked : ChangeObligation → Bool) : (writeLinks (·.delete picked)).Keeps Preserves :=
  writeLinks_preserves _ fun _ sound link member => sound link (Keyed.mem_delete.mp member).1

theorem preserves_filing : Filing Preserves where
  same := fun _ _ => SameFacts.preserves
  draft := fun id text => updateChange_preserves id _ _ fun _ sound => sound
  change := by
    intro make named suggests
    refine .write fun tables sound => ?_
    rw [sound_iff] at sound ⊢
    refine ⟨fun row member => ?_, sound.2⟩
    rcases (Keyed.mem_create named).mp member with there | rfl
    · exact sound.1 row there
    · obtain ⟨suggested, unconfirmed⟩ := suggests tables.changes.fresh
      rw [RegulatoryChange.typeFact, suggested, unconfirmed]
      exact suggestion_sound _
  term := createTerm_preserves
  link := createLink_preserves

theorem applyColumns_sound (body : ChangePatch) (changeType supersededBy : Option Id) (suggester : Suggester)
    (change : RegulatoryChange) (sound : change.typeFact.Sound) :
    (applyColumns body changeType supersededBy suggester change).typeFact.Sound := by
  unfold applyColumns
  split
  · exact sound
  · exact suggestion_sound suggester

theorem replaceTermLinks_preserves (change : Id) (column : TermColumn) (wanted : List Id) (suggester : Suggester)
    (overturn : Bool) : (replaceTermLinks change column wanted suggester overturn).Keeps Preserves := by
  refine .bind (deleteTerms_preserves _) fun _ => .bind (.when fun _ => deleteTerms_preserves _) fun _ => ?_
  exact .bind (.check _) fun confirmed => .each (fun value => .when fun _ => createTerm_preserves _ _ _ _) _

theorem updateChangeFacts_preserves (now : Now) (who : Principal) (actor : Actor) (id : Id) (body : ChangePatch)
    (stepUp : Option Id) : (updateChangeFacts now who actor id body stepUp).Keeps Preserves := by
  refine .bind (.check _) fun change => .bind (.check _) fun _ => .bind (.check _) fun changeType => ?_
  refine .bind (.check _) fun flags => .bind (.check _) fun terms => .bind (.check _) fun _ => ?_
  refine .bind (.check _) fun supersededBy => .bind (.check _) fun _ => .bind (.check _) fun _ => ?_
  refine .bind (.check _) fun _ => .bind (.check _) fun before => ?_
  refine .bind (.when fun _ => (flagDocuments_same _ _).mono fun _ _ => SameFacts.preserves) fun _ => ?_
  refine .bind (updateChange_preserves _ _ _ (applyColumns_sound _ _ _ _)) fun _ => ?_
  refine .bind (.given (fun _ => replaceTermLinks_preserves _ _ _ _ _) _) fun _ => ?_
  refine .bind (.given (fun _ => replaceTermLinks_preserves _ _ _ _ _) _) fun _ => ?_
  refine .bind (.given (fun _ => storeSoWhat_keeps now preserves_filing _ _ _ _) _) fun _ => ?_
  exact .bind (.check _) fun after => (audited_same _).mono fun _ _ => SameFacts.preserves

theorem setObligationLinks_preserves (now : Now) (who : Principal) (actor : Actor) (id : Id) (body : List ObligationLinkInput)
    (stepUp : Option Id) : (setObligationLinks now who actor id body stepUp).Keeps Preserves := by
  refine .bind (.check _) fun change => .bind (.check _) fun _ => .bind (.check _) fun _ => .bind (.check _) fun confirmed => ?_
  refine .bind (.check _) fun _ => .bind (.check _) fun before => .bind (deleteLinks_preserves _) fun _ => ?_
  refine .bind (.when fun _ => deleteLinks_preserves _) fun _ => ?_
  refine .bind (.each (fun link => .when fun _ => createLink_preserves _ _ _ _) _) fun _ => ?_
  exact (audited_same _).mono fun _ _ => SameFacts.preserves

theorem repoint_preserves (source target : Id) (link : WatchLink) : (repoint source target link).Keeps Preserves := by
  cases link with
  | changeType =>
    refine .write fun tables sound => ?_
    rw [sound_iff] at sound ⊢
    refine ⟨fun row member => ?_, sound.2⟩
    obtain ⟨old, there, rfl⟩ := List.mem_map.mp member
    split
    · exact sound.1 old there
    · exact sound.1 old there
  | flag =>
    refine .bind (.write fun tables sound => ?_) fun _ => writeTerms_preserves _ fun table sound row member => ?_
    · rw [sound_iff] at sound ⊢
      exact ⟨sound.1, fun row member => sound.2.1 row (Keyed.mem_delete.mp member).1, sound.2.2⟩
    · obtain ⟨old, there, rfl⟩ := List.mem_map.mp member
      split
      · exact sound old there
      · exact sound old there

/-- Nobody among them suggested the fact: not the person, not the key and not another key of the agent. -/
structure Independent (who : Principal) (suggester : Suggester) : Prop where
  person : suggester.person ≠ some who.subjectId
  apiKey : suggester.apiKey ≠ some who.subjectId
  agent : suggester.agent = none ∨ suggester.agent ≠ who.agentId

variable {who : Principal}

theorem refuseOwnSuggestion_ok {suggesters : List Suggester} {answer : Unit}
    (passed : refuseOwnSuggestion who suggesters = .ok answer) : ∀ suggester ∈ suggesters, Independent who suggester := by
  induction suggesters with
  | nil => exact nofun
  | cons suggester rest ih =>
    obtain ⟨_, own, passed⟩ := bind_ok.mp passed
    obtain ⟨_, agent, passed⟩ := bind_ok.mp passed
    have own := require_ok.mp own
    intro other member
    rcases List.mem_cons.mp member with rfl | later
    · exact ⟨Ne.symm own.1, Ne.symm own.2, require_ok.mp agent⟩
    · exact ih passed other later

def MayConfirm (who : Principal) : Prop := who.kind = .user ∨ (who.kind = .agent ∧ who.agentId ≠ none)

theorem requireCurationConfirmer_ok {stepUp : Option Id}
    (passed : requireCurationConfirmer who = .ok stepUp) : MayConfirm who := by
  unfold requireCurationConfirmer at passed
  split at passed
  · rename_i agent
    obtain ⟨-, -, passed⟩ := bind_ok.mp passed
    obtain ⟨_, bound, -⟩ := bind_ok.mp passed
    exact .inr ⟨agent, require_ok.mp bound⟩
  · obtain ⟨_, permitted, -⟩ := bind_ok.mp passed
    have permitted := require_ok.mp permitted
    rw [Principal.hasPermission, Bool.and_eq_true] at permitted
    exact .inl (beq_iff_eq.mp permitted.1)

theorem confirmed_sound {suggester : Suggester} (may : MayConfirm who) (other : Independent who suggester)
    (at_ : Instant) : ({ suggested := false, suggester, confirmer := confirmerOf who at_ } : Fact).Sound where
  suggestion := nofun
  confirmation := by
    intro _
    refine ⟨rfl, ?_⟩
    rcases may with user | ⟨agent, bound⟩
    · exact .inl (by simp [confirmerOf, user])
    · exact .inr (by simp [confirmerOf, agent, Option.isSome_iff_ne_none, bound])
  person := by
    intro id named same
    have mine : id = who.subjectId := by simpa [confirmerOf, eq_comm] using (Option.ite_none_right_eq_some.mp named).2
    exact other.person (mine ▸ same)
  apiKey := by
    intro id named same
    have mine : id = who.subjectId := by simpa [confirmerOf, eq_comm] using (Option.ite_none_right_eq_some.mp named).2
    exact other.apiKey (mine ▸ same)
  agent := by
    intro id named same
    have mine : who.agentId = some id := (Option.ite_none_right_eq_some.mp named).2
    rcases other.agent with unbound | differs
    · cases unbound.symm.trans same
    · exact differs (same.trans mine.symm)

/-- The tables once the named facts nobody had confirmed are confirmed. -/
def confirmedTables (tables : Tables) (change : RegulatoryChange) (named : NamedFacts) (confirmer : Confirmer) : Tables :=
  let changes := if (named.typeNamed && change.changeTypeSuggested) = true
    then tables.changes.update (·.id == change.id) (confirmType confirmer) (confirmType_id confirmer) else tables.changes
  let terms := tables.terms.update
    (fun link => link.change == change.id && (named.terms.map (·.id)).contains link.id && link.suggested)
    (confirmTerm confirmer) (confirmTerm_id confirmer)
  let obligations := tables.obligations.update
    (fun link => link.change == change.id && (named.obligations.map (·.id)).contains link.id && link.confirmer.at_.isNone)
    (confirmLink confirmer) (confirmLink_id confirmer)
  { tables with changes, terms, obligations }

variable {change : RegulatoryChange} {named : NamedFacts}

theorem writeConfirmation_ok {tables after : Tables} {confirmer : Confirmer}
    {answer : PUnit} (done : (writeConfirmation change named confirmer).execute tables = (.ok answer, after)) :
    after = confirmedTables tables change named confirmer := by
  obtain ⟨_, first, typed, rest⟩ := Tx.bind_ok.mp done
  have rest := Tx.write_bind_ok.mp rest
  obtain rfl := Tx.write_ok.mp rest
  unfold Tx.when at typed
  unfold confirmedTables
  split at typed
  · rename_i confirms
    obtain rfl := Tx.write_ok.mp typed
    rw [if_pos confirms]
  · rename_i confirms
    obtain ⟨-, rfl⟩ := Tx.pure_ok.mp typed
    rw [if_neg confirms]

theorem confirmCuration_ok {now : Now} {actor : Actor} {id : Id} {body : CurationConfirmInput}
    {stepUp : Option Id} {tables after : Tables} {answer : Unit}
    (done : (confirmCuration now who actor id body stepUp).execute tables = (.ok answer, after)) :
    SameFacts tables after ∨ ∃ change named, changeFor tables id = .ok change ∧
      namedFacts now tables change body = .ok named ∧
      (∀ suggester ∈ named.terms.map (·.suggester) ++ named.obligations.map (·.suggester) ++
        (if named.typeNamed then [change.changeTypeSuggester] else []), Independent who suggester) ∧
      SameFacts (confirmedTables tables change named (confirmerOf who now.at_)) after := by
  obtain ⟨change, found, rest⟩ := Tx.check_bind_ok.mp done
  obtain ⟨run, -, rest⟩ := Tx.check_bind_ok.mp rest
  obtain ⟨-, -, rest⟩ := Tx.check_bind_ok.mp rest
  obtain ⟨named, lists, rest⟩ := Tx.check_bind_ok.mp rest
  obtain ⟨_, others, rest⟩ := Tx.check_bind_ok.mp rest
  obtain ⟨decided, -, rest⟩ := Tx.check_bind_ok.mp rest
  unfold Tx.when at rest
  split at rest
  · refine .inr ⟨change, named, found, lists, refuseOwnSuggestion_ok others, ?_⟩
    obtain ⟨_, middle, written, rest⟩ := Tx.bind_ok.mp rest
    obtain rfl := writeConfirmation_ok written
    have logs : (Tx.given run fun run => Tx.given body.decision fun decision => logGeneration now {
        purpose := .agentReview, model := decision.model, modelVersion := decision.modelVersion, output := decision.output
        agentRunId := some run.id, subjectId := change.id }).Keeps SameFacts :=
      .given (fun run => .given (fun decision => logGeneration_same now _) _) _
    exact Tx.Keeps.ok (.bind logs fun _ => audited_same _) rest
  · obtain ⟨-, rfl⟩ := Tx.pure_ok.mp rest
    exact .inl (refl_of SameFacts _)

theorem namedFacts_ok {now : Now} {body : CurationConfirmInput}
    (found : namedFacts now tables change body = .ok named) :
    (∀ link ∈ named.terms, link ∈ tables.terms.rows) ∧ ∀ link ∈ named.obligations, link ∈ tables.obligations.rows := by
  obtain ⟨-, -, found⟩ := bind_ok.mp found
  obtain ⟨-, -, found⟩ := bind_ok.mp found
  cases found
  refine ⟨fun link member => ?_, fun link member => ?_⟩
  · rcases List.mem_append.mp member with flag | term
    · exact List.mem_of_mem_filter (List.mem_of_mem_filter flag)
    · exact List.mem_of_mem_filter (List.mem_of_mem_filter term)
  · exact List.mem_of_mem_filter (List.mem_of_mem_filter member)

theorem changeFor_ok {id : Id} (found : changeFor tables id = .ok change) :
    change ∈ tables.changes.rows ∧ change.id = id := by
  have found := demand_ok.mp found
  have named := List.find?_some found
  exact ⟨List.mem_of_find?_eq_some found, beq_iff_eq.mp named⟩

theorem confirmedTables_sound {at_ : Instant}
    (may : MayConfirm who) (here : change ∈ tables.changes.rows) (terms : ∀ link ∈ named.terms, link ∈ tables.terms.rows)
    (obligations : ∀ link ∈ named.obligations, link ∈ tables.obligations.rows)
    (others : ∀ suggester ∈ named.terms.map (·.suggester) ++ named.obligations.map (·.suggester) ++
      (if named.typeNamed then [change.changeTypeSuggester] else []), Independent who suggester)
    (sound : Sound tables) : Sound (confirmedTables tables change named (confirmerOf who at_)) := by
  rw [sound_iff] at sound ⊢
  refine ⟨fun row member => ?_, fun link member => ?_, fun link member => ?_⟩
  · unfold confirmedTables at member
    dsimp only at member
    split at member
    · rename_i confirms
      obtain ⟨old, there, rfl⟩ := List.mem_map.mp member
      split
      · rename_i picked
        -- the change's row is the one that was read, since keys are unique
        obtain rfl := tables.changes.eq_of_key there here (beq_iff_eq.mp picked)
        refine confirmed_sound may (others _ (List.mem_append_right _ ?_)) at_
        rw [if_pos (Bool.and_eq_true_iff.mp confirms).1]
        exact List.mem_singleton_self _
      · exact sound.1 old there
    · exact sound.1 row member
  · obtain ⟨old, there, rfl⟩ := List.mem_map.mp member
    split
    · rename_i picked
      obtain ⟨both, -⟩ := Bool.and_eq_true_iff.mp picked
      have listed := List.contains_iff_mem.mp (Bool.and_eq_true_iff.mp both).2
      obtain ⟨link, isNamed, same⟩ := List.mem_map.mp listed
      obtain rfl := tables.terms.eq_of_key (terms link isNamed) there same
      exact confirmed_sound may (others _ (List.mem_append_left _ (List.mem_append_left _ (List.mem_map_of_mem isNamed)))) at_
    · exact sound.2.1 old there
  · obtain ⟨old, there, rfl⟩ := List.mem_map.mp member
    split
    · rename_i picked
      obtain ⟨both, -⟩ := Bool.and_eq_true_iff.mp picked
      have listed := List.contains_iff_mem.mp (Bool.and_eq_true_iff.mp both).2
      obtain ⟨link, isNamed, same⟩ := List.mem_map.mp listed
      obtain rfl := tables.obligations.eq_of_key (obligations link isNamed) there same
      exact confirmed_sound may (others _ (List.mem_append_left _ (List.mem_append_right _ (List.mem_map_of_mem isNamed)))) at_
    · exact sound.2.2 old there

theorem serve_preserves (request : Request) : (serve request).Keeps Preserves := by
  obtain ⟨who, actor, now, call⟩ := request
  unfold serve
  cases call with
  | register body => exact .atomic (.bind (.check _) fun _ => registerChange_keeps now preserves_filing who actor body)
  | addDocument change body =>
    exact .atomic (.bind (.check _) fun _ => (addDocument_same now who actor change body).mono fun _ _ => SameFacts.preserves)
  | addEvent change body =>
    exact .atomic (.bind (.check _) fun _ => (addEvent_same actor change body).mono fun _ _ => SameFacts.preserves)
  | updateEvent change event body =>
    exact .atomic (.bind (.check _) fun _ => (updateEvent_same actor change event body).mono fun _ _ => SameFacts.preserves)
  | update change body => exact .atomic (.bind (.check _) fun _ => updateChangeFacts_preserves now who actor change body _)
  | setObligations change body =>
    exact .atomic (.bind (.check _) fun _ => setObligationLinks_preserves now who actor change body _)
  | approveMerge link source target => exact .atomic (.bind (.check _) fun _ => repoint_preserves source target link)
  | confirm change body =>
    -- whether a confirmation is sound hangs on what was read before the write
    refine fun tables sound => (Tx.Clean.atomic _).left_invariant Sound sound fun answer after done => ?_
    obtain ⟨stepUp, passed, done⟩ := Tx.check_bind_ok.mp (Tx.atomic_ok.mp done)
    rcases confirmCuration_ok done with same | ⟨row, named, found, lists, others, same⟩
    · exact same.preserves sound
    · obtain ⟨terms, obligations⟩ := namedFacts_ok lists
      exact same.preserves (confirmedTables_sound (requireCurationConfirmer_ok passed) (changeFor_ok found).1 terms obligations
        others sound)

/-- In every run of calls by anybody, whatever each finds outside the watch, a fact carries a confirmation exactly when it is
confirmed, and its confirmer is another person, another key and another agent than its suggester. -/
theorem run_sound (requests : List Request) : ∀ fact ∈ facts (Tx.runs serve {} requests), fact.Sound := by
  refine Tx.runs_invariant Sound ?_ (fun tables request sound => serve_preserves request tables sound) requests
  exact List.forall_mem_nil _

/-- A library of one type of change and two flags. -/
def twoFlags : Now where
  records := {
    rows := [
      { id := 1, list := changeTypeList, key := "rule" }, { id := 2, list := flagList, key := "urgent" },
      { id := 3, list := flagList, key := "pressing" }, { id := 4, list := "term_dimension", key := regimeDimension }]
    terms := [{ id := 5, dimension := 4, key := "eu" }] }
  screen := fun _ => []
  at_ := 0
  maxChanges := 10
  maxOutput := 100

def reviewer (id : Id) : Principal where
  kind := .user
  subjectId := id
  permissions := [permissionProposalsReview]
  stepUpAssertionId := some 30

/-- A change registered with two flags, one of which a second person confirms. -/
def flaggedRun : List Request :=
  let body : ChangeInput := {
    stableKey := "reform", title := "A reform", changeType := "rule", flags := ["urgent", "pressing"], termIds := [5] }
  [{ who := reviewer 8, actor := { kind := .user }, now := twoFlags, call := .register body },
    { who := reviewer 9, actor := { kind := .user }, now := twoFlags, call := .confirm 0 { flags := ["urgent"] } }]

/-- The flag one person suggested and another confirmed. -/
theorem flagged_sound : ∃ fact ∈ facts (Tx.runs serve {} flaggedRun),
    fact.suggester.person = some 8 ∧ fact.confirmer.person = some 9 ∧ fact.Sound := by
  have confirmed : ∃ fact ∈ facts (Tx.runs serve {} flaggedRun),
      fact.suggester.person = some 8 ∧ fact.confirmer.person = some 9 := by decide +kernel
  obtain ⟨fact, held, suggester, confirmer⟩ := confirmed
  exact ⟨fact, held, suggester, confirmer, run_sound flaggedRun fact held⟩

end Grc.Watch
