import Grc.Taxonomy.FootprintRequests
import Grc.Lib.Journal

/-! The footprint's history as a record to replay: the bank's rows give back its terms, the
companies' rows their exclusions, and the item rows the status of every item that was ever
approved. An item that never was has no row, declined or still requested alike. -/
namespace Grc.Taxonomy

open Grc.Shared Grc.Lib

def termSwitch (row : FootprintHistory) : Option (Switch Id) :=
  match row.subject with
  | .term term => some ⟨term, row.action == .added⟩
  | _ => none

/-- A row about one company's scope: `removed` takes the term out of it. -/
def exclusionSwitch (row : FootprintHistory) : Option (Switch (Id × Id)) :=
  match row.subject with
  | .entityTerm orgUnit term => some ⟨(orgUnit, term), row.action == .removed⟩
  | _ => none

def itemSwitch (row : FootprintHistory) : Option (Switch Id) :=
  match row.subject with
  | .scopeItem item => some ⟨item, row.action == .added⟩
  | _ => none

section
variable (history : List FootprintHistory)

def termJournal : List (Switch Id) := history.filterMap termSwitch
def exclusionJournal : List (Switch (Id × Id)) :=
  history.filterMap exclusionSwitch

def itemJournal : List (Switch Id) := history.filterMap itemSwitch
def replayedStatus (item : Id) : Option ScopeItemStatus :=
  (lastTurn (itemJournal history) item).map fun on => if on then .inScope else .removed

end

def ScopeItemStatus.approved : ScopeItemStatus → Bool
  | .inScope | .removed => true
  | .requested | .declined => false

def ScopeItemStatus.recorded (status : ScopeItemStatus) : Option ScopeItemStatus :=
  if status.approved then some status else none

variable {context : SwitchContext} {reads : FootprintReads} {state : FootprintState}

section Rows
variable (history : List FootprintHistory) (action : FootprintAction) (orgUnit term item : Id)

@[simp] theorem termJournal_term :
    termJournal (history ++ [historyRow context (.term term) action]) =
      termJournal history ++ [⟨term, action == .added⟩] := by
  simp [termJournal, termSwitch, historyRow]

@[simp] theorem termJournal_entityTerm :
    termJournal (history ++ [historyRow context (.entityTerm orgUnit term) action]) = termJournal history := by
  simp [termJournal, termSwitch, historyRow]

@[simp] theorem termJournal_scopeItem :
    termJournal (history ++ [historyRow context (.scopeItem item) action]) = termJournal history := by
  simp [termJournal, termSwitch, historyRow]

@[simp] theorem exclusionJournal_term :
    exclusionJournal (history ++ [historyRow context (.term term) action]) = exclusionJournal history := by
  simp [exclusionJournal, exclusionSwitch, historyRow]

@[simp] theorem exclusionJournal_entityTerm :
    exclusionJournal (history ++ [historyRow context (.entityTerm orgUnit term) action]) =
      exclusionJournal history ++ [⟨(orgUnit, term), action == .removed⟩] := by
  simp [exclusionJournal, exclusionSwitch, historyRow]

@[simp] theorem exclusionJournal_scopeItem :
    exclusionJournal (history ++ [historyRow context (.scopeItem item) action]) =
      exclusionJournal history := by
  simp [exclusionJournal, exclusionSwitch, historyRow]

@[simp] theorem itemJournal_term :
    itemJournal (history ++ [historyRow context (.term term) action]) = itemJournal history := by
  simp [itemJournal, itemSwitch, historyRow]

@[simp] theorem itemJournal_entityTerm :
    itemJournal (history ++ [historyRow context (.entityTerm orgUnit term) action]) = itemJournal history := by
  simp [itemJournal, itemSwitch, historyRow]

@[simp] theorem itemJournal_scopeItem :
    itemJournal (history ++ [historyRow context (.scopeItem item) action]) =
      itemJournal history ++ [⟨item, action == .added⟩] := by
  simp [itemJournal, itemSwitch, historyRow]

end Rows

/-- What the history of a bank's footprint says of its tables. -/
structure Replayable (state : FootprintState) : Prop where
  terms : Records (termJournal state.history) (· ∈ state.followed)
  exclusions : Records (exclusionJournal state.history) (· ∈ state.excluded)
  items : ∀ item ∈ state.scopeItems, replayedStatus state.history item.id = item.status.recorded
  /-- Only stored items have rows, and a new one gets an id of its own. -/
  named : ∀ id, replayedStatus state.history id ≠ none → id ∈ state.scopeItems.map (·.id)
  fresh : ∀ item ∈ state.scopeItems, item.id < state.nextId

theorem empty_replayable (tenantId : Id) : Replayable (.empty tenantId) where
  terms := by simpa [FootprintState.empty, FootprintState.followed, termJournal] using records_nil
  exclusions := by simpa [FootprintState.empty, FootprintState.excluded, exclusionJournal] using records_nil
  items := by simp [FootprintState.empty]
  named := by simp [FootprintState.empty, replayedStatus, itemJournal]
  fresh := by simp [FootprintState.empty]

theorem replayedStatus_congr {history later : List FootprintHistory}
    (same : itemJournal later = itemJournal history) : replayedStatus later = replayedStatus history := by
  funext item
  simp [replayedStatus, same]

theorem switchOnTerm_replayable (term : TaxonomyTerm) (replayable : Replayable state) :
    Replayable (switchOnTerm context state term) := by
  unfold switchOnTerm
  split
  · exact replayable
  · rename_i absent
    have same : replayedStatus (state.history ++ [historyRow context (.term term.id) .added]) =
        replayedStatus state.history := replayedStatus_congr (by simp)
    refine ⟨?_, ?_, ?_, ?_, ?_⟩
    · rw [termJournal_term]
      apply replayable.terms.turnOn absent
      intro other
      simp [FootprintState.followed, or_comm]
    · rw [exclusionJournal_term]
      exact replayable.exclusions
    · rw [same]
      exact replayable.items
    · rw [same]
      exact replayable.named
    · intro item stored
      exact Nat.lt_succ_of_lt (replayable.fresh item stored)

theorem switchOffTerm_replayable (term : TaxonomyTerm) (replayable : Replayable state) :
    Replayable (switchOffTerm context state term) := by
  unfold switchOffTerm
  split
  · exact replayable
  · rename_i row found
    have followed : term.id ∈ state.followed := by
      have named : row.term = term.id := by simpa using List.find?_some found
      exact named ▸ List.mem_map_of_mem (List.mem_of_find?_eq_some found)
    have same : replayedStatus (state.history ++ [historyRow context (.term term.id) .removed]) =
        replayedStatus state.history := replayedStatus_congr (by simp)
    refine ⟨?_, ?_, ?_, ?_, replayable.fresh⟩
    · rw [termJournal_term]
      apply replayable.terms.turnOff followed
      intro other
      simp only [FootprintState.followed, List.mem_map, List.mem_filter, bne_iff_ne]
      grind
    · rw [exclusionJournal_term]
      exact replayable.exclusions
    · rw [same]
      exact replayable.items
    · rw [same]
      exact replayable.named

theorem switchEntity_replayable (action : FootprintAction) (line : EntityLine)
    (replayable : Replayable state) : Replayable (switchEntity context action state line) := by
  have same : replayedStatus (state.history ++
      [historyRow context (.entityTerm line.1.id line.2.id) action]) = replayedStatus state.history :=
    replayedStatus_congr (by simp)
  cases action with
  | removed =>
    by_cases there : line.ids ∈ state.excluded
    · simpa [switchEntity, there] using replayable
    · simp only [switchEntity, there, dite_false]
      refine ⟨?_, ?_, ?_, ?_, replayable.fresh⟩
      · rw [termJournal_entityTerm]
        exact replayable.terms
      · rw [exclusionJournal_entityTerm]
        apply replayable.exclusions.turnOn there
        intro other
        simp [FootprintState.excluded, EntityScopeExclusion.line, EntityLine.ids, or_comm, eq_comm]
      · rw [same]
        exact replayable.items
      · rw [same]
        exact replayable.named
  | added =>
    by_cases there : line.ids ∈ state.excluded
    · simp only [switchEntity, there, if_true]
      refine ⟨?_, ?_, ?_, ?_, replayable.fresh⟩
      · rw [termJournal_entityTerm]
        exact replayable.terms
      · rw [exclusionJournal_entityTerm]
        apply replayable.exclusions.turnOff there
        intro other
        simp only [FootprintState.excluded, List.mem_map, List.mem_filter, bne_iff_ne]
        grind
      · rw [same]
        exact replayable.items
      · rw [same]
        exact replayable.named
    · simpa [switchEntity, there] using replayable

theorem replayedStatus_append (history : List FootprintHistory) (item other : Id) (action : FootprintAction) :
    replayedStatus (history ++ [historyRow context (.scopeItem item) action]) other =
      if other = item then some action.itemStatus else replayedStatus history other := by
  unfold replayedStatus
  rw [itemJournal_scopeItem, lastTurn_append]
  by_cases same : other = item
  · cases action <;> simp [same, FootprintAction.itemStatus]
  · simp [same]

@[simp] theorem setItemStatus_ids (itemId : Id) (status : ScopeItemStatus) (items : List ScopeItem) :
    (setItemStatus itemId status items).map (·.id) = items.map (·.id) := by
  unfold setItemStatus
  rw [List.map_map]
  apply List.map_congr_left
  intro item _
  by_cases same : item.id = itemId <;> simp [same]

theorem mem_setItemStatus {itemId : Id} {status : ScopeItemStatus} {items : List ScopeItem}
    {item : ScopeItem} (stored : item ∈ setItemStatus itemId status items) :
    (item.id = itemId ∧ item.status = status) ∨ (item.id ≠ itemId ∧ item ∈ items) := by
  obtain ⟨before, listed, rfl⟩ := List.mem_map.mp stored
  by_cases same : before.id = itemId
  · left
    simp [same]
  · right
    simpa [same] using listed

theorem switchItem_replayable (action : FootprintAction) (item : ScopeItem)
    (stored : item.id ∈ state.scopeItems.map (·.id)) (replayable : Replayable state) :
    Replayable (switchItem context reads action state item) := by
  refine ⟨?_, ?_, ?_, ?_, ?_⟩
  · simp only [switchItem, termJournal_scopeItem]
    exact replayable.terms
  · simp only [switchItem, exclusionJournal_scopeItem]
    exact replayable.exclusions
  · intro other member
    simp only [switchItem, replayedStatus_append]
    rcases mem_setItemStatus member with ⟨same, status⟩ | ⟨different, member⟩
    · cases action <;> simp [same, status, FootprintAction.itemStatus, ScopeItemStatus.recorded,
        ScopeItemStatus.approved]
    · simpa [different] using replayable.items other member
  · intro other recorded
    simp only [switchItem, setItemStatus_ids]
    simp only [switchItem, replayedStatus_append] at recorded
    by_cases same : other = item.id
    · exact same ▸ stored
    · rw [if_neg same] at recorded
      exact replayable.named other recorded
  · intro other member
    have listed : other.id ∈ state.scopeItems.map (·.id) := by
      have listed := List.mem_map_of_mem (f := (·.id)) member
      rwa [switchItem, setItemStatus_ids] at listed
    obtain ⟨before, member, same⟩ := List.mem_map.mp listed
    exact same ▸ replayable.fresh before member

@[simp] theorem switchOn_scopeItems (terms : List TaxonomyTerm) :
    (switchOn context terms state).scopeItems = state.scopeItems := by
  unfold switchOn
  induction terms generalizing state with
  | nil => rfl
  | cons term rest ih =>
    rw [List.foldl_cons, ih, switchOnTerm]
    split <;> rfl

@[simp] theorem switchOff_scopeItems (terms : List TaxonomyTerm) :
    (switchOff context terms state).scopeItems = state.scopeItems := by
  unfold switchOff
  induction terms generalizing state with
  | nil => rfl
  | cons term rest ih =>
    rw [List.foldl_cons, ih, switchOffTerm]
    split <;> rfl

theorem switchOn_replayable (terms : List TaxonomyTerm) (replayable : Replayable state) :
    Replayable (switchOn context terms state) :=
  List.foldlRecOn terms _ replayable fun _ kept term _ => switchOnTerm_replayable term kept

theorem switchOff_replayable (terms : List TaxonomyTerm) (replayable : Replayable state) :
    Replayable (switchOff context terms state) :=
  List.foldlRecOn terms _ replayable fun _ kept term _ => switchOffTerm_replayable term kept

theorem switchEntities_replayable (action : FootprintAction) (lines : List EntityLine)
    (replayable : Replayable state) : Replayable (switchEntities context action lines state) :=
  List.foldlRecOn lines _ replayable fun _ kept line _ => switchEntity_replayable action line kept

theorem switchItems_replayable (context : SwitchContext) (reads : FootprintReads)
    (action : FootprintAction) (items : List ScopeItem)
    (stored : ∀ item ∈ items, item.id ∈ state.scopeItems.map (·.id)) (replayable : Replayable state) :
    Replayable (switchItems context reads action items state) ∧
      (switchItems context reads action items state).scopeItems.map (·.id) =
        state.scopeItems.map (·.id) := by
  refine List.foldlRecOn (motive := fun next => Replayable next ∧
    next.scopeItems.map (·.id) = state.scopeItems.map (·.id)) items _ ⟨replayable, rfl⟩ ?_
  intro next ⟨kept, ids⟩ item member
  exact ⟨switchItem_replayable action item (ids ▸ stored item member) kept,
    (setItemStatus_ids _ _ _).trans ids⟩

theorem itemsNamed_stored {ids : List Id} {item : ScopeItem} (named : item ∈ itemsNamed state ids) :
    item.id ∈ state.scopeItems.map (·.id) := by
  obtain ⟨id, _, found⟩ := List.mem_filterMap.mp named
  exact List.mem_map_of_mem (List.mem_of_find?_eq_some found)

theorem switchAll_replayable (request : FootprintChangeRequest) (replayable : Replayable state) :
    Replayable (switchAll context reads request state) := by
  unfold switchAll
  apply switchEntities_replayable
  apply switchEntities_replayable
  have terms : Replayable (switchOff context (termsNamed reads request.removes)
      (switchOn context (termsNamed reads request.adds) state)) :=
    switchOff_replayable _ (switchOn_replayable _ replayable)
  have stored : ∀ ids, ∀ item ∈ itemsNamed state ids,
      item.id ∈ (switchOff context (termsNamed reads request.removes)
        (switchOn context (termsNamed reads request.adds) state)).scopeItems.map (·.id) := by
    intro ids item named
    simpa using itemsNamed_stored named
  have added := switchItems_replayable context reads .added (itemsNamed state request.itemAdds) (stored _) terms
  exact (switchItems_replayable context reads .removed (itemsNamed state request.itemRemoves)
    (fun item named => added.2 ▸ stored _ item named) added.1).1

theorem mem_numberItems {first : Id} {drafts : List ScopeItemDraft} {item : ScopeItem}
    (numbered : item ∈ numberItems first drafts) :
    first ≤ item.id ∧ item.id < first + (numberItems first drafts).length ∧ item.status = .requested := by
  induction drafts generalizing first with
  | nil => simp [numberItems] at numbered
  | cons draft rest ih =>
    simp only [numberItems, List.mem_cons, List.length_cons] at numbered ⊢
    rcases numbered with rfl | later
    · exact ⟨le_refl _, by simp, rfl⟩
    · obtain ⟨above, below, status⟩ := ih later
      have shifted : first + 1 + (numberItems (first + 1) rest).length =
          first + ((numberItems (first + 1) rest).length + 1) := by
        rw [Nat.add_assoc, Nat.add_comm 1]
      exact ⟨Nat.le_of_succ_le above, shifted ▸ below, status⟩

theorem createRequest_replayable {requester : Id} {actor : Actor} {change : ScopeChange}
    {next : FootprintState} (replayable : Replayable state)
    (accepted : createRequest reads requester actor change state = .ok next) : Replayable next := by
  simp only [createRequest, bind_ok, require_ok] at accepted
  obtain ⟨_, _, _, _, _, _, stored⟩ := accepted
  cases stored
  refine ⟨replayable.terms, replayable.exclusions, ?_, ?_, ?_⟩
  · intro item member
    rcases List.mem_append.mp member with old | new
    · exact replayable.items item old
    · obtain ⟨above, _, status⟩ := mem_numberItems new
      have unnamed : replayedStatus state.history item.id = none := by
        by_contra recorded
        obtain ⟨old, member, same⟩ := List.mem_map.mp (replayable.named item.id recorded)
        have below : item.id < state.nextId := same ▸ replayable.fresh old member
        exact absurd below (Nat.not_lt.mpr (Nat.le_of_succ_le above))
      rw [unnamed, status]
      rfl
  · intro id recorded
    rw [List.map_append]
    exact List.mem_append_left _ (replayable.named id recorded)
  · intro item member
    rcases List.mem_append.mp member with old | new
    · calc item.id < state.nextId := replayable.fresh item old
        _ ≤ state.nextId + 1 := Nat.le_succ _
        _ ≤ _ := Nat.le_add_right _ _
    · exact (mem_numberItems new).2.1

theorem decideRequest_replayable {now : Instant} {decision : Decision} {request : FootprintChangeRequest}
    {preview : FootprintPreview} (replayable : Replayable state) :
    Replayable (decideRequest now decision request preview state) := by
  have ids : (decideRequest now decision request preview state).scopeItems.map (·.id) =
      state.scopeItems.map (·.id) := by
    simp only [decideRequest, List.map_map]
    apply List.map_congr_left
    intro item _
    by_cases declined : item ∈ declinedItems request decision.status state <;> simp [declined]
  refine ⟨replayable.terms, replayable.exclusions, ?_, fun id recorded => ids ▸ replayable.named id recorded, ?_⟩
  · intro item member
    obtain ⟨before, listed, rfl⟩ := List.mem_map.mp member
    have recorded := replayable.items before listed
    by_cases declined : before ∈ declinedItems request decision.status state
    · have requested : before.status = .requested := by
        unfold declinedItems at declined
        split at declined
        · simp at declined
        · have selected := (List.mem_filter.mp declined).2
          simp only [decide_eq_true_eq] at selected
          exact selected.2
      rw [requested] at recorded
      rw [if_pos declined]
      exact recorded
    · rw [if_neg declined]
      exact recorded
  · intro item member
    have listed : item.id ∈ state.scopeItems.map (·.id) := ids ▸ List.mem_map_of_mem member
    obtain ⟨before, member, same⟩ := List.mem_map.mp listed
    exact same ▸ replayable.fresh before member

theorem footprintStep_replayable (call : FootprintReads × FootprintCall) (next : FootprintState)
    (replayable : Replayable state) (accepted : footprintStep state call = .ok next) :
    Replayable next := by
  obtain ⟨reads, call⟩ := call
  cases call with
  | request requester actor body =>
    simp only [footprintStep, bind_ok] at accepted
    obtain ⟨change, _, created⟩ := accepted
    exact createRequest_replayable replayable created
  | approve requestId decider actor note stepUpAssertionId expectedVersion =>
    simp only [footprintStep, approve, bind_ok, require_ok] at accepted
    obtain ⟨request, _, _, _, _, _, _, _, decided⟩ := accepted
    cases decided
    exact decideRequest_replayable (switchAll_replayable request replayable)
  | reject requestId decider actor note expectedVersion =>
    simp only [footprintStep, reject, bind_ok, require_ok] at accepted
    obtain ⟨request, _, _, _, _, _, decided⟩ := accepted
    cases decided
    exact decideRequest_replayable replayable
  | withdraw requestId requester actor expectedVersion =>
    simp only [footprintStep, withdraw, bind_ok, require_ok] at accepted
    obtain ⟨request, _, _, _, _, _, decided⟩ := accepted
    cases decided
    exact decideRequest_replayable replayable
  | seed actor terms =>
    cases accepted
    exact switchOn_replayable terms replayable
  | unseed actor terms =>
    cases accepted
    exact switchOff_replayable terms replayable

theorem run_replayable (tenantId : Id) (calls : List (FootprintReads × FootprintCall)) :
    Replayable (run footprintStep (.empty tenantId) calls) :=
  run_invariant (empty_replayable tenantId)
    (fun _ call next replayable accepted => footprintStep_replayable call next replayable accepted) calls

/-- After any run of operations the history, replayed in the order it was written, gives the
terms of the bank's scope and the companies' exclusions, and the status of every scope item
an approval decided; an item still requested or declined has no row. -/
theorem run_historyReplays (tenantId : Id) (calls : List (FootprintReads × FootprintCall)) :
    let state := run footprintStep (.empty tenantId) calls
    (∀ term, term ∈ replay (termJournal state.history) ↔ term ∈ state.footprintTerms.map (·.term)) ∧
    (∀ line, line ∈ replay (exclusionJournal state.history) ↔ line ∈ state.exclusions.map (·.line)) ∧
    ∀ item ∈ state.scopeItems, replayedStatus state.history item.id =
      if item.status = .inScope ∨ item.status = .removed then some item.status else none := by
  intro state
  have replayable : Replayable state := run_replayable tenantId calls
  refine ⟨replayable.terms.replayed, replayable.exclusions.replayed, ?_⟩
  intro item stored
  rw [replayable.items item stored]
  cases item.status <;> rfl

/-- One regime and one jurisdiction. -/
def smallReads : FootprintReads where
  table := {
    terms := [{ id := 1, key := "crypto", dimension := { id := 1, key := "regime" } }]
    termIds := by simp
    termKeys := by simp
    dimensionIds := by simp
    dimensionKeys := by simp }
  dimensions := [{ id := 1, key := "regime" }]
  jurisdictions := [{ id := 1, key := "se" }]
  now := 1

def askForItem : FootprintCall :=
  .request 7 { kind := .user, id := some 7 }
    { scopeItemAdds := [{ name := "rules", jurisdiction := "se", regimeTerm := "crypto"
                          sourceUrl := "https://fi.se/rules" }] }

def turnItDown : FootprintCall := .reject 0 8 { kind := .user, id := some 8 } "" none

/-- The item is requested before the rejection and declined after it, and the history holds
nothing either time: no way of folding it tells the two apart. -/
theorem declinedItem_unrecorded :
    ¬∃ fold : List FootprintHistory → Id → Option ScopeItemStatus,
      ∀ calls, ∀ item ∈ (run footprintStep (.empty 1) calls).scopeItems,
        fold (run footprintStep (.empty 1) calls).history item.id = some item.status := by
  rintro ⟨fold, replays⟩
  have asked : ∃ item, (run footprintStep (.empty 1) [(smallReads, askForItem)]).scopeItems = [item] ∧
      item.id = 1 ∧ item.status = .requested := ⟨_, rfl, rfl, rfl⟩
  have declined : ∃ item, (run footprintStep (.empty 1)
      [(smallReads, askForItem), (smallReads, turnItDown)]).scopeItems = [item] ∧
      item.id = 1 ∧ item.status = .declined := ⟨_, rfl, rfl, rfl⟩
  obtain ⟨item, stored, named, status⟩ := asked
  have first := replays _ item (stored ▸ List.mem_singleton_self item)
  obtain ⟨later, storedLater, namedLater, statusLater⟩ := declined
  have second := replays _ later (storedLater ▸ List.mem_singleton_self later)
  have unrecorded : (run footprintStep (.empty 1) [(smallReads, askForItem)]).history =
      (run footprintStep (.empty 1) [(smallReads, askForItem), (smallReads, turnItDown)]).history := rfl
  rw [named, status, unrecorded] at first
  rw [namedLater, statusLater, first] at second
  simp at second

end Grc.Taxonomy
