import Grc.Taxonomy.FootprintReplay

/-! The requests of a bank's scope over any run: one waits at a time, each is decided once and by a second person, and
only an approval changes the scope. -/
namespace Grc.Taxonomy

open Grc.Shared Grc.Lib

/-- The request a call decides. -/
def FootprintCall.decides : FootprintCall → Option Id
  | .approve requestId .. => some requestId
  | .reject requestId .. => some requestId
  | .withdraw requestId .. => some requestId
  | _ => none

def FootprintCall.turnsDown : FootprintCall → Option Id
  | .reject requestId .. => some requestId
  | .withdraw requestId .. => some requestId
  | _ => none

/-- The requests that were decided over a run, oldest decision first. -/
def decisions (state : FootprintState) : List (FootprintReads × FootprintCall) → List Id
  | [] => []
  | call :: rest =>
    let made := match footprintStep state call with
      | .ok _ => call.2.decides.toList
      | .error _ => []
    made ++ decisions (settle footprintStep state call) rest

def FootprintState.pending (state : FootprintState) : List FootprintChangeRequest :=
  state.requests.filter fun request => request.status = .pending

/-- What a switch leaves alone: the requests, and which items there are. -/
structure SwitchFrame (before after : FootprintState) : Prop where
  requests : after.requests = before.requests
  items : after.scopeItems.map (·.id) = before.scopeItems.map (·.id)
  nextId : before.nextId ≤ after.nextId

instance : Std.Refl SwitchFrame := ⟨fun _ => ⟨rfl, rfl, le_refl _⟩⟩

instance : IsTrans FootprintState SwitchFrame :=
  ⟨fun _ _ _ first second => ⟨second.requests.trans first.requests, second.items.trans first.items,
    first.nextId.trans second.nextId⟩⟩

variable {state next : FootprintState} {context : SwitchContext} {reads : FootprintReads}

theorem foldl_frame {α : Type} {turn : FootprintState → α → FootprintState} (items : List α)
    (framed : ∀ state item, SwitchFrame state (turn state item)) (state : FootprintState) :
    SwitchFrame state (items.foldl turn state) := by
  induction items generalizing state with
  | nil => exact refl_of SwitchFrame state
  | cons item rest ih => exact trans_of SwitchFrame (framed state item) (ih _)

theorem switchOn_frame (terms : List TaxonomyTerm) : SwitchFrame state (switchOn context terms state) := by
  refine foldl_frame terms (fun state term => ?_) state
  unfold switchOnTerm
  split
  · exact refl_of SwitchFrame state
  · exact ⟨rfl, rfl, Nat.le_succ _⟩

theorem switchOff_frame (terms : List TaxonomyTerm) : SwitchFrame state (switchOff context terms state) := by
  refine foldl_frame terms (fun state term => ?_) state
  unfold switchOffTerm
  split
  · exact refl_of SwitchFrame state
  · exact ⟨rfl, rfl, le_refl _⟩

theorem switchEntities_frame (action : FootprintAction) (lines : List EntityLine) :
    SwitchFrame state (switchEntities context action lines state) := by
  refine foldl_frame lines (fun state line => ?_) state
  unfold switchEntity
  cases action with
  | removed =>
    dsimp only
    split
    · exact refl_of SwitchFrame state
    · exact ⟨rfl, rfl, le_refl _⟩
  | added =>
    dsimp only
    split
    · exact ⟨rfl, rfl, le_refl _⟩
    · exact refl_of SwitchFrame state

theorem switchItems_frame (action : FootprintAction) (items : List ScopeItem) :
    SwitchFrame state (switchItems context reads action items state) := by
  refine foldl_frame items (fun state item => ?_) state
  exact ⟨rfl, setItemStatus_ids _ _ _, le_refl _⟩

theorem switchAll_frame (request : FootprintChangeRequest) : SwitchFrame state (switchAll context reads request state) :=
  trans_of SwitchFrame (switchOn_frame _) (trans_of SwitchFrame (switchOff_frame _) (trans_of SwitchFrame (switchItems_frame _ _)
    (trans_of SwitchFrame (switchItems_frame _ _) (trans_of SwitchFrame (switchEntities_frame _ _) (switchEntities_frame _ _)))))

/-- What holds of the requests of a bank, given which were decided so far. -/
structure RequestsSound (state : FootprintState) (decided : List Id) : Prop where
  replayable : Replayable state
  onePending : state.pending.length ≤ 1
  numbered : ∀ request ∈ state.requests, request.id < state.nextId
  once : decided.Nodup
  gone : ∀ id ∈ decided, id < state.nextId ∧ ∀ request ∈ state.requests, request.id = id → request.status ≠ .pending
  fourEyes : ∀ request ∈ state.requests, request.status = .approved ∨ request.status = .rejected →
    ∃ decider, request.decidedBy = some decider ∧ decider ≠ request.requestedBy
  waiting : ∀ request ∈ state.pending, ∀ item ∈ state.scopeItems, item.id ∈ request.itemAdds → item.status = .requested

theorem empty_requestsSound (tenantId : Id) : RequestsSound (.empty tenantId) [] where
  replayable := empty_replayable tenantId
  onePending := Nat.zero_le 1
  numbered := List.forall_mem_nil _
  once := List.nodup_nil
  gone := List.forall_mem_nil _
  fourEyes := List.forall_mem_nil _
  waiting := List.forall_mem_nil _

variable {decided : List Id}

theorem createRequest_requestsSound {requester : Id} {actor : Actor} {change : ScopeChange}
    (created : createRequest reads requester actor change state = .ok next) (sound : RequestsSound state decided) :
    RequestsSound next decided := by
  have kept := createRequest_replayable sound.replayable created
  obtain ⟨_, -, created⟩ := bind_ok.mp created
  obtain ⟨_, free, created⟩ := bind_ok.mp created
  obtain ⟨_, -, created⟩ := bind_ok.mp created
  have free := require_ok.mp free
  have none_ : state.pending = [] := List.filter_eq_nil_iff.mpr fun request member => by simpa using free request member
  have grows : state.nextId < next.nextId := by
    cases created
    exact Nat.lt_of_lt_of_le (Nat.lt_succ_self _) (Nat.le_add_right _ _)
  cases created
  refine ⟨kept, ?_, fun request member => ?_, sound.once, fun id member => ?_, fun request member decided => ?_,
    fun request member item stored named => ?_⟩
  · rw [FootprintState.pending, List.filter_append, ← FootprintState.pending, none_]
    exact le_refl 1
  · rcases mem_concat.mp member with old | rfl
    · exact (sound.numbered request old).trans grows
    · exact grows
  · obtain ⟨below, away⟩ := sound.gone id member
    refine ⟨below.trans grows, fun request member same => ?_⟩
    rcases mem_concat.mp member with old | rfl
    · exact away request old same
    · exact absurd same.symm (Nat.ne_of_lt below)
  · rcases mem_concat.mp member with old | rfl
    · exact sound.fourEyes request old decided
    · rcases decided with approved | rejected
      · cases approved
      · cases rejected
  · obtain ⟨listed, waits⟩ := List.mem_filter.mp member
    rcases List.mem_append.mp listed with old | new
    · exact absurd (of_decide_eq_true waits) (free request old)
    · obtain rfl := List.mem_singleton.mp new
      rcases List.mem_append.mp stored with old | new
      · -- an item there was already is numbered below the new ones
        obtain ⟨added, isNew, same⟩ := List.mem_map.mp named
        have below : item.id < state.nextId := sound.replayable.fresh item old
        have above : state.nextId < added.id := (mem_numberItems isNew).1
        exact absurd same (Nat.ne_of_gt (below.trans above))
      · exact (mem_numberItems new).2.2

variable {request : FootprintChangeRequest}

theorem requestNamed_ok {requestId : Id}
    (named : requestNamed state requestId = .ok request) : request ∈ state.requests ∧ request.id = requestId := by
  have found := demand_ok.mp named
  have same := List.find?_some found
  exact ⟨List.mem_of_find?_eq_some found, beq_iff_eq.mp same⟩

variable {preview : FootprintPreview} {decision : Decision}

/-- The one request that waits is decided, by somebody else when it is approved or rejected. -/
theorem decideRequest_requestsSound {now : Instant}
    {middle : FootprintState} (frame : SwitchFrame state middle)
    (replayable : Replayable middle) (sound : RequestsSound state decided) (here : request ∈ state.requests)
    (waits : request.status = .pending) (made : decision.status ≠ .pending)
    (other : decision.status = .approved ∨ decision.status = .rejected →
      ∃ decider, decision.decider = some decider ∧ decider ≠ request.requestedBy) :
    RequestsSound (decideRequest now decision request preview middle) (decided ++ [request.id]) := by
  have waiting : request ∈ state.pending := List.mem_filter.mpr ⟨here, decide_eq_true waits⟩
  have only : ∀ row ∈ state.pending, row = request := by
    obtain ⟨first, single⟩ := List.length_eq_one_iff.mp (le_antisymm sound.onePending (List.length_pos_of_mem waiting))
    intro row member
    rw [single, List.mem_singleton] at member waiting
    exact member.trans waiting.symm
  have none_ : (decideRequest now decision request preview middle).pending = [] := by
    refine List.filter_eq_nil_iff.mpr fun row member => ?_
    obtain ⟨old, there, rfl⟩ := List.mem_map.mp member
    rw [frame.requests] at there
    rw [decide_eq_true_iff]
    split
    · exact made
    · rename_i apart
      exact fun pending => apart (congrArg (·.id) (only old (List.mem_filter.mpr ⟨there, decide_eq_true pending⟩)))
  have fresh : request.id ∉ decided := fun already => (sound.gone request.id already).2 request here rfl waits
  refine ⟨decideRequest_replayable replayable, ?_, fun row member => ?_, ?_, fun id member => ?_, fun row member isDecided => ?_, ?_⟩
  · rw [none_]
    exact Nat.zero_le 1
  · obtain ⟨old, there, rfl⟩ := List.mem_map.mp member
    rw [frame.requests] at there
    have below := (sound.numbered old there).trans_le frame.nextId
    split
    · exact (sound.numbered request here).trans_le frame.nextId
    · exact below
  · exact List.concat_eq_append ▸ sound.once.concat fresh
  · refine ⟨?_, fun row there _ pending => ?_⟩
    · rcases mem_concat.mp member with old | rfl
      · exact (sound.gone id old).1.trans_le frame.nextId
      · exact (sound.numbered request here).trans_le frame.nextId
    · have gone := List.filter_eq_nil_iff.mp none_ row there
      exact gone (decide_eq_true pending)
  · obtain ⟨old, there, rfl⟩ := List.mem_map.mp member
    rw [frame.requests] at there
    split at isDecided
    · rename_i same
      rw [if_pos same]
      exact other isDecided
    · rename_i apart
      rw [if_neg apart]
      exact sound.fourEyes old there isDecided
  · intro row member
    rw [none_] at member
    cases member

theorem RequestsSound.seeded (sound : RequestsSound state decided) (frame : SwitchFrame state next)
    (items : next.scopeItems = state.scopeItems) (replayable : Replayable next) : RequestsSound next decided := by
  have pending : next.pending = state.pending := by
    unfold FootprintState.pending
    rw [frame.requests]
  refine ⟨replayable, pending ▸ sound.onePending, fun request member => ?_, sound.once, fun id member => ?_, ?_, ?_⟩
  · exact (sound.numbered request (frame.requests ▸ member)).trans_le frame.nextId
  · obtain ⟨below, away⟩ := sound.gone id member
    exact ⟨below.trans_le frame.nextId, fun request there => away request (frame.requests ▸ there)⟩
  · rw [frame.requests]
    exact sound.fourEyes
  · rw [pending, items]
    exact sound.waiting

theorem decidable_ok {expectedVersion : Option Nat} {answer : Unit}
    (passed : decidable request expectedVersion = .ok answer) : request.status = .pending := by
  obtain ⟨_, pending, -⟩ := bind_ok.mp passed
  exact require_ok.mp pending

variable {call : FootprintReads × FootprintCall}

theorem footprintStep_requestsSound
    (accepted : footprintStep state call = .ok next) (sound : RequestsSound state decided) :
    RequestsSound next (decided ++ call.2.decides.toList) := by
  obtain ⟨reads, call⟩ := call
  cases call with
  | request requester actor body =>
    obtain ⟨change, -, created⟩ := bind_ok.mp accepted
    exact (List.append_nil decided).symm ▸ createRequest_requestsSound created sound
  | approve requestId decider actor note stepUpAssertionId expectedVersion =>
    obtain ⟨request, named, accepted⟩ := bind_ok.mp accepted
    obtain ⟨_, passed, accepted⟩ := bind_ok.mp accepted
    obtain ⟨_, other, accepted⟩ := bind_ok.mp accepted
    obtain ⟨_, -, accepted⟩ := bind_ok.mp accepted
    cases accepted
    obtain ⟨here, rfl⟩ := requestNamed_ok named
    exact decideRequest_requestsSound (switchAll_frame request) (switchAll_replayable request sound.replayable) sound here
      (decidable_ok passed) nofun fun _ => ⟨decider, rfl, (require_ok.mp other).symm⟩
  | reject requestId decider actor note expectedVersion =>
    obtain ⟨request, named, accepted⟩ := bind_ok.mp accepted
    obtain ⟨_, passed, accepted⟩ := bind_ok.mp accepted
    obtain ⟨_, other, accepted⟩ := bind_ok.mp accepted
    cases accepted
    obtain ⟨here, rfl⟩ := requestNamed_ok named
    exact decideRequest_requestsSound (refl_of SwitchFrame state) sound.replayable sound here (decidable_ok passed) nofun
      fun _ => ⟨decider, rfl, (require_ok.mp other).symm⟩
  | withdraw requestId requester actor expectedVersion =>
    obtain ⟨request, named, accepted⟩ := bind_ok.mp accepted
    obtain ⟨_, -, accepted⟩ := bind_ok.mp accepted
    obtain ⟨_, passed, accepted⟩ := bind_ok.mp accepted
    cases accepted
    obtain ⟨here, rfl⟩ := requestNamed_ok named
    refine decideRequest_requestsSound (refl_of SwitchFrame state) sound.replayable sound here (decidable_ok passed) nofun ?_
    rintro (approved | rejected)
    · cases approved
    · cases rejected
  | seed actor terms =>
    cases accepted
    exact (List.append_nil decided).symm ▸ sound.seeded (switchOn_frame terms) (switchOn_scopeItems terms)
      (switchOn_replayable terms sound.replayable)
  | unseed actor terms =>
    cases accepted
    exact (List.append_nil decided).symm ▸ sound.seeded (switchOff_frame terms) (switchOff_scopeItems terms)
      (switchOff_replayable terms sound.replayable)

theorem run_requestsSound (calls : List (FootprintReads × FootprintCall)) (sound : RequestsSound state decided) :
    RequestsSound (run footprintStep state calls) (decided ++ decisions state calls) := by
  induction calls generalizing state decided with
  | nil => exact (List.append_nil decided).symm ▸ sound
  | cons call rest ih =>
    rw [decisions, ← List.append_assoc]
    refine ih ?_
    cases found : footprintStep state call with
    | ok next =>
      rw [settle_ok found]
      exact footprintStep_requestsSound found sound
    | error refused =>
      rw [settle_error found]
      exact (List.append_nil decided).symm ▸ sound

/-- The scope as it was: the terms followed, the exclusions, and no item newly in it. -/
structure ScopeKept (before after : FootprintState) : Prop where
  terms : after.footprintTerms = before.footprintTerms
  exclusions : after.exclusions = before.exclusions
  items : ∀ item ∈ after.scopeItems, item.status = .inScope → item ∈ before.scopeItems

/-- The calls that write the scope: an approval, and what only the seed and its journeys run. -/
def FootprintCall.switches : FootprintCall → Bool
  | .approve .. => true
  | .seed .. => true
  | .unseed .. => true
  | _ => false

theorem decideRequest_kept {now : Instant} :
    ScopeKept state (decideRequest now decision request preview state) where
  terms := rfl
  exclusions := rfl
  items := by
    intro item member inScope
    obtain ⟨old, there, rfl⟩ := List.mem_map.mp member
    split
    · rename_i declined
      rw [if_pos declined] at inScope
      cases inScope
    · exact there

theorem footprintStep_kept (accepted : footprintStep state call = .ok next)
    (quiet : call.2.switches = false) : ScopeKept state next := by
  obtain ⟨reads, call⟩ := call
  cases call with
  | request requester actor body =>
    obtain ⟨change, -, created⟩ := bind_ok.mp accepted
    obtain ⟨_, -, created⟩ := bind_ok.mp created
    obtain ⟨_, -, created⟩ := bind_ok.mp created
    obtain ⟨_, -, created⟩ := bind_ok.mp created
    cases created
    refine ⟨rfl, rfl, fun item member inScope => ?_⟩
    rcases List.mem_append.mp member with old | new
    · exact old
    · rw [(mem_numberItems new).2.2] at inScope
      cases inScope
  | approve => cases quiet
  | reject requestId decider actor note expectedVersion | withdraw requestId requester actor expectedVersion =>
    obtain ⟨request, -, accepted⟩ := bind_ok.mp accepted
    obtain ⟨_, -, accepted⟩ := bind_ok.mp accepted
    obtain ⟨_, -, accepted⟩ := bind_ok.mp accepted
    cases accepted
    exact decideRequest_kept
  | seed | unseed => cases quiet

/-- A request that is turned down or taken back: its own items, all of them requested, are declined, and no other item moves. -/
structure TurnedDown (before after : FootprintState) (request : FootprintChangeRequest) : Prop where
  requested : ∀ item ∈ before.scopeItems, item.id ∈ request.itemAdds → item.status = .requested
  declined : after.scopeItems = before.scopeItems.map fun item =>
    if item.id ∈ request.itemAdds then { item with status := .declined } else item

theorem decideRequest_turnsDown {now : Instant}
    (requested : ∀ item ∈ state.scopeItems, item.id ∈ request.itemAdds → item.status = .requested)
    (refuses : decision.status ≠ .approved) : TurnedDown state (decideRequest now decision request preview state) request where
  requested := requested
  declined := by
    refine List.map_congr_left fun item member => if_congr ?_ rfl rfl
    rw [declinedItems, if_neg refuses, List.mem_filter, decide_eq_true_iff]
    exact ⟨fun held => held.2.1, fun named => ⟨member, named, requested item member named⟩⟩

theorem footprintStep_turnsDown {requestId : Id}
    (accepted : footprintStep state call = .ok next) (turns : call.2.turnsDown = some requestId) (sound : RequestsSound state decided) :
    ∃ request ∈ state.requests, request.id = requestId ∧ TurnedDown state next request := by
  obtain ⟨reads, call⟩ := call
  cases call with
  | reject named decider actor note expectedVersion =>
    obtain rfl := Option.some.inj turns
    obtain ⟨request, named, accepted⟩ := bind_ok.mp accepted
    obtain ⟨_, passed, accepted⟩ := bind_ok.mp accepted
    obtain ⟨_, -, accepted⟩ := bind_ok.mp accepted
    cases accepted
    obtain ⟨here, same⟩ := requestNamed_ok named
    have waits : request ∈ state.pending := List.mem_filter.mpr ⟨here, decide_eq_true (decidable_ok passed)⟩
    exact ⟨request, here, same, decideRequest_turnsDown (sound.waiting request waits) nofun⟩
  | withdraw named requester actor expectedVersion =>
    obtain rfl := Option.some.inj turns
    obtain ⟨request, named, accepted⟩ := bind_ok.mp accepted
    obtain ⟨_, -, accepted⟩ := bind_ok.mp accepted
    obtain ⟨_, passed, accepted⟩ := bind_ok.mp accepted
    cases accepted
    obtain ⟨here, same⟩ := requestNamed_ok named
    have waits : request ∈ state.pending := List.mem_filter.mpr ⟨here, decide_eq_true (decidable_ok passed)⟩
    exact ⟨request, here, same, decideRequest_turnsDown (sound.waiting request waits) nofun⟩
  | request | approve | seed | unseed => cases turns

/-- After any run of a bank's scope operations at most one request waits, none was decided twice, and who approved or rejected
one is not who asked; and of the calls that may come next only an approval changes the scope, while one that turns a
request down or takes it back declines exactly the items that request asked for. -/
theorem run_decisions (tenantId : Id) (calls : List (FootprintReads × FootprintCall)) :
    let state := run footprintStep (.empty tenantId) calls
    state.pending.length ≤ 1 ∧ (decisions (.empty tenantId) calls).Nodup ∧
      (∀ request ∈ state.requests, request.status = .approved ∨ request.status = .rejected →
        ∃ decider, request.decidedBy = some decider ∧ decider ≠ request.requestedBy) ∧
      ∀ call next, footprintStep state call = .ok next →
        (call.2.switches = false → ScopeKept state next) ∧
        ∀ requestId, call.2.turnsDown = some requestId →
          ∃ request ∈ state.requests, request.id = requestId ∧ TurnedDown state next request := by
  intro state
  have sound : RequestsSound state ([] ++ decisions (.empty tenantId) calls) :=
    run_requestsSound calls (empty_requestsSound tenantId)
  refine ⟨sound.onePending, sound.once, sound.fourEyes, fun call next accepted => ⟨footprintStep_kept accepted, ?_⟩⟩
  exact fun requestId turns => footprintStep_turnsDown accepted turns sound

end Grc.Taxonomy
