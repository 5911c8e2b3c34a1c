import Grc.Proposals.Run
import Grc.Proposals.Stored

/-! Where the values that approvals write were read: the source of each is stored with the proposal, and a value the reviewer changed carries
the source the reviewer read it in. -/
namespace Grc.Proposals

open Grc.Shared Grc.Lib Grc.Library

variable {Rule : Type} {platform : Platform Rule} {records : Records} {zone : Option Id} {now : Now}

/-- What a source may be: an https link, or the key of a provision of the library for what is no new record. -/
structure Admissible (platform : Platform Rule) (records : Records) (payload : Payload) (source : String) : Prop where
  given : strip source ≠ ""
  short : source.length ≤ platform.proposalSourceMaxChars
  followable : platform.isLink source = true ∨ linkSourced payload = false ∧ source ∈ records.provisions.map (·.stableKey)

/-- What is relied on of the payload schemas: a payload that a check stored is read back as it is, and each has a field it requires. -/
structure Platform.Faithful (platform : Platform Rule) : Prop where
  reads : ∀ records zone today kind sent owner payload,
    validatedPayload platform records zone today kind sent owner = .ok payload →
      platform.modelValidate kind (platform.modelDump payload) = .ok payload
  filled : ∀ payload, platform.modelDump payload ≠ []

/-- The kinds whose payload `apply` checks once more before it writes it. -/
def recheckedKinds : List ProposalKind := [.newInstrument, .newObligation, .newProvision, .newRecurringDuty, .newControl]

/-- The payload as `apply` writes it. -/
def writtenPayload (platform : Platform Rule) (now : Now) (zone : Option Id) (records : Records) (filed : Filed) : Except Refusal Payload := do
  let payload ← parsedPayload platform filed.kind filed.payload
  if filed.kind ∈ recheckedKinds then validateTarget platform records zone now.today filed.kind filed.ownerTenant payload
  else .ok payload

theorem parsedPayload_ok {kind : ProposalKind} {sent : Dict Json} {payload : Payload} :
    parsedPayload platform kind sent = .ok payload ↔ platform.modelValidate kind sent = .ok payload := by
  unfold parsedPayload
  cases platform.modelValidate kind sent <;> simp

section Checks
variable {payload : Payload} {sources fresh : Dict String} {changed : List String} {answer : Unit}

theorem sorted_eq_nil {texts : List String} : sorted texts = [] ↔ texts = [] := by
  rw [← List.length_eq_zero_iff, sorted, List.length_insertionSort, List.length_eq_zero_iff]

theorem checkFollowable_ok (checked : checkFollowable platform records payload sources = .ok answer) :
    ∀ source ∈ sources, platform.isLink source.2 = true ∨
      linkSourced payload = false ∧ source.2 ∈ records.provisions.map (·.stableKey) := by
  intro source there
  by_cases link : platform.isLink source.2 = true
  · exact .inl link
  · right
    unfold checkFollowable at checked
    split at checked
    · rename_i linked
      rw [require_ok, unlinked, sorted_eq_nil, List.map_eq_nil_iff, List.filter_eq_nil_iff] at checked
      exact absurd (checked source there) (by simp [link])
    · rename_i free
      refine ⟨eq_false_of_ne_true free, ?_⟩
      simp only [require_ok, sorted_eq_nil, List.map_eq_nil_iff, List.filter_eq_nil_iff] at checked
      have refs : source ∈ sources.filter fun source => !platform.isLink source.2 := List.mem_filter.mpr ⟨there, by simp [link]⟩
      have known := checked source refs
      rw [List.contains_eq_mem, decide_eq_true_eq, Records.unknownProvisionKeys, List.mem_filter] at known
      by_contra absent
      refine known ⟨List.mem_map_of_mem refs, ?_⟩
      rw [Bool.not_eq_true', List.any_eq_false]
      intro provision held its
      exact absent (beq_iff_eq.mp its ▸ List.mem_map_of_mem held)

theorem checkFieldSources_ok (checked : checkFieldSources platform records payload sources = .ok answer) :
    ∀ name ∈ sourcedFields payload, ∃ source, sources.get name = some source ∧ Admissible platform records payload source := by
  simp only [checkFieldSources, bind_ok, require_ok, List.filter_eq_nil_iff, beq_iff_eq, List.map_eq_nil_iff, decide_eq_true_eq,
    Nat.not_lt] at checked
  obtain ⟨_, missing, _, -, _, short, follows⟩ := checked
  intro name sourced
  have given := missing name sourced
  cases found : sources.get name with
  | none =>
    rw [found] at given
    exact absurd rfl given
  | some source =>
    rw [found, Option.getD_some] at given
    have there := Dict.mem_of_get found
    exact ⟨source, rfl, given, short _ there, checkFollowable_ok follows _ there⟩

theorem checkFresh_ok (checked : checkFresh changed fresh = .ok answer) : ∀ name ∈ changed, name ∈ fresh.keys := by
  simp only [checkFresh, bind_ok, require_ok, List.filter_eq_nil_iff, beq_iff_eq] at checked
  obtain ⟨_, missing, -⟩ := checked
  intro name altered
  cases found : fresh.get name with
  | none =>
    have given := missing name altered
    rw [found] at given
    exact absurd rfl given
  | some source => exact Dict.mem_keys.mpr ⟨source, Dict.mem_of_get found⟩

end Checks

/-- What a proposal was filed from: a body that passed its checks, with the sources the proposer gave. -/
structure FiledFrom (platform : Platform Rule) (records : Records) (now : Now) (zone : Option Id) (body : Body) (row : Proposal) : Prop where
  checked : ∃ payload, validatedPayload platform records zone now.today row.kind body.payload row.ownerTenant = .ok payload ∧
    row.payload = platform.modelDump payload ∧ checkFieldSources platform records payload row.fieldSources = .ok ()
  sources : row.fieldSources = body.fieldSources.map fun source => (source.1, strip source.2)
  uncorrected : row.correctedPayload = none

theorem drafted_filed {desk : Desk} {proposer : Proposer} {body : Body} {draft : Draft}
    (checked : drafted platform now zone desk proposer body = .ok draft) :
    FiledFrom platform desk.records now zone body (rowOf platform zone desk proposer body draft) := by
  simp only [drafted, checkedBody, bind_ok, Except.ok.injEq] at checked
  obtain ⟨run, -, kind, -, _, -, owner, -, payload, validated, _, -, _, -, _, sourced, _, -, _, -, _, -, rfl⟩ := checked
  exact { checked := ⟨payload, validated, rfl, sourced⟩, sources := rfl, uncorrected := rfl }

theorem mem_save {desk : Desk} {saved row : Proposal} (there : row ∈ (desk.save saved).proposals) : row = saved ∨ row ∈ desk.proposals := by
  obtain ⟨held, member, its⟩ := List.mem_map.mp there
  split at its
  · exact .inl its.symm
  · exact .inr (its ▸ member)

section Steps
variable {office later : Office} {event : Event} {row : Proposal} {answer : Unit}

/-- A single proposal that waits was there before, or was filed from a body just now. -/
theorem act_waiting (sound : office.Sound) (done : (act platform event).execute office = (.ok answer, later))
    (there : row ∈ later.desk.proposals) (waits : row.status = .open_) (single : row.isBatch = false) :
    row ∈ office.desk.proposals ∨ ∃ proposer body, event.action = .create proposer body ∧
      FiledFrom platform office.desk.records event.now event.zone body row := by
  obtain ⟨now, zone, action⟩ := event
  cases action with
  | create proposer body =>
    obtain ⟨⟨filed, made⟩, desk, worked, rfl⟩ := onDesk_ok done
    obtain ⟨draft, checked, -, ⟨-, -, queue⟩ | ⟨-, -, rfl, -, queue⟩⟩ := create_ok worked
    · have listed : desk.proposals = office.desk.proposals := congrArg Queue.proposals queue
      exact .inl (listed ▸ there)
    · have listed : desk.proposals = office.desk.proposals ++ [_] := congrArg Queue.proposals queue
      rw [listed] at there
      rcases mem_concat.mp there with old | rfl
      · exact .inl old
      · exact .inr ⟨proposer, body, rfl, drafted_filed checked⟩
  | createBatch proposer body =>
    obtain ⟨⟨filed, made⟩, desk, worked, rfl⟩ := onDesk_ok done
    obtain ⟨draft, -, -, ⟨-, -, -, queue⟩ | ⟨-, -, -, previews, -, rfl, queue⟩⟩ := createBatch_ok worked
    · have listed : desk.proposals = office.desk.proposals := congrArg Queue.proposals queue
      exact .inl (listed ▸ there)
    · have listed : desk.proposals = office.desk.proposals ++ [_] := congrArg Queue.proposals queue
      rw [listed] at there
      rcases mem_concat.mp there with old | rfl
      · exact .inl old
      · cases single
  | load id =>
    obtain ⟨read, -, written⟩ := Tx.check_bind_ok.mp done
    obtain rfl := Tx.write_ok.mp written
    exact .inl there
  | approve handle reviewer actor approval =>
    obtain ⟨proposal, -, turn⟩ := Tx.check_bind_ok.mp done
    obtain ⟨saved, desk, worked, rfl⟩ := onDesk_ok turn
    obtain ⟨-, -, _, revision, -, -, -, -, rfl, queue⟩ := approve_ok worked
    rw [show desk.proposals = _ from congrArg Queue.proposals queue] at there
    refine .inl ((mem_save there).resolve_left ?_)
    rintro rfl
    cases waits
  | reject handle reviewer actor rejection =>
    obtain ⟨proposal, -, turn⟩ := Tx.check_bind_ok.mp done
    obtain ⟨saved, desk, worked, rfl⟩ := onDesk_ok turn
    obtain ⟨-, _, -, rfl, queue, -⟩ := reject_ok worked
    rw [show desk.proposals = _ from congrArg Queue.proposals queue] at there
    refine .inl ((mem_save there).resolve_left ?_)
    rintro rfl
    cases waits
  | decideBatch handle decision reviewer stepUp =>
    obtain ⟨proposal, held, turn⟩ := Tx.check_bind_ok.mp done
    obtain ⟨saved, desk, worked, rfl⟩ := onDesk_ok turn
    obtain ⟨member, whole⟩ := heldBatch_ok held
    obtain ⟨filed, known, standing⟩ := sound.loaded proposal member
    obtain ⟨user, decisions, batch, chosen, records, audit, -, -, -, decidable, -, -, rfl⟩ := decideBatch_ok worked
    obtain ⟨locked, same, -⟩ := decidableBatch_ok decidable
    obtain rfl : batch = filed := sound.queue.unique locked known (same.trans (Queue.id_of_standing standing).symm)
    refine .inl ((mem_save there).resolve_left ?_)
    rintro rfl
    rw [Queue.isBatch_of_standing (close_standing _ _ _ _ _), Queue.isBatch_of_standing standing, whole] at single
    cases single
  | elsewhere records runs =>
    obtain rfl := Tx.write_ok.mp done
    exact .inl there

end Steps

theorem reached_filed (platform : Platform Rule) (records : Records) (runs : List AgentRun) (events : List Event) :
    ∀ row ∈ (reached platform (opened records runs) events).desk.proposals, row.status = .open_ → row.isBatch = false →
      ∃ earlier event proposer body, earlier ++ [event] <+: events ∧ event.action = .create proposer body ∧
        FiledFrom platform (reached platform (opened records runs) earlier).desk.records event.now event.zone body row := by
  induction events using List.reverseRecOn with
  | nil => exact fun row there => absurd there List.not_mem_nil
  | append_singleton events event ih =>
    have sound : (reached platform (opened records runs) events).Sound := reached_sound (opened_sound records runs) events
    have last : reached platform (opened records runs) (events ++ [event]) =
        (act platform event).left (reached platform (opened records runs) events) := Tx.runs_append _ _ _
    rw [last]
    intro row there waits single
    have before : row ∈ (reached platform (opened records runs) events).desk.proposals ∨ ∃ proposer body,
        event.action = .create proposer body ∧ FiledFrom platform (reached platform (opened records runs) events).desk.records
          event.now event.zone body row := by
      cases found : (act platform event).execute (reached platform (opened records runs) events) with
      | mk outcome later =>
        have same : (act platform event).left (reached platform (opened records runs) events) = later := by rw [Tx.left, found]
        rw [same] at there
        cases outcome with
        | ok answer => exact act_waiting sound found there waits single
        | error refused =>
          rw [act_clean platform event _ _ _ found] at there
          exact .inl there
    rcases before with old | ⟨proposer, body, filed, from_⟩
    · obtain ⟨earlier, first, proposer, body, lead, filed, from_⟩ := ih row old waits single
      exact ⟨earlier, first, proposer, body, lead.trans (List.prefix_append _ _), filed, from_⟩
    · exact ⟨events, event, proposer, body, List.prefix_rfl, filed, from_⟩

section Applied
variable {filed : Filed} {actor : Actor} {reviewer : Reviewer} {stepUp : Option Id} {rows : List BatchRow} {payload : Payload}
  {after : Records} {answer : Unit}

theorem apply_rechecked (kind : filed.kind ∈ recheckedKinds) (parsed : parsedPayload platform filed.kind filed.payload = .ok payload)
    (done : (apply platform now zone filed actor reviewer stepUp rows).execute records = (.ok answer, after)) :
    sourcedFields payload ≠ [] ∧
      ∃ stored, validateTarget platform records zone now.today filed.kind filed.ownerTenant payload = .ok stored := by
  have plain : filed.kind ≠ .obligationScope := by
    intro scope
    rw [scope] at kind
    exact absurd kind (by decide)
  rw [apply, if_neg plain] at done
  simp only [Tx.check_bind_ok] at done
  obtain ⟨again, reads, _, -, done⟩ := done
  obtain rfl : payload = again := Except.ok.inj (parsed.symm.trans reads)
  generalize filed.kind = each at kind done ⊢
  simp only [recheckedKinds, List.mem_cons, List.not_mem_nil, or_false] at kind
  rcases kind with rfl | rfl | rfl | rfl | rfl
  · cases payload with
    | instrument payload =>
      obtain ⟨stored, checked, -⟩ := Tx.check_bind_ok.mp done
      exact ⟨by simp [sourcedFields], _, map_ok.mpr ⟨stored, checked, rfl⟩⟩
    | _ => cases done
  · cases payload with
    | obligation payload =>
      obtain ⟨stored, checked, -⟩ := Tx.check_bind_ok.mp done
      exact ⟨by simp [sourcedFields], _, map_ok.mpr ⟨stored, checked, rfl⟩⟩
    | _ => cases done
  · cases payload with
    | provision payload =>
      obtain ⟨stored, checked, -⟩ := Tx.check_bind_ok.mp done
      exact ⟨by simp [sourcedFields], _, map_ok.mpr ⟨stored, checked, rfl⟩⟩
    | _ => cases done
  · cases payload with
    | recurringDuty payload =>
      simp only [applyKind, newRecurringDuty, Tx.check_bind_ok] at done
      obtain ⟨target, -, obligation, -, stored, checked, -⟩ := done
      exact ⟨by simp [sourcedFields], _, map_ok.mpr ⟨stored, checked, rfl⟩⟩
    | _ => cases done
  · cases payload with
    | control payload =>
      rw [applyKind, applyControlBy] at done
      cases person : reviewer.user with
      | none =>
        rw [person] at done
        cases done
      | some user =>
        simp only [person, applyControl, Tx.check_bind_ok, demand_ok] at done
        obtain ⟨owner, own, stored, checked, -⟩ := done
        refine ⟨by simp [sourcedFields], _, map_ok.mpr ⟨stored, own ▸ checked, rfl⟩⟩
    | _ => cases done

theorem writtenPayload_ok {library : Records} {place : Option Id} {today : Day} {sent : Dict Json} {owner : Option Id}
    (faithful : platform.Faithful) (validated : validatedPayload platform library place today filed.kind sent owner = .ok payload)
    (held : filed.payload = platform.modelDump payload)
    (done : (apply platform now zone filed actor reviewer stepUp rows).execute records = (.ok answer, after)) :
    writtenPayload platform now zone records filed = .ok payload := by
  have parsed : parsedPayload platform filed.kind filed.payload = .ok payload := by
    rw [parsedPayload_ok, held]
    exact faithful.reads _ _ _ _ _ _ _ validated
  rw [writtenPayload, parsed]
  by_cases kind : filed.kind ∈ recheckedKinds
  · obtain ⟨sourced, stored, again⟩ := apply_rechecked kind parsed done
    obtain ⟨first, -, checked⟩ := bind_ok.mp validated
    obtain rfl := validateTarget_again checked sourced again
    exact (if_pos kind).trans again
  · exact if_neg kind

end Applied

/-- What a correction stores: a payload that passed its checks, the proposer's sources with the reviewer's over them, and for every value that
differs from the proposer's a source the reviewer gave. -/
theorem corrected_sources {proposal revision : Proposal} {reviewer : Reviewer} {approval : Approval}
    (found : corrected platform now zone records proposal reviewer approval = .ok revision) :
    ∃ payload, validatedPayload platform records zone now.today proposal.kind (proposal.payload.update approval.payloadOverrides)
        proposal.ownerTenant = .ok payload ∧
      revision.correctedPayload = some (platform.modelDump payload) ∧
      checkFieldSources platform records payload revision.fieldSources = .ok () ∧
      ∀ name ∈ sourcedFields payload, fieldValue (platform.modelDump payload) name ≠ fieldValue proposal.payload name →
        ∃ given, (name, given) ∈ approval.fieldSources ∧ revision.fieldSources.get name = some (strip given) := by
  simp only [corrected, bind_ok, Except.ok.injEq] at found
  obtain ⟨_, -, payload, validated, _, -, _, fresh, _, sourced, _, -, rfl⟩ := found
  refine ⟨payload, validated, rfl, sourced, ?_⟩
  intro name there differs
  have altered : name ∈ changedFields payload (platform.modelDump payload) proposal.payload :=
    List.mem_filter.mpr ⟨there, bne_iff_ne.mpr differs⟩
  obtain ⟨source, member, stored⟩ := @Dict.get_update_of_mem _ proposal.fieldSources _ _ (checkFresh_ok fresh name altered)
  obtain ⟨given, sent, its⟩ := List.mem_map.mp member
  obtain ⟨rfl, rfl⟩ := Prod.mk.inj its
  exact ⟨given.2, sent, stored⟩

/-- Whatever was filed, read, decided or changed elsewhere before: an approval writes the payload of a proposal that was filed from a checked
body, every sourced field of it has an admissible source stored with the proposal, and a field whose value is not the proposer's has the
source the reviewer gave for it. -/
theorem approve_sourced (platform : Platform Rule) (faithful : platform.Faithful) (records : Records) (runs : List AgentRun)
    (events : List Event) (now : Now) (zone : Option Id) (handle : Nat) (reviewer : Reviewer) (actor : Actor) (approval : Approval)
    (later : Office) (accepted : (act platform ⟨now, zone, .approve handle reviewer actor approval⟩).execute
      (reached platform (opened records runs) events) = (.ok (), later)) :
    ∃ earlier filing proposer body row revision payload,
      earlier ++ [filing] <+: events ∧ filing.action = .create proposer body ∧
      FiledFrom platform (reached platform (opened records runs) earlier).desk.records filing.now filing.zone body row ∧
      row ∈ (reached platform (opened records runs) events).desk.proposals ∧
      revision ∈ later.desk.proposals ∧ revision.standing = row.standing ∧ revision.status = .approved ∧
      writtenPayload platform now zone (reached platform (opened records runs) events).desk.records revision.filed = .ok payload ∧
      (∀ name ∈ sourcedFields payload, ∃ source, revision.fieldSources.get name = some source ∧
        ∃ checked, (checked = earlier ∨ checked = events) ∧
          Admissible platform (reached platform (opened records runs) checked).desk.records payload source) ∧
      ∀ name ∈ sourcedFields payload, fieldValue (platform.modelDump payload) name ≠ fieldValue row.payload name →
        ∃ given, (name, given) ∈ approval.fieldSources ∧ revision.fieldSources.get name = some (strip given) := by
  have sound : (reached platform (opened records runs) events).Sound := reached_sound (opened_sound records runs) events
  obtain ⟨proposal, held, turn⟩ := Tx.check_bind_ok.mp accepted
  obtain ⟨saved, desk, worked, rfl⟩ := onDesk_ok turn
  obtain ⟨single, -, row, revision, decidable, -, revises, ⟨after, applied⟩, rfl, queue⟩ := approve_ok worked
  have standing := decidableRow_standing sound.queue (sound.loaded proposal (heldRow_ok held)) decidable
  obtain ⟨member, -, waits, -, -⟩ := decidableRow_ok decidable
  obtain ⟨earlier, filing, proposer, body, lead, files, from_⟩ := reached_filed platform records runs events row member waits
    ((Queue.isBatch_of_standing standing).trans single)
  have listed : revision.approve reviewer now.moment approval.note ∈ desk.proposals := by
    rw [show desk.proposals = _ from congrArg Queue.proposals queue]
    refine List.mem_map.mpr ⟨row, member, if_pos ?_⟩
    obtain ⟨_, _, _, _, _, rfl⟩ := revised_ok revises
    rfl
  have same : (revision.approve reviewer now.moment approval.note).standing = row.standing := by
    obtain ⟨_, _, _, _, _, rfl⟩ := revised_ok revises
    rfl
  refine ⟨earlier, filing, proposer, body, row, revision.approve reviewer now.moment approval.note, ?_⟩
  obtain ⟨stored, validated, its, sourced⟩ := from_.checked
  by_cases plain : approval.payloadOverrides = [] ∧ approval.fieldSources = []
  · rw [revised, if_pos plain, Except.ok.injEq] at revises
    subst revises
    have payload : row.filed.payload = platform.modelDump stored := by rw [Proposal.filed, from_.uncorrected, its]
    refine ⟨stored, lead, files, from_, member, listed, same, rfl, writtenPayload_ok faithful validated payload applied, ?_, ?_⟩
    · intro name there
      obtain ⟨source, found, admitted⟩ := checkFieldSources_ok sourced name there
      exact ⟨source, found, earlier, .inl rfl, admitted⟩
    · intro name there differs
      exact absurd (by rw [its]) differs
  · rw [revised, if_neg plain] at revises
    obtain ⟨stored, validated, corrected, sourced, fresh⟩ := corrected_sources revises
    have kind : revision.filed.kind = row.kind := congrArg Standing.kind same
    have payload : revision.filed.payload = platform.modelDump stored := by
      rw [Proposal.filed, corrected]
      cases dump : platform.modelDump stored with
      | nil => exact absurd dump (faithful.filled stored)
      | cons first rest => rfl
    refine ⟨stored, lead, files, from_, member, listed, same, rfl, writtenPayload_ok faithful (kind ▸ validated) payload applied, ?_, fresh⟩
    intro name there
    obtain ⟨source, found, admitted⟩ := checkFieldSources_ok sourced name there
    exact ⟨source, found, events, .inr rfl, admitted⟩

/-- A version of an obligation, as it is proposed and as a reviewer corrects it. -/
def keptSummary : ObligationVersionPayload where
  summaries := [("en", "Keep records.")]
  originalLanguage := "en"

def yearSummary : ObligationVersionPayload where
  summaries := [("en", "Keep records for a year.")]
  originalLanguage := "en"

def keptPayload : Dict Json := [("originalLanguage", .text "en"), ("summaries", .dict [("en", .text "Keep records.")])]

def yearPayload : Dict Json := [("originalLanguage", .text "en"), ("summaries", .dict [("en", .text "Keep records for a year.")])]

def linkedPlatform : Platform Unit where
  modelValidate kind payload :=
    if kind = .newObligationVersion ∧ payload = keptPayload then .ok (.obligationVersion keptSummary)
    else if kind = .newObligationVersion ∧ payload = yearPayload then .ok (.obligationVersion yearSummary)
    else .error ["payload"]
  modelDump payload := if payload = .obligationVersion yearSummary then yearPayload else keptPayload
  scopeValidate _ := .error ["payload"]
  scopeDump _ := []
  isLink source := "https://".toList.isPrefixOf source.toList
  slugify := id
  folded := id
  clean _ value := .ok value
  screenAll _ := []
  dateutil := { rrulestr := fun _ _ => none, walk := fun _ => [] }

theorem linkedPlatform_faithful : linkedPlatform.Faithful where
  filled payload := by
    change (if payload = .obligationVersion yearSummary then yearPayload else keptPayload) ≠ []
    split <;> decide
  reads records zone today kind sent owner payload validated := by
    obtain ⟨parsed, read, checked⟩ := bind_ok.mp validated
    rw [parsedPayload_ok] at read
    change (if kind = .newObligationVersion ∧ sent = keptPayload then Except.ok (Payload.obligationVersion keptSummary)
      else if kind = .newObligationVersion ∧ sent = yearPayload then .ok (.obligationVersion yearSummary) else .error ["payload"]) = _ at read
    split at read
    · rename_i sends
      obtain rfl := Except.ok.inj read
      obtain ⟨stored, version, rfl⟩ := map_ok.mp checked
      rw [validatedVersion_ok version, sends.1]
      decide
    · split at read
      · rename_i sends
        obtain rfl := Except.ok.inj read
        obtain ⟨stored, version, rfl⟩ := map_ok.mp checked
        rw [validatedVersion_ok version, sends.1]
        decide
      · cases read

/-- A library that holds one obligation. -/
def recordKeeping : Records where
  languages := ["en"]
  instruments := [{ id := 4, stableKey := "act", shortName := "Act", officialRef := "Act 1", level := 1, jurisdiction := 2, regime := 3 }]
  obligations := [{ id := 5, stableKey := "act-1", instrument := 4, dutyType := 7 }]
  nextId := 10

/-- A person proposes a version, and a reviewer reads it. -/
def proposedVersion : List Event :=
  [{ now := { moment := 0, today := .newYear2026 }
     zone := none
     action := .create { actor := { kind := .user }, user := some 7 } {
       kind := "new_obligation_version", title := "Keep records", payload := keptPayload, targetType := "obligation", targetId := some 5
       fieldSources := [("summaries.en", "https://law.example/1")] } },
   { now := { moment := 1, today := .newYear2026 }, zone := none, action := .load 0 }]

def yearCorrection : Approval where
  payloadOverrides := [("summaries", .dict [("en", .text "Keep records for a year.")])]
  fieldSources := [("summaries.en", "https://law.example/2 ")]

def yearApproved : Event where
  now := { moment := 2, today := ⟨2026, 1, 2, Day.newYear2026.yearIn, Day.newYear2026.monthIn, by decide⟩ }
  zone := none
  action := .approve 0 { actor := { kind := .user }, user := some 8 } { kind := .user } yearCorrection

theorem yearApproved_sourced : ∃ row revision payload,
    writtenPayload linkedPlatform yearApproved.now none (reached linkedPlatform (opened recordKeeping []) proposedVersion).desk.records
        revision.filed = .ok payload ∧ (revision : Proposal).status = .approved ∧
      ∀ name ∈ sourcedFields payload,
        fieldValue (linkedPlatform.modelDump payload) name ≠ fieldValue (row : Proposal).payload name →
          ∃ given, (name, given) ∈ yearCorrection.fieldSources ∧ revision.fieldSources.get name = some (strip given) := by
  have accepted : (act linkedPlatform yearApproved).execute (reached linkedPlatform (opened recordKeeping []) proposedVersion) =
      (.ok (), (act linkedPlatform yearApproved).left (reached linkedPlatform (opened recordKeeping []) proposedVersion)) :=
    Prod.ext (by decide +kernel) rfl
  obtain ⟨_, _, _, _, row, revision, payload, -, -, -, -, -, -, approved, written, -, fresh⟩ :=
    approve_sourced linkedPlatform linkedPlatform_faithful recordKeeping [] proposedVersion yearApproved.now none 0
      { actor := { kind := .user }, user := some 8 } { kind := .user } yearCorrection _ accepted
  exact ⟨row, revision, payload, written, approved, fresh⟩

end Grc.Proposals
