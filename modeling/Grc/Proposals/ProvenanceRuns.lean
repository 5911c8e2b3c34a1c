import Grc.Proposals.Provenance

/-! Runs of approvals: exactly when a person's stamp never stands over what an agent's approval wrote last. -/
namespace Grc.Proposals

open Grc.Shared Grc.Lib Grc.Library

variable {Rule : Type}

/-- A proposal, and how it is approved. -/
structure Approved where
  now : Now
  zone : Option Id := none
  filed : Filed
  actor : Actor
  reviewer : Reviewer
  stepUp : Option Id := none
  rows : List BatchRow := []

/-- The library, and who wrote each piece of its wording. -/
structure Edited where
  records : Records
  log : Log := []

def Approved.payload (platform : Platform Rule) (approved : Approved) : Except Refusal Payload :=
  parsedPayload platform approved.filed.kind approved.filed.payload

/-- The pieces an approval writes, read from its payload. -/
def Approved.written (platform : Platform Rule) (records : Records) (approved : Approved) : Log :=
  match approved.filed.kind, approved.payload platform with
  | .vocabularyCreate, .ok (.vocabularyCreate payload) =>
    match createdColumns platform records approved.filed.kind payload with
    | .ok columns => rewriting (.row records.nextId)
        (writtenPieces payload.labels (some payload.usageNote) columns.keys) approved.reviewer
    | .error _ => []
  | .vocabularyRelabel, .ok (.vocabularyRelabel payload) =>
    match relabelTarget platform records approved.filed.kind payload with
    | .ok (row, columns) => rewriting (.row row.id) (relabelPieces payload columns) approved.reviewer ++
        followed (mirrorsOf records row) payload.labels approved.reviewer
    | .error _ => []
  | .termCreate, .ok (.termCreate payload) =>
    rewriting (.term records.nextId) (writtenPieces payload.labels (some payload.usageNote) []) approved.reviewer
  | .termUpdate, .ok (.termUpdate payload) =>
    match updatedTerm records payload with
    | .ok term => rewriting (.term term.id) (writtenPieces payload.labels payload.usageNote []) approved.reviewer
    | .error _ => []
  | _, _ => []

namespace Edited

/-- One approval; what it writes is written whole or not at all. -/
def approve (platform : Platform Rule) (edited : Edited) (approved : Approved) : Except Refusal Edited :=
  match (apply platform approved.now approved.zone approved.filed approved.actor approved.reviewer approved.stepUp
    approved.rows).execute edited.records with
  | (.ok _, records) => .ok { records, log := edited.log ++ approved.written platform edited.records }
  | (.error refused, _) => .error refused

/-- A wording stamped as a person's carries no piece an agent's approval wrote last. -/
def Honest (edited : Edited) : Prop :=
  ∀ worded ∈ wording edited.records, worded.stamp = some .user →
    ∀ piece ∈ worded.pieces, edited.log.lastBy (worded.holder, piece) ≠ some .agent

/-- A person's relabel that takes a row from the agents rewrites the columns they wrote last as well. -/
def Completing (platform : Platform Rule) (edited : Edited) (approved : Approved) : Prop :=
  ∀ payload row columns, approved.filed.kind = .vocabularyRelabel → approved.payload platform = .ok (.vocabularyRelabel payload) →
    relabelTarget platform edited.records approved.filed.kind payload = .ok (row, columns) →
    approved.reviewer.agentId = none → (rowWorded edited.records row).Completes edited.log (relabelPieces payload columns)

end Edited

variable {platform : Platform Rule} {edited next : Edited} {approved : Approved} {records after : Records} {log : Log}
  {filed : Filed} {actor : Actor} {reviewer : Reviewer} {stepUp : Option Id} {row : ListRow} {answer : Unit}

namespace Edited

theorem approve_ok (accepted : edited.approve platform approved = .ok next) :
    (apply platform approved.now approved.zone approved.filed approved.actor approved.reviewer approved.stepUp
      approved.rows).execute edited.records = (.ok (), next.records) ∧
      next.log = edited.log ++ approved.written platform edited.records := by
  unfold Edited.approve at accepted
  split at accepted
  · rename_i records done
    obtain rfl := Except.ok.inj accepted
    exact ⟨done, rfl⟩
  · cases accepted

theorem applyKind_ok (accepted : edited.approve platform approved = .ok next)
    (rewords : approved.filed.kind ∈ rewordingKinds) : ∃ payload, approved.payload platform = .ok payload ∧
      (applyKind platform approved.now approved.zone approved.filed approved.actor approved.reviewer approved.stepUp
        approved.filed.kind payload).execute edited.records = (.ok (), next.records) := by
  have plain : approved.filed.kind ≠ .obligationScope := by
    intro scope
    rw [scope] at rewords
    exact absurd rewords (by decide)
  obtain ⟨done, -⟩ := approve_ok accepted
  rw [apply, if_neg plain] at done
  simp only [Tx.check_bind_ok] at done
  obtain ⟨payload, parsed, _, -, goes⟩ := done
  exact ⟨payload, parsed, goes⟩

end Edited

theorem written_nil (other : approved.filed.kind ∉ rewordingKinds) : approved.written platform records = [] := by
  unfold Approved.written
  split
  · rename_i kind _
    exact absurd (kind ▸ by decide) other
  · rename_i kind _
    exact absurd (kind ▸ by decide) other
  · rename_i kind _
    exact absurd (kind ▸ by decide) other
  · rename_i kind _
    exact absurd (kind ▸ by decide) other
  · rfl

theorem Authored.approve (authored : Authored edited.records edited.log) (completing : edited.Completing platform approved)
    (accepted : edited.approve platform approved = .ok next) : Authored next.records next.log := by
  obtain ⟨done, logs⟩ := Edited.approve_ok accepted
  rw [logs]
  by_cases rewords : approved.filed.kind ∈ rewordingKinds
  · obtain ⟨payload, parsed, goes⟩ := Edited.applyKind_ok accepted rewords
    rw [rewordingKinds, List.mem_cons, List.mem_cons, List.mem_cons, List.mem_singleton] at rewords
    rcases rewords with kind | kind | kind | kind
    · rw [kind] at goes
      cases payload with
      | vocabularyCreate payload =>
        obtain ⟨columns, read, whole⟩ := vocabularyCreate_authored authored goes
        rw [Approved.written, parsed]
        simp only [kind] at read ⊢
        rw [read]
        exact whole
      | _ => cases goes
    · rw [kind] at goes
      cases payload with
      | vocabularyRelabel payload =>
        have completes := fun row columns => completing payload row columns kind parsed
        obtain ⟨row, columns, found, whole⟩ := vocabularyRelabel_authored authored completes goes
        rw [Approved.written, parsed]
        simp only [kind] at found ⊢
        rw [found, ← List.append_assoc]
        exact whole
      | _ => cases goes
    · rw [kind] at goes
      cases payload with
      | termCreate payload =>
        have whole := termCreate_authored authored goes
        rw [Approved.written, parsed]
        simp only [kind]
        exact whole
      | _ => cases goes
    · rw [kind] at goes
      cases payload with
      | termUpdate payload =>
        obtain ⟨term, found, whole⟩ := termUpdate_authored authored goes
        rw [Approved.written, parsed]
        simp only [kind]
        rw [found]
        exact whole
      | _ => cases goes
  · rw [written_nil rewords, List.append_nil]
    exact authored.grows ((apply_grows rewords).ok done)

theorem Authored.honest (authored : Authored edited.records edited.log) : edited.Honest := by
  intro worded member stamp
  apply (authored.sound worded member).honest
  rw [stamp]
  nofun

theorem Edited.completing_of_honest (accepted : edited.approve platform approved = .ok next) (honest : next.Honest) :
    edited.Completing platform approved := by
  intro payload row columns kind parsed found person cleared column held last
  obtain ⟨-, logs⟩ := approve_ok accepted
  have rewords : approved.filed.kind ∈ rewordingKinds := by
    rw [kind]
    decide
  obtain ⟨other, again, goes⟩ := applyKind_ok accepted rewords
  obtain rfl : Payload.vocabularyRelabel payload = other := Except.ok.inj (parsed.symm.trans again)
  rw [kind] at goes
  obtain ⟨worded, member, holder, stamp, columned⟩ := vocabularyRelabel_stamps goes found person cleared
  have carried : Piece.column column ∈ worded.pieces := mem_pieces.mpr (.inr (.inr ⟨column, columned column held, rfl⟩))
  by_contra kept
  apply honest worded member stamp _ carried
  have written : approved.written platform edited.records = rewriting (.row row.id) (relabelPieces payload columns)
      approved.reviewer ++ followed (mirrorsOf edited.records row) payload.labels approved.reviewer := by
    rw [Approved.written, parsed]
    simp only [kind] at found ⊢
    rw [found]
  have foreign : ∀ writing ∈ followed (mirrorsOf edited.records row) payload.labels approved.reviewer,
      writing.1 ≠ (Holder.row row.id, Piece.column column) := by
    intro writing listed same
    obtain ⟨term, -, wrote⟩ := List.mem_flatMap.mp listed
    have termed := mem_rewriting wrote
    rw [same] at termed
    cases termed
  rw [logs, written, holder, ← List.append_assoc, Authors.lastBy_append_of_not_mem foreign, lastBy_rewriting_kept kept]
  exact last

/-- The primary keys of the lists and the terms. -/
structure Keyed (records : Records) : Prop where
  rows : (records.rows.map (·.id)).Nodup
  terms : (records.terms.map (·.id)).Nodup
  rowsBelow : ∀ row ∈ records.rows, row.id < records.nextId
  termsBelow : ∀ term ∈ records.terms, term.id < records.nextId

theorem Keyed.authored (keyed : Keyed records) : Authored records [] where
  holders := by
    rw [wording_holders, List.nodup_append]
    refine ⟨keyed.rows.map fun _ _ => Holder.row.inj, keyed.terms.map fun _ _ => Holder.term.inj, ?_⟩
    rintro holder rowed other termed rfl
    obtain ⟨id, -, rfl⟩ := List.mem_map.mp rowed
    obtain ⟨other, -, same⟩ := List.mem_map.mp termed
    cases same
  below := by
    intro worded member
    rcases List.mem_append.mp member with rowed | termed
    · obtain ⟨row, there, rfl⟩ := List.mem_map.mp rowed
      exact keyed.rowsBelow row there
    · obtain ⟨term, there, rfl⟩ := List.mem_map.mp termed
      exact keyed.termsBelow term there
  logged := nofun
  sound worded _ := { marked := nofun, honest := fun _ _ _ => nofun }

/-- In a run of approvals, a person's stamp stands over no wording an agent's approval wrote last exactly
when every relabel that takes a row from the agents rewrites the columns they wrote last as well. -/
theorem run_honest (platform : Platform Rule) (records : Records) (keyed : Keyed records) (approvals : List Approved) :
    (∀ first, first <+: approvals → (run (Edited.approve platform) { records } first).Honest) ↔
      Meets (Edited.approve platform) (Edited.Completing platform) { records } approvals := by
  apply holds_throughout_iff fun edited : Edited => Authored edited.records edited.log
  · exact keyed.authored
  · exact fun edited authored => authored.honest
  · intro edited approved next authored accepted
    exact ⟨Edited.completing_of_honest accepted, fun completing => (authored.approve completing accepted).honest⟩
  · exact fun edited approved next authored completing accepted => authored.approve completing accepted

instance (edited : Edited) : Decidable edited.Honest := by
  unfold Edited.Honest
  infer_instance

def criticalPayload : Dict Json :=
  [("extra", .dict [("slaDays", .number 2)]), ("key", .text "critical"), ("kind", .text "negative"),
    ("labels", .dict [("en", .text "Critical")]), ("list", .text "urgency")]

def relabelPayload : Dict Json :=
  [("key", .text "critical"), ("labels", .dict [("en", .text "Urgent")]), ("list", .text "urgency")]

def wholePayload : Dict Json :=
  [("extra", .dict [("slaDays", .number 3)]), ("key", .text "critical"),
    ("labels", .dict [("en", .text "Urgent")]), ("list", .text "urgency")]

def urgencyPlatform : Platform Unit where
  modelValidate kind payload :=
    if kind = .vocabularyCreate ∧ payload = criticalPayload then .ok (.vocabularyCreate {
      list := "urgency", key := "critical", labels := [("en", "Critical")], kind := some "negative"
      extra := [("slaDays", .number 2)] })
    else if kind = .vocabularyRelabel ∧ payload = relabelPayload then .ok (.vocabularyRelabel {
      list := "urgency", key := "critical", labels := [("en", "Urgent")] })
    else if kind = .vocabularyRelabel ∧ payload = wholePayload then .ok (.vocabularyRelabel {
      list := "urgency", key := "critical", labels := [("en", "Urgent")]
      extra := some [("slaDays", .number 3)] })
    else .error ["payload"]
  modelDump _ := []
  scopeValidate _ := .error ["payload"]
  scopeDump _ := []
  isLink _ := false
  slugify := id
  folded := id
  clean _ value := .ok value
  screenAll _ := []
  dateutil := { rrulestr := fun _ _ => none, walk := fun _ => [] }

def proposedBy (id : Id) (kind : ProposalKind) (payload : Dict Json) (origin : OriginType) : Filed where
  id := id
  kind := kind
  targetId := none
  changeId := none
  payload := payload
  fieldSources := []
  sourceLabel := ""
  sourceUrl := ""
  origin := origin
  agentRunId := none
  model := ""
  proposedByAgent := none
  ownerTenant := none

def newYearDay : Now where
  moment := 0
  today := .newYear2026

/-- An agent's new urgency, approved by another agent. -/
def criticalApproved : Approved where
  now := newYearDay
  filed := proposedBy 1 .vocabularyCreate criticalPayload .agent
  actor := { kind := .agent }
  reviewer := { actor := { kind := .agent }, apiKeyId := some 30, agentId := some 31 }

/-- A person's approval of a relabel. -/
def relabelApproved (payload : Dict Json) : Approved where
  now := newYearDay
  filed := proposedBy 2 .vocabularyRelabel payload .user
  actor := { kind := .user }
  reviewer := { actor := { kind := .user }, user := some 20 }

def emptyLibrary : Records where
  languages := ["en"]
  nextId := 1

theorem emptyLibrary_keyed : Keyed emptyLibrary where
  rows := .nil
  terms := .nil
  rowsBelow := List.forall_mem_nil _
  termsBelow := List.forall_mem_nil _

/-- A person rewrites the label alone, and is named for the deadline an agent approved. -/
theorem deadline_unconfirmed : Keyed emptyLibrary ∧
    ¬(run (Edited.approve urgencyPlatform) { records := emptyLibrary }
      [criticalApproved, relabelApproved relabelPayload]).Honest :=
  ⟨emptyLibrary_keyed, by decide +kernel⟩

/-- A person rewrites the deadline with the label, and is named for both. -/
theorem deadline_confirmed :
    (run (Edited.approve urgencyPlatform) { records := emptyLibrary }
      [criticalApproved, relabelApproved wholePayload]).Honest := by
  refine (run_honest urgencyPlatform emptyLibrary emptyLibrary_keyed _).mpr ?_ _ List.prefix_rfl
  refine ⟨fun _ _ payload row columns kind => absurd kind (by decide), ?_, trivial⟩
  intro _ _ payload row columns _ parsed found _ _ column held _
  obtain rfl := Payload.vocabularyRelabel.inj (Except.ok.inj parsed)
  have read : (relabelTarget urgencyPlatform
      (settle (Edited.approve urgencyPlatform) { records := emptyLibrary } criticalApproved).records .vocabularyRelabel
      { list := "urgency", key := "critical", labels := [("en", "Urgent")], extra := some [("slaDays", .number 3)] }).map
        (fun target => (target.1.columns.keys, target.2.keys)) = .ok (["sla_days"], ["sla_days"]) := by
    decide +kernel
  have both : (row.columns.keys, columns.keys) = (["sla_days"], ["sla_days"]) := by
    have named := congrArg (Except.map fun target : ListRow × Dict Json => (target.1.columns.keys, target.2.keys)) found
    exact Except.ok.inj (named.symm.trans read)
  obtain ⟨carried, written⟩ := Prod.mk.inj both
  rw [relabelPieces, column_mem_written, written, ← carried]
  exact held

end Grc.Proposals
