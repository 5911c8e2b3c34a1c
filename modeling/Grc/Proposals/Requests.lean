import Grc.Proposals.Run
import Grc.Proposals.Stored

/-! Requests under a retry key, at either door: what a request asks to be filed as, and the stored
proposal a later request under the same key is held against. -/
namespace Grc.Proposals

open Grc.Shared Grc.Lib Grc.Library

variable {Rule : Type} {platform : Platform Rule} {now moment : Now} {zone : Option Id} {proposer : Proposer}
  {desk after later made : Desk} {row stored : Proposal}

/-- What is sent to be filed: one proposal, or a batch. -/
inductive Request where
  | single (body : Body)
  | batch (body : BatchBody)

namespace Request

def key : Request → String
  | single body => body.idempotencyKey
  | batch body => body.idempotencyKey

/-- `create`, or `create_batch`. -/
def file (platform : Platform Rule) (now : Now) (zone : Option Id) (proposer : Proposer) :
    Request → Work (Proposal × Bool)
  | single body => create platform now zone proposer body
  | batch body => createBatch platform zone proposer body

def action (proposer : Proposer) : Request → Action
  | single body => .create proposer body
  | batch body => .createBatch proposer body

/-- The row a request asks for, once it passed the checks made before its key is looked up. -/
def asked (platform : Platform Rule) (now : Now) (zone : Option Id) (desk : Desk) (proposer : Proposer) :
    Request → Except Refusal Proposal
  | single body => (drafted platform now zone desk proposer body).map (rowOf platform zone desk proposer body)
  | batch body => (draftedBatch platform zone desk proposer body).map fun draft =>
      draft.rowOf platform desk proposer body draft.payload.changes.length

def existing (zone : Option Id) (desk : Desk) (proposer : Proposer) : Request → Option Proposal
  | single body => Proposals.existing zone desk proposer body.idempotencyKey
  | batch body => existingBatch zone desk proposer body.idempotencyKey

/-- Whether a stored row is, in the columns its door compares, what a request asks for. -/
def repeats (row stored : Proposal) : Request → Prop
  | single _ => stored.compared = row.compared
  | batch _ => stored.isBatch = true ∧ stored.kind = row.kind ∧ stored.title = row.title ∧
      stored.payload = row.payload

instance (row stored : Proposal) (request : Request) : Decidable (request.repeats row stored) := by
  cases request <;> unfold repeats <;> infer_instance

def owns (proposer : Proposer) : Request → Proposal → Bool
  | single _ => ownedBy proposer
  | batch _ => batchOwnedBy proposer

def sought (zone : Option Id) (proposer : Proposer) (request : Request) (proposal : Proposal) : Bool :=
  visible zone proposal && request.owns proposer proposal && proposal.idempotencyKey == some request.key

variable {request first second : Request}

theorem existing_eq (keyed : request.key ≠ "") :
    request.existing zone desk proposer = desk.proposals.find? (request.sought zone proposer) := by
  cases request with
  | single body | batch body => exact if_neg keyed

/-- What a request that was filed was filed as. -/
structure Filed (platform : Platform Rule) (now : Now) (zone : Option Id) (proposer : Proposer) (request : Request)
    (desk made : Desk) (row : Proposal) : Prop where
  asked : request.asked platform now zone desk proposer = .ok row
  width : request.key.length ≤ idempotencyKeyMaxChars
  first : request.existing zone desk proposer = none
  free : keyTaken desk proposer request.key = false
  proposals : made.proposals = desk.proposals ++ [row]
  tenants : made.tenants = desk.tenants ++ zone.toList.map fun tenant => { tenant, proposal := row.id }

/-- The columns a filed row takes from who filed it, and from where. -/
structure Signed (zone : Option Id) (proposer : Proposer) (request : Request) (row : Proposal) : Prop where
  user : row.proposedByUser = proposer.user
  apiKey : row.proposedByApiKey = proposer.apiKeyId
  key : row.idempotencyKey = keyColumn request.key
  owner : row.ownerTenant = none ∨ row.ownerTenant = zone
  inTenant : row.proposedInTenant = zone.isSome

theorem ownerOf_ok {kind : ProposalKind} {isPrivate : Bool} {owner : Option Id}
    (found : ownerOf kind isPrivate zone = .ok owner) : owner = none ∨ owner = zone := by
  by_cases shared : isPrivate = false
  · simp only [ownerOf, if_pos shared, bind_ok, Except.ok.injEq] at found
    obtain ⟨-, -, rfl⟩ := found
    exact .inl rfl
  · simp only [ownerOf, if_neg shared, bind_ok, Except.ok.injEq] at found
    obtain ⟨-, -, -, -, rfl⟩ := found
    exact .inr rfl

theorem asked_signed (checked : request.asked platform now zone desk proposer = .ok row) :
    request.Signed zone proposer row := by
  cases request with
  | single body =>
    obtain ⟨draft, passed, rfl⟩ := map_ok.mp checked
    obtain ⟨run, kind, -, -, fits⟩ := drafted_ok passed
    obtain ⟨owner, _, _, owned, -, rfl⟩ := checkedBody_ok fits
    exact { user := rfl, apiKey := rfl, key := rfl, owner := ownerOf_ok owned, inTenant := rfl }
  | batch body =>
    obtain ⟨draft, passed, rfl⟩ := map_ok.mp checked
    have shared := (draftedBatch_ok passed).1
    exact { user := rfl, apiKey := rfl, key := rfl, owner := .inl rfl, inTenant := by rw [shared]; rfl }

theorem owns_signed {other : Request} (signed : request.Signed zone proposer row) : other.owns proposer row = true := by
  cases other with
  | single body =>
    rw [owns, ownedBy]
    cases user : proposer.user with
    | some person => simp [signed.user, user]
    | none => simp [signed.user, signed.apiKey, user]
  | batch body =>
    rw [owns, batchOwnedBy]
    cases user : proposer.user with
    | some person => simp [signed.user, user]
    | none => simp [signed.apiKey]

theorem sought_signed (signed : first.Signed zone proposer row) (keyed : first.key ≠ "")
    (same : second.key = first.key) : second.sought zone proposer row = true := by
  have seen : visible zone row = true := by
    rw [visible, Bool.or_eq_true, beq_iff_eq, beq_iff_eq]
    exact signed.owner
  have named : row.idempotencyKey = some second.key := by
    rw [signed.key, keyColumn, if_neg keyed, same]
  rw [sought, seen, owns_signed signed, named]
  simp

theorem sought_standing {one other : Proposal} (same : one.standing = other.standing) :
    request.sought zone proposer one = request.sought zone proposer other := by
  have owner : one.ownerTenant = other.ownerTenant := congrArg Standing.ownerTenant same
  have user : one.proposedByUser = other.proposedByUser := congrArg Standing.proposedByUser same
  have apiKey : one.proposedByApiKey = other.proposedByApiKey := congrArg Standing.proposedByApiKey same
  have key : one.idempotencyKey = other.idempotencyKey := congrArg Standing.idempotencyKey same
  cases request with
  | single body => simp only [sought, visible, owns, ownedBy, owner, user, apiKey, key]
  | batch body => simp only [sought, visible, owns, batchOwnedBy, owner, user, apiKey, key]

/-- No row before a filed one is sought under its key, at the same door or at the other. -/
theorem Filed.first_sought (filed : first.Filed platform now zone proposer desk made row) (keyed : first.key ≠ "")
    (same : second.key = first.key)
    (named : proposer.user ≠ none ∨ proposer.apiKeyId ≠ none ∨ second.owns proposer = first.owns proposer) :
    ∀ old ∈ desk.proposals, second.sought zone proposer old = false := by
  intro old member
  have unseen : ¬first.sought zone proposer old = true := by
    have none := filed.first
    rw [existing_eq keyed] at none
    exact List.find?_eq_none.mp none old member
  have untaken : old.idempotencyKey = some first.key → proposer.apiKeyId ≠ none →
      old.proposedByApiKey ≠ proposer.apiKeyId := by
    intro key signed taken
    have free := filed.free
    rw [keyTaken, Bool.and_eq_false_iff] at free
    rcases free with blank | free
    · exact keyed (bne_eq_false_iff_eq.mp blank)
    · have absent := List.any_eq_false.mp free old member
      apply absent
      obtain ⟨held, found⟩ := Option.ne_none_iff_exists'.mp signed
      simp [key, taken, found]
  rw [← Bool.not_eq_true]
  intro sought'
  rw [sought, Bool.and_eq_true, Bool.and_eq_true, beq_iff_eq, same] at sought'
  obtain ⟨⟨seen, owned⟩, key⟩ := sought'
  have ownedFirst : first.owns proposer old = true := by
    rcases named with person | signed | door
    · obtain ⟨user, found⟩ := Option.ne_none_iff_exists'.mp person
      cases first <;> cases second <;> simpa [owns, ownedBy, batchOwnedBy, found] using owned
    · cases person : proposer.user with
      | some user => cases first <;> cases second <;> simpa [owns, ownedBy, batchOwnedBy, person] using owned
      | none =>
        have byKey : old.proposedByApiKey = proposer.apiKeyId := by
          cases second with
          | single body =>
            simp only [owns, ownedBy, person, Bool.and_eq_true, beq_iff_eq] at owned
            exact owned.1
          | batch body =>
            simp only [owns, batchOwnedBy, person, beq_iff_eq] at owned
            exact owned
        exact absurd byKey (untaken key signed)
    · rw [← door]
      exact owned
  apply unseen
  rw [sought, seen, ownedFirst, key]
  simp

theorem find_standing {request : Request} {before proposals : List Proposal} {more : List Standing}
    (same : proposals.map Proposal.standing = (before ++ [row]).map Proposal.standing ++ more)
    (none : ∀ old ∈ before, request.sought zone proposer old = false)
    (hit : request.sought zone proposer row = true) : ∃ stored ∈ proposals, stored.standing = row.standing ∧
      proposals.find? (request.sought zone proposer) = some stored := by
  induction before generalizing proposals with
  | nil =>
    obtain ⟨head, rest, rfl, standing, -⟩ := List.map_eq_cons_iff.mp same
    refine ⟨head, List.mem_cons_self, standing, ?_⟩
    exact List.find?_cons_of_pos ((sought_standing standing).trans hit)
  | cons old earlier ih =>
    obtain ⟨head, rest, rfl, standing, tail⟩ := List.map_eq_cons_iff.mp same
    obtain ⟨stored, member, equal, found⟩ := ih tail fun other among => none other (List.mem_cons_of_mem old among)
    refine ⟨stored, List.mem_cons_of_mem head member, equal, ?_⟩
    have miss : request.sought zone proposer head = false :=
      (sought_standing standing).trans (none old List.mem_cons_self)
    rw [List.find?_cons_of_neg (by rw [miss]; exact Bool.false_ne_true)]
    exact found

end Request

/-- A desk a run goes on to: no proposal's filing rewritten, no link to a bank dropped. -/
structure Desk.Extends (desk later : Desk) : Prop where
  standings : ∃ more, later.proposals.map Proposal.standing = desk.proposals.map Proposal.standing ++ more
  tenants : ∃ more, later.tenants = desk.tenants ++ more

theorem Request.Filed.found {first second : Request} (filed : first.Filed platform now zone proposer desk made row)
    (keyed : first.key ≠ "") (same : second.key = first.key)
    (named : proposer.user ≠ none ∨ proposer.apiKeyId ≠ none ∨ second.owns proposer = first.owns proposer)
    (goes : made.Extends later) : ∃ stored ∈ later.proposals, stored.standing = row.standing ∧
      second.existing zone later proposer = some stored ∧ sameZone zone later stored = true := by
  obtain ⟨more, standings⟩ := goes.standings
  obtain ⟨links, tenants⟩ := goes.tenants
  rw [filed.proposals] at standings
  have signed := asked_signed filed.asked
  obtain ⟨stored, member, standing, found⟩ := find_standing standings
    (filed.first_sought keyed same named) (sought_signed signed keyed same)
  refine ⟨stored, member, standing, ?_, ?_⟩
  · rw [existing_eq (by rw [same]; exact keyed)]
    exact found
  · cases zone with
    | none =>
      have made : stored.proposedInTenant = row.proposedInTenant := congrArg Standing.proposedInTenant standing
      rw [sameZone, made, signed.inTenant]
      rfl
    | some tenant =>
      rw [sameZone, Queue.id_of_standing standing, List.contains_iff_mem, tenants, filed.tenants]
      simp

end Grc.Proposals
