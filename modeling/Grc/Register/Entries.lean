import Grc.Lib.Request
import Grc.Register.Duties
import Grc.Register.Status

/-! The rows of a bank's register that its writes touch, and the bodies those writes are asked with. -/
namespace Grc.Register.Desk

open Grc.Shared Grc.Lib Grc.Register

/-- `RecordHeading`. -/
structure RecordHeading where
  referenceLabel : String
  instrumentShortName : String

/-- A row of one of the bank's lists without a kind of its own: a risk rating, a team or a link kind. -/
structure ListRow where
  id : Id
  key : String
  kind : Option String := none
  active : Bool := true

structure Membership where
  user : Id
  deactivatedAt : Option Instant := none

structure OrgUnit where
  id : Id
  name : String
  isLegalEntity : Bool
  active : Bool := true

/-- What a bank says about its status on an obligation, on the entry or on one entity's row. -/
structure StatusDetails where
  riskRating : Option Id := none
  statusNote : String := ""
  process : String := ""
  system : String := ""
  evidenceLocation : String := ""
  nextReviewDate : Option Day := none

structure TenantObligation where
  id : Id
  tenant : Id
  obligation : Id
  decision : ApplicabilityDecision := {}
  complianceStatus : Id
  details : StatusDetails := {}
  firstLineOwner : Option Id := none
  complianceContact : Option Id := none
  ownerTeam : Option Id := none
  version : Nat := 1

structure TenantObligationScope where
  id : Id
  tenant : Id
  tenantObligation : Id
  orgUnit : Id
  product : Option Id := none
  decision : ApplicabilityDecision := {}
  complianceStatus : Id
  details : StatusDetails := {}
  owner : Option Id := none
  ownerTeam : Option Id := none
  version : Nat := 1

structure Interpretation where
  id : Id
  tenant : Id
  tenantObligation : Id
  versionNumber : Nat
  body : String
  author : Id
  createdAt : Instant
  supersededAt : Option Instant := none

structure InternalItem where
  id : Id
  tenant : Id
  kind : Id
  name : String
  reference : String := ""
  url : String := ""
  ownerUser : Option Id := none
  ownerTeam : Option Id := none
  orgUnit : Option Id := none
  externalSystem : String := ""
  externalRef : String := ""
  lastReviewedOn : Option Day := none
  nextReviewOn : Option Day := none
  active : Bool := true

structure InternalLink where
  id : Id
  tenant : Id
  tenantObligation : Id
  internalItem : Id
  label : String
  url : String
  externalRef : String
  createdBy : Id
  createdAt : Instant
  removedAt : Option Instant := none
  removedBy : Option Id := none

/-- `ComplianceAssessment`, by the bank itself. -/
structure ComplianceAssessment where
  id : Id
  tenant : Id
  tenantObligation : Id
  scope : Option Id
  method : String := "self_assessment"
  status : Id
  riskRating : Option Id
  rationale : String
  nextReviewDate : Option Day
  assessedBy : Id

/-- A bank's tables as row-level security shows them: what the register's writes read, and what they write. -/
structure Bank where
  headings : List (Id × RecordHeading) := []
  statuses : List ComplianceStatus := []
  ratings : List ListRow := []
  teams : List ListRow := []
  linkKinds : List ListRow := []
  labels : List ListLabel := []
  people : List PersonRef := []
  members : List Membership := []
  orgUnits : List OrgUnit := []
  entries : List TenantObligation := []
  scopes : List TenantObligationScope := []
  interpretations : List Interpretation := []
  items : List InternalItem := []
  links : List InternalLink := []
  assessments : List ComplianceAssessment := []
  audit : List AuditEvent := []

/-- `RegisterInterpretationBody`. -/
structure InterpretationBody where
  text : String

/-- `RegisterInternalLinkBody`. -/
structure InternalLinkBody where
  kind : String
  label : String
  url : Option String := none
  externalRef : Option String := none
  internalItemId : Option Id := none
  reference : Option String := none
  externalSystem : Option String := none
  ownerId : Option Id := none
  ownerTeamId : Option Id := none
  orgUnitId : Option Id := none
  lastReviewedOn : Option Day := none
  nextReviewOn : Option Day := none

/-- `ITEM_FIELDS`: whether the body describes a new item. -/
def InternalLinkBody.describesItem (body : InternalLinkBody) : Bool :=
  body.reference.isSome || body.externalSystem.isSome || body.ownerId.isSome || body.ownerTeamId.isSome || body.orgUnitId.isSome ||
    body.lastReviewedOn.isSome || body.nextReviewOn.isSome

/-- `RegisterEntityPatch`; the schema refuses an owner and an owner team together. -/
structure EntityPatch where
  complianceStatus : Option String := none
  statusNote : Option String := none
  riskRating : Option String := none
  ownerTeam : Option String := none
  process : Option String := none
  system : Option String := none
  evidenceLocation : Option String := none
  nextReviewDate : Option Day := none
  rationale : Option String := none
  ownerId : Option Id := none
  oneOwnerKind : ownerId = none ∨ ownerTeam = none

/-- The keys and the moment the server draws for the rows of one request. -/
structure Drawn where
  entry : Id
  scope : Id
  interpretation : Id
  item : Id
  link : Id
  assessment : Id
  now : Instant

/-- `RegisterInterpretationVersion`. -/
structure InterpretationVersion where
  versionNo : Nat
  text : String
  author : Option PersonRef
  writtenAt : Instant

/-- `RegisterInterpretation`. -/
structure RegisterInterpretation where
  obligation : Id
  current : Option InterpretationVersion
  earlier : List InterpretationVersion

/-- `RegisterInternalLink`. -/
structure RegisterInternalLink where
  id : Id
  kind : VocabRef (Option String)
  label : String
  url : Option String
  externalRef : Option String
  externalSystem : Option String
  internalItem : Id
  createdBy : Option PersonRef
  createdAt : Instant

/-- `RegisterEntityStatus`. -/
structure RegisterEntityStatus where
  orgUnit : Id
  orgUnitName : String
  applicability : ApplicabilityAnswer
  decision : ApplicabilityDecision
  complianceStatus : VocabRef ComplianceCategory
  riskRating : Option (VocabRef (Option String))
  statusNote : Option String
  process : Option String
  system : Option String
  evidenceLocation : Option String
  nextReviewDate : Option Day
  owner : Option PersonRef
  ownerTeam : Option (VocabRef (Option String))
  version : Nat

end Grc.Register.Desk
