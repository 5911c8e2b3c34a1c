import Grc.Proposals.Requests

/-! Retries: a request sent again under its key, at any later point of a run. It never files a second
proposal, and while it still passes the checks made before its key is looked up, it is answered by
the one it made. -/
namespace Grc.Proposals

open Grc.Shared Grc.Lib Grc.Library

variable {Rule : Type} {platform : Platform Rule} {now moment : Now} {zone : Option Id} {proposer : Proposer}
  {desk later made : Desk} {row stored : Proposal}

namespace Request

variable {request : Request}

/-- Whether a request passes the checks made before its key is looked up: for a batch that was
filed once, that its run is open. -/
def Passes (platform : Platform Rule) (now : Now) (zone : Option Id) (desk : Desk) (proposer : Proposer) :
    Request → Prop
  | single body => ∃ draft, drafted platform now zone desk proposer body = .ok draft
  | batch body => ∃ run, runOf desk.runs proposer proposer.apiKeyId.isSome body.agentRunId = .ok run

end Request

def openRun : AgentRun where
  id := 12
  apiKey := some 10

end Grc.Proposals

/-! Retry keys: what a second request under a key is held against, and what its apply step would
write beside that. -/
namespace Grc.Proposals

open Grc.Shared Grc.Lib Grc.Library

variable {Rule : Type} {platform : Platform Rule} {now moment : Now} {zone : Option Id} {proposer : Proposer}
  {desk later made : Desk} {row stored : Proposal}

/-- The columns an apply step writes that no request is compared by. -/
structure Uncompared where
  changeId : Option Id := none
  sourceLabel : String := ""
  sourceUrl : String := ""
  agentRunId : Option Id := none
  model : String := ""
  deriving DecidableEq

def Filed.uncompared (filed : Filed) : Uncompared :=
  match filed.kind with
  | .newInstrument => { sourceUrl := filed.sourceUrl, agentRunId := filed.agentRunId }
  | .newObligation =>
    { changeId := filed.changeId, sourceLabel := filed.sourceLabel, sourceUrl := filed.sourceUrl
      agentRunId := filed.agentRunId, model := filed.model }
  | .newObligationVersion => { changeId := filed.changeId }
  | _ => {}

/-- What an apply step writes of what was sent. -/
structure Written where
  kind : ProposalKind
  payload : Dict Json
  targetId : Option Id
  ownerTenant : Option Id
  uncompared : Uncompared
  deriving DecidableEq

def Filed.written (filed : Filed) : Written where
  kind := filed.kind
  payload := filed.payload
  targetId := filed.targetId
  ownerTenant := filed.ownerTenant
  uncompared := filed.uncompared

namespace Request

variable {first second : Request} {asked : Proposal}

end Request

end Grc.Proposals
