import Grc.Lib.Repoint
import Grc.Proposals.Apply

/-! A merge of one value of a library list into another: what its preview counts, and what its approval
leaves of every linked table. -/
namespace Grc.Proposals

open Grc.Shared Grc.Lib Grc.Library

/-- What a merge answers. -/
structure VocabularyMerged where
  key : String
  into : String
  usageCount : Nat
  repointed : Nat
  dryRun : Bool
  deriving DecidableEq

namespace LinkRow

def point (target : Id) (row : LinkRow) : LinkRow := { row with value := target }

end LinkRow

variable {records after : Records} {source target : Id} {link other : Link}

variable {now into : ListRow} {payload : VocabularyMergePayload} {links : List Link} {moves : List Moved}

variable {filed : Filed} {actor : Actor} {stepUp : Option Id}

end Grc.Proposals
