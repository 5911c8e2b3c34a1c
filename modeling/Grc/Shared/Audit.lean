import Mathlib.Data.List.Basic
import Grc.Lib.Values

/-! What every app shares: ids, moments, refusals and the one door to the audit log. -/
namespace Grc.Shared

/-- A row's primary key. The source draws UUIDs; their equality is read and, where rows tie, their
order. -/
abbrev Id := Nat

/-- A moment on the server's clock. -/
abbrev Instant := Nat

/-- A value beside a refusal, or in an audit row's `before` or `after`. -/
inductive AuditValue where
  | absent
  | text (value : String)
  | number (value : Nat)
  | flag (value : Bool)
  | ref (id : Id)
  | refs (ids : List Id)
  | texts (values : List String)
  | records (rows : List (List (String × (Id ⊕ String))))
  | json (value : Lib.Json)
  deriving DecidableEq

/-- `_str`: an id, or null. -/
def AuditValue.ofId : Option Id → AuditValue
  | none => .absent
  | some id => .ref id

def AuditValue.ofText : Option String → AuditValue
  | none => .absent
  | some value => .text value

def recordValues (row : List (String × (Id ⊕ String))) : List (String × AuditValue) :=
  row.map fun part => (part.1, part.2.elim .ref .text)

/-- A refusal as the logic layer raises it: the code a client branches on, the detail a
person reads and what is sent beside it. -/
structure Refusal where
  code : String
  detail : String
  extra : List (String × AuditValue) := []
  deriving DecidableEq

/-- `{text!r}`, of a text without quotes of its own. -/
def quoted (text : String) : String := "'" ++ text ++ "'"

def notFound : Refusal := { code := "not_found", detail := "Not found." }

def internalError : Refusal := { code := "internal_error", detail := "" }

inductive ActorType where
  | user
  | agent
  | system

structure Actor where
  kind : ActorType
  id : Option Id := none
  label : String := ""

/-- `Actor.system`: nobody in the bank asked for it. -/
def Actor.ofSystem (label : String) : Actor := { kind := .system, label }

/-- One row of `audit_event`, with the topic its `outbox_event` row is routed by. -/
structure AuditEvent where
  action : String
  actor : Actor
  subjectType : String
  subjectId : Option Id
  subjectTitle : String := ""
  summary : String := ""
  tenantId : Option Id
  before : List (String × AuditValue) := []
  after : List (String × AuditValue) := []
  stepUpAssertionId : Option Id := none
  topic : String := action
  payload : List (String × AuditValue) := []

/-- `record()`: the audit row and its outbox row, appended in the caller's transaction. -/
def record (log : List AuditEvent) (event : AuditEvent) : List AuditEvent := log ++ [event]

@[simp] theorem record_eq (log : List AuditEvent) (event : AuditEvent) :
    record log event = log ++ [event] := rfl

end Grc.Shared
