import Klura.Library.JsonGrammar
import Klura.Library.OrderedMap

/-! What the result of a local execution says about the capability. -/

namespace Klura

/-- The ways of a local execution to the site. -/
inductive ExecuteTransportV1 where
  | node
  | browser
  deriving DecidableEq

/-- The states that an execution without a confirmed request ends in. -/
inductive FactoryExecutionState where
  | notRun
  | sentUnconfirmed
  deriving DecidableEq

/-- The result of a local execution. -/
structure ExecuteResultV1 where
  status : Option Nat
  body : JsValue
  bodyOk : Option Bool
  executionState : Option FactoryExecutionState

/-- The classes of results. -/
inductive FactoryExecutionClassification where
  | explicitSuccess
  | explicitFailure
  | transportAccepted
  | transportFailure
  | notRun
  | deliveryUnknown
  deriving DecidableEq

/-- The codes of bodies that stand in for one that is too large. -/
def OVERSIZE_BODY_CODES : List Units :=
  [ascii "response_too_large", ascii "response_too_large_html_trimmed"]

/-- Whether a body stands in for one that is too large. -/
def isOversizeBodyEnvelope : JsValue → Bool
  | .object fields =>
    match OrderedMap.get? fields (ascii "error"), OrderedMap.get? fields (ascii "total_chars") with
    | some (.string code), some (.number _) => decide (code ∈ OVERSIZE_BODY_CODES)
    | _, _ => false
  | _ => false

/-- The explicit verdict of a result: that of its body, or else the one kept beside it. -/
def explicitVerdict (result : ExecuteResultV1) : Option Bool :=
  match result.body with
  | .object fields =>
    match OrderedMap.get? fields (ascii "ok") with
    | some (.boolean verdict) => some verdict
    | _ => result.bodyOk
  | _ => result.bodyOk

/-- The class of a result. -/
def classifyFactoryExecutionResult (result : ExecuteResultV1) : FactoryExecutionClassification :=
  match result.executionState, result.status with
  | some .notRun, _ => .notRun
  | some .sentUnconfirmed, _ => .deliveryUnknown
  | none, none => .transportFailure
  | none, some status =>
    if status < 200 ∨ 300 ≤ status then .transportFailure
    else
      match explicitVerdict result with
      | some true => .explicitSuccess
      | some false => .explicitFailure
      | none => if isOversizeBodyEnvelope result.body then .explicitFailure else .transportAccepted

/-- Whether a class is one of accepted results. -/
def factoryExecutionWasAccepted (classification : FactoryExecutionClassification) : Bool :=
  classification == .explicitSuccess || classification == .transportAccepted

/-- Whether a value counts as true. -/
def isTruthy : JsValue → Bool
  | .null => false
  | .boolean value => value
  | .number (.finite _ magnitude) => decide (magnitude.units ≠ 0)
  | .number (.infinite _) => true
  | .string text => !text.isEmpty
  | .array _ | .object _ => true

/-- Whether a body reports a blocker that can be healed. -/
def isHealableBlocker : JsValue → Bool
  | .object fields =>
    ((OrderedMap.get? fields (ascii "blocker")).map isTruthy).getD false &&
      ((OrderedMap.get? fields (ascii "healable")).map isTruthy).getD false
  | _ => false

end Klura
