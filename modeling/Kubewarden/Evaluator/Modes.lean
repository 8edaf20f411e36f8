/-
# Execution modes, settings and requests of the policy evaluator

`policy_evaluator.rs` names a policy's execution mode by serde's renames
(`kubewarden-wapc`, `opa`, `gatekeeper`, `wasi`) and displays it as its JSON
without the quotes. Only `opa` and `gatekeeper` convert to a Rego execution
mode, and a runtime displays by its stack (`runtimes.rs`). A
policy's settings are a JSON object, `null` standing for none; a raw
validation request's uid is its `uid` field when that is a string, else empty.

serde's JSON for a unit variant, its name as a JSON string, follows serde's
rules.

Key definitions: `display`, `regoPolicyExecutionModeTryFrom`,
`policySettingsTryFrom`, `ValidateRequest.uid`.
-/
import Kubewarden.Server.PrecompiledPolicy

namespace Kubewarden
namespace Evaluator

open Server (PolicyExecutionMode)

/-! ### Execution modes -/

/-- The names `#[serde(rename = ..)]` gives the execution modes. -/
def serdeName : PolicyExecutionMode → String
  | .kubewardenWapc => "kubewarden-wapc"
  | .opa => "opa"
  | .opaGatekeeper => "gatekeeper"
  | .wasi => "wasi"

/-- `serde_json::to_string` of an execution mode: its name as a JSON string
(the names hold nothing to escape). -/
def toJson (mode : PolicyExecutionMode) : String := "\"" ++ serdeName mode ++ "\""

/-- `Display for PolicyExecutionMode`: the JSON with every `"` removed. -/
def display (mode : PolicyExecutionMode) : String :=
  ⟨(toJson mode).toList.filter (· ≠ '"')⟩

/-- `RegoPolicyExecutionMode`. -/
inductive RegoPolicyExecutionMode
  | opa
  | gatekeeper
  deriving DecidableEq, Repr

/-- `TryFrom<PolicyExecutionMode> for RegoPolicyExecutionMode`. -/
def regoPolicyExecutionModeTryFrom : PolicyExecutionMode → Except String RegoPolicyExecutionMode
  | .opa => .ok .opa
  | .opaGatekeeper => .ok .gatekeeper
  | .kubewardenWapc | .wasi => .error "execution mode not convertible to a Rego based execution mode"

/-- `Runtime`, by what its `Display` reads: for a Rego stack, its execution mode. -/
inductive Runtime
  | wapc
  | rego (policyExecutionMode : RegoPolicyExecutionMode)
  | cli
  deriving DecidableEq, Repr

/-- `Display for Runtime`. -/
def Runtime.display : Runtime → String
  | .cli => "wasi"
  | .wapc => "wapc"
  | .rego .opa => "OPA"
  | .rego .gatekeeper => "Gatekeeper"

/-! ### Settings and requests -/

/-- `serde_json::Value`; a number is kept as its text, which nothing here reads. -/
inductive Value
  | null
  | bool (b : Bool)
  | number (text : String)
  | string (s : String)
  | array (elems : List Value)
  | object (fields : List (String × Value))

/-- `Value::get` with a key: an object's field of that name. -/
def Value.get (value : Value) (key : String) : Option Value :=
  match value with
  | .object fields => (fields.find? fun field => field.1 = key).map Prod.snd
  | _ => none

/-- `Value::as_str`. -/
def Value.asStr : Value → Option String
  | .string s => some s
  | _ => none

/-- `PolicySettings`: a JSON object's fields. -/
structure PolicySettings where
  fields : List (String × Value)

/-- `PolicySettings::default`: no field. -/
def PolicySettings.default : PolicySettings := ⟨[]⟩

/-- `TryFrom<&serde_json::Value> for PolicySettings`. -/
def policySettingsTryFrom : Value → Except String PolicySettings
  | .null => .ok .default
  | .object obj => .ok ⟨obj⟩
  | _ => .error "Invalid settings in CRD, not an object"

/-- `RawExtension`, the JSON value it wraps. -/
structure RawExtension where
  value : Value

/-- `TryFrom<&RawExtension> for PolicySettings`. -/
def policySettingsTryFromRawExtension (rawExtension : RawExtension) : Except String PolicySettings :=
  policySettingsTryFrom rawExtension.value

/-- `ValidateRequest`, with the field of `AdmissionRequest` that `uid` reads. -/
inductive ValidateRequest
  | raw (value : Value)
  | admissionRequest (uid : String)

/-- `ValidateRequest::uid`. -/
def ValidateRequest.uid : ValidateRequest → String
  | .raw rawReq => ((rawReq.get "uid").bind Value.asStr).getD ""
  | .admissionRequest uid => uid

end Evaluator
end Kubewarden
