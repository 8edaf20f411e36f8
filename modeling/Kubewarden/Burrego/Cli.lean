/-
# The burrego command line

`burrego` (`examples/cli/main.rs`) evaluates a Rego policy compiled to
WebAssembly, or lists the builtins it implements. An evaluation reads its
input from `--input` or from `--input-path`, and refuses both at once before
doing anything else; with neither the input is `{}`. It evaluates the policy
only when every builtin the policy calls is implemented, and then at the
entrypoint given as a number, or else found by its name. The
evaluator calls a builtin by name, and a name it does not implement is an
error (`builtins_helper.rs`).

The JSON parser, the file system, the Wasm evaluator, the table of builtins
(`get_builtins`) and the printer are parameters; logging is left out.
-/
import Kubewarden.Evaluator.Modes

namespace Kubewarden
namespace Burrego

open Evaluator (Value)

/-! ### Builtins -/

/-- The error `BuiltinsHelper::invoke` raises. -/
inductive BurregoError
  | builtinNotImplementedError (name : String)
  deriving DecidableEq, Repr

/-- `BuiltinsHelper`: its table of builtins, by name. -/
structure BuiltinsHelper where
  builtins : String → Option (List Value → Except BurregoError Value)

/-- `BuiltinsHelper::invoke`. -/
def BuiltinsHelper.invoke (helper : BuiltinsHelper) (builtinName : String) (args : List Value) :
    Except BurregoError Value :=
  match helper.builtins builtinName with
  | some builtinFn => builtinFn args
  | none => .error (.builtinNotImplementedError builtinName)

/-! ### The command -/

/-- `Commands`, with the arguments of `Eval`. -/
inductive Commands
  | eval (input inputPath : Option String) (data entrypoint policy : String)
  | builtins

/-- A line the command writes, to standard output or to standard error. -/
inductive Output
  | out (line : String)
  | err (line : String)
  deriving DecidableEq, Repr

/-- How the command ends: `main` returns `Ok`, returns an error, or calls
`process::exit`. -/
inductive Exit
  | ok
  | error (msg : String)
  | exit (code : ℕ)
  deriving DecidableEq, Repr

/-- What `main` calls: `serde_json::from_str` (its error's `{:?}`),
`File::open` (its error's `{:?}`) and `serde_json::from_reader`, the
evaluator built for a policy path with its `opa_abi_version`,
`not_implemented_builtins`, `entrypoint_id` and `evaluate`, `str::parse` of an
entrypoint id, `serde_json::to_string_pretty`, and
`Evaluator::implemented_builtins`. -/
structure CliEnv (File Evaluator : Type) where
  fromStr : String → Except String Value
  openFile : String → Except String File
  fromReader : File → Except String Value
  build : String → Except String Evaluator
  opaAbiVersion : Evaluator → Except String (ℕ × ℕ)
  notImplementedBuiltins : Evaluator → Except String (List String)
  parseEntrypoint : String → Option Int
  entrypointId : Evaluator → String → Except String Int
  evaluate : Evaluator → Int → Value → List UInt8 → Except String Value
  toStringPretty : Value → Except String String
  implementedBuiltins : List String

variable {File Evaluator : Type} (env : CliEnv File Evaluator)

/-- The input of an evaluation, when `--input` and `--input-path` are not both
given. -/
def inputValueOf : Option String → Option String → Except String Value
  | some inputJson, _ => (env.fromStr inputJson).mapError fun e => "Cannot parse input: " ++ e
  | none, some inputFilename => do
    let file ← (env.openFile inputFilename).mapError fun e => "Cannot read input file: " ++ e
    env.fromReader file
  | none, none => pure (.object [])

/-- The entrypoint to evaluate: the argument as a number, or the id of the
entrypoint of that name. -/
def entrypointIdOf (evaluator : Evaluator) (entrypoint : String) : Except String Int :=
  match env.parseEntrypoint entrypoint with
  | some id => .ok id
  | none => env.entrypointId evaluator entrypoint

/-- The evaluation once the evaluator is built and every builtin the policy
calls is implemented. -/
def evaluateAt (evaluator : Evaluator) (inputValue : Value) (data entrypoint : String) :
    Except String String := do
  let entrypointId ← entrypointIdOf env evaluator entrypoint
  let evaluationRes ← env.evaluate evaluator entrypointId inputValue data.toUTF8.toList
  env.toStringPretty evaluationRes

/-- The `Eval` arm of `main`, its error being what `main` returns. -/
def eval (input inputPath : Option String) (data entrypoint policy : String) :
    Except String (List Output × Exit) :=
  if input.isSome ∧ inputPath.isSome then
    .error "Cannot use \x27input\x27 and \x27input-path\x27 at the same time"
  else do
    let inputValue ← inputValueOf env input inputPath
    let evaluator ← env.build policy
    let _ ← env.opaAbiVersion evaluator
    let notImplementedBuiltins ← env.notImplementedBuiltins evaluator
    if notImplementedBuiltins.isEmpty then
      let text ← evaluateAt env evaluator inputValue data entrypoint
      pure ([.out text], .ok)
    else
      pure (.err "Cannot evaluate policy, these builtins are not yet implemented:" ::
        notImplementedBuiltins.map (fun b => .err ("  - " ++ b)), .exit 1)

/-- `main`, after the command line is parsed. -/
def main : Commands → List Output × Exit
  | .builtins =>
    (.out "These are the OPA builtins currently supported:" ::
      env.implementedBuiltins.map (fun b => .out ("  - " ++ b)), .ok)
  | .eval input inputPath data entrypoint policy =>
    match eval env input inputPath data entrypoint policy with
    | .ok result => result
    | .error e => ([], .error e)

end Burrego
end Kubewarden
