import Aviary.Function.BiddingFunction

/-!
# The sandboxee

`function/bidding_function_sapi_adapter.cc` and `ServeRequest` of the sandboxee binary: a process
that compiles one function and then runs it on batches. Its state is the two globals
`single_bidding_function`, a variant of two pointers that starts as a null bidding function, and
`function_type`. `serveRequest` answers one request of the host.

The globals are meant to encode a `Phase`: nothing compiled yet, or one function of one role. Every
request keeps them so (`Reachable.encodes`): `BatchExecute` fails until a `Compile` succeeds, and
then the function never changes and every `Compile` fails (`sandboxee_requests_of_run`). The
failure is failed-precondition only for a script that compiles: `DoCompileFunction` runs `Create`
first and answers with its error, and `CompileFunction` rejects any other type before
(`compileFunction_initialized`, `second_compile_rejected_by_create`).
-/

namespace Aviary

/-- `BiddingFunctionSpec::FunctionType`, an open enum: any other number can arrive. -/
inductive FunctionType where
  | functionTypeUnspecified
  | fledgeBiddingFunction
  | fledgeAdScoringFunction
  | unrecognized (value : Int)
  deriving DecidableEq, Repr

/-- `FunctionType_Name`, empty for a number the enum does not name. -/
def FunctionType.name : FunctionType → String
  | .functionTypeUnspecified => "FUNCTION_TYPE_UNSPECIFIED"
  | .fledgeBiddingFunction => "FLEDGE_BIDDING_FUNCTION"
  | .fledgeAdScoringFunction => "FLEDGE_AD_SCORING_FUNCTION"
  | .unrecognized _ => ""

/-- `GetFunctionType<Input>()`. -/
def Role.functionType : Role → FunctionType
  | .bidding => .fledgeBiddingFunction
  | .adScoring => .fledgeAdScoringFunction

structure BiddingFunctionSpec where
  biddingFunctionSource : String := ""
  type : FunctionType := .functionTypeUnspecified
  flattenFunctionArguments : Bool := false

/-- `google.protobuf.Any`: a type url and the message packed in it. -/
structure Any where
  typeUrl : String
  value : Message

/-- The full name of the type of a message. -/
def Message.fullName : Message → String
  | .interestGroup _ => "aviary.InterestGroup"
  | .struct _ => "google.protobuf.Struct"
  | .value _ => "google.protobuf.Value"
  | .auctionConfiguration _ => "aviary.AuctionConfiguration"
  | .biddingFunctionInput _ => "aviary.BiddingFunctionInput"
  | .adScoringFunctionInput _ => "aviary.AdScoringFunctionInput"
  | .biddingFunctionOutput _ => "aviary.BiddingFunctionOutput"
  | .adScoringFunctionOutput _ => "aviary.AdScoringFunctionOutput"

/-- `Any::PackFrom`. -/
def Any.packFrom (message : Message) : Any :=
  ⟨"type.googleapis.com/" ++ message.fullName, message⟩

/-- `Any::Is`: the type url ends with `/` and the full name. -/
def Any.isType (any : Any) (fullName : String) : Bool :=
  ("/" ++ fullName).data.isSuffixOf any.typeUrl.data

namespace Role

/-- `UnpackTo` into an input: the type url names the input type and the payload parses as one. -/
def unpackInput : (r : Role) → Any → Option r.Input
  | .bidding, ⟨typeUrl, .biddingFunctionInput input⟩ =>
    if Any.isType ⟨typeUrl, .biddingFunctionInput input⟩ "aviary.BiddingFunctionInput" then
      some input
    else none
  | .adScoring, ⟨typeUrl, .adScoringFunctionInput input⟩ =>
    if Any.isType ⟨typeUrl, .adScoringFunctionInput input⟩ "aviary.AdScoringFunctionInput" then
      some input
    else none
  | _, _ => none

/-- `UnpackTo` into an output. -/
def unpackOutput : (r : Role) → Any → Option r.Output
  | .bidding, ⟨typeUrl, .biddingFunctionOutput output⟩ =>
    if Any.isType ⟨typeUrl, .biddingFunctionOutput output⟩ "aviary.BiddingFunctionOutput" then
      some output
    else none
  | .adScoring, ⟨typeUrl, .adScoringFunctionOutput output⟩ =>
    if Any.isType ⟨typeUrl, .adScoringFunctionOutput output⟩ "aviary.AdScoringFunctionOutput" then
      some output
    else none
  | _, _ => none

end Role

structure BatchedInvocationInputs where
  inputs : List Any

structure BatchedInvocationOutputs where
  outputs : List Any

section Sandboxee

variable {engine : Engine} (protoJson : ProtoJson)

/-- `single_bidding_function`: a variant of two pointers, `none` for a null one. -/
inductive SingleBiddingFunction (engine : Engine) where
  | bidding (function : Option (BiddingFunction engine .bidding))
  | adScoring (function : Option (BiddingFunction engine .adScoring))

namespace SingleBiddingFunction

/-- The alternative that holds a function of a role. -/
def of : (r : Role) → BiddingFunction engine r → SingleBiddingFunction engine
  | .bidding, function => .bidding (some function)
  | .adScoring, function => .adScoring (some function)

/-- `absl::get` of the alternative of a role: the pointer it holds, none when it is null; empty
where it throws `bad_variant_access`, on the other alternative. -/
def get : SingleBiddingFunction engine → (r : Role) → Option (Option (BiddingFunction engine r))
  | .bidding function, .bidding => some function
  | .adScoring function, .adScoring => some function
  | _, _ => none

theorem get_of (r : Role) (function : BiddingFunction engine r) :
    (of r function).get r = some (some function) := by
  cases r <;> rfl

end SingleBiddingFunction

/-- The sandboxee's globals. -/
structure Sandboxee (engine : Engine) where
  singleBiddingFunction : SingleBiddingFunction engine := .bidding none
  functionType : FunctionType := .functionTypeUnspecified

/-- `DoCompileFunction<Input, Output>(spec)`. -/
def doCompileFunction (r : Role) (spec : BiddingFunctionSpec) (sandboxee : Sandboxee engine) :
    StatusOr Unit × Sandboxee engine :=
  match BiddingFunction.create engine protoJson r spec.biddingFunctionSource
      { flattenFunctionArguments := spec.flattenFunctionArguments } with
  | .error e => (.error e, sandboxee)
  | .ok biddingFunction =>
    if sandboxee.functionType ≠ .functionTypeUnspecified then
      (.error (failedPreconditionError "Function has already been initialized within the sandbox."),
        sandboxee)
    else (.ok (), ⟨.of r biddingFunction, spec.type⟩)

/-- `CompileFunction(spec)`. -/
def compileFunction (spec : BiddingFunctionSpec) (sandboxee : Sandboxee engine) :
    StatusOr Unit × Sandboxee engine :=
  match spec.type with
  | .fledgeBiddingFunction => doCompileFunction protoJson .bidding spec sandboxee
  | .fledgeAdScoringFunction => doCompileFunction protoJson .adScoring spec sandboxee
  | type => (.error (invalidArgumentError ("Unexpected function type: " ++ type.name)), sandboxee)

/-- `GetFunctionOutputs`. -/
def getFunctionOutputs (r : Role) (invokeResult : List r.Output) : BatchedInvocationOutputs :=
  ⟨invokeResult.map fun output => .packFrom (r.outputMessage output)⟩

/-- The unpacking loop of `DoBatchExecuteFunction`. -/
def unpackInputs (r : Role) (inputs : List Any) : StatusOr (List r.Input) :=
  inputs.mapM fun inputsAny =>
    match r.unpackInput inputsAny with
    | some input => .ok input
    | none => .error (invalidArgumentError "Unable to unpack inputs")

/-- `DoBatchExecuteFunction<Input, Output>(invocation_inputs)`; empty where it would crash: at
`absl::get` on the other alternative, or, once the inputs are unpacked, at `BatchInvoke` through a
null pointer. -/
def doBatchExecuteFunction (r : Role) (invocationInputs : BatchedInvocationInputs)
    (sandboxee : Sandboxee engine) : Option (StatusOr BatchedInvocationOutputs) :=
  match sandboxee.singleBiddingFunction.get r with
  | none => none
  | some biddingFunction =>
    match unpackInputs r invocationInputs.inputs, biddingFunction with
    | .error e, _ => some (.error e)
    | .ok _, none => none
    | .ok inputsVector, some biddingFunction => some do
      let invocationResult ← biddingFunction.batchInvoke protoJson inputsVector
      pure (getFunctionOutputs r invocationResult)

/-- `BatchExecuteFunction(invocation_inputs)`; empty where it would crash. -/
def batchExecuteFunction (invocationInputs : BatchedInvocationInputs)
    (sandboxee : Sandboxee engine) : Option (StatusOr BatchedInvocationOutputs) :=
  match sandboxee.functionType with
  | .functionTypeUnspecified =>
    some (.error (failedPreconditionError "Function has not been initialized within the sandbox."))
  | .fledgeBiddingFunction => doBatchExecuteFunction protoJson .bidding invocationInputs sandboxee
  | .fledgeAdScoringFunction =>
    doBatchExecuteFunction protoJson .adScoring invocationInputs sandboxee
  | type => some (.error (invalidArgumentError ("Unexpected function type: " ++ type.name)))

end Sandboxee

/-- A request of the host: its tag, and the message that follows it, empty when `RecvProtoBuf`
fails. -/
inductive SandboxRequest where
  | compile (spec : Option BiddingFunctionSpec)
  | batchExecute (invocationInputs : Option BatchedInvocationInputs)
  | msgExit

/-- What the sandboxee sends back: the status of a `Compile`, the status and outputs of a
`BatchExecute`, or nothing because it exits or crashes. -/
inductive SandboxResponse where
  | status (status : StatusOr Unit)
  | outputs (outputs : StatusOr BatchedInvocationOutputs)
  | exit
  | crash

section Serve

variable {engine : Engine} (protoJson : ProtoJson)

/-- `ServeRequest(comms)`. -/
def serveRequest (sandboxee : Sandboxee engine) : SandboxRequest → SandboxResponse × Sandboxee engine
  | .compile (some spec) =>
    let (compilationStatus, sandboxee) := compileFunction protoJson spec sandboxee
    (.status compilationStatus, sandboxee)
  | .compile none => (.status (.error (invalidArgumentError "RecvProtoBuf failed")), sandboxee)
  | .batchExecute (some invocationInputs) =>
    match batchExecuteFunction protoJson invocationInputs sandboxee with
    | some outputsOr => (.outputs outputsOr, sandboxee)
    | none => (.crash, sandboxee)
  | .batchExecute none => (.outputs (.error (invalidArgumentError "RecvProtoBuf failed")), sandboxee)
  | .msgExit => (.exit, sandboxee)

/-- The request loop of the sandboxee, up to its exit: the responses and the globals after. -/
def serveRequests : Sandboxee engine → List SandboxRequest → List SandboxResponse × Sandboxee engine
  | sandboxee, [] => ([], sandboxee)
  | sandboxee, request :: requests =>
    match serveRequest protoJson sandboxee request with
    | (.exit, sandboxee) => ([.exit], sandboxee)
    | (.crash, sandboxee) => ([.crash], sandboxee)
    | (response, sandboxee) =>
      let (responses, sandboxee) := serveRequests sandboxee requests
      (response :: responses, sandboxee)

end Serve

/-! ## Phases -/

section Phases

variable {engine : Engine} (protoJson : ProtoJson)

/-- What the sandboxee holds: nothing compiled yet, or a function of one role. -/
inductive Phase (engine : Engine) where
  | uninitialized
  | compiled (r : Role) (function : BiddingFunction engine r)

/-- The globals that encode a phase. -/
def Phase.globals : Phase engine → Sandboxee engine
  | .uninitialized => {}
  | .compiled r function => ⟨.of r function, r.functionType⟩

theorem Role.functionType_ne_unspecified (r : Role) : r.functionType ≠ .functionTypeUnspecified := by
  cases r <;> decide

/-- Before any function is compiled, a request either leaves the globals as they are, without
success, or is a `Compile` that succeeds and compiles a function. -/
theorem serveRequest_uninitialized (request : SandboxRequest) :
    ((serveRequest protoJson (Phase.uninitialized.globals : Sandboxee engine) request).2 =
        Phase.uninitialized.globals ∧
      (serveRequest protoJson (Phase.uninitialized.globals : Sandboxee engine) request).1 ≠
        .status (.ok ()) ∧
      (serveRequest protoJson (Phase.uninitialized.globals : Sandboxee engine) request).1 ≠ .crash) ∨
    ((serveRequest protoJson (Phase.uninitialized.globals : Sandboxee engine) request).1 =
        .status (.ok ()) ∧
      ∃ r function, (serveRequest protoJson (Phase.uninitialized.globals : Sandboxee engine)
        request).2 = (Phase.compiled r function).globals) := by
  rcases request with (_ | spec) | (_ | invocationInputs) | _
  · exact .inl (by simp [serveRequest])
  · rcases spec with ⟨source, type, flatten⟩
    cases type with
    | fledgeBiddingFunction =>
      simp only [serveRequest, compileFunction, doCompileFunction]
      split
      · exact .inl (by simp [Phase.globals])
      · exact .inr ⟨rfl, .bidding, _, rfl⟩
    | fledgeAdScoringFunction =>
      simp only [serveRequest, compileFunction, doCompileFunction]
      split
      · exact .inl (by simp [Phase.globals])
      · exact .inr ⟨rfl, .adScoring, _, rfl⟩
    | _ => exact .inl (by simp [serveRequest, compileFunction])
  · exact .inl (by simp [serveRequest])
  · exact .inl (by simp [serveRequest, batchExecuteFunction, Phase.globals])
  · exact .inl (by simp [serveRequest])

/-- A compiled function runs every batch whose inputs unpack. -/
theorem doBatchExecuteFunction_compiled (r : Role) (function : BiddingFunction engine r)
    (invocationInputs : BatchedInvocationInputs) :
    doBatchExecuteFunction protoJson r invocationInputs (Phase.compiled r function).globals = some (do
      let inputsVector ← unpackInputs r invocationInputs.inputs
      let invocationResult ← function.batchInvoke protoJson inputsVector
      pure (getFunctionOutputs r invocationResult)) := by
  unfold doBatchExecuteFunction
  rw [show ((Phase.compiled r function).globals : Sandboxee engine).singleBiddingFunction.get r =
    some (some function) from SingleBiddingFunction.get_of r function]
  cases unpackInputs r invocationInputs.inputs <;> rfl

/-- Once a function is compiled, a batch goes to the alternative of its role. -/
theorem batchExecuteFunction_compiled (r : Role) (function : BiddingFunction engine r)
    (invocationInputs : BatchedInvocationInputs) :
    batchExecuteFunction protoJson invocationInputs (Phase.compiled r function).globals =
      doBatchExecuteFunction protoJson r invocationInputs (Phase.compiled r function).globals := by
  cases r <;> rfl

/-- Once a function is compiled, no request changes the globals or crashes the sandboxee, and every
`Compile` fails. -/
theorem serveRequest_compiled (r : Role) (function : BiddingFunction engine r)
    (request : SandboxRequest) :
    (serveRequest protoJson (Phase.compiled r function).globals request).2 =
        (Phase.compiled r function).globals ∧
      (serveRequest protoJson (Phase.compiled r function).globals request).1 ≠ .crash ∧
      ∀ spec, request = .compile spec →
        ∃ e, (serveRequest protoJson (Phase.compiled r function).globals request).1 =
          .status (.error e) := by
  rcases request with (_ | spec) | (_ | invocationInputs) | _
  · simp [serveRequest]
  · rcases spec with ⟨source, type, flatten⟩
    have hne := r.functionType_ne_unspecified
    cases type <;> simp only [serveRequest, compileFunction, doCompileFunction] <;>
      (try split) <;> simp [Phase.globals, hne]
  · simp [serveRequest]
  · simp [serveRequest, batchExecuteFunction_compiled, doBatchExecuteFunction_compiled]
  · simp [serveRequest]

/-- Once a function is compiled, a `Compile` of a FLEDGE type is answered with `Create`'s error when
its script fails, and with failed-precondition when it compiles; any other type is rejected before
`Create` runs. The globals stay as they are. -/
theorem compileFunction_initialized {sandboxee : Sandboxee engine}
    (hinit : sandboxee.functionType ≠ .functionTypeUnspecified) (spec : BiddingFunctionSpec) :
    (∀ (r : Role) e, spec.type = r.functionType →
      BiddingFunction.create engine protoJson r spec.biddingFunctionSource
          { flattenFunctionArguments := spec.flattenFunctionArguments } = .error e →
        compileFunction protoJson spec sandboxee = (.error e, sandboxee)) ∧
    (∀ (r : Role) function, spec.type = r.functionType →
      BiddingFunction.create engine protoJson r spec.biddingFunctionSource
          { flattenFunctionArguments := spec.flattenFunctionArguments } = .ok function →
        compileFunction protoJson spec sandboxee = (.error (failedPreconditionError
          "Function has already been initialized within the sandbox."), sandboxee)) ∧
    ((∀ r : Role, spec.type ≠ r.functionType) →
      compileFunction protoJson spec sandboxee =
        (.error (invalidArgumentError ("Unexpected function type: " ++ spec.type.name)), sandboxee)) := by
  have hcompile : ∀ r, spec.type = r.functionType →
      compileFunction protoJson spec sandboxee = doCompileFunction protoJson r spec sandboxee := by
    rintro (_ | _) ht <;> simp [compileFunction, ht, Role.functionType]
  refine ⟨fun r e ht hc => by rw [hcompile r ht, doCompileFunction, hc],
    fun r function ht hc => by simp [hcompile r ht, doCompileFunction, hc, hinit], fun hnot => ?_⟩
  cases hty : spec.type with
  | fledgeBiddingFunction => exact absurd hty (hnot .bidding)
  | fledgeAdScoringFunction => exact absurd hty (hnot .adScoring)
  | _ => simp [compileFunction, hty]

/-- The globals after the sandboxee has served some requests. -/
inductive Reachable : Sandboxee engine → Prop
  | init : Reachable {}
  | serve {sandboxee : Sandboxee engine} (request : SandboxRequest) :
      Reachable sandboxee → Reachable (serveRequest protoJson sandboxee request).2

/-- `function_type` always names the alternative that holds the function. -/
theorem Reachable.encodes {sandboxee : Sandboxee engine} (h : Reachable protoJson sandboxee) :
    ∃ phase, sandboxee = Phase.globals phase := by
  induction h with
  | init => exact ⟨.uninitialized, rfl⟩
  | serve request _ ih =>
    obtain ⟨phase, rfl⟩ := ih
    cases phase with
    | uninitialized =>
      rcases serveRequest_uninitialized protoJson request with ⟨h, -, -⟩ | ⟨-, r, f, h⟩
      · exact ⟨_, h⟩
      · exact ⟨_, h⟩
    | compiled r f => exact ⟨_, (serveRequest_compiled protoJson r f request).1⟩

theorem reachable_serveRequests : ∀ (requests : List SandboxRequest) {sandboxee : Sandboxee engine},
    Reachable protoJson sandboxee → Reachable protoJson (serveRequests protoJson sandboxee requests).2
  | [], _, h => h
  | request :: requests, sandboxee, h => by
    have hnext := Reachable.serve request h
    unfold serveRequests
    split
    · next heq => rw [heq] at hnext; exact hnext
    · next heq => rw [heq] at hnext; exact hnext
    · next next _ _ heq =>
      rw [heq] at hnext
      have := reachable_serveRequests requests hnext
      revert this
      cases serveRequests protoJson next requests
      exact id

/-- The globals after serving a sequence of requests from the start. -/
def afterRequests (requests : List SandboxRequest) : Sandboxee engine :=
  (serveRequests protoJson {} requests).2

/-- The answer to `request`, and the globals after it, once `requests` are served from the start. -/
def serveAfter (engine : Engine) (requests : List SandboxRequest) (request : SandboxRequest) :
    SandboxResponse × Sandboxee engine :=
  serveRequest protoJson (afterRequests protoJson requests) request

theorem sandboxee_requests_of_run (requests : List SandboxRequest) (request : SandboxRequest) :
    (∃ phase, (afterRequests protoJson requests : Sandboxee engine) = Phase.globals phase) ∧
    (serveAfter protoJson engine requests request).1 ≠ .crash ∧
    ((afterRequests protoJson requests : Sandboxee engine).functionType =
        .functionTypeUnspecified →
      (∀ invocationInputs, request = .batchExecute (some invocationInputs) →
        (serveAfter protoJson engine requests request).1 = .outputs (.error
          (failedPreconditionError "Function has not been initialized within the sandbox."))) ∧
      ((serveAfter protoJson engine requests request).1 = .status (.ok ()) →
        (serveAfter protoJson engine requests request).2.functionType ≠ .functionTypeUnspecified) ∧
      ((serveAfter protoJson engine requests request).1 ≠ .status (.ok ()) →
        (serveAfter protoJson engine requests request).2 = afterRequests protoJson requests)) ∧
    ((afterRequests protoJson requests : Sandboxee engine).functionType ≠
        .functionTypeUnspecified →
      (serveAfter protoJson engine requests request).2 = afterRequests protoJson requests ∧
      (∀ spec, request = .compile spec →
        ∃ e, (serveAfter protoJson engine requests request).1 = .status (.error e)) ∧
      ∀ spec, request = .compile (some spec) →
        (∀ (r : Role) e, spec.type = r.functionType →
          BiddingFunction.create engine protoJson r spec.biddingFunctionSource
              { flattenFunctionArguments := spec.flattenFunctionArguments } = .error e →
            (serveAfter protoJson engine requests request).1 = .status (.error e)) ∧
        (∀ (r : Role) function, spec.type = r.functionType →
          BiddingFunction.create engine protoJson r spec.biddingFunctionSource
              { flattenFunctionArguments := spec.flattenFunctionArguments } = .ok function →
            (serveAfter protoJson engine requests request).1 = .status (.error
              (failedPreconditionError "Function has already been initialized within the sandbox."))) ∧
        ((∀ r : Role, spec.type ≠ r.functionType) →
          (serveAfter protoJson engine requests request).1 = .status (.error
            (invalidArgumentError ("Unexpected function type: " ++ spec.type.name)))) ∧
        ∀ e, (serveAfter protoJson engine requests request).1 = .status (.error e) →
          e.code = .failedPrecondition →
            ∃ r : Role, ∃ function, spec.type = r.functionType ∧
              BiddingFunction.create engine protoJson r spec.biddingFunctionSource
                { flattenFunctionArguments := spec.flattenFunctionArguments } = .ok function) := by
  obtain ⟨phase, hphase⟩ := (reachable_serveRequests protoJson requests Reachable.init).encodes
  rw [← afterRequests] at hphase
  unfold serveAfter
  rw [hphase]
  refine ⟨⟨phase, rfl⟩, ?_⟩
  cases phase with
  | uninitialized =>
    refine ⟨?_, fun _ => ⟨fun invocationInputs hrequest => ?_, fun hok => ?_, fun hok => ?_⟩,
      fun h => absurd rfl h⟩
    · rcases serveRequest_uninitialized protoJson request with ⟨-, -, h⟩ | ⟨h, -⟩
      · exact h
      · rw [h]; simp
    · subst hrequest; simp [serveRequest, batchExecuteFunction, Phase.globals]
    · rcases serveRequest_uninitialized protoJson request with ⟨-, h, -⟩ | ⟨-, r, f, h⟩
      · exact absurd hok h
      · rw [h]; exact r.functionType_ne_unspecified
    · rcases serveRequest_uninitialized protoJson request with ⟨h, -, -⟩ | ⟨h, -⟩
      · exact h
      · exact absurd h hok
  | compiled r f =>
    obtain ⟨hsame, hcrash, hcompile⟩ := serveRequest_compiled protoJson r f request
    refine ⟨hcrash, fun h => absurd h r.functionType_ne_unspecified,
      fun _ => ⟨hsame, hcompile, fun spec hrequest => ?_⟩⟩
    subst hrequest
    obtain ⟨hfail, hok, hother⟩ :=
      @compileFunction_initialized _ protoJson (Phase.compiled r f).globals
        r.functionType_ne_unspecified spec
    simp only [serveRequest]
    refine ⟨fun r' e ht hc => by rw [hfail r' e ht hc], fun r' g ht hc => by rw [hok r' g ht hc],
      fun hnot => by rw [hother hnot], fun e he hcode => ?_⟩
    by_cases ht : ∃ r' : Role, spec.type = r'.functionType
    · obtain ⟨r', ht⟩ := ht
      cases hc : BiddingFunction.create engine protoJson r' spec.biddingFunctionSource
          { flattenFunctionArguments := spec.flattenFunctionArguments } with
      | ok g => exact ⟨r', g, ht, hc⟩
      | error e' =>
        rw [hfail r' e' ht hc] at he
        cases he
        rcases BiddingFunction.create_error protoJson _ _ _ hc with h | h <;> rw [h] at hcode <;>
          cases hcode
    · rw [hother fun (r' : Role) h => ht ⟨r', h⟩] at he
      cases he
      cases hcode

end Phases

/-- After a first `Compile` succeeds, a second one whose script does not compile is answered with
`Create`'s invalid-argument, and one with no type with invalid-argument too. -/
theorem second_compile_rejected_by_create :
    (serveRequests counterJson ({} : Sandboxee counterEngine)
      [.compile (some { biddingFunctionSource := globalCounterScript, type := .fledgeBiddingFunction }),
        .compile (some { biddingFunctionSource := "inputs =>", type := .fledgeBiddingFunction }),
        .compile (some { biddingFunctionSource := globalCounterScript })]).1 =
      [.status (.ok ()),
        .status (.error
          (invalidArgumentError "Unable to compile the script: SyntaxError: Unexpected end of input")),
        .status (.error (invalidArgumentError "Unexpected function type: FUNCTION_TYPE_UNSPECIFIED"))] :=
  rfl

end Aviary
