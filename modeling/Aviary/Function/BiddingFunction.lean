import Aviary.Function.Interface

/-!
# A script run in V8

`BiddingFunction<Input, Output>` of `function/bidding_function.cc`. V8 is a parameter: an `Engine`
gives the calls the code makes, each as a function of the JavaScript heap of the context it runs
in, which it may change. The protobuf JSON conversions are a parameter too (`ProtoJson`).

`create` compiles and runs the script, finds the function, stores it in the global
`__GenerateBid_Internal__`, invokes it ten times to warm it up, and keeps the heap of that context
as the startup snapshot. It fails only with internal or invalid-argument
(`BiddingFunction.create_error`). `batchInvoke` creates one context from the snapshot and invokes the
function on the inputs in turn, all in that context: each input sees the global state the inputs
before it left, so the second input of a batch of the test `DoesNotReuseContext` bids `11` where the
test expects every invocation to bid `10` (`batch_output_differs_from_single`). Only a function that
leaves the snapshot as it found it answers a batch as it answers each input alone
(`batchInvoke_getElem_of_keeps_snapshot`).
-/

namespace Aviary

/-- A message that the function layer converts to JSON: an input, a field of one, or an output. -/
inductive Message where
  | interestGroup (message : InterestGroup)
  | struct (message : Struct)
  | value (message : Value)
  | auctionConfiguration (message : AuctionConfiguration)
  | biddingFunctionInput (message : BiddingFunctionInput)
  | adScoringFunctionInput (message : AdScoringFunctionInput)
  | biddingFunctionOutput (message : BiddingFunctionOutput)
  | adScoringFunctionOutput (message : AdScoringFunctionOutput)

/-- A field of an input, as `InvokeFunctionOnce` reads it through reflection. -/
inductive Field where
  | message (message : Message)
  | map (entries : List (String × Message))
  | double (value : Double)

namespace Role

def inputMessage : (r : Role) → r.Input → Message
  | .bidding, input => .biddingFunctionInput input
  | .adScoring, input => .adScoringFunctionInput input

def outputMessage : (r : Role) → r.Output → Message
  | .bidding, output => .biddingFunctionOutput output
  | .adScoring, output => .adScoringFunctionOutput output

/-- The fields of an input in declaration order; an unset message field reads as its default. -/
def inputFields : (r : Role) → r.Input → List Field
  | .bidding, (input : BiddingFunctionInput) =>
    [.message (.interestGroup (input.interestGroup.getD {})),
      .message (.struct (input.auctionSignals.getD [])),
      .message (.struct (input.perBuyerSignals.getD [])),
      .map (input.trustedBiddingSignals.map fun entry => (entry.1, .value entry.2)),
      .message (.struct (input.browserSignals.getD []))]
  | .adScoring, (input : AdScoringFunctionInput) =>
    [.message (.struct (input.adMetadata.getD [])),
      .double input.bid,
      .message (.auctionConfiguration (input.auctionConfig.getD {})),
      .message (.struct (input.trustedScoringSignals.getD [])),
      .message (.struct (input.browserSignals.getD []))]

end Role

/-- `MessageToJsonString` and `JsonStringToMessage` of `google/protobuf/util/json_util.h`. -/
structure ProtoJson where
  messageToJsonString : Message → Option String
  jsonStringToMessage : (r : Role) → String → Except String r.Output

/-- The state of a promise when `WaitForPromise` stops waiting for it. -/
inductive PromiseState where
  | pending
  | fulfilled
  | rejected
  deriving DecidableEq, Repr

/-- What the code calls of V8. Each call runs in a context whose heap, globals included, it reads
and may change; a call that can throw returns the message `ToLocalTryCatch` reads from its
`TryCatch`, empty when there is none. -/
structure Engine where
  Heap : Type
  Value : Type
  Script : Type
  /-- The heap of a new context of a new isolate. -/
  newContext : Heap
  /-- `v8::String::NewFromUtf8`, empty for a string longer than V8 holds. -/
  newString : String → Option Value
  /-- A string within `v8::String::kMaxLength` is always made. -/
  newString_isSome : ∀ s : String, s.utf8ByteSize < 2 ^ 29 - 24 → (newString s).isSome
  /-- `v8::String::Utf8Value`. -/
  utf8Value : Value → String
  /-- `v8::Script::Compile`. -/
  compile : Value → Heap → Except String Script × Heap
  /-- `Script::Run`. -/
  run : Script → Heap → Except String Value × Heap
  isFunction : Value → Bool
  isPromise : Value → Bool
  /-- `context->Global()->Get(context, name)`. -/
  getGlobal : Value → Heap → Except String Value × Heap
  /-- `context->Global()->Set(context, name, value)`, empty when it threw. -/
  setGlobal : Value → Value → Heap → Option Bool × Heap
  /-- `Function::Call` with the global object as receiver. -/
  call : Value → List Value → Heap → Except String Value × Heap
  /-- The microtask checkpoints of `WaitForPromise` until the promise settles or the wait of
  `--bidding_function_async_wait` is over: the promise's state and result then. -/
  waitForPromise : Value → Heap → (PromiseState × Value) × Heap
  /-- `v8::JSON::Parse`, empty when it threw. -/
  parse : Value → Heap → Option Value × Heap
  /-- `v8::JSON::Stringify`, empty when it threw. -/
  stringify : Value → Heap → Option Value × Heap
  /-- `v8::Number::New`. -/
  newNumber : Double → Value
  /-- `v8::Object::New` with a null prototype and the given properties. -/
  newObject : List (Value × Value) → Heap → Value × Heap

section Engine

variable (engine : Engine) (protoJson : ProtoJson)

/-- Code that runs in one V8 context: it threads the context's heap, and a failure leaves the heap
as the failing call left it. -/
abbrev Js (α : Type) := ExceptT Status (StateM engine.Heap) α

/-- Runs code in a context from its heap. -/
def Js.runOn {α : Type} (code : Js engine α) (heap : engine.Heap) : Except Status α × engine.Heap :=
  code.run.run heap

/-- `ToLocalChecked(error_message, maybe_value)`. -/
def toLocalChecked {α : Type} (errorMessage : String) : Option α → Js engine α
  | some value => pure value
  | none => throw (internalError errorMessage)

/-- `ToLocalTryCatch(get_value, code, message, context)`. -/
def toLocalTryCatch {α : Type} (getValue : engine.Heap → Except String α × engine.Heap)
    (code : StatusCode) (message : String) : Js engine α :=
  ExceptT.mk fun heap =>
    ((getValue heap).1.mapError fun exception => ⟨code, message ++ exception⟩, (getValue heap).2)

/-- `.status().IgnoreError()`: the heap keeps what the code did, and its status is dropped. -/
def ignoreError {α : Type} (code : Js engine α) : Js engine Unit :=
  ExceptT.mk do
    let _ ← code.run
    pure (.ok ())

def internalBiddingFunctionName : String := "__GenerateBid_Internal__"

/-- `NewFromUtf8(...).ToLocalChecked()` of a name of the code, which V8 always makes. -/
def newName (name : String) (h : name.utf8ByteSize < 2 ^ 29 - 24) : engine.Value :=
  (engine.newString name).get (engine.newString_isSome name h)

def setFunctionValue (functionValue : engine.Value) : Js engine Unit := do
  let name ← toLocalChecked engine "Missing expected V8 value."
    (engine.newString internalBiddingFunctionName)
  let success ← modifyGet (engine.setGlobal name functionValue)
  if success = some true then pure ()
  else throw (internalError "Could not set global GenerateBid.")

def getFunctionValue : Js engine engine.Value := do
  let name ← toLocalChecked engine "Missing expected V8 value."
    (engine.newString internalBiddingFunctionName)
  let functionValue ← toLocalTryCatch engine (engine.getGlobal name) .internal
    "Cannot load the function: "
  if engine.isFunction functionValue then pure functionValue
  else throw (internalError "Script did not return a function.")

def waitForPromise (promise : engine.Value) : Js engine engine.Value := do
  let (state, result) ← modifyGet (engine.waitForPromise promise)
  match state with
  | .fulfilled => pure result
  | .rejected =>
    throw (invalidArgumentError ("Async javascript function failed: " ++ engine.utf8Value result))
  | .pending => throw (invalidArgumentError "Async javascript function timed out.")

def convertOutput (r : Role) (functionOutput : engine.Value) : Js engine r.Output := do
  let jsonString ← toLocalChecked engine "Unable to serialize function output to JSON."
    (← modifyGet (engine.stringify functionOutput))
  match protoJson.jsonStringToMessage r (engine.utf8Value jsonString) with
  | .ok convertedOutput => pure convertedOutput
  | .error message =>
    throw (failedPreconditionError
      ("Unable to convert the bidding function output from JSON: " ++ message))

def convertArgument (functionInput : Message) : Js engine engine.Value := do
  let some jsonString := protoJson.messageToJsonString functionInput
    | throw (internalError "Unable to convert a bidding function input.")
  let jsonStringValue ← toLocalChecked engine "Missing expected V8 value."
    (engine.newString jsonString)
  toLocalChecked engine "Missing expected V8 value." (← modifyGet (engine.parse jsonStringValue))

def invokeFunctionWithJsonInput (arguments : List engine.Value) : Js engine engine.Value := do
  let functionValue ← getFunctionValue engine
  let returnValue ← toLocalTryCatch engine (engine.call functionValue arguments) .internal
    "Function execution failed: "
  if engine.isPromise returnValue then waitForPromise engine returnValue else pure returnValue

def getMapArgument (entries : List (String × Message)) : Js engine engine.Value := do
  let properties ← entries.mapM fun entry => do
    let fieldName ← toLocalChecked engine "Missing expected V8 value." (engine.newString entry.1)
    let convertedMapValue ← convertArgument engine protoJson entry.2
    pure (fieldName, convertedMapValue)
  modifyGet (engine.newObject properties)

/-- The argument `InvokeFunctionOnce` makes of one field. -/
def fieldArgument : Field → Js engine engine.Value
  | .message message => convertArgument engine protoJson message
  | .map entries => getMapArgument engine protoJson entries
  | .double value => pure (engine.newNumber value)

def invokeFunctionOnce (options : FunctionOptions) (r : Role) (input : r.Input) :
    Js engine engine.Value := do
  let arguments ←
    if options.flattenFunctionArguments then (r.inputFields input).mapM (fieldArgument engine protoJson)
    else do pure [← convertArgument engine protoJson (r.inputMessage input)]
  invokeFunctionWithJsonInput engine arguments

def biddingFunctionWarmUpIterations : Nat := 10

def warmUpBiddingFunction (options : FunctionOptions) (r : Role) : Js engine Unit :=
  (List.replicate biddingFunctionWarmUpIterations ()).forM fun _ =>
    ignoreError engine (invokeFunctionOnce engine protoJson options r r.defaultInput)

/-- A compiled function: its options and the startup snapshot of its warmed-up context. -/
structure BiddingFunction (r : Role) where
  options : FunctionOptions
  snapshot : engine.Heap

/-- The code `Create` runs in the context it snapshots. The source is read up to its first NUL, as
`NewFromUtf8` reads the `c_str()` it is given. -/
def createInContext (r : Role) (scriptSource : String) (options : FunctionOptions) :
    Js engine Unit := do
  let source ← toLocalChecked engine "Unable to create a script source string."
    (engine.newString ⟨scriptSource.data.takeWhile (· ≠ '\x00')⟩)
  let script ← toLocalTryCatch engine (engine.compile source) .invalidArgument
    "Unable to compile the script: "
  let mut functionValue ← toLocalTryCatch engine (engine.run script) .invalidArgument
    "Cannot run the script: "
  if !engine.isFunction functionValue then
    functionValue ← toLocalTryCatch engine
      (engine.getGlobal (newName engine r.functionDeclarationName (by cases r <;> decide)))
      .invalidArgument "Cannot get function named according to FLEDGE API conventions: "
    if !engine.isFunction functionValue then
      throw (invalidArgumentError
        "Globally-declared object with the expected FLEDGE function name was not a function.")
  setFunctionValue engine functionValue
  warmUpBiddingFunction engine protoJson options r

/-- `BiddingFunction<Input, Output>::Create`. -/
def BiddingFunction.create (r : Role) (scriptSource : String) (options : FunctionOptions) :
    StatusOr (BiddingFunction engine r) :=
  match (createInContext engine protoJson r scriptSource options).runOn engine engine.newContext with
  | (.ok (), heap) => .ok ⟨options, heap⟩
  | (.error e, _) => .error e

namespace BiddingFunction

variable {engine} {r : Role} (f : BiddingFunction engine r)

/-- What `BatchInvoke` does for one input: `InvokeFunctionOnce`, then `ConvertOutput`. -/
def invokeAndConvert (input : r.Input) : Js engine r.Output := do
  let returnValue ← invokeFunctionOnce engine protoJson f.options r input
  convertOutput engine protoJson r returnValue

/-- The loop of `BatchInvoke` in its one context, from the vector `outputs` built so far. -/
def batchInvokeLoop : List r.Output → List r.Input → engine.Heap → StatusOr (List r.Output)
  | outputs, [], _ => .ok outputs
  | outputs, input :: inputs, heap =>
    match (f.invokeAndConvert protoJson input).runOn engine heap with
    | (.error e, _) => .error e
    | (.ok output, heap) => batchInvokeLoop (outputs ++ [output]) inputs heap

/-- `BatchInvoke`: one context from the snapshot for the whole batch. -/
def batchInvoke (inputs : List r.Input) : StatusOr (List r.Output) :=
  f.batchInvokeLoop protoJson [] inputs f.snapshot

theorem length_batchInvokeLoop : ∀ {outputs inputs heap result},
    f.batchInvokeLoop protoJson outputs inputs heap = .ok result →
      result.length = outputs.length + inputs.length
  | _, [], _, _, h => by cases h; simp
  | outputs, input :: inputs, heap, result, h => by
    unfold batchInvokeLoop at h
    split at h
    · cases h
    · rw [length_batchInvokeLoop h]; simp; omega

/-- A batch of one input is that input's invocation from the snapshot. -/
theorem batchInvoke_singleton (input : r.Input) :
    f.batchInvoke protoJson [input] =
      (fun output => [output]) <$> ((f.invokeAndConvert protoJson input).runOn engine f.snapshot).1 := by
  unfold batchInvoke batchInvokeLoop
  split <;> simp_all [batchInvokeLoop]

/-- Each input of a batch with the heap its invocation starts from: the context's for the first,
then the heap each invocation leaves for the next. -/
def invocationHeaps : engine.Heap → List r.Input → List (r.Input × engine.Heap)
  | _, [] => []
  | heap, input :: inputs =>
    (input, heap) :: invocationHeaps ((f.invokeAndConvert protoJson input).runOn engine heap).2 inputs

/-- What each invocation of a batch returns, in the batch's one context. -/
def invocationResults (inputs : List r.Input) : List (StatusOr r.Output) :=
  (f.invocationHeaps protoJson f.snapshot inputs).map fun invocation =>
    ((f.invokeAndConvert protoJson invocation.1).runOn engine invocation.2).1

/-- The loop is an `ASSIGN_OR_RETURN` loop over the invocations, each from the heap the one before
it left. -/
theorem batchInvokeLoop_eq_mapM : ∀ (outputs : List r.Output) (inputs : List r.Input)
    (heap : engine.Heap),
    f.batchInvokeLoop protoJson outputs inputs heap =
      (outputs ++ ·) <$> (f.invocationHeaps protoJson heap inputs).mapM fun invocation =>
        ((f.invokeAndConvert protoJson invocation.1).runOn engine invocation.2).1
  | outputs, [], _ => by
    simp only [batchInvokeLoop, invocationHeaps, List.mapM_nil, pure_eq_ok, map_ok, List.append_nil]
  | outputs, input :: inputs, heap => by
    rw [batchInvokeLoop, invocationHeaps, List.mapM_cons]
    rcases (f.invokeAndConvert protoJson input).runOn engine heap with ⟨_ | output, heap'⟩
    · rfl
    · dsimp only
      rw [batchInvokeLoop_eq_mapM _ inputs heap', ok_bind]
      cases (f.invocationHeaps protoJson heap' inputs).mapM fun invocation =>
          ((f.invokeAndConvert protoJson invocation.1).runOn engine invocation.2).1 <;> simp

/-- `BatchInvoke` answers from its invocations in order. -/
theorem answersInOrder_batchInvoke (inputs : List r.Input) :
    AnswersInOrder (f.invocationResults protoJson inputs) (f.batchInvoke protoJson inputs) := by
  have h := answersInOrder_mapM (fun invocation : r.Input × engine.Heap =>
    ((f.invokeAndConvert protoJson invocation.1).runOn engine invocation.2).1)
    (f.invocationHeaps protoJson f.snapshot inputs)
  rw [batchInvoke, batchInvokeLoop_eq_mapM]
  revert h
  cases (f.invocationHeaps protoJson f.snapshot inputs).mapM fun invocation =>
      ((f.invokeAndConvert protoJson invocation.1).runOn engine invocation.2).1 <;> exact id

/-- While every invocation leaves the snapshot's heap as it found it, each input is invoked from
the snapshot. -/
theorem invocationHeaps_of_keeps_snapshot : ∀ inputs : List r.Input,
    (∀ input ∈ inputs,
      ((f.invokeAndConvert protoJson input).runOn engine f.snapshot).2 = f.snapshot) →
    f.invocationHeaps protoJson f.snapshot inputs = inputs.map (·, f.snapshot)
  | [], _ => rfl
  | input :: inputs, hkeep => by
    rw [invocationHeaps, hkeep input (List.mem_cons_self _ _), invocationHeaps_of_keeps_snapshot
      inputs fun input h => hkeep input (List.mem_cons_of_mem _ h)]
    rfl

/-- When no input of a batch changes the heap of the snapshot, a batch that succeeds answers each
input as a batch of that input alone does. -/
theorem batchInvoke_getElem_of_keeps_snapshot (inputs : List r.Input)
    (hkeep : ∀ input ∈ inputs,
      ((f.invokeAndConvert protoJson input).runOn engine f.snapshot).2 = f.snapshot)
    (outputs : List r.Output) (h : f.batchInvoke protoJson inputs = .ok outputs) :
    List.Forall₂ (fun input output => f.batchInvoke protoJson [input] = .ok [output])
      inputs outputs := by
  have hresults : f.invocationResults protoJson inputs = inputs.map fun input =>
      ((f.invokeAndConvert protoJson input).runOn engine f.snapshot).1 := by
    rw [invocationResults, f.invocationHeaps_of_keeps_snapshot protoJson inputs hkeep, List.map_map]
    rfl
  have hinvocations := ((f.answersInOrder_batchInvoke protoJson inputs).1 outputs).mp h
  rw [hresults, List.forall₂_map_left_iff] at hinvocations
  exact hinvocations.imp fun input output hinput => by rw [batchInvoke_singleton, hinput, map_ok]

/-- The function as the server holds it. -/
def toInterface : BiddingFunctionInterface r.Input r.Output where
  batchInvoke := f.batchInvoke protoJson
  length_batchInvoke h := by simpa using f.length_batchInvokeLoop protoJson h

end BiddingFunction

end Engine

/-! ## What `Create` fails with -/

section Create

variable {engine : Engine}

/-- Code run after code that failed does not run: the status and the heap are as the failing call
left them. -/
theorem Js.runOn_bind {α β : Type} (x : Js engine α) (f : α → Js engine β) (heap : engine.Heap) :
    (x >>= f).runOn engine heap =
      match x.runOn engine heap with
      | (.ok a, heap) => (f a).runOn engine heap
      | (.error e, heap) => (.error e, heap) := by
  simp only [Js.runOn, ExceptT.run_bind, StateT.run_bind]
  cases x.run.run heap with
  | mk r h => cases r <;> rfl

/-- Every status the code can fail with, from any heap, satisfies `P`. -/
def Js.FailsWith {α : Type} (P : Status → Prop) (code : Js engine α) : Prop :=
  ∀ heap e, (code.runOn engine heap).1 = .error e → P e

/-! One rule per combinator the code is written with, so that what a function can fail with
follows from its shape. -/

namespace Js.FailsWith

variable {α β : Type} {P : Status → Prop}

theorem bind {x : Js engine α} {f : α → Js engine β} (hx : x.FailsWith P)
    (hf : ∀ a, (f a).FailsWith P) : (x >>= f).FailsWith P := by
  intro heap e h
  rw [Js.runOn_bind] at h
  split at h
  · exact hf _ _ _ h
  · next heq => cases h; exact hx heap _ (by rw [heq])

theorem pure (a : α) : (Pure.pure a : Js engine α).FailsWith P := fun _ _ h => nomatch h

theorem throw {e : Status} (he : P e) : (MonadExcept.throw e : Js engine α).FailsWith P :=
  fun _ _ h => by cases h; exact he

theorem toLocalChecked {message : String} (h : P (internalError message)) (value : Option α) :
    (Aviary.toLocalChecked engine message value).FailsWith P := by
  cases value
  · exact throw h
  · exact pure _

theorem toLocalTryCatch {getValue : engine.Heap → Except String α × engine.Heap} {code : StatusCode}
    {message : String} (h : ∀ exception, P ⟨code, message ++ exception⟩) :
    (Aviary.toLocalTryCatch engine getValue code message).FailsWith P := by
  intro heap e he
  change Except.mapError _ (getValue heap).1 = _ at he
  cases hv : (getValue heap).1 <;> rw [hv] at he <;> cases he
  exact h _

theorem modifyGet (f : engine.Heap → α × engine.Heap) :
    (MonadStateOf.modifyGet f : Js engine α).FailsWith P := fun _ _ h => nomatch h

theorem ignoreError (code : Js engine α) : (Aviary.ignoreError engine code).FailsWith P := by
  intro heap e h
  simp [Aviary.ignoreError, Js.runOn] at h

theorem forM {γ : Type} {f : γ → Js engine PUnit} (hf : ∀ a, (f a).FailsWith P) :
    ∀ l : List γ, (l.forM f).FailsWith P
  | [] => pure _
  | a :: l => bind (hf a) fun _ => forM hf l

end Js.FailsWith

variable (protoJson : ProtoJson) (r : Role) (scriptSource : String) (options : FunctionOptions)

/-- The statuses `Create` fails with: internal, or invalid-argument for a script that does not
compile, does not run or gives no function. -/
def CreateError (e : Status) : Prop := e.code = .internal ∨ e.code = .invalidArgument

theorem setFunctionValue_failsWith (functionValue : engine.Value) :
    (setFunctionValue engine functionValue).FailsWith CreateError := by
  unfold setFunctionValue
  refine .bind (.toLocalChecked (.inl rfl) _) fun _ => .bind (.modifyGet _) fun success => ?_
  split
  · exact .pure _
  · exact .throw (.inl rfl)

theorem createInContext_failsWith :
    (createInContext engine protoJson r scriptSource options).FailsWith CreateError := by
  have hjp : ∀ functionValue (y : PUnit), (do
      setFunctionValue engine functionValue
      warmUpBiddingFunction engine protoJson options r : Js engine Unit).FailsWith CreateError :=
    fun functionValue _ => .bind (setFunctionValue_failsWith functionValue) fun _ =>
      .forM (fun _ => .ignoreError _) _
  unfold createInContext
  refine .bind (.toLocalChecked (.inl rfl) _) fun source => .bind (.toLocalTryCatch fun _ => .inr rfl)
    fun script => .bind (.toLocalTryCatch fun _ => .inr rfl) fun functionValue => ?_
  dsimp only
  split
  · refine .bind (.toLocalTryCatch fun _ => .inr rfl) fun functionValue => ?_
    split
    · exact .bind (.throw (.inr rfl)) (hjp functionValue)
    · exact .bind (.pure _) (hjp functionValue)
  · exact .bind (.pure _) (hjp functionValue)

/-- `Create` fails only with internal or invalid-argument. -/
theorem BiddingFunction.create_error {e : Status}
    (h : BiddingFunction.create engine protoJson r scriptSource options = .error e) :
    CreateError e := by
  unfold BiddingFunction.create at h
  split at h
  · cases h
  · next heq =>
    cases h
    exact createInContext_failsWith protoJson r scriptSource options _ _ (by rw [heq])

end Create

/-! ## A function that keeps state -/

/-- The script of the test `DoesNotReuseContext`. -/
def globalCounterScript : String :=
  "\n    var global_counter = 0;\n    (function(input) \x7b return \x7b bid: global_counter++ \x7d; \x7d)\n  "

/-- A value of `counterEngine`. -/
inductive CounterValue where
  | string (s : String)
  | function
  /-- `{ bid: n }`. -/
  | bidObject (bid : Nat)
  | object

/-- An engine whose heap is `global_counter` of `globalCounterScript`: every call returns
`{ bid: global_counter++ }`. A script that ends in `=>`, such as `inputs =>`, stops before the body
of its arrow function and does not compile. -/
def counterEngine : Engine where
  Heap := Nat
  Value := CounterValue
  Script := Unit
  newContext := 0
  newString s := some (.string s)
  newString_isSome _ _ := rfl
  utf8Value
    | .string s => s
    | _ => ""
  compile
    | .string s => fun heap =>
      if ['=', '>'].isSuffixOf s.data then (.error "SyntaxError: Unexpected end of input", heap)
      else (.ok (), heap)
    | _ => fun heap => (.ok (), heap)
  run _ heap := (.ok .function, heap)
  isFunction
    | .function => true
    | _ => false
  isPromise _ := false
  getGlobal _ heap := (.ok .function, heap)
  setGlobal _ _ heap := (some true, heap)
  call _ _ heap := (.ok (.bidObject heap), heap + 1)
  waitForPromise value heap := ((.fulfilled, value), heap)
  parse value heap := (some value, heap)
  stringify
    | .bidObject n, heap => (some (.string ("\x7b\"bid\":" ++ toString n ++ "\x7d")), heap)
    | _, heap => (some (.string "\x7b\x7d"), heap)
  newNumber _ := .object
  newObject _ heap := (.object, heap)

/-- JSON conversions for `globalCounterScript`: an input is `{}`, and a bidding function's output
`{"bid":n}` is read as the bid `n`. -/
def counterJson : ProtoJson where
  messageToJsonString _ := some "\x7b\x7d"
  jsonStringToMessage
    | .bidding, json => .ok ({ bid := .ofNat ((json.data.filter Char.isDigit).foldl
        (fun n c => 10 * n + (c.toNat - '0'.toNat)) 0) } : BiddingFunctionOutput)
    | .adScoring, _ => .ok ({} : AdScoringFunctionOutput)

/-- The ten warm-up calls are in the snapshot, so alone a call bids `10`, as `DoesNotReuseContext`
expects of every invocation; but in a batch of two the second input sees the first one's increment
and bids `11`. -/
theorem batch_output_differs_from_single :
    ∃ f, BiddingFunction.create counterEngine counterJson .bidding globalCounterScript {} = .ok f ∧
      (List.map (·.bid) <$>
        f.batchInvoke counterJson [({} : BiddingFunctionInput), ({} : BiddingFunctionInput)]) =
        .ok [.ofNat 10, .ofNat 11] ∧
      (List.map (·.bid) <$> f.batchInvoke counterJson [({} : BiddingFunctionInput)]) =
        .ok [.ofNat 10] :=
  ⟨_, rfl, rfl, rfl⟩

end Aviary
