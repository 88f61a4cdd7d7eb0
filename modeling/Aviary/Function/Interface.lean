import Aviary.Util.Status
import Aviary.Proto.Messages

/-!
# The function interface

`BiddingFunctionInterface<Input, Output>` of `function/bidding_function_interface.h` and the two
instantiations the server uses: a buyer's bidding function (`generateBid`) and a seller's ad
scoring function (`scoreAd`). `Role` names the instantiation; every definition the source writes
once per instantiation (a template, or a pair of near-identical functions) is written here once,
over `Role`.
-/

namespace Aviary

/-- Which of the two FLEDGE functions a script provides. -/
inductive Role where
  | bidding
  | adScoring
  deriving DecidableEq, Repr

namespace Role

/-- The template's `Input`. -/
def Input : Role → Type
  | bidding => BiddingFunctionInput
  | adScoring => AdScoringFunctionInput

/-- The template's `Output`. -/
def Output : Role → Type
  | bidding => BiddingFunctionOutput
  | adScoring => AdScoringFunctionOutput

/-- `GetFunctionDeclarationName`: the global a script may declare instead of evaluating to its
function. -/
def functionDeclarationName : Role → String
  | bidding => "generateBid"
  | adScoring => "scoreAd"

/-- `Input input;`, the message the warm-up invokes the function with. -/
def defaultInput : (r : Role) → r.Input
  | bidding => ({} : BiddingFunctionInput)
  | adScoring => ({} : AdScoringFunctionInput)

end Role

/-- `FunctionOptions`. -/
structure FunctionOptions where
  flattenFunctionArguments : Bool := false
  deriving DecidableEq, Repr

/-- `BiddingFunctionInterface<Input, Output>`. Its documented contract, that a successful
`BatchInvoke` returns one output per input, is carried as a field. -/
structure BiddingFunctionInterface (Input Output : Type) where
  batchInvoke : List Input → StatusOr (List Output)
  length_batchInvoke : ∀ {inputs outputs}, batchInvoke inputs = .ok outputs →
    outputs.length = inputs.length

namespace BiddingFunctionInterface

variable {Input Output : Type} (f : BiddingFunctionInterface Input Output)

theorem ne_nil_of_batchInvoke_singleton {input : Input} {outputs : List Output}
    (h : f.batchInvoke [input] = .ok outputs) : outputs ≠ [] := by
  have := f.length_batchInvoke h
  rintro rfl
  simp at this

/-- `BatchInvoke({input})` followed by `.back()`, as `RunGenerateBidFunction` and
`RunScoreAdFunction` use it. -/
def invokeOne (input : Input) : StatusOr Output :=
  match h : f.batchInvoke [input] with
  | .ok outputs => .ok (outputs.getLast (f.ne_nil_of_batchInvoke_singleton h))
  | .error e => .error e

/-- The one output of a one-input batch is its last. -/
theorem invokeOne_eq_ok {input : Input} {output : Output} :
    f.invokeOne input = .ok output ↔ f.batchInvoke [input] = .ok [output] := by
  unfold invokeOne
  split
  · next outputs h =>
    have hl := f.length_batchInvoke h
    match outputs, hl with
    | [o], _ => simp [h]
  · next e h => simp [h]

/-- A function that evaluates each input on its own and never fails, such as a script without
globals that always returns an object. -/
def ofFun (run : Input → Output) : BiddingFunctionInterface Input Output where
  batchInvoke inputs := .ok (inputs.map run)
  length_batchInvoke h := by cases h; simp

end BiddingFunctionInterface

end Aviary
