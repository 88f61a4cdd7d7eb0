import Aviary.Function.Interface

/-!
# The function repository

`FunctionRepository` of `server/function_repository.{h,cc}`: for each role a hash map from a
function's uri to the compiled function, or to `nullptr` when the function did not compile in the
round that built the repository. `getFunction` is the lookup `GetBiddingFunction` and
`GetAdScoringFunction` both perform: not-found for an unknown uri, unavailable for a `nullptr`,
the function otherwise.
-/

namespace Aviary

/-- The compiled functions of one role, keyed by uri; `none` is the `nullptr` placeholder. -/
abbrev FunctionMap (r : Role) := List (String × Option (BiddingFunctionInterface r.Input r.Output))

namespace FunctionMap

variable {r : Role}

/-- `absl::flat_hash_map::insert`: a key already present keeps its value. -/
def insert (functions : FunctionMap r) (uri : String)
    (function : Option (BiddingFunctionInterface r.Input r.Output)) : FunctionMap r :=
  if (functions.lookup uri).isSome then functions else (uri, function) :: functions

theorem lookup_insert (functions : FunctionMap r) (uri u : String) f :
    (functions.insert uri f).lookup u =
      if (functions.lookup uri).isSome then functions.lookup u
      else if u = uri then some f else functions.lookup u := by
  unfold insert
  split <;> simp only [List.lookup_cons, beq_iff_eq]
  split <;> simp_all

end FunctionMap

/-- A snapshot of the compiled bidding and ad scoring functions. -/
structure FunctionRepository where
  biddingFunctions : FunctionMap .bidding
  adScoringFunctions : FunctionMap .adScoring

/-- The words the lookups of one role put before the uri. -/
def Role.functionKind : Role → String
  | .bidding => "Bidding function"
  | .adScoring => "Ad scoring function"

/-- The lookup of `GetBiddingFunction` and `GetAdScoringFunction`. -/
def getFunction (r : Role) (functions : FunctionMap r) (uri : String) :
    StatusOr (BiddingFunctionInterface r.Input r.Output) :=
  match functions.lookup uri with
  | none => .error (notFoundError (r.functionKind ++ " " ++ uri ++ " not found"))
  | some none => .error (unavailableError (r.functionKind ++ " " ++ uri ++ " is not available"))
  | some (some function) => .ok function

namespace FunctionRepository

/-- The map of one role. -/
def functions (repository : FunctionRepository) : (r : Role) → FunctionMap r
  | .bidding => repository.biddingFunctions
  | .adScoring => repository.adScoringFunctions

def getBiddingFunction (repository : FunctionRepository) (biddingFunctionUri : String) :=
  getFunction .bidding repository.biddingFunctions biddingFunctionUri

def getAdScoringFunction (repository : FunctionRepository) (adScoringFunctionUri : String) :=
  getFunction .adScoring repository.adScoringFunctions adScoringFunctionUri

/-- The lookup of a role. -/
def get (repository : FunctionRepository) (r : Role) (uri : String) :
    StatusOr (BiddingFunctionInterface r.Input r.Output) :=
  getFunction r (repository.functions r) uri

@[simp] theorem get_bidding (repository : FunctionRepository) (uri : String) :
    repository.get .bidding uri = repository.getBiddingFunction uri := rfl

@[simp] theorem get_adScoring (repository : FunctionRepository) (uri : String) :
    repository.get .adScoring uri = repository.getAdScoringFunction uri := rfl

end FunctionRepository

/-- Every lookup is one of the three answers, and each error names the uri it looked up. -/
theorem getFunction_eq (r : Role) (functions : FunctionMap r) (uri : String) :
    (functions.lookup uri = none ∧
        getFunction r functions uri =
          .error (notFoundError (r.functionKind ++ " " ++ uri ++ " not found"))) ∨
      (functions.lookup uri = some none ∧
        getFunction r functions uri =
          .error (unavailableError (r.functionKind ++ " " ++ uri ++ " is not available"))) ∨
      ∃ f, functions.lookup uri = some (some f) ∧ getFunction r functions uri = .ok f := by
  unfold getFunction
  rcases h : functions.lookup uri with _ | _ | f <;> simp

end Aviary
