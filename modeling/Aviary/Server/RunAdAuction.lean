import Aviary.Server.FunctionRepository
import Aviary.Std.Sorted
import Aviary.Function.SapiBiddingFunction

/-!
# The auction

`RunAdAuction` and `ComputeBid` of `server/ad_auctions.cc` and the helpers they call. The candidate loop takes the
reader lock for every bidder and every scorer it runs, and reads `function_repository_` afresh
each time; `auctionLoop` therefore takes the repository each lock acquisition reads as a function
`snapshots` of the number of acquisitions made so far. `runAdAuction` is the auction over one
published repository; the interleavings with refreshes are in `Server.Interleaving`.

The winners are ranked with `absl::c_sort` and the comparator `scoreComparator`
(`first.desirability_score() > second.desirability_score()`), then the first bid wins if its score
is positive.
-/

namespace Aviary

/-- `CreateBiddingFunctionInput`: the per-buyer signals are the entry of the interest group's
owner, absent when there is none. -/
def createBiddingFunctionInput (interestGroupState : InterestGroupAuctionState)
    (auctionConfiguration : AuctionConfiguration) : BiddingFunctionInput :=
  { interestGroup := some
      { name := interestGroupState.name
        owner := interestGroupState.owner
        biddingLogicUrl := interestGroupState.biddingLogicUrl
        ads := interestGroupState.ads
        userBiddingSignals := some (interestGroupState.userBiddingSignals.getD []) }
    auctionSignals := some (auctionConfiguration.auctionSignals.getD [])
    perBuyerSignals := auctionConfiguration.perBuyerSignals.lookup interestGroupState.owner
    trustedBiddingSignals := interestGroupState.trustedBiddingSignals
    browserSignals := some (interestGroupState.browserSignals.getD []) }

/-- `CreateAdScoringInputs`: the trusted scoring signals are the entry of the bid's render url. -/
def createAdScoringInputs (output : BiddingFunctionOutput)
    (auctionConfiguration : AuctionConfiguration)
    (trustedScoringSignals : List (String × Struct)) : AdScoringFunctionInput :=
  { adMetadata := some (output.ad.getD [])
    bid := output.bid
    auctionConfig := some auctionConfiguration
    trustedScoringSignals := trustedScoringSignals.lookup output.renderUrl }

def getScoredInterestGroupBid (interestGroup : InterestGroupAuctionState)
    (bid : BiddingFunctionOutput) (scoredAd : AdScoringFunctionOutput) : ScoredInterestGroupBid :=
  { renderUrl := bid.renderUrl
    interestGroupOwner := interestGroup.owner
    interestGroupName := interestGroup.name
    bidPrice := bid.bid
    desirabilityScore := scoredAd.desirabilityScore }

/-- `RunGenerateBidFunction` and `RunScoreAdFunction`: look the function up and invoke it on one
input, both under one reader lock. -/
def runFunction (repository : FunctionRepository) (r : Role) (url : String) (input : r.Input) :
    StatusOr r.Output := do
  let function ← repository.get r url
  function.invokeOne input

def runGenerateBidFunction (repository : FunctionRepository) (biddingLogicUrl : String)
    (input : BiddingFunctionInput) : StatusOr BiddingFunctionOutput :=
  runFunction repository .bidding biddingLogicUrl input

def runScoreAdFunction (repository : FunctionRepository) (adScoringLogicUrl : String)
    (input : AdScoringFunctionInput) : StatusOr AdScoringFunctionOutput :=
  runFunction repository .adScoring adScoringLogicUrl input

/-- `ComputeBid`: the named bidding function on the request's input; the response is left as it was
when that fails. -/
def computeBid (repository : FunctionRepository) (request : ComputeBidRequest)
    (response : BiddingFunctionOutput) : StatusOr Unit × BiddingFunctionOutput :=
  match runGenerateBidFunction repository request.biddingFunctionName (request.input.getD {}) with
  | .ok biddingResult => (.ok (), biddingResult)
  | .error e => (.error e, response)

/-- `ComputeBid` succeeds exactly when the named function is found and available and answers the
one-input batch, and then responds with its output. -/
theorem computeBid_spec (repository : FunctionRepository) (request : ComputeBidRequest)
    (response : BiddingFunctionOutput) :
    (∀ output, computeBid repository request response = (.ok (), output) ↔
      ∃ function, repository.getBiddingFunction request.biddingFunctionName = .ok function ∧
        function.batchInvoke [request.input.getD {}] = .ok [output]) ∧
    ∀ e, (computeBid repository request response).1 = .error e →
      (computeBid repository request response).2 = response := by
  unfold computeBid runGenerateBidFunction runFunction
  simp only [FunctionRepository.get_bidding]
  refine ⟨fun output => ?_, fun e => ?_⟩
  · cases repository.getBiddingFunction request.biddingFunctionName with
    | error e => simp
    | ok function =>
      simp only [ok_bind, Except.ok.injEq, exists_eq_left',
        ← BiddingFunctionInterface.invokeOne_eq_ok]
      cases function.invokeOne (request.input.getD {}) <;> simp
  · split <;> simp

namespace RunAdAuctionRequest

variable (request : RunAdAuctionRequest)

/-- `request->auction_configuration()`. -/
def configuration : AuctionConfiguration := request.auctionConfiguration.getD {}

/-- The input the loop passes to the bidder of `interestGroup`. -/
def biddingInput (interestGroup : InterestGroupAuctionState) : BiddingFunctionInput :=
  createBiddingFunctionInput interestGroup request.configuration

/-- The input the loop passes to the scorer for a bid. -/
def scoringInput (bid : BiddingFunctionOutput) : AdScoringFunctionInput :=
  createAdScoringInputs bid request.configuration request.trustedScoringSignals

/-- The owner is in `interest_group_buyers`. -/
def allows (interestGroup : InterestGroupAuctionState) : Bool :=
  request.configuration.interestGroupBuyers.contains interestGroup.owner

end RunAdAuctionRequest

/-- The candidate loop of `RunAdAuction` over the remaining interest groups, `k` lock
acquisitions in; `scoredBids` is the vector built so far. -/
def auctionLoop (snapshots : Nat → FunctionRepository) (request : RunAdAuctionRequest) :
    Nat → List InterestGroupAuctionState → List ScoredInterestGroupBid →
      StatusOr (List ScoredInterestGroupBid)
  | _, [], scoredBids => .ok scoredBids
  | k, interestGroup :: interestGroups, scoredBids =>
    if request.allows interestGroup then
      match runGenerateBidFunction (snapshots k) interestGroup.biddingLogicUrl
          (request.biddingInput interestGroup) with
      | .error _ => auctionLoop snapshots request (k + 1) interestGroups scoredBids
      | .ok bid =>
        match runScoreAdFunction (snapshots (k + 1)) request.configuration.decisionLogicUrl
            (request.scoringInput bid) with
        | .error e => .error e
        | .ok scoredAd =>
          auctionLoop snapshots request (k + 2) interestGroups
            (scoredBids ++ [getScoredInterestGroupBid interestGroup bid scoredAd])
    else auctionLoop snapshots request k interestGroups scoredBids

/-- The comparator of the ranking: `first.desirability_score() > second.desirability_score()`. -/
def scoreComparator (first second : ScoredInterestGroupBid) : Bool :=
  Double.lt second.desirabilityScore first.desirabilityScore

/-- The end of `RunAdAuction`: sort, then the first bid wins if its score is positive, and the
others are appended to the losing bids. -/
def rankScoredBids (scoredBids : List ScoredInterestGroupBid) (response : RunAdAuctionResponse) :
    RunAdAuctionResponse :=
  match stdSort scoreComparator scoredBids with
  | first :: rest =>
    if Double.lt .zero first.desirabilityScore then
      { response with winningBid := some first, losingBids := response.losingBids ++ rest }
    else { response with losingBids := response.losingBids ++ first :: rest }
  | [] => response

/-- The return of `RunAdAuction` once the loop is over: the gRPC status and the response, which
is left as it was when the loop failed. -/
def respond (response : RunAdAuctionResponse) :
    StatusOr (List ScoredInterestGroupBid) → StatusOr Unit × RunAdAuctionResponse
  | .error e => (.error e, response)
  | .ok scoredBids => (.ok (), rankScoredBids scoredBids response)

/-- `RunAdAuction` when the `k`-th lock acquisition reads `snapshots k`. -/
def runAdAuctionOn (snapshots : Nat → FunctionRepository) (request : RunAdAuctionRequest)
    (response : RunAdAuctionResponse) : StatusOr Unit × RunAdAuctionResponse :=
  respond response (auctionLoop snapshots request 0 request.interestGroups [])

/-- `RunAdAuction` against one published repository. -/
def runAdAuction (repository : FunctionRepository) (request : RunAdAuctionRequest)
    (response : RunAdAuctionResponse) : StatusOr Unit × RunAdAuctionResponse :=
  runAdAuctionOn (fun _ => repository) request response

/-! ## The auction over one repository -/

section OneRepository

variable (repository : FunctionRepository) (request : RunAdAuctionRequest)

/-- The bid of an interest group: its owner is allowed and its bidder returns one. -/
def bidOf (interestGroup : InterestGroupAuctionState) : Option BiddingFunctionOutput :=
  if request.allows interestGroup then
    (runGenerateBidFunction repository interestGroup.biddingLogicUrl
      (request.biddingInput interestGroup)).toOption
  else none

/-- The candidates, in request order: the interest groups that bid, with their bids. -/
def candidates : List (InterestGroupAuctionState × BiddingFunctionOutput) :=
  request.interestGroups.filterMap fun interestGroup =>
    (bidOf repository request interestGroup).map (interestGroup, ·)

/-- The scorer run on a candidate's bid, and the entry the loop makes of its output. -/
def scoreCandidate (candidate : InterestGroupAuctionState × BiddingFunctionOutput) :
    StatusOr ScoredInterestGroupBid :=
  getScoredInterestGroupBid candidate.1 candidate.2 <$>
    runScoreAdFunction repository request.configuration.decisionLogicUrl
      (request.scoringInput candidate.2)

/-- Over one repository the loop scores the candidates in order and stops at the first scorer
that fails. -/
theorem auctionLoop_const (k : Nat) (interestGroups : List InterestGroupAuctionState)
    (scoredBids : List ScoredInterestGroupBid) :
    auctionLoop (fun _ => repository) request k interestGroups scoredBids =
      (scoredBids ++ ·) <$> (interestGroups.filterMap fun interestGroup =>
        (bidOf repository request interestGroup).map (interestGroup, ·)).mapM
          (scoreCandidate repository request) := by
  induction interestGroups generalizing k scoredBids with
  | nil =>
    simp only [auctionLoop, List.filterMap_nil, List.mapM_nil, pure_eq_ok, map_ok, List.append_nil]
  | cons g gs ih =>
    rw [auctionLoop, List.filterMap_cons]
    by_cases hg : request.allows g
    · cases hb : runGenerateBidFunction repository g.biddingLogicUrl (request.biddingInput g) with
      | error e =>
        have : bidOf repository request g = none := by simp [bidOf, hg, hb, Except.toOption]
        simp only [hg, if_true, hb, this, Option.map_none', ih]
      | ok bid =>
        have : bidOf repository request g = some bid := by simp [bidOf, hg, hb, Except.toOption]
        simp only [hg, if_true, this, Option.map_some', List.mapM_cons, scoreCandidate]
        cases runScoreAdFunction repository request.configuration.decisionLogicUrl
          (request.scoringInput bid) with
        | error e => rfl
        | ok s =>
          simp only [ih, map_ok, ok_bind]
          cases List.mapM (scoreCandidate repository request) _ <;> simp
    · have : bidOf repository request g = none := by simp [bidOf, hg]
      simp only [hg, this, Option.map_none', ih, Bool.false_eq_true, if_false]

theorem runAdAuction_eq (response : RunAdAuctionResponse) :
    runAdAuction repository request response =
      respond response ((candidates repository request).mapM (scoreCandidate repository request)) := by
  rw [runAdAuction, runAdAuctionOn, auctionLoop_const, candidates]
  cases List.mapM (scoreCandidate repository request) _ <;> rfl

end OneRepository

/-- Into a fresh response, the winner then the losers are the sorted bids. -/
theorem rankScoredBids_fresh (scoredBids : List ScoredInterestGroupBid) :
    (rankScoredBids scoredBids {}).winningBid.toList ++ (rankScoredBids scoredBids {}).losingBids =
      stdSort scoreComparator scoredBids := by
  unfold rankScoredBids
  split
  · next first rest hs => split <;> simp [hs]
  · next hs => simp [hs]

/-- The bidder of an interest group sees only that interest group, the auction signals and the
per-buyer signals of its owner; the scorer of a bid sees only that bid, the auction configuration
and the trusted scoring signals of its render url. -/
theorem invocation_inputs_agree (request₁ request₂ : RunAdAuctionRequest)
    (interestGroup : InterestGroupAuctionState) (bid : BiddingFunctionOutput)
    (hauction : request₁.configuration.auctionSignals = request₂.configuration.auctionSignals)
    (hbuyer : request₁.configuration.perBuyerSignals.lookup interestGroup.owner =
      request₂.configuration.perBuyerSignals.lookup interestGroup.owner) :
    request₁.biddingInput interestGroup = request₂.biddingInput interestGroup ∧
      (request₁.configuration = request₂.configuration →
        request₁.trustedScoringSignals.lookup bid.renderUrl =
          request₂.trustedScoringSignals.lookup bid.renderUrl →
        request₁.scoringInput bid = request₂.scoringInput bid) := by
  refine ⟨?_, fun hconfiguration hsignals => ?_⟩
  · simp only [RunAdAuctionRequest.biddingInput, createBiddingFunctionInput, hauction, hbuyer]
  · simp only [RunAdAuctionRequest.scoringInput, createAdScoringInputs, hconfiguration, hsignals]

/-- An auction of buyers `a` and `b`, with `b`'s signals and an interest group of each. -/
def twoBuyerRequest : RunAdAuctionRequest :=
  { interestGroups := [{ owner := "a" }, { owner := "b", name := "other" }]
    auctionConfiguration := some
      { interestGroupBuyers := ["a", "b"], perBuyerSignals := [("b", [("x", .nullValue)])] } }

/-- The same auction with buyer `a` alone. -/
def oneBuyerRequest : RunAdAuctionRequest :=
  { interestGroups := [{ owner := "a" }]
    auctionConfiguration := some { interestGroupBuyers := ["a"] } }

theorem invocation_inputs_agree_without_other_buyer :
    (twoBuyerRequest.configuration.auctionSignals = oneBuyerRequest.configuration.auctionSignals ∧
      twoBuyerRequest.configuration.perBuyerSignals.lookup "a" =
        oneBuyerRequest.configuration.perBuyerSignals.lookup "a") ∧
      twoBuyerRequest.biddingInput { owner := "a" } = oneBuyerRequest.biddingInput { owner := "a" } ∧
      (twoBuyerRequest.configuration = oneBuyerRequest.configuration →
        twoBuyerRequest.trustedScoringSignals.lookup "" =
          oneBuyerRequest.trustedScoringSignals.lookup "" →
        twoBuyerRequest.scoringInput {} = oneBuyerRequest.scoringInput {}) :=
  ⟨⟨rfl, rfl⟩, invocation_inputs_agree twoBuyerRequest oneBuyerRequest { owner := "a" } {} rfl rfl⟩

/-! ## The ranking -/

theorem scoreComparator_irrefl (b : ScoredInterestGroupBid) : scoreComparator b b = false :=
  Double.lt_irrefl _

theorem scoreComparator_eq_false_iff {a b : ScoredInterestGroupBid}
    (ha : a.desirabilityScore.isNaN = false) (hb : b.desirabilityScore.isNaN = false) :
    scoreComparator a b = false ↔ a.desirabilityScore.rank ≤ b.desirabilityScore.rank :=
  Double.lt_eq_false_of_not_nan hb ha

/-- Without NaN scores the comparator meets the requirement of `std::sort`. -/
theorem strictWeakOrderOn_scoreComparator (scoredBids : List ScoredInterestGroupBid)
    (h : ∀ b ∈ scoredBids, b.desirabilityScore.isNaN = false) :
    StrictWeakOrderOn scoreComparator scoredBids := by
  refine ⟨fun a _ => scoreComparator_irrefl a, fun a _ b _ c _ hab hbc => Double.lt_trans hbc hab,
    fun a ha b hb c hc hab hba hbc hcb => ?_⟩
  rw [scoreComparator_eq_false_iff (h a ha) (h b hb)] at hab
  rw [scoreComparator_eq_false_iff (h b hb) (h a ha)] at hba
  rw [scoreComparator_eq_false_iff (h b hb) (h c hc)] at hbc
  rw [scoreComparator_eq_false_iff (h c hc) (h b hb)] at hcb
  rw [scoreComparator_eq_false_iff (h a ha) (h c hc), scoreComparator_eq_false_iff (h c hc) (h a ha)]
  omega

/-- Three buyers bidding `1`, `2` and `0`, and a scorer like
`(adMetadata, bid) => ({desirabilityScore: bid == 2 ? "NaN" : bid})`. `AdAuctionsImpl` flattens the
scorer's arguments, so the bid reaches it as a number; for the bid `2` its output is the JSON
`{"desirabilityScore":"NaN"}`, which `JsonStringToMessage` reads as NaN, and for any other bid the
bid itself. -/
def nanScoreRepository : FunctionRepository where
  biddingFunctions :=
    [("local://one", some (.ofFun fun (_ : BiddingFunctionInput) =>
        ({ bid := .one } : BiddingFunctionOutput))),
      ("local://two", some (.ofFun fun (_ : BiddingFunctionInput) =>
        ({ bid := .two } : BiddingFunctionOutput))),
      ("local://zero", some (.ofFun fun (_ : BiddingFunctionInput) =>
        ({ bid := .zero } : BiddingFunctionOutput)))]
  adScoringFunctions :=
    [("local://scoreAd", some (.ofFun fun (input : AdScoringFunctionInput) =>
      ({ desirabilityScore := if Double.eq input.bid .two then .nan else input.bid } :
        AdScoringFunctionOutput)))]

def nanScoreRequest : RunAdAuctionRequest where
  interestGroups :=
    [{ owner := "one", biddingLogicUrl := "local://one" },
      { owner := "two", biddingLogicUrl := "local://two" },
      { owner := "zero", biddingLogicUrl := "local://zero" }]
  auctionConfiguration :=
    some { decisionLogicUrl := "local://scoreAd", interestGroupBuyers := ["one", "two", "zero"] }

/-- The vector the auction sorts holds the scores `1`, NaN, `0`, on which the comparator is not a
strict weak order: `1` and `0` are both incomparable with NaN, yet `1` is above `0`. -/
theorem nan_score_breaks_strict_weak_order :
    ∃ scoredBids, auctionLoop (fun _ => nanScoreRepository) nanScoreRequest 0
        nanScoreRequest.interestGroups [] = .ok scoredBids ∧
      scoredBids.map (·.desirabilityScore) = [.one, .nan, .zero] ∧
      ¬ StrictWeakOrderOn scoreComparator scoredBids :=
  ⟨_, rfl, rfl, by decide⟩

/-- With at most 16 candidates, bids of equal score keep the order of their interest groups in the
request. -/
theorem tied_bids_keep_request_order (repository : FunctionRepository)
    (request : RunAdAuctionRequest) (hlen : (candidates repository request).length ≤ 16) :
    ∀ scoredBids,
      (candidates repository request).mapM (scoreCandidate repository request) = .ok scoredBids →
      ∀ score : Double,
        ((runAdAuction repository request {}).2.winningBid.toList ++
            (runAdAuction repository request {}).2.losingBids).filter
            (fun b => b.desirabilityScore.eq score) =
          scoredBids.filter (fun b => b.desirabilityScore.eq score) := by
  intro scoredBids h score
  simp only [runAdAuction_eq, h, respond, rankScoredBids_fresh]
  refine stdSort_filter_of_length_le scoreComparator _ scoreComparator_irrefl
    (fun x y hx hy => ?_) (fun x y z hx hy => ?_)
    (fun x y z hzx hzy => Double.lt_eq_false_of_lt_of_lt_eq_false hzx hzy) scoredBids
    (by rw [length_of_mapM_eq_ok h]; exact hlen)
  · rw [scoreComparator, (Double.lt_congr_of_eq hy _).1, (Double.lt_congr_of_eq hx _).2,
      Double.lt_irrefl]
  · rw [scoreComparator, scoreComparator, (Double.lt_congr_of_eq hx _).2,
      (Double.lt_congr_of_eq hy _).2]

/-- One buyer's bidder bids `1`, and the scorer scores every bid `1`. -/
def tiedRepository : FunctionRepository where
  biddingFunctions :=
    [("local://bid", some (.ofFun fun (_ : BiddingFunctionInput) =>
      ({ bid := .one } : BiddingFunctionOutput)))]
  adScoringFunctions :=
    [("local://score", some (.ofFun fun (_ : AdScoringFunctionInput) =>
      ({ desirabilityScore := .one } : AdScoringFunctionOutput)))]

/-- `n` interest groups of that buyer, named `a`, `b`, ... in request order. -/
def tiedRequest (n : Nat) : RunAdAuctionRequest where
  interestGroups := (List.range n).map fun i =>
    { owner := "buyer", name := String.singleton (Char.ofNat (97 + i))
      biddingLogicUrl := "local://bid" }
  auctionConfiguration :=
    some { decisionLogicUrl := "local://score", interestGroupBuyers := ["buyer"] }

theorem tied_bids_keep_request_order_sixteen :
    (candidates tiedRepository (tiedRequest 16)).length ≤ 16 ∧
      ∀ scoredBids, (candidates tiedRepository (tiedRequest 16)).mapM
          (scoreCandidate tiedRepository (tiedRequest 16)) = .ok scoredBids →
        ∀ score : Double,
          ((runAdAuction tiedRepository (tiedRequest 16) {}).2.winningBid.toList ++
              (runAdAuction tiedRepository (tiedRequest 16) {}).2.losingBids).filter
              (fun b => b.desirabilityScore.eq score) =
            scoredBids.filter (fun b => b.desirabilityScore.eq score) :=
  ⟨by decide, tied_bids_keep_request_order _ _ (by decide)⟩

/-- Seventeen bids tied at `1`: introsort partitions once before the insertion sort, and the
winner then the losers are the interest groups `i`, `q` down to `j`, `a`, `h` down to `b`. -/
theorem seventeen_tied_bids_reordered :
    (runAdAuction tiedRepository (tiedRequest 17) {}).1 = .ok () ∧
      (tiedRequest 17).interestGroups.map (·.name) =
        ["a", "b", "c", "d", "e", "f", "g", "h", "i", "j", "k", "l", "m", "n", "o", "p", "q"] ∧
      ((runAdAuction tiedRepository (tiedRequest 17) {}).2.winningBid.toList ++
          (runAdAuction tiedRepository (tiedRequest 17) {}).2.losingBids).map
          (fun b => (b.interestGroupName, b.desirabilityScore)) =
        ["i", "q", "p", "o", "n", "m", "l", "k", "j", "a", "h", "g", "f", "e", "d", "c", "b"].map
          (·, Double.one) :=
  ⟨rfl, rfl, rfl⟩

/-! ## The winner -/

/-- Into a fresh response, the winner is the first sorted bid, when its score is above zero. -/
theorem winningBid_rankScoredBids_fresh (scoredBids : List ScoredInterestGroupBid) :
    (rankScoredBids scoredBids {}).winningBid =
      (stdSort scoreComparator scoredBids).head?.filter
        fun first => Double.lt .zero first.desirabilityScore := by
  unfold rankScoredBids
  split
  · next first rest hs => rw [hs]; split <;> simp_all [Option.filter_some]
  · next hs => simp [hs]

/-- Without NaN scores, the winner then the losers are the scored bids from the highest score
down, and the first of them wins exactly when its score is above zero: a winner scores above zero
and at least as high as every bid, and when there is none no bid scores above zero. -/
theorem auction_ranks_by_score (repository : FunctionRepository) (request : RunAdAuctionRequest)
    (scoredBids : List ScoredInterestGroupBid)
    (h : (candidates repository request).mapM (scoreCandidate repository request) = .ok scoredBids)
    (hnan : ∀ b ∈ scoredBids, b.desirabilityScore.isNaN = false) :
    ((runAdAuction repository request {}).2.winningBid.toList ++
        (runAdAuction repository request {}).2.losingBids).Pairwise
      (fun a b => b.desirabilityScore.rank ≤ a.desirabilityScore.rank) ∧
    (∀ winner, (runAdAuction repository request {}).2.winningBid = some winner →
      0 < winner.desirabilityScore.rank ∧
        ∀ b ∈ scoredBids, b.desirabilityScore.rank ≤ winner.desirabilityScore.rank) ∧
    ((runAdAuction repository request {}).2.winningBid = none →
      ∀ b ∈ scoredBids, b.desirabilityScore.rank ≤ 0) := by
  simp only [runAdAuction_eq, h, respond]
  have hperm := stdSort_perm scoreComparator scoredBids
  have hrank : (stdSort scoreComparator scoredBids).Pairwise
      (fun a b => b.desirabilityScore.rank ≤ a.desirabilityScore.rank) :=
    pairwise_stdSort _ _ (strictWeakOrderOn_scoreComparator _ hnan) fun a ha b hb hab =>
      (scoreComparator_eq_false_iff (hnan b hb) (hnan a ha)).mp hab
  rw [rankScoredBids_fresh, winningBid_rankScoredBids_fresh]
  refine ⟨hrank, ?_⟩
  cases hs : stdSort scoreComparator scoredBids with
  | nil =>
    rw [hs] at hperm
    simp [← hperm.mem_iff]
  | cons first rest =>
    rw [hs] at hrank hperm
    have htop : ∀ b ∈ scoredBids, b.desirabilityScore.rank ≤ first.desirabilityScore.rank := by
      intro b hb
      rcases List.mem_cons.mp (hperm.symm.subset hb) with rfl | hb
      · exact le_refl _
      · exact (List.pairwise_cons.mp hrank).1 b hb
    have hfirst := hnan first (hperm.subset (List.mem_cons_self _ _))
    simp only [List.head?_cons, Option.filter_some]
    split
    · next hpos =>
      refine ⟨fun winner hwinner => ?_, fun hnone => nomatch hnone⟩
      cases hwinner
      exact ⟨(Double.lt_eq_true.mp hpos).2.2, htop⟩
    · next hpos =>
      refine ⟨fun _ hwinner => (nomatch hwinner), fun _ b hb => ?_⟩
      have hle := (Double.lt_eq_false_of_not_nan (x := .zero) (by decide) hfirst).mp
        (by simpa using hpos)
      exact (htop b hb).trans hle

theorem auction_ranks_by_score_tied :
    ∃ scoredBids, (candidates tiedRepository (tiedRequest 2)).mapM
        (scoreCandidate tiedRepository (tiedRequest 2)) = .ok scoredBids ∧
      (∀ b ∈ scoredBids, b.desirabilityScore.isNaN = false) ∧
      ((runAdAuction tiedRepository (tiedRequest 2) {}).2.winningBid.toList ++
          (runAdAuction tiedRepository (tiedRequest 2) {}).2.losingBids).Pairwise
        (fun a b => b.desirabilityScore.rank ≤ a.desirabilityScore.rank) ∧
      (∀ winner, (runAdAuction tiedRepository (tiedRequest 2) {}).2.winningBid = some winner →
        0 < winner.desirabilityScore.rank ∧
          ∀ b ∈ scoredBids, b.desirabilityScore.rank ≤ winner.desirabilityScore.rank) ∧
      ((runAdAuction tiedRepository (tiedRequest 2) {}).2.winningBid = none →
        ∀ b ∈ scoredBids, b.desirabilityScore.rank ≤ 0) :=
  ⟨_, rfl, by decide, auction_ranks_by_score _ _ _ rfl (by decide)⟩

end Aviary
