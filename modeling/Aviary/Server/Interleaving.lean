import Aviary.Server.Configuration
import Aviary.Server.RunAdAuction

/-!
# Requests interleaved with refreshes

`RunAdAuction` does not hold one snapshot of `function_repository_` for the whole request: it takes
the reader lock of `function_repository_mutex_` once for each bidder and once for each scorer it
runs (`RunGenerateBidFunction`, `RunScoreAdFunction`), and reads the pointer afresh each time,
while `RefreshFunctionRepository` swaps the pointer under the writer lock. Each lock-holding section
is one atomic step here, together with the request's own work around it, which touches only its
locals. The server keeps a ghost count of its swaps, and the request records the count and the
repository each of its lookups read.

A run is a schedule of events: a step of the request, or a refresh with the round it sees. Whatever
the schedule, the request finishes after `2n + 1` steps of its own, and its outcome is the
sequential auction `runAdAuctionOn` answered by the snapshots it read, in order; when no refresh
publishes, that is `runAdAuction` on the repository published at the start
(`request_outcome_of_schedule`). A swap between two lookups of one request shows in its outcome
(`refresh_between_lookups_mixes_generations`).
-/

namespace Aviary

/-- The state the request shares with the refreshes, with the number of swaps so far. -/
structure Server where
  impl : AdAuctionsImpl
  generation : Nat

namespace Server

/-- `RefreshFunctionRepository`: the repository is built outside the lock, and swapped in under the
writer lock when the build succeeds. -/
def refresh (server : Server) (round : Round) : Server :=
  match createFunctionRepository server.impl.configuration round with
  | .ok repository => ⟨{ server.impl with functionRepository := repository }, server.generation + 1⟩
  | .error _ => server

theorem refresh_impl (server : Server) (round : Round) :
    (server.refresh round).impl = server.impl.refreshFunctionRepository round := by
  cases h : createFunctionRepository server.impl.configuration round <;>
    simp [refresh, AdAuctionsImpl.refreshFunctionRepository, h]

/-- A refresh whose round fails changes nothing. -/
theorem refresh_of_error {server : Server} {round : Round}
    (h : (createFunctionRepository server.impl.configuration round).toBool = false) :
    server.refresh round = server := by
  unfold refresh
  split <;> simp_all [Except.toBool]

end Server

/-- One `RunAdAuction` request between two of its atomic steps. -/
structure AuctionThread where
  request : RunAdAuctionRequest
  response : RunAdAuctionResponse
  /-- The interest groups the loop has still to visit. -/
  pending : List InterestGroupAuctionState
  /-- The bid of the first pending interest group, between its bidder and its scorer. -/
  bid : Option BiddingFunctionOutput
  scoredBids : List ScoredInterestGroupBid
  /-- The generation and the repository each lookup read, in order. -/
  reads : List (Nat × FunctionRepository)
  /-- What the handler returned, once it has. -/
  outcome : Option (StatusOr Unit × RunAdAuctionResponse)

namespace AuctionThread

def init (request : RunAdAuctionRequest) (response : RunAdAuctionResponse) : AuctionThread :=
  ⟨request, response, request.interestGroups, none, [], [], none⟩

/-- The request's next step against the published repository: a bidder's or a scorer's section
under the reader lock, skipping an interest group of another buyer, or the return. -/
def step (server : Server) (thread : AuctionThread) : AuctionThread :=
  let repository := server.impl.functionRepository
  let reads := thread.reads ++ [(server.generation, repository)]
  match thread.outcome, thread.pending, thread.bid with
  | some _, _, _ => thread
  | none, [], _ =>
    { thread with outcome := some (respond thread.response (.ok thread.scoredBids)) }
  | none, interestGroup :: interestGroups, none =>
    if thread.request.allows interestGroup then
      match runGenerateBidFunction repository interestGroup.biddingLogicUrl
          (thread.request.biddingInput interestGroup) with
      | .error _ => { thread with pending := interestGroups, reads }
      | .ok bid => { thread with bid := some bid, reads }
    else { thread with pending := interestGroups }
  | none, interestGroup :: interestGroups, some bid =>
    match runScoreAdFunction repository thread.request.configuration.decisionLogicUrl
        (thread.request.scoringInput bid) with
    | .error e => { thread with outcome := some (respond thread.response (.error e)), reads }
    | .ok scoredAd =>
      { thread with
        pending := interestGroups, bid := none, reads
        scoredBids := thread.scoredBids ++ [getScoredInterestGroupBid interestGroup bid scoredAd] }

/-- What the request returns if its `k`-th lookup, counted from its start, reads `snapshots k`. -/
def resume (snapshots : Nat → FunctionRepository) (thread : AuctionThread) :
    StatusOr Unit × RunAdAuctionResponse :=
  match thread.outcome with
  | some outcome => outcome
  | none =>
    respond thread.response <|
      match thread.pending, thread.bid with
      | interestGroup :: interestGroups, some bid =>
        match runScoreAdFunction (snapshots thread.reads.length)
            thread.request.configuration.decisionLogicUrl (thread.request.scoringInput bid) with
        | .error e => .error e
        | .ok scoredAd =>
          auctionLoop snapshots thread.request (thread.reads.length + 1) interestGroups
            (thread.scoredBids ++ [getScoredInterestGroupBid interestGroup bid scoredAd])
      | pending, _ =>
        auctionLoop snapshots thread.request thread.reads.length pending thread.scoredBids

/-- `snapshots` answers the lookups made so far as they were answered. -/
def Agrees (snapshots : Nat → FunctionRepository) (thread : AuctionThread) : Prop :=
  ∀ i (h : i < thread.reads.length), snapshots i = (thread.reads[i]).2

/-- The steps the request has still to take. -/
def remaining (thread : AuctionThread) : Nat :=
  match thread.outcome, thread.pending, thread.bid with
  | some _, _, _ => 0
  | none, [], _ => 1
  | none, _ :: interestGroups, none => 2 * interestGroups.length + 3
  | none, _ :: interestGroups, some _ => 2 * interestGroups.length + 2

/-! ## One step of the request -/

variable (server : Server) (thread : AuctionThread)

/-- A step keeps the request, and either reads nothing or reads the published repository. -/
theorem step_spec :
    (thread.step server).request = thread.request ∧
      (thread.step server).response = thread.response ∧
      ((thread.step server).reads = thread.reads ∨
        (thread.step server).reads =
          thread.reads ++ [(server.generation, server.impl.functionRepository)]) := by
  unfold step
  dsimp only
  split
  · simp
  · simp
  · split
    · split <;> simp
    · simp
  · split <;> simp

theorem resume_of_bid_none (snapshots : Nat → FunctionRepository)
    (ho : thread.outcome = none) (hb : thread.bid = none) :
    thread.resume snapshots = respond thread.response
      (auctionLoop snapshots thread.request thread.reads.length thread.pending thread.scoredBids) := by
  unfold resume
  rw [ho, hb]
  cases thread.pending <;> rfl

theorem resume_step (snapshots : Nat → FunctionRepository)
    (h : Agrees snapshots (thread.step server)) :
    (thread.step server).resume snapshots = thread.resume snapshots := by
  have hread : (thread.step server).reads =
      thread.reads ++ [(server.generation, server.impl.functionRepository)] →
      snapshots thread.reads.length = server.impl.functionRepository := fun hr => by
    simpa [hr] using h thread.reads.length (by simp [hr])
  revert hread
  unfold step
  dsimp only
  split
  · simp
  · next ho hp => intro; simp [resume, ho, hp, auctionLoop]
  · next g gs ho hp hb =>
    split
    · next hg =>
      split
      · next e he => intro hr; simp [resume, ho, hp, hb, auctionLoop, hg, hr rfl, he]
      · next bid he =>
        intro hr
        cases hs : runScoreAdFunction (snapshots (thread.reads.length + 1))
          thread.request.configuration.decisionLogicUrl (thread.request.scoringInput bid) <;>
        simp [resume, ho, hp, hb, auctionLoop, hg, hr rfl, he, hs]
    · next hg => intro; simp [resume, ho, hp, hb, auctionLoop, hg]
  · next g gs bid ho hp hb =>
    split
    · next e he => intro hr; simp [resume, ho, hp, hb, hr rfl, he]
    · next sa he => intro hr; simp [resume, ho, hp, hb, hr rfl, he]

theorem remaining_of_bid_none (ho : thread.outcome = none) (hb : thread.bid = none) :
    thread.remaining = 2 * thread.pending.length + 1 := by
  unfold remaining
  rw [ho, hb]
  cases thread.pending <;> simp
  omega

theorem outcome_isSome_of_remaining_eq_zero (h : thread.remaining = 0) : thread.outcome.isSome := by
  revert h
  unfold remaining
  split <;> simp_all

theorem remaining_step : (thread.step server).remaining ≤ thread.remaining - 1 := by
  unfold step
  dsimp only
  split
  · simp [remaining, *]
  · simp [remaining, *]
  · next g gs ho hp hb =>
    have : thread.remaining = 2 * gs.length + 3 := by simp [remaining, ho, hp, hb]
    rw [this]
    split
    · split
      · simp only [remaining, ho, hb]
        cases gs <;> simp
        omega
      · simp [remaining, ho, hp]
    · simp only [remaining, ho, hb]
      cases gs <;> simp
      omega
  · next g gs bid ho hp hb =>
    have : thread.remaining = 2 * gs.length + 2 := by simp [remaining, ho, hp, hb]
    rw [this]
    split
    · simp [remaining]
    · simp only [remaining, ho]
      cases gs <;> simp
      omega

theorem Agrees.of_prefix {snapshots : Nat → FunctionRepository} {thread thread' : AuctionThread}
    (h : Agrees snapshots thread') (hp : thread.reads <+: thread'.reads) : Agrees snapshots thread := by
  intro i hi
  rw [h i (hi.trans_le hp.length_le), hp.getElem hi]

end AuctionThread

/-- An event of a run. -/
inductive Event where
  /-- The request takes its next step. -/
  | request
  /-- `RefreshFunctionRepository` runs, in a round. -/
  | refresh (round : Round)

def Event.isRequest : Event → Bool
  | .request => true
  | .refresh _ => false

/-- The server and one request in flight. -/
structure System where
  server : Server
  thread : AuctionThread

namespace System

def init (impl : AdAuctionsImpl) (request : RunAdAuctionRequest) (response : RunAdAuctionResponse) :
    System :=
  ⟨⟨impl, 0⟩, AuctionThread.init request response⟩

def step (system : System) : Event → System
  | .request => { system with thread := system.thread.step system.server }
  | .refresh round => { system with server := system.server.refresh round }

def run (system : System) (schedule : List Event) : System :=
  schedule.foldl step system

end System

/-! ## Runs -/

namespace System

theorem run_cons (system : System) (event : Event) (schedule : List Event) :
    system.run (event :: schedule) = (system.step event).run schedule := rfl

/-- Along a run the request keeps its request and response, and its reads only grow. -/
theorem run_spec (system : System) (schedule : List Event) :
    (system.run schedule).thread.request = system.thread.request ∧
      (system.run schedule).thread.response = system.thread.response ∧
      system.thread.reads <+: (system.run schedule).thread.reads := by
  induction schedule generalizing system with
  | nil => exact ⟨rfl, rfl, List.prefix_refl _⟩
  | cons event schedule ih =>
    obtain ⟨h₁, h₂, h₃⟩ := ih (system.step event)
    rw [run_cons, h₁, h₂]
    cases event with
    | request =>
      obtain ⟨hr, hs, hreads⟩ := system.thread.step_spec system.server
      refine ⟨hr, hs, List.IsPrefix.trans ?_ h₃⟩
      rcases hreads with h | h <;> simp only [step, h, List.prefix_refl, List.prefix_append]
    | refresh round => exact ⟨rfl, rfl, h₃⟩

theorem resume_run (system : System) (schedule : List Event) (snapshots : Nat → FunctionRepository)
    (h : AuctionThread.Agrees snapshots (system.run schedule).thread) :
    (system.run schedule).thread.resume snapshots = system.thread.resume snapshots := by
  induction schedule generalizing system with
  | nil => rfl
  | cons event schedule ih =>
    rw [run_cons] at h ⊢
    rw [ih _ h]
    cases event with
    | request =>
      exact system.thread.resume_step system.server snapshots
        (h.of_prefix ((system.step .request).run_spec schedule).2.2)
    | refresh round => rfl

theorem remaining_run (system : System) (schedule : List Event) :
    (system.run schedule).thread.remaining ≤
      system.thread.remaining - schedule.countP Event.isRequest := by
  induction schedule generalizing system with
  | nil => simp [run]
  | cons event schedule ih =>
    rw [run_cons]
    refine (ih (system.step event)).trans ?_
    cases event with
    | request =>
      have := system.thread.remaining_step system.server
      simp only [List.countP_cons, Event.isRequest, if_true, step]
      omega
    | refresh round => simp [List.countP_cons, Event.isRequest, step]

/-- While no refresh publishes, the server stays as it is and every lookup reads its repository. -/
theorem run_of_no_publish (system : System) (schedule : List Event)
    (hpublish : ∀ round, Event.refresh round ∈ schedule →
      (createFunctionRepository system.server.impl.configuration round).toBool = false)
    (hreads : ∀ read ∈ system.thread.reads, read.2 = system.server.impl.functionRepository) :
    (system.run schedule).server = system.server ∧
      ∀ read ∈ (system.run schedule).thread.reads, read.2 = system.server.impl.functionRepository := by
  induction schedule generalizing system with
  | nil => exact ⟨rfl, hreads⟩
  | cons event schedule ih =>
    rw [run_cons]
    cases event with
    | request =>
      refine ih _ (fun round h => hpublish round (List.mem_cons_of_mem _ h)) ?_
      rcases (system.thread.step_spec system.server).2.2 with h | h <;>
        simp only [step, h, List.mem_append, List.mem_singleton]
      · exact hreads
      · rintro read (hread | rfl)
        exacts [hreads read hread, rfl]
    | refresh round =>
      have : system.step (.refresh round) = system := by
        simp [step, Server.refresh_of_error (hpublish round (List.mem_cons_self _ _))]
      rw [this]
      exact ih system (fun round h => hpublish round (List.mem_cons_of_mem _ h)) hreads

end System

/-- Whatever the schedule, the request finishes after `2n + 1` steps of its own; what it returns is
the sequential auction in which its `k`-th lookup is answered by the `k`-th snapshot it read; and
when no refresh publishes, that is the auction over the repository published at the start. -/
theorem request_outcome_of_schedule (impl : AdAuctionsImpl) (request : RunAdAuctionRequest)
    (response : RunAdAuctionResponse) (schedule : List Event) :
    (2 * request.interestGroups.length + 1 ≤ schedule.countP Event.isRequest →
      ((System.init impl request response).run schedule).thread.outcome.isSome) ∧
    ∀ outcome, ((System.init impl request response).run schedule).thread.outcome = some outcome →
      (∀ snapshots, AuctionThread.Agrees snapshots
          ((System.init impl request response).run schedule).thread →
        outcome = runAdAuctionOn snapshots request response) ∧
      ((∀ round, Event.refresh round ∈ schedule →
          (createFunctionRepository impl.configuration round).toBool = false) →
        outcome = runAdAuction impl.functionRepository request response) := by
  have hinit : (System.init impl request response).thread.remaining =
      2 * request.interestGroups.length + 1 :=
    AuctionThread.remaining_of_bid_none _ rfl rfl
  have hsim : ∀ snapshots, AuctionThread.Agrees snapshots
      ((System.init impl request response).run schedule).thread →
      ((System.init impl request response).run schedule).thread.resume snapshots =
        runAdAuctionOn snapshots request response := fun snapshots h => by
    rw [System.resume_run _ _ _ h, System.init, AuctionThread.init,
      AuctionThread.resume_of_bid_none _ _ rfl rfl]
    rfl
  refine ⟨fun hcount => ?_, fun outcome hout => ?_⟩
  · have := System.remaining_run (System.init impl request response) schedule
    exact AuctionThread.outcome_isSome_of_remaining_eq_zero _ (by omega)
  · have hresume : ∀ snapshots, ((System.init impl request response).run schedule).thread.resume
        snapshots = outcome := fun snapshots => by rw [AuctionThread.resume, hout]
    refine ⟨fun snapshots h => (hresume snapshots).symm.trans (hsim snapshots h), fun hpublish => ?_⟩
    obtain ⟨-, hreads⟩ := System.run_of_no_publish (System.init impl request response) schedule
      hpublish (by simp [System.init, AuctionThread.init])
    refine (hresume _).symm.trans (hsim (fun _ => impl.functionRepository) fun i hi => ?_)
    exact (hreads _ (List.getElem_mem hi)).symm

/-- A bidding and an ad scoring function, under one uri each. -/
def swapConfiguration : Configuration :=
  { biddingFunctionSpecs := [{ uri := "local://bid", sourceCode := some "bid" }]
    adScoringFunctionSpecs := [{ uri := "local://score", sourceCode := some "score" }] }

/-- The round of `Create`: the bidder bids `1`, and the scorer passes the bid through. -/
def createRound : Round where
  functionSource specification := .ok (specification.sourceCode.getD "")
  create
    | .bidding, _, _ => .ok (.ofFun fun (_ : BiddingFunctionInput) =>
        ({ bid := .one } : BiddingFunctionOutput))
    | .adScoring, _, _ => .ok (.ofFun fun (input : AdScoringFunctionInput) =>
        ({ desirabilityScore := input.bid } : AdScoringFunctionOutput))

/-- A refresh round after which the bidder bids `2` and the scorer scores every bid `2`. -/
def refreshRound : Round where
  functionSource specification := .ok (specification.sourceCode.getD "")
  create
    | .bidding, _, _ => .ok (.ofFun fun (_ : BiddingFunctionInput) =>
        ({ bid := .two } : BiddingFunctionOutput))
    | .adScoring, _, _ => .ok (.ofFun fun (_ : AdScoringFunctionInput) =>
        ({ desirabilityScore := .two } : AdScoringFunctionOutput))

def swapRequest : RunAdAuctionRequest :=
  { interestGroups := [{ owner := "buyer", biddingLogicUrl := "local://bid" }]
    auctionConfiguration := some
      { decisionLogicUrl := "local://score", interestGroupBuyers := ["buyer"] } }

/-- The refresh publishes between the request's bidder and its scorer. -/
def swapSchedule : List Event := [.request, .refresh refreshRound, .request, .request]

/-- The bidder is looked up in the first generation and the scorer in the second, and the winner
pairs a bid of one with a score of the other, unlike the auction over either repository. -/
theorem refresh_between_lookups_mixes_generations :
    ∃ impl, AdAuctionsImpl.create swapConfiguration createRound = .ok impl ∧
      ((System.init impl swapRequest {}).run swapSchedule).thread.reads.map (·.1) = [0, 1] ∧
      ((System.init impl swapRequest {}).run swapSchedule).thread.outcome.map
          (fun outcome => outcome.2.winningBid.map fun bid => (bid.bidPrice, bid.desirabilityScore)) =
        some (some (.one, .two)) ∧
      (runAdAuction impl.functionRepository swapRequest {}).2.winningBid.map
          (fun bid => (bid.bidPrice, bid.desirabilityScore)) = some (.one, .one) ∧
      (runAdAuction (impl.refreshFunctionRepository refreshRound).functionRepository swapRequest
          {}).2.winningBid.map (fun bid => (bid.bidPrice, bid.desirabilityScore)) =
        some (.two, .two) :=
  ⟨_, rfl, rfl, rfl, rfl, rfl⟩

end Aviary
