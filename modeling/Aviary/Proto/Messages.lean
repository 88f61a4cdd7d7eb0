import Aviary.Proto.Double

/-!
# Messages

The protocol buffer messages of `proto/bidding_function.proto` and `proto/aviary.proto` that the
server reads and builds. A message-typed field is an `Option`, since its presence reaches the
JavaScript functions through the JSON conversion; a `map` field is the list of its entries, looked
up as the C++ `find` does; a `google.protobuf.Struct` is the list of its fields. A field the C++
reads through its accessor gets the message's default when it is unset (`Option.getD`).
-/

namespace Aviary

/-- `google.protobuf.Value`. -/
inductive Value where
  | nullValue
  | numberValue (x : Double)
  | stringValue (s : String)
  | boolValue (b : Bool)
  | structValue (fields : List (String × Value))
  | listValue (values : List Value)
  deriving Repr

/-- `google.protobuf.Struct`. -/
abbrev Struct := List (String × Value)

structure InterestGroupAd where
  renderUrl : String := ""
  adMetadata : Option Struct := none
  deriving Repr

structure InterestGroup where
  owner : String := ""
  name : String := ""
  biddingLogicUrl : String := ""
  ads : List InterestGroupAd := []
  dailyUpdateUrl : String := ""
  trustedBiddingSignalsUrl : String := ""
  trustedBiddingSignalsKeys : List String := []
  userBiddingSignals : Option Struct := none
  deriving Repr

/-- The five arguments of a FLEDGE `generateBid`. -/
structure BiddingFunctionInput where
  interestGroup : Option InterestGroup := none
  auctionSignals : Option Struct := none
  perBuyerSignals : Option Struct := none
  trustedBiddingSignals : List (String × Value) := []
  browserSignals : Option Struct := none
  deriving Repr

structure BiddingFunctionOutput where
  ad : Option Struct := none
  bid : Double := .zero
  renderUrl : String := ""
  deriving Repr

/-- The publisher's configuration passed to `navigator.runAdAuction()`. -/
structure AuctionConfiguration where
  seller : String := ""
  decisionLogicUrl : String := ""
  interestGroupBuyers : List String := []
  additionalBids : List Struct := []
  sellerSignals : Option Struct := none
  auctionSignals : Option Struct := none
  perBuyerSignals : List (String × Struct) := []
  deriving Repr

/-- The arguments of a FLEDGE `scoreAd`. -/
structure AdScoringFunctionInput where
  adMetadata : Option Struct := none
  bid : Double := .zero
  auctionConfig : Option AuctionConfiguration := none
  trustedScoringSignals : Option Struct := none
  browserSignals : Option Struct := none
  deriving Repr

structure AdScoringFunctionOutput where
  desirabilityScore : Double := .zero
  deriving Repr

structure InterestGroupAuctionState where
  owner : String := ""
  name : String := ""
  biddingLogicUrl : String := ""
  trustedBiddingSignals : List (String × Value) := []
  userBiddingSignals : Option Struct := none
  ads : List InterestGroupAd := []
  browserSignals : Option Struct := none
  deriving Repr

structure ComputeBidRequest where
  biddingFunctionName : String := ""
  input : Option BiddingFunctionInput := none
  deriving Repr

structure RunAdAuctionRequest where
  interestGroups : List InterestGroupAuctionState := []
  auctionConfiguration : Option AuctionConfiguration := none
  trustedScoringSignals : List (String × Struct) := []
  deriving Repr

structure ScoredInterestGroupBid where
  renderUrl : String := ""
  interestGroupOwner : String := ""
  interestGroupName : String := ""
  bidPrice : Double := .zero
  desirabilityScore : Double := .zero
  deriving DecidableEq, Repr

structure RunAdAuctionResponse where
  winningBid : Option ScoredInterestGroupBid := none
  losingBids : List ScoredInterestGroupBid := []
  deriving DecidableEq, Repr

end Aviary
