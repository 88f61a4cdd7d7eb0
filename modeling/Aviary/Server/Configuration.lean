import Aviary.Server.FunctionRepository
import Mathlib.Data.List.Nodup

/-!
# Building and refreshing the repository

`GetFunctionSourceCodes`, `CreateFunctionRepository`, `AdAuctionsImpl::Create` and
`RefreshFunctionRepository` of `server/ad_auctions.cc`. A run of `CreateFunctionRepository` sees
the world outside through a `Round`: what the function source returns for each specification and
what compiling each fetched source gives. The server is created in one round and refreshed in
each later one (`refreshAll`); a refresh publishes the repository its round builds, or keeps the
published one when the round fails.

The `std::map` of source codes is kept in insertion order rather than sorted: the build loops
only look it up and insert each entry under its own key, so the order is not observable.
-/

namespace Aviary

/-- `FunctionSpecification` of `server/function_source.h`. -/
structure FunctionSpecification where
  uri : String
  sourceCode : Option String := none
  deriving DecidableEq, Repr

/-- `Configuration` of `server/ad_auctions.h`. -/
structure Configuration where
  biddingFunctionSpecs : List FunctionSpecification := []
  adScoringFunctionSpecs : List FunctionSpecification := []
  deriving DecidableEq, Repr

/-- The specifications of one role. -/
def Configuration.specs (configuration : Configuration) : Role → List FunctionSpecification
  | .bidding => configuration.biddingFunctionSpecs
  | .adScoring => configuration.adScoringFunctionSpecs

/-- `FunctionSource::GetFunctionCode`, as one round sees it. -/
abbrev FunctionSource := FunctionSpecification → StatusOr String

/-- What one run of `CreateFunctionRepository` sees: the fetched sources, and the outcome of
`FledgeSapiBiddingFunction::Create` or `FledgeBiddingFunction::Create` (or their ad scoring
counterparts, as `--use_sandbox2` selects) on each of them. -/
structure Round where
  functionSource : FunctionSource
  create : (r : Role) → String → FunctionOptions →
    StatusOr (BiddingFunctionInterface r.Input r.Output)

/-- The error for a uri given twice in one list. -/
def duplicateError (uri : String) : Status :=
  invalidArgumentError ("Function '" ++ uri ++ "' defined more than once in the configuration file.")

/-- The loop of `GetFunctionSourceCodes`, from the map `functionsCode` built so far. -/
def getFunctionSourceCodesFrom (functionSource : FunctionSource) :
    List (String × String) → List FunctionSpecification → StatusOr (List (String × String))
  | functionsCode, [] => .ok functionsCode
  | functionsCode, specification :: specifications => do
    let sourceCode ← functionSource specification
    if (functionsCode.lookup specification.uri).isSome then
      .error (duplicateError specification.uri)
    else
      getFunctionSourceCodesFrom functionSource (functionsCode ++ [(specification.uri, sourceCode)])
        specifications

def getFunctionSourceCodes (functionSource : FunctionSource)
    (specifications : List FunctionSpecification) : StatusOr (List (String × String)) :=
  getFunctionSourceCodesFrom functionSource [] specifications

/-- The options `CreateFunctionRepository` compiles every function with. -/
def repositoryFunctionOptions : FunctionOptions := { flattenFunctionArguments := true }

/-- One of the two build loops of `CreateFunctionRepository`: a function that does not compile
is kept as a `nullptr` placeholder. -/
def buildFunctions (r : Role) (create : String → StatusOr (BiddingFunctionInterface r.Input r.Output))
    (sourceCodes : List (String × String)) : FunctionMap r :=
  sourceCodes.foldl (fun functions code => functions.insert code.1 (create code.2).toOption) []

def createFunctionRepository (configuration : Configuration) (round : Round) :
    StatusOr FunctionRepository := do
  let biddingFunctionSourceCodes ←
    getFunctionSourceCodes round.functionSource configuration.biddingFunctionSpecs
  let adScoringFunctionSourceCodes ←
    getFunctionSourceCodes round.functionSource configuration.adScoringFunctionSpecs
  pure
    { biddingFunctions := buildFunctions .bidding
        (round.create .bidding · repositoryFunctionOptions) biddingFunctionSourceCodes
      adScoringFunctions := buildFunctions .adScoring
        (round.create .adScoring · repositoryFunctionOptions) adScoringFunctionSourceCodes }

/-- The state of the service that refreshes its repository: the configuration it copied, and the
published repository. -/
structure AdAuctionsImpl where
  configuration : Configuration
  functionRepository : FunctionRepository

namespace AdAuctionsImpl

def create (configuration : Configuration) (round : Round) : StatusOr AdAuctionsImpl := do
  let initialFunctionRepository ← createFunctionRepository configuration round
  pure ⟨configuration, initialFunctionRepository⟩

def refreshFunctionRepository (impl : AdAuctionsImpl) (round : Round) : AdAuctionsImpl :=
  match createFunctionRepository impl.configuration round with
  | .ok repository => { impl with functionRepository := repository }
  | .error _ => impl

/-- The refreshes of a run, one per round. -/
def refreshAll (impl : AdAuctionsImpl) (rounds : List Round) : AdAuctionsImpl :=
  rounds.foldl refreshFunctionRepository impl

end AdAuctionsImpl

/-! ## Runs -/

/-- Every specification of the configuration is fetched in the round. -/
def Round.fetches (round : Round) (configuration : Configuration) : Bool :=
  (configuration.biddingFunctionSpecs ++ configuration.adScoringFunctionSpecs).all
    fun specification => (round.functionSource specification).toBool

/-- No uri is given twice within one list. -/
def Configuration.Distinct (configuration : Configuration) : Prop :=
  (configuration.biddingFunctionSpecs.map (·.uri)).Nodup ∧
    (configuration.adScoringFunctionSpecs.map (·.uri)).Nodup

/-- The last round of a run that fetched every specification; `first` is the round of
`Create`. -/
def lastFetching (configuration : Configuration) (first : Round) (rounds : List Round) : Round :=
  rounds.foldl (fun last round => if round.fetches configuration then round else last) first

/-! ## Loop invariants -/

theorem lookup_isSome_iff_mem {β : Type} (l : List (String × β)) (k : String) :
    (l.lookup k).isSome ↔ k ∈ l.map Prod.fst := by
  rw [List.lookup_isSome_iff, List.mem_map]
  exact exists_congr fun p => and_congr_right fun _ => by rw [beq_iff_eq, eq_comm]

section SourceCodes

variable {functionSource : FunctionSource}

theorem getFunctionSourceCodesFrom_toBool {functionsCode : List (String × String)}
    (hcode : (functionsCode.map Prod.fst).Nodup) (specifications : List FunctionSpecification) :
    (getFunctionSourceCodesFrom functionSource functionsCode specifications).toBool = true ↔
      (∀ s ∈ specifications, (functionSource s).toBool = true) ∧
        (functionsCode.map Prod.fst ++ specifications.map (·.uri)).Nodup := by
  induction specifications generalizing functionsCode with
  | nil => simpa [getFunctionSourceCodesFrom, Except.toBool] using hcode
  | cons s ss ih =>
    rcases hs : functionSource s with e | source
    · simp [getFunctionSourceCodesFrom, hs, bind, Except.bind, Except.toBool]
    · by_cases hdup : (functionsCode.lookup s.uri).isSome
      · have hrepeat : ¬(functionsCode.map Prod.fst ++ (s :: ss).map (·.uri)).Nodup := fun h =>
          List.disjoint_of_nodup_append h ((lookup_isSome_iff_mem _ _).mp hdup)
            (List.mem_cons_self _ _)
        simp only [getFunctionSourceCodesFrom, hs, bind, Except.bind, hdup, if_true, Except.toBool,
          Bool.false_eq_true, false_iff]
        exact fun h => hrepeat h.2
      · have hfresh : ((functionsCode ++ [(s.uri, source)]).map Prod.fst).Nodup := by
          rw [List.map_append, List.nodup_append_comm]
          exact List.nodup_cons.mpr ⟨mt (lookup_isSome_iff_mem _ _).mpr hdup, hcode⟩
        simp only [getFunctionSourceCodesFrom, hs, bind, Except.bind, hdup, Bool.false_eq_true,
          if_false, ih hfresh]
        simp [hs, Except.toBool]

/-- What a successful run of the loop returns: the map built so far, then each specification's
uri with its fetched source. -/
theorem getFunctionSourceCodesFrom_eq_ok : ∀ {functionsCode : List (String × String)}
    {specifications : List FunctionSpecification} {out : List (String × String)},
    getFunctionSourceCodesFrom functionSource functionsCode specifications = .ok out →
      out.map Prod.fst = functionsCode.map Prod.fst ++ specifications.map (·.uri) ∧
      (∀ k v, functionsCode.lookup k = some v → out.lookup k = some v) ∧
      ∀ s ∈ specifications, ∀ source, functionSource s = .ok source →
        out.lookup s.uri = some source
  | functionsCode, [], out, h => by
    simp only [getFunctionSourceCodesFrom, Except.ok.injEq] at h
    subst h
    simp
  | functionsCode, s :: ss, out, h => by
    rcases hs : functionSource s with e | source
    · simp [getFunctionSourceCodesFrom, hs, bind, Except.bind] at h
    · by_cases hdup : (functionsCode.lookup s.uri).isSome
      · simp [getFunctionSourceCodesFrom, hs, bind, Except.bind, hdup] at h
      · simp only [getFunctionSourceCodesFrom, hs, bind, Except.bind, hdup] at h
        obtain ⟨hkeys, hprefix, hrest⟩ := getFunctionSourceCodesFrom_eq_ok h
        have hnew : (functionsCode ++ [(s.uri, source)]).lookup s.uri = some source := by
          rw [List.lookup_append, Option.not_isSome_iff_eq_none.mp hdup]
          simp
        refine ⟨by simpa using hkeys, fun k v hk => hprefix k v (by simp [List.lookup_append, hk]),
          ?_⟩
        intro s' hs' source' hsource'
        rcases List.mem_cons.mp hs' with rfl | hs'
        · rw [hs] at hsource'
          cases hsource'
          exact hprefix _ _ hnew
        · exact hrest s' hs' source' hsource'

end SourceCodes

section Build

variable {r : Role}

theorem lookup_foldl_insert (create : String → StatusOr (BiddingFunctionInterface r.Input r.Output))
    (u : String) : ∀ (sourceCodes : List (String × String)) (functions : FunctionMap r),
      (sourceCodes.foldl (fun functions code => functions.insert code.1 (create code.2).toOption)
          functions).lookup u =
        (functions.lookup u).or ((sourceCodes.lookup u).map fun source => (create source).toOption)
  | [], functions => by simp
  | (uri, source) :: sourceCodes, functions => by
    rw [List.foldl_cons, lookup_foldl_insert create u sourceCodes, FunctionMap.lookup_insert,
      List.lookup_cons]
    by_cases hu : u = uri
    · subst hu
      cases h : functions.lookup u <;> simp [h]
    · have hne : (u == uri) = false := by simp [hu]
      cases h : functions.lookup uri <;> simp [hne, hu]

/-- A build loop keeps, for each uri, what compiling its source gave. -/
theorem lookup_buildFunctions (create : String → StatusOr (BiddingFunctionInterface r.Input r.Output))
    (sourceCodes : List (String × String)) (u : String) :
    (buildFunctions r create sourceCodes).lookup u =
      (sourceCodes.lookup u).map fun source => (create source).toOption := by
  simp [buildFunctions, lookup_foldl_insert]

end Build

section Repository

theorem getFunctionSourceCodes_toBool (round : Round) (specifications : List FunctionSpecification) :
    (getFunctionSourceCodes round.functionSource specifications).toBool = true ↔
      (∀ s ∈ specifications, (round.functionSource s).toBool = true) ∧
        (specifications.map (·.uri)).Nodup := by
  simpa using @getFunctionSourceCodesFrom_toBool round.functionSource [] List.nodup_nil
    specifications

/-- `CreateFunctionRepository` fails exactly when a fetch fails or a list repeats a uri. -/
theorem createFunctionRepository_toBool (configuration : Configuration) (round : Round) :
    (createFunctionRepository configuration round).toBool = true ↔
      round.fetches configuration = true ∧ configuration.Distinct := by
  have hcreate : (createFunctionRepository configuration round).toBool =
      ((getFunctionSourceCodes round.functionSource configuration.biddingFunctionSpecs).toBool &&
        (getFunctionSourceCodes round.functionSource configuration.adScoringFunctionSpecs).toBool) := by
    unfold createFunctionRepository
    cases getFunctionSourceCodes round.functionSource configuration.biddingFunctionSpecs <;>
      cases getFunctionSourceCodes round.functionSource configuration.adScoringFunctionSpecs <;> rfl
  rw [hcreate, Bool.and_eq_true, getFunctionSourceCodes_toBool, getFunctionSourceCodes_toBool,
    and_and_and_comm]
  simp only [Round.fetches, List.all_eq_true, List.mem_append, or_imp, forall_and,
    Configuration.Distinct]

/-- A repository built by a round answers a lookup from the source the round fetched. -/
theorem get_of_createFunctionRepository {configuration : Configuration} {round : Round}
    {repository : FunctionRepository}
    (h : createFunctionRepository configuration round = .ok repository) (r : Role) :
    (∀ u, u ∉ (configuration.specs r).map (·.uri) → (repository.functions r).lookup u = none) ∧
    ∀ spec ∈ configuration.specs r, ∀ source, round.functionSource spec = .ok source →
      (repository.functions r).lookup spec.uri =
        some (round.create r source repositoryFunctionOptions).toOption := by
  unfold createFunctionRepository at h
  rcases hb : getFunctionSourceCodes round.functionSource configuration.biddingFunctionSpecs
    with _ | bidding <;>
    rcases ha : getFunctionSourceCodes round.functionSource configuration.adScoringFunctionSpecs
      with _ | adScoring <;>
    simp only [hb, ha, bind, Except.bind, pure, Except.pure, reduceCtorEq, Except.ok.injEq] at h
  subst h
  have key (codes : List (String × String)) (specs : List FunctionSpecification)
      (hc : getFunctionSourceCodes round.functionSource specs = .ok codes) (u : String)
      (hu : u ∉ specs.map (·.uri)) : codes.lookup u = none := by
    obtain ⟨hkeys, -, -⟩ := getFunctionSourceCodesFrom_eq_ok hc
    rw [← Option.not_isSome_iff_eq_none, lookup_isSome_iff_mem, hkeys]
    simpa using hu
  cases r with
  | bidding =>
    refine ⟨fun u hu => ?_, fun spec hspec source hsource => ?_⟩
    · simp [FunctionRepository.functions, lookup_buildFunctions, key _ _ hb u hu]
    · simp [FunctionRepository.functions, lookup_buildFunctions,
        (getFunctionSourceCodesFrom_eq_ok hb).2.2 spec hspec source hsource]
  | adScoring =>
    refine ⟨fun u hu => ?_, fun spec hspec source hsource => ?_⟩
    · simp [FunctionRepository.functions, lookup_buildFunctions, key _ _ ha u hu]
    · simp [FunctionRepository.functions, lookup_buildFunctions,
        (getFunctionSourceCodesFrom_eq_ok ha).2.2 spec hspec source hsource]

end Repository

/-! ## Runs of refreshes -/

section Runs

variable {configuration : Configuration}

/-- A refresh whose round fails to fetch keeps the published repository. -/
theorem refreshFunctionRepository_of_fetches_false {impl : AdAuctionsImpl} {round : Round}
    (hc : impl.configuration = configuration) (hf : round.fetches configuration = false) :
    impl.refreshFunctionRepository round = impl := by
  unfold AdAuctionsImpl.refreshFunctionRepository
  have := (createFunctionRepository_toBool configuration round).not
  rw [hc]
  rcases h : createFunctionRepository configuration round with _ | _
  · rfl
  · simp_all [Except.toBool]

/-- The run invariant: the published repository is the one the last fetching round built. -/
theorem refreshFunctionRepository_published (hd : configuration.Distinct) {impl : AdAuctionsImpl}
    {last : Round} (hc : impl.configuration = configuration)
    (hl : createFunctionRepository configuration last = .ok impl.functionRepository)
    (round : Round) :
    (impl.refreshFunctionRepository round).configuration = configuration ∧
      createFunctionRepository configuration (if round.fetches configuration then round else last) =
        .ok (impl.refreshFunctionRepository round).functionRepository := by
  by_cases hf : round.fetches configuration
  · have hok := (createFunctionRepository_toBool configuration round).mpr ⟨hf, hd⟩
    unfold AdAuctionsImpl.refreshFunctionRepository
    rw [hc]
    rcases h : createFunctionRepository configuration round with _ | repository
    · simp [h, Except.toBool] at hok
    · simp [hf, hc, h]
  · rw [refreshFunctionRepository_of_fetches_false hc (by simpa using hf)]
    simp [hf, hc, hl]

theorem refreshAll_published (hd : configuration.Distinct) :
    ∀ (rounds : List Round) {impl : AdAuctionsImpl} {last : Round},
      impl.configuration = configuration →
      createFunctionRepository configuration last = .ok impl.functionRepository →
      (impl.refreshAll rounds).configuration = configuration ∧
        createFunctionRepository configuration (lastFetching configuration last rounds) =
          .ok (impl.refreshAll rounds).functionRepository
  | [], _, _, hc, hl => ⟨hc, hl⟩
  | round :: rounds, _, _, hc, hl =>
    have step := refreshFunctionRepository_published hd hc hl round
    refreshAll_published hd rounds step.1 step.2

theorem distinct_of_create {first : Round} {impl : AdAuctionsImpl}
    (h : AdAuctionsImpl.create configuration first = .ok impl) :
    configuration.Distinct ∧ impl.configuration = configuration ∧
      createFunctionRepository configuration first = .ok impl.functionRepository := by
  unfold AdAuctionsImpl.create at h
  rcases hr : createFunctionRepository configuration first with _ | repository <;>
    simp only [hr, bind, Except.bind, pure, Except.pure, reduceCtorEq, Except.ok.injEq] at h
  subst h
  exact ⟨((createFunctionRepository_toBool configuration first).mp
    (by simp [hr, Except.toBool])).2,
    rfl, rfl⟩


theorem exists_source_of_fetches {round : Round} (h : round.fetches configuration = true)
    {r : Role} {spec : FunctionSpecification} (hspec : spec ∈ configuration.specs r) :
    ∃ source, round.functionSource spec = .ok source := by
  have hall := List.all_eq_true.mp h spec (by cases r <;> simp_all [Configuration.specs])
  rcases hs : round.functionSource spec with _ | source
  · simp [hs, Except.toBool] at hall
  · exact ⟨source, rfl⟩

/-- With every source fetched, the loop either succeeds or reports a repeated uri. -/
theorem getFunctionSourceCodesFrom_of_fetched {functionSource : FunctionSource} :
    ∀ (functionsCode : List (String × String)) {specifications : List FunctionSpecification},
      (∀ s ∈ specifications, (functionSource s).toBool = true) →
      (getFunctionSourceCodesFrom functionSource functionsCode specifications).toBool = true ∨
        ∃ u, getFunctionSourceCodesFrom functionSource functionsCode specifications =
          .error (duplicateError u)
  | _, [], _ => by simp [getFunctionSourceCodesFrom, Except.toBool]
  | functionsCode, s :: ss, hfetch => by
    rcases hs : functionSource s with _ | source
    · simpa [hs, Except.toBool] using hfetch s (List.mem_cons_self _ _)
    · by_cases hdup : (functionsCode.lookup s.uri).isSome
      · simp [getFunctionSourceCodesFrom, hs, bind, Except.bind, hdup]
      · simpa [getFunctionSourceCodesFrom, hs, bind, Except.bind, hdup] using
          getFunctionSourceCodesFrom_of_fetched (functionsCode ++ [(s.uri, source)])
            fun s' hs' => hfetch s' (List.mem_cons_of_mem _ hs')

end Runs

/-! ## Published repositories -/

section Published

variable (configuration : Configuration) (first : Round) (rounds : List Round)

/-- Over any run of `Create` and refreshes, the published repository is the one built by the last
round that fetched every specification: a configured uri answers what compiling its source gave
in that round, any other uri is not found, and a round with a failed fetch publishes nothing. -/
theorem published_repository_of_run :
    ((∃ e, AdAuctionsImpl.create configuration first = .error e) ↔
        first.fetches configuration = false ∨
          ¬(configuration.biddingFunctionSpecs.map (·.uri)).Nodup ∨
          ¬(configuration.adScoringFunctionSpecs.map (·.uri)).Nodup) ∧
    ∀ impl, AdAuctionsImpl.create configuration first = .ok impl →
      (∀ round, round.fetches configuration = false →
        ((impl.refreshAll rounds).refreshFunctionRepository round).functionRepository =
          (impl.refreshAll rounds).functionRepository) ∧
      ∀ r : Role,
        (∀ u, u ∉ (configuration.specs r).map (·.uri) →
          (impl.refreshAll rounds).functionRepository.get r u =
            .error (notFoundError (r.functionKind ++ " " ++ u ++ " not found"))) ∧
        ∀ spec ∈ configuration.specs r, ∃ source,
          (lastFetching configuration first rounds).functionSource spec = .ok source ∧
          (∀ f, (lastFetching configuration first rounds).create r source
              repositoryFunctionOptions = .ok f →
            (impl.refreshAll rounds).functionRepository.get r spec.uri = .ok f) ∧
          (∀ e, (lastFetching configuration first rounds).create r source
              repositoryFunctionOptions = .error e →
            (impl.refreshAll rounds).functionRepository.get r spec.uri =
              .error (unavailableError (r.functionKind ++ " " ++ spec.uri ++ " is not available"))) := by
  refine ⟨?_, fun impl h => ?_⟩
  · have hcreate : (∃ e, AdAuctionsImpl.create configuration first = .error e) ↔
        (createFunctionRepository configuration first).toBool = false := by
      unfold AdAuctionsImpl.create
      cases createFunctionRepository configuration first <;> simp [Except.toBool, bind, Except.bind]
    rw [hcreate, ← Bool.not_eq_true, createFunctionRepository_toBool, Configuration.Distinct,
      not_and_or, not_and_or, Bool.not_eq_true]
  · obtain ⟨hd, hc, hl⟩ := distinct_of_create h
    obtain ⟨hc', hpub⟩ := refreshAll_published hd rounds hc hl
    have hfetch := ((createFunctionRepository_toBool configuration
      (lastFetching configuration first rounds)).mp (by simp [hpub, Except.toBool])).1
    have hget := get_of_createFunctionRepository hpub
    refine ⟨fun round hf => by rw [refreshFunctionRepository_of_fetches_false hc' hf],
      fun r => ⟨fun u hu => by simp [FunctionRepository.get, getFunction, (hget r).1 u hu],
        fun spec hspec => ?_⟩⟩
    obtain ⟨source, hsource⟩ := exists_source_of_fetches hfetch hspec
    have hlookup := (hget r).2 spec hspec source hsource
    exact ⟨source, hsource,
      fun f hf => by simp [FunctionRepository.get, getFunction, hlookup, hf, Except.toOption],
      fun e he => by simp [FunctionRepository.get, getFunction, hlookup, he, Except.toOption]⟩

/-- `Create` compares the uris of each list only with the same list: a uri repeated within one
list is rejected, while the keys of each published map are exactly the uris of its own list. -/
theorem function_keys_of_run :
    (first.fetches configuration = true → ¬configuration.Distinct →
      ∃ u, AdAuctionsImpl.create configuration first = .error (duplicateError u)) ∧
    ∀ impl, AdAuctionsImpl.create configuration first = .ok impl → ∀ (r : Role) (u : String),
      u ∈ ((impl.refreshAll rounds).functionRepository.functions r).map Prod.fst ↔
        u ∈ (configuration.specs r).map (·.uri) := by
  refine ⟨fun hf hnd => ?_, fun impl h r u => ?_⟩
  · have hfail := (createFunctionRepository_toBool configuration first).not.mpr (by tauto)
    have hb := getFunctionSourceCodesFrom_of_fetched []
      fun s hs => List.all_eq_true.mp hf s (List.mem_append_left _ hs)
    have ha := getFunctionSourceCodesFrom_of_fetched []
      fun s hs => List.all_eq_true.mp hf s (List.mem_append_right _ hs)
    unfold AdAuctionsImpl.create createFunctionRepository getFunctionSourceCodes at *
    rcases hB : getFunctionSourceCodesFrom first.functionSource [] configuration.biddingFunctionSpecs
      with _ | _ <;>
      rcases hA : getFunctionSourceCodesFrom first.functionSource []
        configuration.adScoringFunctionSpecs with _ | _ <;>
      simp_all [bind, Except.bind, pure, Except.pure, Except.toBool]
  · obtain ⟨hd, hc, hl⟩ := distinct_of_create h
    obtain ⟨-, hpub⟩ := refreshAll_published hd rounds hc hl
    obtain ⟨hnone, hentry⟩ := get_of_createFunctionRepository hpub r
    have hfetch := ((createFunctionRepository_toBool configuration
      (lastFetching configuration first rounds)).mp (by simp [hpub, Except.toBool])).1
    rw [← lookup_isSome_iff_mem]
    by_cases hu : u ∈ (configuration.specs r).map (·.uri)
    · obtain ⟨spec, hspec, rfl⟩ := List.mem_map.mp hu
      obtain ⟨source, hsource⟩ := exists_source_of_fetches hfetch hspec
      simp [hentry spec hspec source hsource, hu]
    · simp [hnone u hu, hu]

end Published

/-- One uri listed both as a bidding and as an ad scoring function. -/
def sharedUriConfiguration : Configuration :=
  { biddingFunctionSpecs := [{ uri := "local://f", sourceCode := some "f" }]
    adScoringFunctionSpecs := [{ uri := "local://f", sourceCode := some "f" }] }

/-- A round that fetches every local source and compiles none of them. -/
def sharedUriRound : Round :=
  { functionSource := fun specification => .ok (specification.sourceCode.getD "")
    create := fun _ _ _ => .error (internalError "") }

theorem shared_uri_accepted_in_both_maps :
    ∃ impl, AdAuctionsImpl.create sharedUriConfiguration sharedUriRound = .ok impl ∧
      "local://f" ∈ impl.functionRepository.biddingFunctions.map Prod.fst ∧
      "local://f" ∈ impl.functionRepository.adScoringFunctions.map Prod.fst :=
  ⟨_, rfl, by decide, by decide⟩

end Aviary
