import Aviary.Server.Configuration

/-!
# The YAML configuration

`AdAuctionsImpl::Create(function_source, configuration_file_name)` of `server/ad_auctions.cc`
loads the file with yaml-cpp, reads `config["biddingFunctions"]` and `config["adScoringFunctions"]`
with `as<std::vector<FunctionSpecification>>()` through the `convert` specialization at the top of
the file, and creates the service from the `Configuration`. A file is what `YAML::LoadFile` makes
of it (`LoadedFile`): a node tree, or the `BadFile` or `ParserException` it throws; the parser is
not modelled. yaml-cpp's `as<std::string>()` of a null node, the value of a key written with
nothing after it, is not the same in every release, so it is a parameter (`nullString`): none when
it throws, or the text it returns.

The decoder reads only the `uri` and `source` pairs of a specification: every other key, such as
`name`, is ignored (`decodeFunctionSpecification_filter`). A configuration written in the layout of
`sample_configuration.yaml` loads back as itself exactly when none of its uris is empty
(`configurationFromYaml_toYaml`).
-/

namespace Aviary

/-- A YAML node as yaml-cpp holds it after parsing; a map keeps its pairs in order, repeated keys
included. -/
inductive YamlNode where
  | null
  | scalar (value : String)
  | sequence (items : List YamlNode)
  | map (entries : List (YamlNode × YamlNode))

namespace YamlNode

/-- Whether a key node equals the string key of a lookup: `node::equals` decodes the key node as a
`std::string`, which only a scalar is. -/
def isKey (key : String) : YamlNode → Bool
  | .scalar value => value == key
  | _ => false

/-- `node[key]` on a map: the value of the first pair whose key is `key`, or none for the undefined
node yaml-cpp gives when there is none. -/
def find (entries : List (YamlNode × YamlNode)) (key : String) : Option YamlNode :=
  (entries.find? fun entry => entry.1.isKey key).map Prod.snd

/-- `node.as<std::string>()`: a scalar's text, `nullString` for a null node, and an exception
(none) for a sequence or a map. -/
def asString (nullString : Option String) : YamlNode → Option String
  | .scalar value => some value
  | .null => nullString
  | _ => none

end YamlNode

section Decode

variable (nullString : Option String)

/-- `as<FunctionSpecification>()`, which runs `convert<FunctionSpecification>::decode` on a fresh
specification: none when `decode` returns false or an `as<std::string>()` in it throws, both of
which end in a `RepresentationException`. -/
def decodeFunctionSpecification : YamlNode → Option FunctionSpecification
  | .map entries => do
    let sourceCode ← match YamlNode.find entries "source" with
      | none => pure none
      | some sourceNode => some <$> sourceNode.asString nullString
    let uri ← match YamlNode.find entries "uri" with
      | none => pure ""
      | some uriNode => uriNode.asString nullString
    if uri.isEmpty then none else some ⟨uri, sourceCode⟩
  | _ => none

/-- `as<std::vector<FunctionSpecification>>()`: the items of a sequence, decoded in order. -/
def decodeFunctionSpecifications : YamlNode → Option (List FunctionSpecification)
  | .sequence items => items.mapM (decodeFunctionSpecification nullString)
  | _ => none

/-- `config[key]` on the root: the value of the first pair with that key when the root is a map.
Otherwise the node is undefined, or `operator[]` throws `BadSubscript` on a scalar; `as` then
throws a `RepresentationException` either way (none). -/
def rootValue (root : YamlNode) (key : String) : Option YamlNode :=
  match root with
  | .map entries => YamlNode.find entries key
  | _ => none

/-- What `YAML::LoadFile` does with the configuration file. -/
inductive LoadedFile where
  | badFile
  | parserException
  | loaded (root : YamlNode)

/-- The `Configuration` the `try` block of `Create(function_source, configuration_file_name)`
builds, or the status for the exception it catches. -/
def configurationFromYaml : LoadedFile → StatusOr Configuration
  | .badFile => .error (notFoundError "Could not open the YAML configuration file")
  | .parserException =>
    .error (invalidArgumentError "Parsing failure reading the YAML configuration file")
  | .loaded root =>
    match (rootValue root "biddingFunctions").bind (decodeFunctionSpecifications nullString),
        (rootValue root "adScoringFunctions").bind (decodeFunctionSpecifications nullString) with
    | some biddingFunctionSpecs, some adScoringFunctionSpecs =>
      .ok ⟨biddingFunctionSpecs, adScoringFunctionSpecs⟩
    | _, _ => .error (invalidArgumentError "Malformed YAML configuration")

/-- `AdAuctionsImpl::Create(function_source, configuration_file_name)`, in a round. -/
def AdAuctionsImpl.createFromFile (file : LoadedFile) (round : Round) : StatusOr AdAuctionsImpl := do
  let configuration ← configurationFromYaml nullString file
  AdAuctionsImpl.create configuration round

end Decode

/-! ## Only `uri` and `source` are read -/

theorem find_filter (entries : List (YamlNode × YamlNode)) (keep : YamlNode × YamlNode → Bool)
    (key : String) (hkeep : ∀ entry, entry.1.isKey key = true → keep entry = true) :
    YamlNode.find (entries.filter keep) key = YamlNode.find entries key := by
  unfold YamlNode.find
  rw [List.find?_filter]
  congr 2
  funext entry
  by_cases hkey : entry.1.isKey key = true <;> simp [hkey, hkeep entry]

/-- A specification decodes as its `uri` and `source` pairs alone: any other pair, whatever its key
(`name` for one) or value, is never read. -/
theorem decodeFunctionSpecification_filter (nullString : Option String)
    (entries : List (YamlNode × YamlNode)) :
    decodeFunctionSpecification nullString (.map entries) =
      decodeFunctionSpecification nullString
        (.map (entries.filter fun entry => entry.1.isKey "uri" || entry.1.isKey "source")) := by
  have hfind (key : String) (hkey : key = "uri" ∨ key = "source") :
      YamlNode.find (entries.filter fun entry => entry.1.isKey "uri" || entry.1.isKey "source") key =
        YamlNode.find entries key :=
    find_filter entries _ key fun entry h => by rcases hkey with rfl | rfl <;> simp [h]
  simp only [decodeFunctionSpecification, hfind "uri" (.inl rfl), hfind "source" (.inr rfl)]

/-- A `name` that is not a string, which the tests take to be rejected, is accepted beside a
`uri`. -/
example :
    decodeFunctionSpecification none (.map [(.scalar "name", .sequence [.scalar "foo", .scalar "bar"]),
        (.scalar "uri", .scalar "local://fun"), (.scalar "source", .scalar "inputs => 42.0;")]) =
      some ⟨"local://fun", some "inputs => 42.0;"⟩ := by
  decide

/-! ## The layout of `sample_configuration.yaml` -/

/-- A specification as `sample_configuration.yaml` writes it: its `uri`, then its `source` when it
has one. -/
def FunctionSpecification.toYaml (specification : FunctionSpecification) : YamlNode :=
  .map ((.scalar "uri", .scalar specification.uri) ::
    specification.sourceCode.toList.map fun sourceCode => (.scalar "source", .scalar sourceCode))

/-- A configuration as `sample_configuration.yaml` writes it. -/
def Configuration.toYaml (configuration : Configuration) : YamlNode :=
  .map [(.scalar "biddingFunctions",
      .sequence (configuration.biddingFunctionSpecs.map FunctionSpecification.toYaml)),
    (.scalar "adScoringFunctions",
      .sequence (configuration.adScoringFunctionSpecs.map FunctionSpecification.toYaml))]

theorem decodeFunctionSpecification_toYaml (nullString : Option String)
    (specification : FunctionSpecification) :
    decodeFunctionSpecification nullString specification.toYaml =
      if specification.uri.isEmpty then none else some specification := by
  obtain ⟨uri, sourceCode⟩ := specification
  cases sourceCode <;>
    simp [decodeFunctionSpecification, FunctionSpecification.toYaml, YamlNode.find, YamlNode.isKey,
      YamlNode.asString]

theorem decodeFunctionSpecifications_toYaml (nullString : Option String)
    (specifications : List FunctionSpecification) :
    decodeFunctionSpecifications nullString
        (.sequence (specifications.map FunctionSpecification.toYaml)) =
      if specifications.all (!·.uri.isEmpty) then some specifications else none := by
  show (specifications.map FunctionSpecification.toYaml).mapM (decodeFunctionSpecification nullString) = _
  induction specifications with
  | nil => rfl
  | cons specification specifications ih =>
    rw [List.map_cons, List.mapM_cons, decodeFunctionSpecification_toYaml, ih]
    by_cases hempty : specification.uri.isEmpty <;>
      by_cases hall : specifications.all (!·.uri.isEmpty) <;> simp [hempty, hall]

/-- A configuration written in the layout of `sample_configuration.yaml` loads back as itself when
none of its uris is empty, and as malformed otherwise, whatever yaml-cpp makes of a null node. -/
theorem configurationFromYaml_toYaml (nullString : Option String) (configuration : Configuration) :
    configurationFromYaml nullString (.loaded configuration.toYaml) =
      if ∀ specification ∈ configuration.biddingFunctionSpecs ++ configuration.adScoringFunctionSpecs,
          specification.uri ≠ "" then .ok configuration
      else .error (invalidArgumentError "Malformed YAML configuration") := by
  have huri : ∀ specification : FunctionSpecification,
      (!specification.uri.isEmpty) = true ↔ specification.uri ≠ "" := fun specification =>
    ⟨fun h hempty => absurd (hempty ▸ h) (by decide), fun h => by
      cases hs : specification.uri.isEmpty
      · rfl
      · exact absurd (eq_empty_of_isEmpty hs) h⟩
  have hbidding : rootValue configuration.toYaml "biddingFunctions" =
      some (.sequence (configuration.biddingFunctionSpecs.map FunctionSpecification.toYaml)) := rfl
  have hadScoring : rootValue configuration.toYaml "adScoringFunctions" =
      some (.sequence (configuration.adScoringFunctionSpecs.map FunctionSpecification.toYaml)) := rfl
  have hall : (∀ specification ∈ configuration.biddingFunctionSpecs ++
      configuration.adScoringFunctionSpecs, specification.uri ≠ "") ↔
      configuration.biddingFunctionSpecs.all (!·.uri.isEmpty) = true ∧
        configuration.adScoringFunctionSpecs.all (!·.uri.isEmpty) = true := by
    simp only [List.all_eq_true, huri, List.mem_append, or_imp, forall_and]
  simp only [configurationFromYaml, hbidding, hadScoring, Option.some_bind,
    decodeFunctionSpecifications_toYaml, hall]
  by_cases hb : configuration.biddingFunctionSpecs.all (!·.uri.isEmpty) = true <;>
    by_cases ha : configuration.adScoringFunctionSpecs.all (!·.uri.isEmpty) = true <;>
    simp [hb, ha]

end Aviary
