import Aviary.Server.Configuration

/-!
# Fetching a function's code

`FunctionSource::GetFunctionCode` of `server/function_source.cc`. It splits the uri with

    url_re = ^((?:([a-z]+)://)?([^:/?#]+)(?::(\d+))?)(/.*)?

answers a `local` uri with the specification's inline source, and fetches any other from its host
with `httplib`. `std::regex_match` must consume the whole uri. Each group is a longest match: a
shorter scheme, host or port leaves a character that nothing after it accepts, and a uri that
matches with the scheme group does not match without it. So the match is the one built greedily
here, with the scheme group tried first, whatever order the regex engine explores. Every class the
regex tests is ASCII, so matching the uri's characters is matching its UTF-8 bytes.

`getFunctionCode` says what a call does (`CodeFetch`): answer at once, or `Get` a path from a host
and answer from the response, which `CodeFetch.result` looks up in a client. A `local` uri is always
answered at once; it is answered with its source exactly when the rest of the uri is a host, a port
and a path as `url_re` reads them (`local_uri_answers_without_fetch`), so a `local` uri with a query
is not a valid URL (`local_uri_with_query_rejected`). Any other scheme is fetched
(`remote_uri_fetches`): the client is made of `scheme_host_port.c_str()` and `Get`s
`path.c_str()`, so each part is read up to a first NUL, and only a uri without one is fetched whole
(`getFunctionCode_eq_get`). The code a round compiles is an inline source or the body of a `200`
response (`ofClient_eq_ok`).
-/

namespace Aviary

/-! ## `url_re` -/

/-- `[a-z]`. -/
def isSchemeChar (c : Char) : Bool := 'a' ≤ c && c ≤ 'z'

/-- `[^:/?#]`. -/
def isHostChar (c : Char) : Bool := !(c == ':' || c == '/' || c == '?' || c == '#')

/-- What `.` does not match. -/
def isLineTerminator (c : Char) : Bool := c == '\n' || c == '\r'

/-- The submatches `GetFunctionCode` reads: group 1 (scheme, host and port), group 2 (the scheme,
empty when its group took no part) and group 5 (the path, empty when absent). -/
structure UrlMatch where
  schemeHostPort : String
  scheme : String
  path : String
  deriving DecidableEq, Repr

/-- `m.size()` after a match: the five groups and the whole match. -/
def urlMatchSize : Nat := 6

def kPathGroup : Nat := 5

/-- `(/.*)?` up to the end of the uri. -/
def matchPath : List Char → Option (List Char)
  | [] => some []
  | '/' :: path => if path.any isLineTerminator then none else some ('/' :: path)
  | _ => none

/-- `([^:/?#]+)(?::(\d+))?` then the path, up to the end of the uri: the host and port, and the
path. A `:` after the host must start a port, since it cannot start a path. -/
def matchHostPortPath (s : List Char) : Option (List Char × List Char) :=
  let host := s.takeWhile isHostChar
  if host.isEmpty then none
  else
    match s.dropWhile isHostChar with
    | ':' :: afterColon =>
      let port := afterColon.takeWhile Char.isDigit
      if port.isEmpty then none
      else (matchPath (afterColon.dropWhile Char.isDigit)).map fun path => (host ++ ':' :: port, path)
    | rest => (matchPath rest).map fun path => (host, path)

/-- `std::regex_match(uri, m, url_re)`: with the scheme group when that matches, else without
it. -/
def regexMatchUrl (uri : String) : Option UrlMatch :=
  let scheme := uri.data.takeWhile isSchemeChar
  let withScheme : Option UrlMatch :=
    match uri.data.dropWhile isSchemeChar with
    | ':' :: '/' :: '/' :: rest =>
      if scheme.isEmpty then none
      else (matchHostPortPath rest).map fun hostPortPath =>
        ⟨⟨scheme ++ ':' :: '/' :: '/' :: hostPortPath.1⟩, ⟨scheme⟩, ⟨hostPortPath.2⟩⟩
    | _ => none
  match withScheme with
  | some m => some m
  | none => (matchHostPortPath uri.data).map fun hostPortPath =>
      ⟨⟨hostPortPath.1⟩, "", ⟨hostPortPath.2⟩⟩

/-! ## `GetFunctionCode` -/

/-- What `TranslateResponse` reads of an `httplib::Response`. -/
structure HttpResponse where
  status : Int
  body : String

def translateResponse (res : HttpResponse) : StatusOr String :=
  if res.status = 200 then .ok res.body
  else if res.status = 400 then
    .error (invalidArgumentError "The server returned 400 Bad Request status code.")
  else if res.status = 401 ∨ res.status = 403 then
    .error (permissionDeniedError
      ("Unauthenticated or unauthorized request. HTTP status code:" ++ toString res.status))
  else if res.status = 404 then .error (notFoundError "Resource at the URL was not found.")
  else .error (internalError "Unable to fetch a URL")

/-- What a call of `GetFunctionCode` does: answer without the network, or `Get` a path from a
client of `scheme_host_port` and answer from the result. -/
inductive CodeFetch where
  | answer (code : StatusOr String)
  | get (schemeHostPort path : String)

/-- The answer, given what `httplib::Client(schemeHostPort).Get(path)` returns: a response, or
nothing when the request fails. -/
def CodeFetch.result (client : String → String → Option HttpResponse) : CodeFetch → StatusOr String
  | .answer code => code
  | .get schemeHostPort path =>
    match client schemeHostPort path with
    | none => .error (internalError "Unable to fetch a URL")
    | some res => translateResponse res

def invalidRemoteUriError (specification : FunctionSpecification) : Status :=
  invalidArgumentError ("Not a valid remote URL: " ++ specification.uri)

/-- What a `c_str()` of a string is read as: its characters up to the first NUL. -/
def cStr (s : String) : String := ⟨s.data.takeWhile (· ≠ '\x00')⟩

theorem cStr_of_not_mem {s : String} (h : '\x00' ∉ s.data) : cStr s = s :=
  congrArg String.mk (List.takeWhile_eq_self_iff.mpr fun _ hc => decide_eq_true fun h0 => h (h0 ▸ hc))

/-- `GetFunctionCode`; the client is made of `scheme_host_port.c_str()` and `Get`s
`path.c_str()`. -/
def getFunctionCode (specification : FunctionSpecification) : CodeFetch :=
  match regexMatchUrl specification.uri with
  | none => .answer (.error (invalidArgumentError ("Not a valid URL: " ++ specification.uri)))
  | some m =>
    if m.scheme.isEmpty then .answer (.error (invalidRemoteUriError specification))
    else if m.scheme = "local" then
      match specification.sourceCode with
      | none => .answer (.error (invalidArgumentError
          "Function source code not provided for local function."))
      | some sourceCode => .answer (.ok sourceCode)
    else if urlMatchSize < kPathGroup then .answer (.error (invalidRemoteUriError specification))
    else .get (cStr m.schemeHostPort) (cStr m.path)

/-- The `FunctionSource` of a round whose fetches go through `client`. -/
def FunctionSource.ofClient (client : String → String → Option HttpResponse) : FunctionSource :=
  fun specification => (getFunctionCode specification).result client

/-! ## What `url_re` accepts -/

section LongestMatch

variable {p : Char → Bool}

/-- A group that takes every character of `group` and stops at the head of `rest`. -/
theorem span_append {group : List Char} (hgroup : ∀ c ∈ group, p c) (rest : List Char)
    (hrest : ∀ c tail, rest = c :: tail → p c = false) :
    (group ++ rest).takeWhile p = group ∧ (group ++ rest).dropWhile p = rest := by
  induction group with
  | nil =>
    cases rest with
    | nil => exact ⟨rfl, rfl⟩
    | cons c tail => simp [List.takeWhile_cons, List.dropWhile_cons, hrest c tail rfl]
  | cons c group ih =>
    obtain ⟨htake, hdrop⟩ := ih fun d hd => hgroup d (List.mem_cons_of_mem c hd)
    simp [List.takeWhile_cons, List.dropWhile_cons, hgroup c (List.mem_cons_self c group), htake,
      hdrop]

end LongestMatch

/-- `(/.*)?` to the end of the uri: nothing, or a `/` and no line terminator after it. -/
def IsPath (path : List Char) : Prop :=
  path = [] ∨ ∃ rest, path = '/' :: rest ∧ ∀ c ∈ rest, isLineTerminator c = false

/-- `(?::(\d+))?`: nothing, or a `:` and one or more digits. -/
def IsPort (port : List Char) : Prop :=
  port = [] ∨ ∃ digits, port = ':' :: digits ∧ digits ≠ [] ∧ ∀ c ∈ digits, c.isDigit

/-- What `url_re` accepts after its scheme: a nonempty host of characters other than `:/?#`, then
a port, then a path. -/
def HostPortPath (s : List Char) : Prop :=
  ∃ host port path, s = host ++ port ++ path ∧ host ≠ [] ∧ (∀ c ∈ host, isHostChar c) ∧
    IsPort port ∧ IsPath path

theorem matchPath_isSome_iff {s : List Char} : (matchPath s).isSome ↔ IsPath s := by
  unfold matchPath IsPath
  split
  · simp
  · simp [List.any_eq_true]
  · next s hnil hslash => simpa using ⟨hnil, fun rest h => (hslash rest h).elim⟩

theorem matchPath_of_isPath {path : List Char} (h : IsPath path) : matchPath path = some path := by
  rcases h with rfl | ⟨rest, rfl, hrest⟩
  · rfl
  · simpa [matchPath, List.any_eq_true] using hrest

/-- A path starts with `/`, so a host or a port stops before it. -/
theorem head_of_isPath {path : List Char} (h : IsPath path) :
    ∀ c tail, path = c :: tail → c = '/' := by
  rintro c tail rfl
  rcases h with h | ⟨rest, h, -⟩ <;> cases h
  rfl

/-- The groups of a host, a port and a path are those parts. -/
theorem matchHostPortPath_append {host port path : List Char} (hhost : host ≠ [])
    (hhostChars : ∀ c ∈ host, isHostChar c) (hport : IsPort port) (hpath : IsPath path) :
    matchHostPortPath (host ++ port ++ path) = some (host ++ port, path) := by
  have hslash := head_of_isPath hpath
  rcases hport with rfl | ⟨digits, rfl, hdigits, hdigitChars⟩
  · obtain ⟨htake, hdrop⟩ := span_append hhostChars path fun c tail h => by
      rw [hslash c tail h]; rfl
    have hmatch := matchPath_of_isPath hpath
    rw [List.append_nil]
    unfold matchHostPortPath
    simp only [htake, hdrop]
    rcases hpath with rfl | ⟨rest, rfl, -⟩ <;> simp [hhost, hmatch]
  · obtain ⟨htake, hdrop⟩ := span_append hhostChars (':' :: (digits ++ path)) fun c tail h => by
      cases h; rfl
    obtain ⟨hdigitsTake, hdigitsDrop⟩ := span_append hdigitChars path fun c tail h => by
      rw [hslash c tail h]; rfl
    unfold matchHostPortPath
    simp only [List.append_assoc, List.cons_append, htake, hdrop, hdigitsTake, hdigitsDrop,
      matchPath_of_isPath hpath]
    simp [hhost, hdigits]

theorem matchHostPortPath_isSome_iff {s : List Char} :
    (matchHostPortPath s).isSome ↔ HostPortPath s := by
  refine ⟨fun h => ?_, fun ⟨host, port, path, hs, hhost, hhostChars, hport, hpath⟩ => by
    rw [hs, matchHostPortPath_append hhost hhostChars hport hpath]; rfl⟩
  unfold matchHostPortPath at h
  have hhostChars : ∀ c ∈ s.takeWhile isHostChar, isHostChar c := fun _ => List.mem_takeWhile_imp
  dsimp only at h
  split_ifs at h with hhost
  · cases h
  split at h
  · next afterColon hafter =>
    split_ifs at h with hport
    · cases h
    refine ⟨_, ':' :: afterColon.takeWhile Char.isDigit, afterColon.dropWhile Char.isDigit, ?_,
      by simpa using hhost, hhostChars,
      Or.inr ⟨_, rfl, by simpa using hport, fun _ => List.mem_takeWhile_imp⟩,
      matchPath_isSome_iff.mp (by simpa using h)⟩
    rw [List.append_assoc, List.cons_append, List.takeWhile_append_dropWhile, ← hafter,
      List.takeWhile_append_dropWhile]
  · exact ⟨_, [], s.dropWhile isHostChar, by rw [List.append_nil, List.takeWhile_append_dropWhile],
      by simpa using hhost, hhostChars, Or.inl rfl, matchPath_isSome_iff.mp (by simpa using h)⟩

instance : DecidablePred HostPortPath := fun _ => decidable_of_iff _ matchHostPortPath_isSome_iff

theorem isHostChar_of_isSchemeChar {c : Char} (h : isSchemeChar c) : isHostChar c := by
  simp only [isSchemeChar, Bool.and_eq_true, decide_eq_true_eq] at h
  simp only [isHostChar, Bool.not_eq_true', Bool.or_eq_false_iff, beq_eq_false_iff_ne, ne_eq]
  refine ⟨⟨⟨?_, ?_⟩, ?_⟩, ?_⟩ <;> rintro rfl <;> exact absurd h.1 (by decide)

/-- A uri that starts with a scheme and `://` matches only with the scheme group: without it, the
host stops at the `:`, and no port follows. -/
theorem regexMatchUrl_scheme (scheme : List Char) (hscheme : scheme ≠ [])
    (hschemeChars : ∀ c ∈ scheme, isSchemeChar c) (rest : List Char) :
    regexMatchUrl ⟨scheme ++ ':' :: '/' :: '/' :: rest⟩ =
      (matchHostPortPath rest).map fun hostPortPath =>
        ⟨⟨scheme ++ ':' :: '/' :: '/' :: hostPortPath.1⟩, ⟨scheme⟩, ⟨hostPortPath.2⟩⟩ := by
  obtain ⟨htake, hdrop⟩ := span_append hschemeChars (':' :: '/' :: '/' :: rest) fun c tail h => by
    cases h; rfl
  have hnoScheme : matchHostPortPath (scheme ++ ':' :: '/' :: '/' :: rest) = none := by
    obtain ⟨hhostTake, hhostDrop⟩ := span_append
      (fun c hc => isHostChar_of_isSchemeChar (hschemeChars c hc)) (':' :: '/' :: '/' :: rest)
      fun c tail h => by cases h; rfl
    unfold matchHostPortPath
    simp [hhostTake, hhostDrop, hscheme]
  unfold regexMatchUrl
  simp only [htake, hdrop]
  cases matchHostPortPath rest <;> simp [hscheme, hnoScheme]

/-! ## What a match splits -/

theorem eq_of_matchPath_eq_some {s path : List Char} (h : matchPath s = some path) : path = s := by
  unfold matchPath at h
  split at h
  · cases h; rfl
  · split_ifs at h
    cases h
    rfl
  · cases h

/-- The host and port and the path the regex reads are the text it matched, split in two. -/
theorem append_of_matchHostPortPath_eq_some {s hostPort path : List Char}
    (h : matchHostPortPath s = some (hostPort, path)) : hostPort ++ path = s := by
  unfold matchHostPortPath at h
  dsimp only at h
  split_ifs at h
  split at h
  · next afterColon hafter =>
    split_ifs at h
    obtain ⟨path', hpath', hpair⟩ := Option.map_eq_some'.mp h
    cases hpair
    rw [eq_of_matchPath_eq_some hpath', List.append_assoc, List.cons_append,
      List.takeWhile_append_dropWhile, ← hafter, List.takeWhile_append_dropWhile]
  · obtain ⟨path', hpath', hpair⟩ := Option.map_eq_some'.mp h
    cases hpair
    rw [eq_of_matchPath_eq_some hpath', List.takeWhile_append_dropWhile]

/-- Where the regex matches, group 1 then group 5 are the whole uri, and a scheme that took part
starts group 1, followed by `://`. -/
theorem regexMatchUrl_eq_some {uri : String} {m : UrlMatch} (h : regexMatchUrl uri = some m) :
    m.schemeHostPort ++ m.path = uri ∧
      (m.scheme ≠ "" → (∀ c ∈ m.scheme.data, isSchemeChar c) ∧
        ∃ hostPort, m.schemeHostPort = m.scheme ++ "://" ++ hostPort) := by
  unfold regexMatchUrl at h
  dsimp only at h
  split at h
  · next m' hscheme =>
    cases h
    split at hscheme
    · next rest hrest =>
      split_ifs at hscheme with hempty
      obtain ⟨⟨hostPort, path⟩, hmatch, rfl⟩ := Option.map_eq_some'.mp hscheme
      refine ⟨String.ext ?_, fun _ => ⟨fun c => List.mem_takeWhile_imp, ⟨hostPort⟩,
        String.ext (by simp)⟩⟩
      rw [String.data_append, List.append_assoc, List.cons_append, List.cons_append,
        List.cons_append, append_of_matchHostPortPath_eq_some hmatch, ← hrest,
        List.takeWhile_append_dropWhile]
    · cases hscheme
  · obtain ⟨⟨hostPort, path⟩, hmatch, rfl⟩ := Option.map_eq_some'.mp h
    exact ⟨String.ext (append_of_matchHostPortPath_eq_some hmatch), fun h => absurd rfl h⟩

/-! ## `local` and remote uris -/

theorem regexMatchUrl_local (rest : String) :
    regexMatchUrl ("local://" ++ rest) = (matchHostPortPath rest.data).map fun hostPortPath =>
      ⟨"local://" ++ ⟨hostPortPath.1⟩, "local", ⟨hostPortPath.2⟩⟩ :=
  regexMatchUrl_scheme ['l', 'o', 'c', 'a', 'l'] (by decide) (by decide) rest.data

/-- A `local` uri is answered without a fetch: with its source, or invalid-argument when there is
none, if the rest of the uri is a host, a port and a path; otherwise invalid-argument as not a URL. -/
theorem local_uri_answers_without_fetch (rest : String) (sourceCode : Option String) :
    getFunctionCode ⟨"local://" ++ rest, sourceCode⟩ =
      .answer (if HostPortPath rest.data then
          sourceCode.elim (.error (invalidArgumentError
            "Function source code not provided for local function.")) .ok
        else .error (invalidArgumentError ("Not a valid URL: " ++ ("local://" ++ rest)))) := by
  have hlocal : "local".isEmpty = false := rfl
  unfold getFunctionCode
  rw [regexMatchUrl_local]
  by_cases h : HostPortPath rest.data
  · obtain ⟨hostPortPath, hmatch⟩ :=
      Option.isSome_iff_exists.mp (matchHostPortPath_isSome_iff.mpr h)
    rw [hmatch]
    cases sourceCode <;> simp [h, hlocal]
  · rw [Option.not_isSome_iff_eq_none.mp (mt matchHostPortPath_isSome_iff.mp h)]
    simp [h]

/-- A query is not part of a `local` uri's grammar: such a uri is not a valid URL, even with its
source given. -/
theorem local_uri_with_query_rejected :
    getFunctionCode ⟨"local://fn?v=2", some "f"⟩ =
      .answer (.error (invalidArgumentError "Not a valid URL: local://fn?v=2")) := rfl

/-- A port is `:` and digits: no NUL. -/
theorem nul_not_mem_of_isPort {port : List Char} (hport : IsPort port) : '\x00' ∉ port := by
  rcases hport with rfl | ⟨digits, rfl, -, hdigits⟩
  · exact List.not_mem_nil _
  · rintro (_ | ⟨_, h⟩)
    exact absurd (hdigits _ h) (by decide)

/-- Any other scheme is fetched: the client is made from the scheme, host and port, and `Get`s the
path, empty when the uri has none, each read up to a first NUL as `c_str()` reads it; so a uri with
no NUL in its host and path is fetched as its scheme, host and port and its path. The `m.size()`
check never fails. -/
theorem remote_uri_fetches {scheme host port path : List Char} (hscheme : scheme ≠ [])
    (hschemeChars : ∀ c ∈ scheme, isSchemeChar c) (hremote : String.mk scheme ≠ "local")
    (hhost : host ≠ []) (hhostChars : ∀ c ∈ host, isHostChar c) (hport : IsPort port)
    (hpath : IsPath path) (sourceCode : Option String) :
    getFunctionCode ⟨⟨scheme ++ ':' :: '/' :: '/' :: (host ++ port ++ path)⟩, sourceCode⟩ =
        .get (cStr ⟨scheme ++ ':' :: '/' :: '/' :: (host ++ port)⟩) (cStr ⟨path⟩) ∧
      ('\x00' ∉ host → '\x00' ∉ path →
        getFunctionCode ⟨⟨scheme ++ ':' :: '/' :: '/' :: (host ++ port ++ path)⟩, sourceCode⟩ =
          .get ⟨scheme ++ ':' :: '/' :: '/' :: (host ++ port)⟩ ⟨path⟩) := by
  have hget : getFunctionCode ⟨⟨scheme ++ ':' :: '/' :: '/' :: (host ++ port ++ path)⟩, sourceCode⟩ =
      .get (cStr ⟨scheme ++ ':' :: '/' :: '/' :: (host ++ port)⟩) (cStr ⟨path⟩) := by
    unfold getFunctionCode
    rw [regexMatchUrl_scheme scheme hscheme hschemeChars,
      matchHostPortPath_append hhost hhostChars hport hpath]
    simp [isEmpty_mk_of_ne_nil hscheme, hremote, urlMatchSize, kPathGroup]
  refine ⟨hget, fun hhostNul hpathNul => ?_⟩
  have hschemeNul : '\x00' ∉ scheme := fun h => absurd (hschemeChars _ h) (by decide)
  have hportNul := nul_not_mem_of_isPort hport
  rw [hget, cStr_of_not_mem hpathNul, cStr_of_not_mem (by simp [hschemeNul, hhostNul, hportNul])]

theorem remote_uri_fetches_localhost :
    "http".data ≠ [] ∧ (∀ c ∈ "http".data, isSchemeChar c) ∧ String.mk "http".data ≠ "local" ∧
      "localhost".data ≠ [] ∧ (∀ c ∈ "localhost".data, isHostChar c) ∧ IsPort ":8080".data ∧
      IsPath "/source1.js".data ∧
      getFunctionCode ⟨⟨"http".data ++ ':' :: '/' :: '/' ::
          ("localhost".data ++ ":8080".data ++ "/source1.js".data)⟩, none⟩ =
        .get (cStr ⟨"http".data ++ ':' :: '/' :: '/' :: ("localhost".data ++ ":8080".data)⟩)
          (cStr ⟨"/source1.js".data⟩) ∧
      ('\x00' ∉ "localhost".data → '\x00' ∉ "/source1.js".data →
        getFunctionCode ⟨⟨"http".data ++ ':' :: '/' :: '/' ::
            ("localhost".data ++ ":8080".data ++ "/source1.js".data)⟩, none⟩ =
          .get ⟨"http".data ++ ':' :: '/' :: '/' :: ("localhost".data ++ ":8080".data)⟩
            ⟨"/source1.js".data⟩) :=
  have hport : IsPort ":8080".data := .inr ⟨"8080".data, rfl, by decide, by decide⟩
  have hpath : IsPath "/source1.js".data := .inr ⟨"source1.js".data, rfl, by decide⟩
  ⟨by decide, by decide, by decide, by decide, by decide, hport, hpath,
    remote_uri_fetches (by decide) (by decide) (by decide) (by decide) (by decide) hport hpath none⟩

/-- Conversely, every fetch is of the uri cut in two, each part read up to a first NUL as `c_str()`
reads it: a client of the uri's scheme, host and port, the scheme being neither empty nor `local`,
`Get`s the rest of the uri. A uri with no NUL is fetched whole. -/
theorem getFunctionCode_eq_get {specification : FunctionSpecification}
    {schemeHostPort path : String} (h : getFunctionCode specification = .get schemeHostPort path) :
    ∃ scheme hostPort rest, specification.uri = scheme ++ "://" ++ hostPort ++ rest ∧
      schemeHostPort = cStr (scheme ++ "://" ++ hostPort) ∧ path = cStr rest ∧ scheme ≠ "" ∧
      scheme ≠ "local" ∧ (∀ c ∈ scheme.data, isSchemeChar c) ∧
      ('\x00' ∉ specification.uri.data → schemeHostPort ++ path = specification.uri) := by
  unfold getFunctionCode at h
  split at h
  · cases h
  · next m hm =>
    split_ifs at h with hempty hlocal
    · split at h <;> cases h
    · cases h
      have hne : m.scheme ≠ "" := fun h' => hempty (h' ▸ rfl)
      obtain ⟨hsplit, hscheme⟩ := regexMatchUrl_eq_some hm
      obtain ⟨hchars, hostPort, hschemeHostPort⟩ := hscheme hne
      refine ⟨m.scheme, hostPort, m.path, by rw [← hsplit, hschemeHostPort],
        by rw [hschemeHostPort], rfl, hne, hlocal, hchars, fun hnul => ?_⟩
      rw [← hsplit] at hnul ⊢
      rw [cStr_of_not_mem fun h => hnul (List.mem_append_left _ h),
        cStr_of_not_mem fun h => hnul (List.mem_append_right _ h)]

theorem getFunctionCode_eq_get_localhost :
    getFunctionCode ⟨"http://localhost:8080/source1.js", none⟩ =
        .get "http://localhost:8080" "/source1.js" ∧
      ∃ scheme hostPort rest, "http://localhost:8080/source1.js" = scheme ++ "://" ++ hostPort ++ rest ∧
        "http://localhost:8080" = cStr (scheme ++ "://" ++ hostPort) ∧ "/source1.js" = cStr rest ∧
        scheme ≠ "" ∧ scheme ≠ "local" ∧ (∀ c ∈ scheme.data, isSchemeChar c) ∧
        ('\x00' ∉ "http://localhost:8080/source1.js".data →
          "http://localhost:8080" ++ "/source1.js" = "http://localhost:8080/source1.js") :=
  ⟨rfl, @getFunctionCode_eq_get ⟨"http://localhost:8080/source1.js", none⟩ _ _ rfl⟩

/-- A NUL in the host, which `[^:/?#]` takes, cuts the client's `scheme_host_port` short. -/
example : getFunctionCode ⟨"http://a\x00b/p", none⟩ = .get "http://a" "/p" := rfl

/-! ## Where code comes from -/

/-- Only a `200` response gives code: its body. -/
theorem translateResponse_eq_ok_iff (res : HttpResponse) (code : String) :
    translateResponse res = .ok code ↔ res.status = 200 ∧ res.body = code := by
  unfold translateResponse
  split_ifs with h200 <;> simp [h200]

/-- Every code a round compiles comes from a `local` specification's inline source, or from the
body of a `200` response to the fetch of its uri. -/
theorem ofClient_eq_ok {client : String → String → Option HttpResponse}
    {specification : FunctionSpecification} {code : String}
    (h : FunctionSource.ofClient client specification = .ok code) :
    ((regexMatchUrl specification.uri).map (·.scheme) = some "local" ∧
        specification.sourceCode = some code) ∨
      ∃ schemeHostPort path res, getFunctionCode specification = .get schemeHostPort path ∧
        client schemeHostPort path = some res ∧ res.status = 200 ∧ res.body = code := by
  unfold FunctionSource.ofClient at h
  cases hfetch : getFunctionCode specification with
  | answer answer =>
    rw [hfetch] at h
    unfold getFunctionCode at hfetch
    split at hfetch
    · cases hfetch; cases h
    · next m hm =>
      split_ifs at hfetch with hempty hlocal hsize
      · cases hfetch; cases h
      · cases hsource : specification.sourceCode <;> rw [hsource] at hfetch <;> cases hfetch <;>
          cases h
        exact .inl ⟨by rw [hm, Option.map_some', hlocal], rfl⟩
      · cases hfetch; cases h
  | get schemeHostPort path =>
    rw [hfetch] at h
    cases hres : client schemeHostPort path with
    | none => simp [CodeFetch.result, hres] at h
    | some res =>
      simp only [CodeFetch.result, hres, translateResponse_eq_ok_iff] at h
      exact .inr ⟨schemeHostPort, path, res, rfl, hres, h⟩

theorem ofClient_eq_ok_fetched :
    FunctionSource.ofClient (fun _ _ => some ⟨200, "inputs => 42.0"⟩)
        ⟨"http://localhost:8080/source1.js", none⟩ = .ok "inputs => 42.0" ∧
      (((regexMatchUrl "http://localhost:8080/source1.js").map (·.scheme) = some "local" ∧
          (none : Option String) = some "inputs => 42.0") ∨
        ∃ schemeHostPort path res,
          getFunctionCode ⟨"http://localhost:8080/source1.js", none⟩ = .get schemeHostPort path ∧
          (fun _ _ => some (⟨200, "inputs => 42.0"⟩ : HttpResponse)) schemeHostPort path = some res ∧
          res.status = 200 ∧ res.body = "inputs => 42.0") :=
  ⟨rfl, @ofClient_eq_ok (fun _ _ => some ⟨200, "inputs => 42.0"⟩) ⟨"http://localhost:8080/source1.js", none⟩
    "inputs => 42.0" rfl⟩

end Aviary
