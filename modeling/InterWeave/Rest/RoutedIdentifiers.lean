import InterWeave.Rest.Clients

/-! # Identifiers reach the backend

Whatever an identifier consists of, the request that either client sends for it is routed to the
operation of the method called, with the identifier in `path.id`. Of the platform's URL parser
it is relied on that it leaves such paths as they are, whose segments are not dots.
-/

namespace InterWeave

/-! ## What is relied on of the URL parser -/

/-- Letters, digits, the marks that a URL may contain anywhere, and the percent sign. -/
def isSegmentUnit (unit : UInt16) : Bool := isUriUnescaped unit.toNat || unit == 37

/-- A segment with its escaped dots as dots. -/
def plainDots : JsString → JsString
  | 37 :: 50 :: 69 :: rest => 46 :: plainDots rest
  | 37 :: 50 :: 101 :: rest => 46 :: plainDots rest
  | unit :: rest => unit :: plainDots rest
  | [] => []

/-- The segments that the parser takes out of a path. -/
def isDotSegment (segment : JsString) : Bool :=
  plainDots segment == js "." || plainDots segment == js ".."

/-- A segment that the parser leaves as it is. -/
structure IsSegment (segment : JsString) : Prop where
  units : ∀ unit ∈ segment, isSegmentUnit unit = true
  noDots : isDotSegment segment = false

/-- What may follow the path in a request: nothing, or a question mark and a query. -/
def IsSearch (search : JsString) : Prop :=
  search = [] ∨ ∃ query, search = 63 :: query ∧
    ∀ unit ∈ query, isSegmentUnit unit = true ∨ unit = 38 ∨ unit = 43 ∨ unit = 61

/-- The URLs that the code makes for a path: parsed, and with parameters set. -/
inductive UrlApi.Made (api : UrlApi) (origin path : JsString) : api.Url → Prop where
  | parsed {search : JsString} {url : api.Url} : IsSearch search →
      api.parse (origin ++ path ++ search) = some url → Made api origin path url
  | set {url : api.Url} (name value : JsString) : Made api origin path url →
      Made api origin path (api.set url name value)

/-- What is relied on of the platform, for the URLs of an origin: a path of ordinary segments is
accepted and kept, also while parameters are set and where the URL is written and parsed again. -/
structure UrlApi.KeepsPaths (api : UrlApi) (origin : JsString) : Prop where
  accepts : ∀ segments search, (∀ segment ∈ segments, IsSegment segment) → segments ≠ [] →
    IsSearch search → (api.parse (origin ++ pathOf segments ++ search)).isSome = true
  pathname : ∀ segments url, (∀ segment ∈ segments, IsSegment segment) → segments ≠ [] →
    api.Made origin (pathOf segments) url → api.pathname url = pathOf segments
  written : ∀ segments url, (∀ segment ∈ segments, IsSegment segment) → segments ≠ [] →
    api.Made origin (pathOf segments) url →
    ∃ again, api.parse (api.href url) = some again ∧ api.pathname again = pathOf segments

/-! ## Identifiers -/

/-- An identifier `IW:<KIND>:<suffix>`. -/
structure ResourceId where
  kind : List Char
  suffix : List Char
  nonempty : suffix ≠ []

def ResourceId.text (id : ResourceId) : List Char := "IW:".toList ++ id.kind ++ ':' :: id.suffix

theorem isSegmentUnit_upperHexDigit {value : Nat} (small : value < 16) :
    isSegmentUnit (upperHexDigit value) = true := by
  have all : ∀ value : Fin 16, isSegmentUnit (upperHexDigit value) = true := by decide
  exact all ⟨value, small⟩

theorem isSegmentUnit_escapeByte (byte : UInt8) :
    ∀ unit ∈ escapeByte byte, isSegmentUnit unit = true := by
  have bound : byte.toNat < 256 := byte.toNat_lt
  simp only [escapeByte, List.mem_cons, List.not_mem_nil, or_false, forall_eq_or_imp, forall_eq]
  exact ⟨rfl, isSegmentUnit_upperHexDigit (by omega), isSegmentUnit_upperHexDigit (by omega)⟩

theorem isSegmentUnit_escapeScalar (scalar : Nat) :
    ∀ unit ∈ escapeScalar scalar, isSegmentUnit unit = true := by
  intro unit member
  obtain ⟨byte, _, written⟩ := List.mem_flatMap.mp member
  exact isSegmentUnit_escapeByte byte unit written

/-- Encoders that leave only such characters alone write only such units. -/
theorem isSegmentUnit_percentEncode {safe : Nat → Bool} (alone : StandsAlone safe)
    (unescaped : ∀ code, safe code = true → isUriUnescaped code = true) (text : List Char) :
    ∀ unit ∈ percentEncode safe text, isSegmentUnit unit = true := by
  intro unit member
  obtain ⟨char, _, written⟩ := List.mem_flatMap.mp member
  cases holds : safe char.toNat with
  | false =>
      rw [percentEncodeChar, holds, if_neg Bool.false_ne_true] at written
      exact isSegmentUnit_escapeScalar _ unit written
  | true =>
      have small := (alone _ holds).1
      rw [percentEncodeChar, holds, if_pos rfl, utf16_of_small small, List.mem_singleton] at written
      subst written
      rw [isSegmentUnit, JsString.toNat_unit (by omega), unescaped _ holds]
      rfl

/-- An escaped identifier starts with a letter. -/
theorem percentEncode_starts {safe : Nat → Bool} (plain : safe 73 = true) (id : ResourceId) :
    ∃ rest, percentEncode safe id.text = 73 :: rest := by
  have first : percentEncodeChar safe 'I' = [73] := by
    rw [percentEncodeChar]
    exact if_pos plain
  refine ⟨percentEncode safe ("W:".toList ++ id.kind ++ ':' :: id.suffix), ?_⟩
  rw [percentEncode, percentEncode, ← List.singleton_append, ← first, ← List.flatMap_cons]
  rfl

/-- So it is a segment, and not one of dots. -/
theorem isSegment_percentEncode {safe : Nat → Bool} (alone : StandsAlone safe)
    (unescaped : ∀ code, safe code = true → isUriUnescaped code = true) (plain : safe 73 = true)
    (id : ResourceId) : IsSegment (percentEncode safe id.text) := by
  refine ⟨isSegmentUnit_percentEncode alone unescaped _, ?_⟩
  obtain ⟨rest, starts⟩ := percentEncode_starts plain id
  rw [starts]
  rfl

theorem percentEncode_ne_nil {safe : Nat → Bool} (plain : safe 73 = true) (id : ResourceId) :
    percentEncode safe id.text ≠ [] := by
  obtain ⟨rest, starts⟩ := percentEncode_starts plain id
  exact starts ▸ List.cons_ne_nil 73 rest

theorem isUriUnescaped_of_alwaysSafe (code : Nat) (safe : isAlwaysSafe code = true) :
    isUriUnescaped code = true := by
  simp only [isAlwaysSafe, isUriUnescaped, Bool.or_eq_true] at safe ⊢
  tauto

theorem slash_not_mem {segment : JsString} (ordinary : IsSegment segment) :
    (47 : UInt16) ∉ segment := fun member => nomatch ordinary.units 47 member

/-! ## Paths -/

/-- The segments before the identifier in the path of a read. -/
def ReadMethod.before : ReadMethod → List JsString
  | .assetsGet => [js "v1", js "assets"]
  | .assetsBalance => [js "v1", js "assets"]
  | .transfersGet => [js "v1", js "transfers"]
  | .bridgeGet => [js "v1", js "bridge", js "transfers"]
  | .settlementGet => [js "v1", js "settlements"]
  | .attestationsGet => [js "v1", js "attestations"]
  | .transactionsGet => [js "v1", js "transactions"]

/-- The segments behind it. -/
def ReadMethod.after : ReadMethod → List JsString
  | .assetsBalance => [js "balances"]
  | _ => []

/-- The segments of the path of a write. -/
def WriteMethod.segments : WriteMethod → List JsString
  | .assetsCreate => [js "v1", js "assets"]
  | .transfersCreate => [js "v1", js "transfers"]
  | .bridgeMove => [js "v1", js "bridge", js "transfers"]
  | .settlementCreate => [js "v1", js "settlements"]
  | .attestationsRequest => [js "v1", js "attestations"]

def ReadMethod.segments (method : ReadMethod) (escaped : JsString) : List JsString :=
  method.before ++ escaped :: method.after

instance (segment : JsString) : Decidable (IsSegment segment) :=
  decidable_of_iff ((segment.all isSegmentUnit && !isDotSegment segment) = true) <| by
    rw [Bool.and_eq_true, List.all_eq_true, Bool.not_eq_true']
    exact ⟨fun ⟨units, noDots⟩ => ⟨units, noDots⟩, fun ⟨units, noDots⟩ => ⟨units, noDots⟩⟩

theorem ReadMethod.isSegment_of_mem (method : ReadMethod) {escaped : JsString}
    (ordinary : IsSegment escaped) :
    ∀ segment ∈ method.segments escaped, IsSegment segment := by
  have before : ∀ segment ∈ method.before, IsSegment segment := by
    cases method <;> decide +kernel
  have after : ∀ segment ∈ method.after, IsSegment segment := by
    cases method <;> decide +kernel
  exact List.forall_mem_append.mpr ⟨before, List.forall_mem_cons.mpr ⟨ordinary, after⟩⟩

theorem WriteMethod.isSegment_of_mem (method : WriteMethod) :
    ∀ segment ∈ method.segments, IsSegment segment := by
  cases method <;> decide +kernel

theorem WriteMethod.segments_ne_nil (method : WriteMethod) : method.segments ≠ [] := by
  cases method <;> exact List.cons_ne_nil _ _

/-! ## Routes -/

/-- The route of a read. -/
def ReadMethod.route (method : ReadMethod) : Route where
  method := .get
  pattern := method.before.map .literal ++ .captured :: method.after.map .literal
  names := [js "id"]
  operation := method.operation
  write := false

/-- The route of a write. -/
def WriteMethod.route (method : WriteMethod) : Route where
  method := .post
  pattern := method.segments.map .literal
  names := []
  operation := method.operation
  write := true

theorem ReadMethod.findRoute_eq (method : ReadMethod) {escaped : JsString}
    (ordinary : IsSegment escaped) (nonempty : escaped ≠ []) :
    findRoute (js "GET") (pathOf (method.segments escaped)) = some (method.route, [escaped]) := by
  have member : method.route ∈ routes := by cases method <;> decide +kernel
  have named : (method.route.method.text == js "GET") = true := beq_self_eq_true (js "GET")
  refine findRoute_of_accepts member ?_
  rw [Route.accepts, if_pos named, exec_pathOf _ fun segment member =>
    slash_not_mem (method.isSegment_of_mem ordinary segment member)]
  have here : PathSegment.captured.matching escaped = some [escaped] :=
    if_neg fun empty => nonempty (List.isEmpty_iff.mp empty)
  have rest := matchSegments_literals method.after [] []
  rw [List.append_nil, List.append_nil] at rest
  rw [route, segments, matchSegments_literals, matchSegments, here, rest]
  rfl

theorem WriteMethod.findRoute_eq (method : WriteMethod) :
    findRoute (js "POST") (pathOf method.segments) = some (method.route, []) := by
  have member : method.route ∈ routes := by cases method <;> decide +kernel
  have named : (method.route.method.text == js "POST") = true := beq_self_eq_true (js "POST")
  refine findRoute_of_accepts member ?_
  rw [Route.accepts, if_pos named, exec_pathOf _ fun segment member =>
    slash_not_mem (method.isSegment_of_mem segment member)]
  have all := matchSegments_literals method.segments [] []
  rw [List.append_nil, List.append_nil] at all
  exact all

/-- A read is routed to its operation, with what its segment decodes to. -/
theorem ReadMethod.commandOf_eq (method : ReadMethod) {api : UrlApi} {url : api.Url}
    {request : Request} {escaped text : JsString} (ordinary : IsSegment escaped)
    (nonempty : escaped ≠ []) (decoded : decodeURIComponent escaped = some text)
    (named : request.method = js "GET") (parsed : api.parse request.url = some url)
    (path : api.pathname url = pathOf (method.segments escaped)) (requestId : JsString) :
    ∃ command, commandOf api requestId request = .ok command ∧
      command.operation = method.operation ∧ command.path = [(js "id", text)] := by
  have upper : upperCase (js "GET") = js "GET" := by decide
  have found := method.findRoute_eq ordinary nonempty
  refine ⟨⟨method.operation, [(js "id", text)], fromEntries (api.entries url), none, none,
    requestId⟩, ?_, rfl, rfl⟩
  have values : ([js "id"].zipIdx.mapM fun name : JsString × Nat =>
      (decodeURIComponent ([escaped].getD name.2 [])).map (name.1, ·)) =
        some [(js "id", text)] := by
    simp only [List.zipIdx_cons, List.zipIdx_nil, List.mapM_cons, List.mapM_nil, List.getD_cons_zero,
      decoded]
    rfl
  simp only [commandOf, parsed, Option.elim_some, bind, Except.bind, path, named, upper, found,
    ReadMethod.route, values, Bool.false_eq_true, ↓reduceIte]
  rfl

/-! ## Requests -/

theorem pathOf_append (first second : List JsString) :
    pathOf (first ++ second) = pathOf first ++ pathOf second := List.flatMap_append

/-- The path of a read, as the clients put it together. -/
theorem ReadMethod.path_eq (method : ReadMethod) (escaped : JsString) :
    pathOf method.before ++ [47] ++ escaped ++ pathOf method.after =
      pathOf (method.segments escaped) := by
  rw [segments, pathOf_append]
  change _ = _ ++ (47 :: escaped ++ pathOf method.after)
  simp

theorem TypeScriptClient.readBy_eq (options : List (JsString × Option JsString))
    (method : ReadMethod) (id : JsString) : ∃ query, readBy options method id =
      (encodeURIComponent id).map fun escaped =>
        ⟨none, pathOf (method.segments escaped), none, query, none⟩ := by
  have texts : ∃ query, readBy options method =
      read (pathOf method.before ++ [47]) (pathOf method.after) query := by
    cases method <;> exact ⟨_, rfl⟩
  obtain ⟨query, texts⟩ := texts
  refine ⟨query, ?_⟩
  simp only [texts, read, method.path_eq]

/-- The request of the TypeScript client arrives with its path. -/
theorem TypeScriptClient.raw_eq {api : UrlApi} {transport : Transport}
    (keeps : api.KeepsPaths transport.baseUrl) (input : RawRequestInput) {segments : List JsString}
    (ordinary : ∀ segment ∈ segments, IsSegment segment) (nonempty : segments ≠ [])
    (path : input.path = pathOf segments) :
    ∃ request url, raw api transport input = some request ∧
      request.method = (input.method.getD .get).text ∧ api.parse request.url = some url ∧
      api.pathname url = pathOf segments := by
  have accepted := keeps.accepts segments [] ordinary nonempty (.inl rfl)
  obtain ⟨url, parsed⟩ := Option.isSome_iff_exists.mp accepted
  have made : ∀ (query : List (JsString × Option JsString)) (url : api.Url),
      api.Made transport.baseUrl (pathOf segments) url →
      api.Made transport.baseUrl (pathOf segments) (query.foldl (fun url entry =>
        entry.2.elim url fun value => api.set url entry.1 value) url) := by
    intro query
    induction query with
    | nil => exact fun _ made => made
    | cons entry query ih =>
        intro url made
        refine ih _ ?_
        obtain ⟨name, _ | value⟩ := entry
        · exact made
        · exact .set name value made
  obtain ⟨again, reparsed, same⟩ := keeps.written segments _ ordinary nonempty
    (made input.query url (.parsed (.inl rfl) parsed))
  rw [List.append_nil, ← path] at parsed
  have sent : ∃ request, raw api transport input = some request ∧
      request.method = (input.method.getD .get).text ∧ request.url = api.href
        (input.query.foldl (fun url entry =>
          entry.2.elim url fun value => api.set url entry.1 value) url) := by
    rw [raw, parsed]
    exact ⟨_, rfl, rfl, rfl⟩
  obtain ⟨request, sent, named, address⟩ := sent
  exact ⟨request, again, sent, named, address ▸ reparsed, same⟩

/-- What `quote` writes: ordinary characters and those it is told to leave alone. -/
theorem quote_chars {safe : List Nat} (small : ∀ code ∈ safe, code < 0x80) (string : List Char) :
    ∀ char ∈ quote safe string, char.toNat < 0x80 ∧
      (isSegmentUnit char.toNat.toUInt16 = true ∨ char.toNat ∈ safe) := by
  have back : ∀ {code : Nat}, code < 0x80 → (Char.ofNat code).toNat = code := by
    intro code bound
    rw [Char.ofNat, dif_pos (.inl (by omega))]
    rfl
  intro char member
  obtain ⟨byte, _, written⟩ := List.mem_flatMap.mp member
  split at written
  · rename_i alone
    rw [Bool.or_eq_true, List.contains_iff_mem] at alone
    obtain rfl := List.mem_singleton.mp written
    rcases alone with always | told
    · have bound := (standsAlone_isAlwaysSafe _ always).1
      rw [back bound, isSegmentUnit, JsString.toNat_unit (by omega),
        isUriUnescaped_of_alwaysSafe _ always]
      exact ⟨bound, .inl rfl⟩
    · have bound := small _ told
      rw [back bound]
      exact ⟨bound, .inr told⟩
  · obtain ⟨unit, escape, rfl⟩ := List.mem_map.mp written
    have bound := escapeByte_small byte unit escape
    have same : unit.toNat.toUInt16 = unit := UInt16.ofNat_toNat
    rw [back bound, same]
    exact ⟨bound, .inl (isSegmentUnit_escapeByte byte unit escape)⟩

/-- What a query consists of. -/
def IsQueryChar (char : Char) : Prop :=
  char.toNat < 0x80 ∧ (isSegmentUnit char.toNat.toUInt16 = true ∨ char.toNat.toUInt16 = 38 ∨
    char.toNat.toUInt16 = 43 ∨ char.toNat.toUInt16 = 61)

theorem PythonClient.quotePlus_chars (string : List Char) :
    ∀ char ∈ quotePlus string, IsQueryChar char := by
  intro char member
  rw [quotePlus] at member
  split at member
  · obtain ⟨written, quoted, rfl⟩ := List.mem_map.mp member
    have chars := quote_chars (by decide) string written quoted
    split
    · exact ⟨by decide, .inr (.inr (.inl rfl))⟩
    · rename_i different
      refine ⟨chars.1, chars.2.imp_right fun space => ?_⟩
      have same : written.toNat = ' '.toNat := List.mem_singleton.mp space
      exact absurd (Char.toNat_inj.mp same) different
  · have chars := quote_chars (fun _ none => (List.not_mem_nil none).elim) string char member
    exact ⟨chars.1, chars.2.imp_right fun none => (List.not_mem_nil none).elim⟩

theorem PythonClient.urlencode_chars (query : List (List Char × List Char)) :
    ∀ char ∈ urlencode query, IsQueryChar char := by
  have entries : ∀ text ∈ query.map fun entry => quotePlus entry.1 ++ '=' :: quotePlus entry.2,
      ∀ char ∈ text, IsQueryChar char := by
    intro text member
    obtain ⟨entry, _, rfl⟩ := List.mem_map.mp member
    refine List.forall_mem_append.mpr ⟨quotePlus_chars _, List.forall_mem_cons.mpr ⟨?_,
      quotePlus_chars _⟩⟩
    exact ⟨by decide, .inr (.inr (.inr rfl))⟩
  rw [urlencode]
  generalize (query.map fun entry => quotePlus entry.1 ++ '=' :: quotePlus entry.2) = texts at entries
  cases texts with
  | nil => exact fun char member => (List.not_mem_nil member).elim
  | cons first rest =>
      obtain ⟨here, later⟩ := List.forall_mem_cons.mp entries
      refine List.forall_mem_append.mpr ⟨here, fun char member => ?_⟩
      obtain ⟨text, present, member⟩ := List.mem_flatMap.mp member
      have separator : IsQueryChar '&' := ⟨by decide, .inr (.inl rfl)⟩
      exact List.forall_mem_cons.mpr ⟨separator, later text present⟩ char member

/-- What the Python client puts behind a path may follow a path. -/
theorem PythonClient.isSearch_search (query : List (List Char × Option (List Char))) :
    IsSearch ((search query).flatMap utf16) := by
  rw [search]
  split
  · exact .inl rfl
  · refine .inr ⟨_, rfl, fun unit member => ?_⟩
    obtain ⟨char, present, written⟩ := List.mem_flatMap.mp member
    obtain ⟨small, holds⟩ := urlencode_chars _ char present
    rw [utf16_of_small small, List.mem_singleton] at written
    exact written ▸ holds

theorem PythonClient.readBy_eq (transport : Transport)
    (filters : List (List Char × Option (List Char))) (method : ReadMethod) (id : List Char) :
    ∃ search, IsSearch search ∧ (readBy transport filters method id).method = js "GET" ∧
      (readBy transport filters method id).url = transport.baseUrl.flatMap utf16 ++
        pathOf (method.segments ((quote [] id).flatMap utf16)) ++ search := by
  have texts : ∃ before after query, readBy transport filters method =
      read transport before after query ∧ before.flatMap utf16 = pathOf method.before ++ [47] ∧
        after.flatMap utf16 = pathOf method.after := by
    cases method <;> exact ⟨_, _, _, rfl, rfl, rfl⟩
  obtain ⟨before, after, query, texts, start, finish⟩ := texts
  refine ⟨(search query).flatMap utf16, isSearch_search query, ?_, ?_⟩
  · rw [texts]
    rfl
  · rw [texts, read, request, List.flatMap_append, List.flatMap_append, List.flatMap_append,
      List.flatMap_append, start, finish, method.path_eq]

/-! ## Both clients -/

/-- The backend is given the operation and the identifier of a request. -/
def Commands (api : UrlApi) (requestId : JsString) (request : Request) (operation : RestOperation)
    (id : JsString) : Prop :=
  ∃ command, commandOf api requestId request = .ok command ∧ command.operation = operation ∧
    command.path = [(js "id", id)]

/-- The route of a request is one of an operation, and captures nothing. -/
def RoutedTo (api : UrlApi) (request : Request) (operation : RestOperation) : Prop :=
  ∃ url route, api.parse request.url = some url ∧
    findRoute (upperCase request.method) (api.pathname url) = some (route, []) ∧
    route.operation = operation

section Clients

variable {api : UrlApi}

theorem TypeScriptClient.commands_of_read {transport : Transport}
    (keeps : api.KeepsPaths transport.baseUrl) (options : List (JsString × Option JsString))
    (method : ReadMethod) (id : ResourceId) (requestId : JsString) :
    ∃ request, (readBy options method (id.text.flatMap utf16)).bind (raw api transport) =
      some request ∧ Commands api requestId request method.operation (id.text.flatMap utf16) := by
  have ordinary := isSegment_percentEncode standsAlone_isUriUnescaped (fun _ safe => safe) rfl id
  obtain ⟨query, read⟩ := readBy_eq options method (id.text.flatMap utf16)
  rw [encodeURIComponent_flatMap_utf16, Option.map_some] at read
  obtain ⟨request, url, sent, named, parsed, path⟩ := raw_eq keeps
    ⟨none, pathOf (method.segments (percentEncode isUriUnescaped id.text)), none, query, none⟩
    (method.isSegment_of_mem ordinary) (by simp [ReadMethod.segments]) rfl
  refine ⟨request, ?_, ?_⟩
  · rw [read, Option.bind_some, sent]
  · exact method.commandOf_eq ordinary (percentEncode_ne_nil rfl id)
      (decodeURIComponent_percentEncode standsAlone_isUriUnescaped id.text) named parsed path
      requestId

theorem PythonClient.commands_of_read {transport : Transport}
    (keeps : api.KeepsPaths (transport.baseUrl.flatMap utf16))
    (filters : List (List Char × Option (List Char))) (method : ReadMethod) (id : ResourceId)
    (requestId : JsString) :
    Commands api requestId (readBy transport filters method id.text) method.operation
      (id.text.flatMap utf16) := by
  have ordinary := isSegment_percentEncode standsAlone_isAlwaysSafe isUriUnescaped_of_alwaysSafe rfl
    id
  have segments := method.isSegment_of_mem ordinary
  have nonempty : method.segments (percentEncode isAlwaysSafe id.text) ≠ [] := by
    simp [ReadMethod.segments]
  obtain ⟨rest, searches, named, address⟩ := readBy_eq transport filters method id.text
  rw [flatMap_utf16_quote] at address
  obtain ⟨url, parsed⟩ := Option.isSome_iff_exists.mp (keeps.accepts _ rest segments nonempty searches)
  have path := keeps.pathname _ url segments nonempty (.parsed searches parsed)
  rw [← address] at parsed
  exact method.commandOf_eq ordinary (percentEncode_ne_nil rfl id)
    (decodeURIComponent_percentEncode standsAlone_isAlwaysSafe id.text) named parsed path requestId

theorem TypeScriptClient.routed_of_write {transport : Transport}
    (keeps : api.KeepsPaths transport.baseUrl) (method : WriteMethod) (body : JsValue)
    (key : Option JsString) :
    ∃ request, raw api transport (writeBy method body key) = some request ∧
      RoutedTo api request method.operation := by
  have texts : writeBy method body key = write (pathOf method.segments) body key := by
    cases method <;> rfl
  have nonempty := method.segments_ne_nil
  have upper : upperCase (js "POST") = js "POST" := by decide
  obtain ⟨request, url, sent, named, parsed, path⟩ := raw_eq keeps (writeBy method body key)
    method.isSegment_of_mem nonempty (congrArg RawRequestInput.path texts)
  have posts : request.method = js "POST" := by
    rw [named, texts]
    rfl
  refine ⟨request, sent, url, method.route, parsed, ?_, rfl⟩
  rw [posts, upper, path, method.findRoute_eq]

theorem PythonClient.routed_of_write {transport : Transport}
    (keeps : api.KeepsPaths (transport.baseUrl.flatMap utf16)) (method : WriteMethod)
    (body : JsValue) (key : Option (List Char)) :
    RoutedTo api (writeBy transport method body key) method.operation := by
  have texts : ∃ path, writeBy transport method body key = write transport path body key ∧
      path.flatMap utf16 = pathOf method.segments := by
    cases method <;> exact ⟨_, rfl, rfl⟩
  have nonempty := method.segments_ne_nil
  have upper : upperCase (js "POST") = js "POST" := by decide
  obtain ⟨path, texts, same⟩ := texts
  have address : (writeBy transport method body key).url =
      transport.baseUrl.flatMap utf16 ++ pathOf method.segments ++ [] := by
    rw [texts, write, request, search, if_pos rfl, List.flatMap_append, List.flatMap_append, same]
    rfl
  have posts : (writeBy transport method body key).method = js "POST" := by
    rw [texts]
    rfl
  obtain ⟨url, parsed⟩ := Option.isSome_iff_exists.mp
    (keeps.accepts _ [] method.isSegment_of_mem nonempty (.inl rfl))
  have path := keeps.pathname _ url method.isSegment_of_mem nonempty (.parsed (.inl rfl) parsed)
  rw [← address] at parsed
  refine ⟨url, method.route, parsed, ?_, rfl⟩
  rw [posts, upper, path, method.findRoute_eq]

end Clients

/-- **Every identifier reaches its operation.** Either client's request for a resource is given to
the backend as the operation of the method that was called, with the identifier it was called with;
requests to write are routed to theirs; and no request has two routes. -/
theorem identifiers_routed (api : UrlApi) (typeScript : TypeScriptClient.Transport)
    (python : PythonClient.Transport) (requestId : JsString)
    (keeps : api.KeepsPaths typeScript.baseUrl)
    (keepsAlso : api.KeepsPaths (python.baseUrl.flatMap utf16)) :
    (∀ (id : ResourceId) (method : ReadMethod) (options : List (JsString × Option JsString))
      (filters : List (List Char × Option (List Char))),
      (∃ request,
        (TypeScriptClient.readBy options method (id.text.flatMap utf16)).bind
          (TypeScriptClient.raw api typeScript) = some request ∧
        Commands api requestId request method.operation (id.text.flatMap utf16)) ∧
      Commands api requestId (PythonClient.readBy python filters method id.text) method.operation
        (id.text.flatMap utf16)) ∧
    (∀ (method : WriteMethod) (body : JsValue) (key : Option JsString)
      (pythonKey : Option (List Char)),
      (∃ request, TypeScriptClient.raw api typeScript (TypeScriptClient.writeBy method body key) =
        some request ∧ RoutedTo api request method.operation) ∧
      RoutedTo api (PythonClient.writeBy python method body pythonKey) method.operation) ∧
    routes.Pairwise fun first second => ∀ method pathname captured more,
      first.accepts method pathname = some captured →
      second.accepts method pathname ≠ some more :=
  ⟨fun id method options filters =>
      ⟨TypeScriptClient.commands_of_read keeps options method id requestId,
        PythonClient.commands_of_read keepsAlso filters method id requestId⟩,
    fun method body key pythonKey =>
      ⟨TypeScriptClient.routed_of_write keeps method body key,
        PythonClient.routed_of_write keepsAlso method body pythonKey⟩,
    routes_apart⟩

/-! ## A parser that keeps paths -/

namespace DefaultOrigin

def origin : JsString := js "https://api.interweave.dev"

/-- URLs as their texts: what is behind the origin, up to a question mark, is the path. -/
def texts : UrlApi where
  Url := JsString
  parse text := some text
  href text := text
  pathname text := (text.drop origin.length).takeWhile (· != 63)
  entries _ := []
  set text name value :=
    text ++ (if (63 : UInt16) ∈ text then [38] else [63]) ++ name ++ [61] ++ value

/-- A path, and what starts with a question mark behind it. -/
def Addresses (path text : JsString) : Prop :=
  ∃ search, text = origin ++ path ++ search ∧ (search = [] ∨ ∃ query, search = 63 :: query)

theorem addresses_of_made {path : JsString} {url : texts.Url}
    (made : texts.Made origin path url) (plain : (63 : UInt16) ∉ path) : Addresses path url := by
  induction made with
  | @parsed search url searches parsed =>
      cases Option.some.inj parsed
      refine ⟨search, rfl, searches.imp_right fun ⟨query, same, _⟩ => ⟨query, same⟩⟩
  | @set url name value _ ih =>
      obtain ⟨search, rfl, ends⟩ := ih
      rcases ends with rfl | ⟨query, rfl⟩
      · have none : (63 : UInt16) ∉ origin ++ path ++ [] := by
          rw [List.append_nil, List.mem_append, not_or]
          exact ⟨by decide, plain⟩
        refine ⟨63 :: (name ++ [61] ++ value), ?_, .inr ⟨_, rfl⟩⟩
        change _ ++ (if _ then _ else _) ++ name ++ [61] ++ value = _
        rw [if_neg none]
        simp
      · have some : (63 : UInt16) ∈ origin ++ path ++ 63 :: query :=
          List.mem_append_right _ List.mem_cons_self
        refine ⟨63 :: (query ++ [38] ++ name ++ [61] ++ value), ?_, .inr ⟨_, rfl⟩⟩
        change _ ++ (if _ then _ else _) ++ name ++ [61] ++ value = _
        rw [if_pos some]
        simp

theorem pathname_of_addresses {path text : JsString} (addresses : Addresses path text)
    (plain : (63 : UInt16) ∉ path) : texts.pathname text = path := by
  obtain ⟨search, rfl, ends⟩ := addresses
  have apart : ∀ unit ∈ path, (unit != 63) = true := by
    intro unit member
    rw [bne_iff_ne]
    rintro rfl
    exact plain member
  change (List.drop origin.length (origin ++ path ++ search)).takeWhile (· != 63) = path
  rw [List.append_assoc, List.drop_left, List.takeWhile_append_of_pos apart]
  rcases ends with rfl | ⟨query, rfl⟩
  · exact List.append_nil _
  · rw [List.takeWhile_cons_of_neg (by decide)]
    exact List.append_nil _

theorem question_not_mem {segments : List JsString}
    (ordinary : ∀ segment ∈ segments, IsSegment segment) : (63 : UInt16) ∉ pathOf segments := by
  intro member
  obtain ⟨segment, present, member⟩ := List.mem_flatMap.mp member
  rcases List.mem_cons.mp member with same | member
  · cases same
  · exact nomatch (ordinary segment present).units 63 member

theorem keepsPaths : texts.KeepsPaths origin where
  accepts _ _ _ _ _ := rfl
  pathname _ _ ordinary _ made :=
    pathname_of_addresses (addresses_of_made made (question_not_mem ordinary))
      (question_not_mem ordinary)
  written _ url ordinary _ made :=
    ⟨url, rfl, pathname_of_addresses (addresses_of_made made (question_not_mem ordinary))
      (question_not_mem ordinary)⟩

/-- An asset whose name is full of separators. -/
def asset : ResourceId := ⟨"ASSET".toList, "a/b?c#d%2F+ e..".toList, by decide⟩

def python : PythonClient.Transport :=
  ⟨"secret".toList, "https://api.interweave.dev".toList, "key".toList⟩

/-- Python's request for the asset. -/
theorem asset_routed : Commands texts (js "req_1") (PythonClient.readBy python [] .assetsGet
    asset.text) .assetsGet (asset.text.flatMap utf16) := by
  have routed := identifiers_routed texts ⟨js "secret", origin, js "key"⟩ python (js "req_1")
    keepsPaths keepsPaths
  exact (routed.1 asset .assetsGet [] []).2

end DefaultOrigin

end InterWeave
