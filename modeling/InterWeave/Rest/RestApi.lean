import InterWeave.Core.Idempotency
import InterWeave.Rest.PercentEncoding

/-! # The REST router

A table of methods and path patterns gives the operation of a request. The segments that a
pattern captures are unescaped; requests that write must carry a key and a JSON object. What
the platform makes of the text of a URL is a parameter.
-/

namespace InterWeave

inductive HttpMethod where
  | get
  | post
  deriving DecidableEq, Repr

def HttpMethod.text : HttpMethod → JsString
  | .get => js "GET"
  | .post => js "POST"

/-- What the code uses of the platform's `URL`: `new URL(text)`, `href`, `pathname`, the entries of
`searchParams` and `searchParams.set`. -/
structure UrlApi where
  Url : Type
  parse : JsString → Option Url
  href : Url → JsString
  pathname : Url → JsString
  entries : Url → List (JsString × JsString)
  set : Url → JsString → JsString → Url

inductive RestOperation where
  | networksList
  | assetsCreate
  | assetsGet
  | assetsBalance
  | identitiesCreate
  | identitiesBind
  | transfersCreate
  | transfersGet
  | bridgeCreate
  | bridgeGet
  | settlementsCreate
  | settlementsGet
  | attestationsCreate
  | attestationsGet
  | transactionsGet
  | webhooksCreate
  | emergencyList
  | emergencyCreate
  | emergencyLift
  deriving DecidableEq, Repr

structure RestApiCommand where
  operation : RestOperation
  path : List (JsString × JsString)
  query : List (JsString × JsString)
  body : Option (List (JsString × JsValue))
  idempotencyKey : Option JsString
  requestId : JsString

/-! ## Routes -/

/-- One segment of a pattern, behind its slash: a literal or `([^/]+)`. -/
inductive PathSegment where
  | literal (text : JsString)
  | captured
  deriving DecidableEq

/-- What one segment of a pattern makes of a segment of a path. -/
def PathSegment.matching : PathSegment → JsString → Option (List JsString)
  | .literal text, segment => if text == segment then some [] else none
  | .captured, segment => if segment.isEmpty then none else some [segment]

/-- `pattern.exec(pathname)`, with what it captures. A segment is read to the next slash: what
follows in a pattern starts with a slash or is its end. -/
def exec : List PathSegment → JsString → Option (List JsString)
  | [], [] => some []
  | [], _ :: _ => none
  | _ :: _, [] => none
  | segment :: pattern, unit :: path =>
      if unit == 47 then do
        let captured ← segment.matching (path.takeWhile (· != 47))
        (captured ++ ·) <$> exec pattern (path.dropWhile (· != 47))
      else none

structure Route where
  method : HttpMethod
  pattern : List PathSegment
  names : List JsString
  operation : RestOperation
  write : Bool
  deriving DecidableEq

def routes : List Route :=
  [⟨.get, [.literal (js "v1"), .literal (js "networks")], [], .networksList, false⟩,
    ⟨.post, [.literal (js "v1"), .literal (js "assets")], [], .assetsCreate, true⟩,
    ⟨.get, [.literal (js "v1"), .literal (js "assets"), .captured], [js "id"], .assetsGet, false⟩,
    ⟨.get, [.literal (js "v1"), .literal (js "assets"), .captured, .literal (js "balances")],
      [js "id"], .assetsBalance, false⟩,
    ⟨.post, [.literal (js "v1"), .literal (js "identities")], [], .identitiesCreate, true⟩,
    ⟨.post, [.literal (js "v1"), .literal (js "identities"), .captured, .literal (js "bindings")],
      [js "id"], .identitiesBind, true⟩,
    ⟨.post, [.literal (js "v1"), .literal (js "transfers")], [], .transfersCreate, true⟩,
    ⟨.get, [.literal (js "v1"), .literal (js "transfers"), .captured], [js "id"], .transfersGet,
      false⟩,
    ⟨.post, [.literal (js "v1"), .literal (js "bridge"), .literal (js "transfers")], [],
      .bridgeCreate, true⟩,
    ⟨.get, [.literal (js "v1"), .literal (js "bridge"), .literal (js "transfers"), .captured],
      [js "id"], .bridgeGet, false⟩,
    ⟨.post, [.literal (js "v1"), .literal (js "settlements")], [], .settlementsCreate, true⟩,
    ⟨.get, [.literal (js "v1"), .literal (js "settlements"), .captured], [js "id"],
      .settlementsGet, false⟩,
    ⟨.post, [.literal (js "v1"), .literal (js "attestations")], [], .attestationsCreate, true⟩,
    ⟨.get, [.literal (js "v1"), .literal (js "attestations"), .captured], [js "id"],
      .attestationsGet, false⟩,
    ⟨.get, [.literal (js "v1"), .literal (js "transactions"), .captured], [js "id"],
      .transactionsGet, false⟩,
    ⟨.post, [.literal (js "v1"), .literal (js "webhooks")], [], .webhooksCreate, true⟩,
    ⟨.get, [.literal (js "v1"), .literal (js "emergency-controls")], [], .emergencyList, false⟩,
    ⟨.post, [.literal (js "v1"), .literal (js "emergency-controls")], [], .emergencyCreate, true⟩,
    ⟨.post, [.literal (js "v1"), .literal (js "emergency-controls"), .captured,
      .literal (js "lift")], [js "id"], .emergencyLift, true⟩]

/-- What a route captures of a request, if it is one of the route. -/
def Route.accepts (route : Route) (method pathname : JsString) : Option (List JsString) :=
  if route.method.text == method then exec route.pattern pathname else none

/-- The first route of a request. -/
def findRoute (method pathname : JsString) : Option (Route × List JsString) :=
  routes.findSome? fun route => (route.accepts method pathname).map (route, ·)

/-! ## Requests and responses -/

/-- A request. `json` is what `request.json()` settles to, if it does not reject. -/
structure Request where
  method : JsString
  url : JsString
  headers : List (JsString × JsString)
  json : Option JsValue

/-- `headers.get(name)`, of a name in lower case: the values are joined. -/
def Request.header (request : Request) (name : JsString) : Option JsString :=
  match request.headers.filter fun header => header.1.toLowerCase == name with
  | [] => none
  | found => some (JsString.join (js ", ") (found.map (·.2)))

/-- `value.toUpperCase()` on the ASCII letters, of which methods consist. -/
def upperCase (value : JsString) : JsString :=
  value.map fun unit => if 97 ≤ unit && unit ≤ 122 then unit - 32 else unit

/-- `value.includes(part)`. -/
def includes (part : JsString) : JsString → Bool
  | [] => part.isEmpty
  | unit :: rest => part.isPrefixOf (unit :: rest) || includes part rest

/-- `Object.fromEntries(entries)`: the last entry of a name gives its value. -/
def fromEntries (entries : List (JsString × JsString)) : List (JsString × JsString) :=
  entries.foldl (fun record entry => record.filter (·.1 != entry.1) ++ [entry]) []

/-- A response: the status, the identifier of the request, and the data or the code and message of
an error. -/
structure Response where
  status : Nat
  requestId : JsString
  body : Except (JsString × JsString) JsValue

def errorResponse (status : Nat) (code message requestId : JsString) : Response :=
  ⟨status, requestId, .error (code, message)⟩

def internalError (requestId : JsString) : Response :=
  errorResponse 500 (js "INTERNAL_ERROR") (js "an unexpected error occurred") requestId

def RegistryErrorCode.text : RegistryErrorCode → JsString
  | .alreadyExists => js "ALREADY_EXISTS"
  | .notFound => js "NOT_FOUND"
  | .invalidArgument => js "INVALID_ARGUMENT"
  | .conflict => js "CONFLICT"

def RegistryErrorCode.status : RegistryErrorCode → Nat
  | .notFound => 404
  | .alreadyExists => 409
  | .conflict => 409
  | .invalidArgument => 400

/-- The key and the body that a request to write must carry. -/
def readWrite (requestId : JsString) (request : Request) :
    Except Response (JsString × List (JsString × JsValue)) :=
  let key := trim ((request.header (js "idempotency-key")).getD [])
  if key.isEmpty then
    .error (errorResponse 400 (js "IDEMPOTENCY_KEY_REQUIRED")
      (js "Idempotency-Key header is required for write requests") requestId)
  else if !((request.header (js "content-type")).any fun type =>
      includes (js "application/json") type.toLowerCase) then
    .error (errorResponse 415 (js "UNSUPPORTED_MEDIA_TYPE")
      (js "Content-Type must be application/json") requestId)
  else
    match request.json with
    | some (.object properties) => .ok (key, properties)
    | some _ =>
        .error (errorResponse 400 (js "INVALID_JSON_BODY") (js "JSON body must be an object")
          requestId)
    | none =>
        .error (errorResponse 400 (js "INVALID_JSON_BODY") (js "request body is not valid JSON")
          requestId)

/-- The part of `handle` before the backend is called. -/
def commandOf (api : UrlApi) (requestId : JsString) (request : Request) :
    Except Response RestApiCommand := do
  let url ← (api.parse request.url).elim (.error (internalError requestId)) .ok
  let (route, captured) ← (findRoute (upperCase request.method) (api.pathname url)).elim
    (.error (errorResponse 404 (js "NOT_FOUND") (js "route not found") requestId)) .ok
  let values ← (route.names.zipIdx.mapM fun name : JsString × Nat =>
    (decodeURIComponent (captured.getD name.2 [])).map (name.1, ·)).elim
      (.error (internalError requestId)) .ok
  let written ← if route.write then some <$> readWrite requestId request else .ok none
  return { operation := route.operation, path := fromEntries values,
           query := fromEntries (api.entries url), body := written.map (·.2),
           idempotencyKey := written.map (·.1), requestId := requestId }

def handle (api : UrlApi) (backend : RestApiCommand → Except Thrown JsValue)
    (requestId : JsString) (request : Request) : Response :=
  match commandOf api requestId request with
  | .error response => response
  | .ok command =>
      match backend command with
      | .ok result => ⟨if command.body.isSome then 201 else 200, requestId, .ok result⟩
      | .error (.registryError code message) =>
          errorResponse code.status code.text message requestId
      | .error _ => internalError requestId

/-! ## No request has two routes -/

/-- A path of segments. -/
abbrev pathOf (segments : List JsString) : JsString := Text.separated 47 segments

/-- What a pattern makes of the segments of a path. -/
def matchSegments : List PathSegment → List JsString → Option (List JsString)
  | [], [] => some []
  | segment :: pattern, text :: segments => do
      let captured ← segment.matching text
      (captured ++ ·) <$> matchSegments pattern segments
  | _, _ => none

/-- A segment ends before the next slash. -/
theorem span_segment {segment : JsString} (plain : (47 : UInt16) ∉ segment)
    (segments : List JsString) :
    (segment ++ pathOf segments).takeWhile (· != 47) = segment ∧
      (segment ++ pathOf segments).dropWhile (· != 47) = pathOf segments := by
  have apart : ∀ unit ∈ segment, (unit != 47) = true := by
    intro unit member
    rw [bne_iff_ne]
    rintro rfl
    exact plain member
  rw [List.takeWhile_append_of_pos apart, List.dropWhile_append_of_pos apart]
  cases segments with
  | nil => exact ⟨List.append_nil _, rfl⟩
  | cons next segments =>
      have ends : pathOf (next :: segments) = 47 :: (next ++ pathOf segments) := rfl
      rw [ends, List.takeWhile_cons_of_neg (by decide), List.dropWhile_cons_of_neg (by decide)]
      exact ⟨List.append_nil _, rfl⟩

/-- A pattern reads a path segment by segment. -/
theorem exec_pathOf (pattern : List PathSegment) {segments : List JsString}
    (plain : ∀ segment ∈ segments, (47 : UInt16) ∉ segment) :
    exec pattern (pathOf segments) = matchSegments pattern segments := by
  induction pattern generalizing segments with
  | nil => cases segments <;> rfl
  | cons segment pattern ih =>
      cases segments with
      | nil => rfl
      | cons text segments =>
          obtain ⟨first, others⟩ := List.forall_mem_cons.mp plain
          have starts : pathOf (text :: segments) = 47 :: (text ++ pathOf segments) := rfl
          obtain ⟨here, later⟩ := span_segment first segments
          rw [starts, exec, if_pos (by decide), here, later, ih others, matchSegments]

/-- Only paths of segments have a route. -/
theorem pathOf_of_exec {pattern : List PathSegment} {path : JsString} {captured : List JsString}
    (found : exec pattern path = some captured) :
    ∃ segments, path = pathOf segments ∧ ∀ segment ∈ segments, (47 : UInt16) ∉ segment := by
  induction pattern generalizing path captured with
  | nil =>
      cases path with
      | nil => exact ⟨[], rfl, fun _ member => (List.not_mem_nil member).elim⟩
      | cons unit path => cases found
  | cons segment pattern ih =>
      cases path with
      | nil => cases found
      | cons unit path =>
          rw [exec, Option.ite_none_right_eq_some, beq_iff_eq] at found
          obtain ⟨rfl, found⟩ := found
          obtain ⟨here, _, found⟩ := Option.bind_eq_some_iff.mp found
          obtain ⟨more, later, _⟩ := Option.map_eq_some_iff.mp found
          obtain ⟨segments, rest, plain⟩ := ih later
          refine ⟨path.takeWhile (· != 47) :: segments, ?_, List.forall_mem_cons.mpr ⟨?_, plain⟩⟩
          · change 47 :: path = 47 :: (path.takeWhile (· != 47) ++ pathOf segments)
            rw [← rest, List.takeWhile_append_dropWhile]
          · intro member
            have apart := List.all_eq_true.mp List.all_takeWhile 47 member
            simp at apart

/-- Two patterns that no path of segments fits: their numbers of segments differ, or two literals
at one place. -/
def clash : List PathSegment → List PathSegment → Bool
  | [], [] => false
  | .literal text :: pattern, .literal other :: more => text != other || clash pattern more
  | _ :: pattern, _ :: more => clash pattern more
  | _, _ => true

theorem matching_literal {text segment : JsString} {captured : List JsString}
    (found : (PathSegment.literal text).matching segment = some captured) : text = segment := by
  rw [PathSegment.matching, Option.ite_none_right_eq_some, beq_iff_eq] at found
  exact found.1

theorem not_matchSegments_of_clash {pattern other : List PathSegment} {segments : List JsString}
    {captured more : List JsString} (clashes : clash pattern other = true)
    (found : matchSegments pattern segments = some captured)
    (again : matchSegments other segments = some more) : False := by
  induction pattern generalizing other segments captured more with
  | nil =>
      cases segments with
      | nil => cases other <;> simp [clash, matchSegments] at clashes again
      | cons text segments => cases found
  | cons segment pattern ih =>
      cases segments with
      | nil => cases found
      | cons text segments =>
          cases other with
          | nil => cases again
          | cons second other =>
              obtain ⟨_, first, found⟩ := Option.bind_eq_some_iff.mp found
              obtain ⟨_, found, _⟩ := Option.map_eq_some_iff.mp found
              obtain ⟨_, here, again⟩ := Option.bind_eq_some_iff.mp again
              obtain ⟨_, again, _⟩ := Option.map_eq_some_iff.mp again
              have rest : clash pattern other = true := by
                cases segment with
                | captured => exact clashes
                | literal expected =>
                    cases second with
                    | captured => exact clashes
                    | literal also =>
                        have same := (matching_literal first).trans (matching_literal here).symm
                        simpa [clash, same] using clashes
              exact ih rest found again

/-- **No two routes for one request.** -/
theorem routes_apart : routes.Pairwise fun first second => ∀ method pathname captured more,
    first.accepts method pathname = some captured → second.accepts method pathname ≠ some more := by
  have clashes : routes.Pairwise fun first second =>
      first.method ≠ second.method ∨ clash first.pattern second.pattern = true := by
    decide +kernel
  refine clashes.imp fun {first second} apart method pathname captured more accepted again => ?_
  rw [Route.accepts, Option.ite_none_right_eq_some, beq_iff_eq] at accepted again
  rcases apart with different | clashes
  · have same := accepted.1.trans again.1.symm
    cases one : first.method <;> cases other : second.method <;>
      simp only [one, other, ne_eq, not_true_eq_false] at different <;>
      rw [one, other] at same <;> exact absurd same (by decide)
  · obtain ⟨segments, rfl, plain⟩ := pathOf_of_exec accepted.2
    rw [exec_pathOf _ plain] at accepted again
    exact not_matchSegments_of_clash clashes accepted.2 again.2

/-- A route that accepts a request is the route of the request. -/
theorem findRoute_of_accepts {route : Route} (member : route ∈ routes)
    {method pathname : JsString} {captured : List JsString}
    (accepts : route.accepts method pathname = some captured) :
    findRoute method pathname = some (route, captured) := by
  have apart := routes_apart
  rw [findRoute]
  generalize routes = table at member apart ⊢
  induction table with
  | nil => exact (List.not_mem_nil member).elim
  | cons first table ih =>
      obtain ⟨here, later⟩ := List.pairwise_cons.mp apart
      rw [List.findSome?_cons]
      rcases List.mem_cons.mp member with rfl | member
      · rw [accepts]
        rfl
      · cases found : first.accepts method pathname with
        | some more => exact (here route member method pathname more captured found accepts).elim
        | none => exact ih member later

/-- Literals are matched by themselves. -/
theorem matchSegments_literals (texts : List JsString) (pattern : List PathSegment)
    (segments : List JsString) :
    matchSegments (texts.map .literal ++ pattern) (texts ++ segments) =
      matchSegments pattern segments := by
  induction texts with
  | nil => rfl
  | cons text texts ih =>
      have same : (PathSegment.literal text).matching text = some [] :=
        if_pos (beq_self_eq_true text)
      rw [List.map_cons, List.cons_append, List.cons_append, matchSegments, same, ih]
      exact Option.map_id' ..

end InterWeave
