import InterWeave.Rest.RestApi

/-! # The two client libraries

Both put the escaped identifier of a resource into the path of a request. The TypeScript client
hands the text of the URL to the platform and sends what that makes of it; the Python client
sends the text itself.
-/

namespace InterWeave

/-! ## TypeScript -/

namespace TypeScriptClient

/-- The options of a transport; `generatedKey` is what `idempotencyKey()` gives. -/
structure Transport where
  apiKey : JsString
  baseUrl : JsString
  generatedKey : JsString

structure RawRequestInput where
  method : Option HttpMethod
  path : JsString
  body : Option JsValue
  query : List (JsString × Option JsString)
  idempotencyKey : Option JsString

/-- The request that `raw` sends, where the platform accepts the URL. -/
def raw (api : UrlApi) (transport : Transport) (input : RawRequestInput) : Option Request := do
  let url ← api.parse (transport.baseUrl ++ input.path)
  let addressed := input.query.foldl (fun url entry =>
    entry.2.elim url fun value => api.set url entry.1 value) url
  return { method := (input.method.getD .get).text, url := api.href addressed,
           headers := [(js "accept", js "application/json"),
             (js "authorization", js "Bearer " ++ transport.apiKey)] ++
             (if input.body.isSome then [(js "content-type", js "application/json")] else []) ++
             if input.method = some .post then
               [(js "idempotency-key", input.idempotencyKey.getD transport.generatedKey)]
             else [],
           json := input.body }

/-- A read of a resource, at a path around its escaped identifier. -/
def read (before after : JsString) (query : List (JsString × Option JsString)) (id : JsString) :
    Option RawRequestInput :=
  (encodeURIComponent id).map fun escaped => ⟨none, before ++ escaped ++ after, none, query, none⟩

/-- A write of a resource. -/
def write (path : JsString) (body : JsValue) (idempotencyKey : Option JsString) :
    RawRequestInput :=
  ⟨some .post, path, some body, [], idempotencyKey⟩

end TypeScriptClient

/-! ## Python -/

namespace PythonClient

/-- `_Transport`; `generatedKey` is what `key_factory()` gives. -/
structure Transport where
  apiKey : List Char
  baseUrl : List Char
  generatedKey : List Char

/-- `quote_plus(string)`. -/
def quotePlus (string : List Char) : List Char :=
  if string.contains ' ' then (quote [32] string).map fun char => if char = ' ' then '+' else char
  else quote [] string

/-- `urlencode(query)`. -/
def urlencode (query : List (List Char × List Char)) : List Char :=
  Text.joined '&' (query.map fun entry => quotePlus entry.1 ++ '=' :: quotePlus entry.2)

/-- What follows the path: nothing for an empty query, whose values may all be missing. -/
def search (query : List (List Char × Option (List Char))) : List Char :=
  if query.isEmpty then []
  else '?' :: urlencode (query.filterMap fun entry => entry.2.map (entry.1, ·))

/-- The request that `request` sends. -/
def request (transport : Transport) (path : List Char) (method : HttpMethod) (body : Option JsValue)
    (query : List (List Char × Option (List Char))) (idempotencyKey : Option (List Char)) :
    Request where
  method := method.text
  url := (transport.baseUrl ++ path ++ search query).flatMap utf16
  headers := [(js "Accept", js "application/json"),
    (js "Authorization", js "Bearer " ++ transport.apiKey.flatMap utf16)] ++
    (if body.isSome then [(js "Content-Type", js "application/json")] else []) ++
    if method = .post then
      [(js "Idempotency-Key", ((idempotencyKey.filter fun key => !key.isEmpty).getD
        transport.generatedKey).flatMap utf16)]
    else []
  json := body

/-- A read of a resource, at a path around its escaped identifier. -/
def read (transport : Transport) (before after : List Char)
    (query : List (List Char × Option (List Char))) (id : List Char) : Request :=
  request transport (before ++ quote [] id ++ after) .get none query none

/-- A write of a resource. -/
def write (transport : Transport) (path : List Char) (body : JsValue)
    (idempotencyKey : Option (List Char)) : Request :=
  request transport path .post (some body) [] idempotencyKey

end PythonClient

/-! ## The methods that both offer -/

/-- The methods that read a resource by its identifier. -/
inductive ReadMethod where
  | assetsGet
  | assetsBalance
  | transfersGet
  | bridgeGet
  | settlementGet
  | attestationsGet
  | transactionsGet
  deriving DecidableEq, Repr

def ReadMethod.operation : ReadMethod → RestOperation
  | .assetsGet => .assetsGet
  | .assetsBalance => .assetsBalance
  | .transfersGet => .transfersGet
  | .bridgeGet => .bridgeGet
  | .settlementGet => .settlementsGet
  | .attestationsGet => .attestationsGet
  | .transactionsGet => .transactionsGet

/-- The reads of the TypeScript client. Only balances have options. -/
def TypeScriptClient.readBy (options : List (JsString × Option JsString)) :
    ReadMethod → JsString → Option RawRequestInput
  | .assetsGet => read (js "/v1/assets/") [] []
  | .assetsBalance => read (js "/v1/assets/") (js "/balances") options
  | .transfersGet => read (js "/v1/transfers/") [] []
  | .bridgeGet => read (js "/v1/bridge/transfers/") [] []
  | .settlementGet => read (js "/v1/settlements/") [] []
  | .attestationsGet => read (js "/v1/attestations/") [] []
  | .transactionsGet => read (js "/v1/transactions/") [] []

/-- The reads of the Python client. Only balances have filters. -/
def PythonClient.readBy (transport : Transport) (filters : List (List Char × Option (List Char))) :
    ReadMethod → List Char → Request
  | .assetsGet => read transport "/v1/assets/".toList [] []
  | .assetsBalance => read transport "/v1/assets/".toList "/balances".toList filters
  | .transfersGet => read transport "/v1/transfers/".toList [] []
  | .bridgeGet => read transport "/v1/bridge/transfers/".toList [] []
  | .settlementGet => read transport "/v1/settlements/".toList [] []
  | .attestationsGet => read transport "/v1/attestations/".toList [] []
  | .transactionsGet => read transport "/v1/transactions/".toList [] []

/-- The methods that write a resource. -/
inductive WriteMethod where
  | assetsCreate
  | transfersCreate
  | bridgeMove
  | settlementCreate
  | attestationsRequest
  deriving DecidableEq, Repr

def WriteMethod.operation : WriteMethod → RestOperation
  | .assetsCreate => .assetsCreate
  | .transfersCreate => .transfersCreate
  | .bridgeMove => .bridgeCreate
  | .settlementCreate => .settlementsCreate
  | .attestationsRequest => .attestationsCreate

def TypeScriptClient.writeBy : WriteMethod → JsValue → Option JsString → RawRequestInput
  | .assetsCreate => write (js "/v1/assets")
  | .transfersCreate => write (js "/v1/transfers")
  | .bridgeMove => write (js "/v1/bridge/transfers")
  | .settlementCreate => write (js "/v1/settlements")
  | .attestationsRequest => write (js "/v1/attestations")

def PythonClient.writeBy (transport : Transport) :
    WriteMethod → JsValue → Option (List Char) → Request
  | .assetsCreate => write transport "/v1/assets".toList
  | .transfersCreate => write transport "/v1/transfers".toList
  | .bridgeMove => write transport "/v1/bridge/transfers".toList
  | .settlementCreate => write transport "/v1/settlements".toList
  | .attestationsRequest => write transport "/v1/attestations".toList

end InterWeave
