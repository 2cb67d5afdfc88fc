import Klura.Execution.Placeholders

/-! The request that a strategy without optional parameters makes of the arguments of a call. -/

namespace Klura

open StrictJson

/-- The ways a body is written. -/
inductive ContentType where
  | json
  | form
  deriving DecidableEq

/-- A fetch strategy without prerequisites, parameters and notes. -/
structure FetchStrategy where
  method : Units
  baseUrl : Units
  endpoint : Units
  contentType : ContentType
  headers : List (Units × Units)
  body : Option (List (Units × JsValue))

/-- The request as it goes on the wire. -/
structure PreparedRequest where
  method : Units
  url : Units
  isForm : Bool
  bodyObj : Option (List (Units × JsValue))
  serializedBody : Option Units

/-- Whether a string starts with a scheme and its colon. -/
def startsWithScheme (text : Units) : Bool :=
  match text with
  | first :: rest =>
    isWordUnit first && first != 95 && !decide (48 ≤ first.toNat ∧ first.toNat ≤ 57) &&
      (rest.dropWhile fun unit =>
        (isWordUnit unit && unit != 95) || unit == 43 || unit == 46 || unit == 45).head? == some 58
  | [] => false

/-- The scheme and the host that a URL starts with. -/
def schemeAndHost (text : Units) : Option Units :=
  if startsWithScheme text then
    let scheme := text.takeWhile (· != 58)
    let behind := text.drop (scheme.length + 3)
    let host := behind.takeWhile (· != 47)
    if ascii "://" <+: text.drop scheme.length ∧ host ≠ []
    then some (scheme ++ ascii "://" ++ host) else none
  else none

/-- A string without the slashes at its end. -/
def trimTrailingSlashes (value : Units) : Units := (value.reverse.dropWhile (· == 47)).reverse

/-- A base URL and a path combined, also where the URL constructor throws. -/
def joinBaseAndPath (world : ResolveWorld) (base path : Units) : Units :=
  if base = [] then path
  else if path = [] then base
  else
    match world.newUrl base path with
    | some url => url
    | none =>
      if startsWithScheme path then path
      else if [47] <+: path then
        match schemeAndHost base with
        | some scheme => scheme ++ path
        | none => trimTrailingSlashes base ++ path
      else trimTrailingSlashes base ++ 47 :: path

/-- The URL of a request. -/
def resolveEndpoint (world : ResolveWorld) (baseUrl template : Units) (args : CallArgs) :
    Except ResolveError Units := do
  let resolved ← resolveUrlTemplate world template args (ascii "request URL")
  let resolvedBase ← resolveUrlTemplate world baseUrl args (ascii "request base URL")
  let url := joinBaseAndPath world resolvedBase resolved
  assertNoUnresolvedPlaceholders world url (ascii "request URL")
  .ok url

/-- Whether the headers say that the body is a form. -/
def strategyHeadersDeclareForm (world : ResolveWorld) (headers : List (Units × Units)) : Bool :=
  headers.any fun header =>
    world.toLowerCase header.1 == ascii "content-type" &&
      includes (world.toLowerCase header.2) (ascii "application/x-www-form-urlencoded")

mutual

/-- A copy of a value with its secrets. -/
def cloneResolvedValue (world : ResolveWorld) : JsValue → Except ResolveError JsValue
  | .string text => return .string (← resolveSecrets world text)
  | .array items => return .array (← cloneItems world items)
  | .object entries => return .object (← cloneEntries world entries)
  | value => .ok value

/-- A copy of an array's values. -/
def cloneItems (world : ResolveWorld) : List JsValue → Except ResolveError (List JsValue)
  | [] => .ok []
  | item :: rest => do
    let first ← cloneResolvedValue world item
    let others ← cloneItems world rest
    .ok (first :: others)

/-- A copy of an object's members. -/
def cloneEntries (world : ResolveWorld) :
    List (Units × JsValue) → Except ResolveError (List (Units × JsValue))
  | [] => .ok []
  | (key, value) :: rest => do
    let first ← cloneResolvedValue world value
    let others ← cloneEntries world rest
    .ok ((key, first) :: others)

end

mutual

/-- A value copied member by member into plain objects, where one key sets the prototype. -/
def pruneOmittedOptionalValues : JsValue → JsValue
  | .array items => .array (pruneItems items)
  | .object entries => .object (pruneEntries entries)
  | value => value

/-- An array's values copied so. -/
def pruneItems : List JsValue → List JsValue
  | [] => []
  | item :: rest => pruneOmittedOptionalValues item :: pruneItems rest

/-- An object's members copied so. -/
def pruneEntries : List (Units × JsValue) → List (Units × JsValue)
  | [] => []
  | (key, value) :: rest =>
    if key = ascii "__proto__" then pruneEntries rest
    else (key, pruneOmittedOptionalValues value) :: pruneEntries rest

end

/-- A string of a body with its values: the value itself where it is one placeholder. -/
def resolveString (world : ResolveWorld) (args : CallArgs) (value : Units) :
    Except ResolveError JsValue :=
  let exact := (exactPlaceholder value).bind (lookupPlaceholderPath args)
  match exact with
  | some (.string []) | none => do
    let text ← interpolateVars world value args .raw
    return .string (← resolveSecrets world text)
  | some resolved => cloneResolvedValue world resolved

mutual

/-- A part of a body with its values. -/
def resolveValue (world : ResolveWorld) (args : CallArgs) : JsValue → Except ResolveError JsValue
  | .string text => resolveString world args text
  | .array items => return .array (← resolveItems world args items)
  | .object entries => return .object (← resolveEntries world args entries)
  | value => .ok value

/-- An array's values with theirs. -/
def resolveItems (world : ResolveWorld) (args : CallArgs) :
    List JsValue → Except ResolveError (List JsValue)
  | [] => .ok []
  | item :: rest => do
    let first ← resolveValue world args item
    let others ← resolveItems world args rest
    .ok (first :: others)

/-- An object's members with theirs. -/
def resolveEntries (world : ResolveWorld) (args : CallArgs) :
    List (Units × JsValue) → Except ResolveError (List (Units × JsValue))
  | [] => .ok []
  | (key, value) :: rest => do
    let first ← resolveValue world args value
    let others ← resolveEntries world args rest
    .ok ((key, first) :: others)

end

/-- A body with its values. -/
def resolveBody (world : ResolveWorld) (template : List (Units × JsValue)) (args : CallArgs) :
    Except ResolveError (List (Units × JsValue)) := do
  let resolved ← resolveEntries world args (pruneEntries template)
  assertNoUnresolvedPlaceholders world (jsonStringify (.object resolved)) (ascii "request body")
  .ok resolved

/-- The headers with their values. -/
def resolveHeaders (world : ResolveWorld) (template : List (Units × Units)) (args : CallArgs) :
    Except ResolveError (List (Units × Units)) :=
  template.mapM fun header => do
    let text ← interpolateVars world header.2 args .raw
    let resolved ← resolveSecrets world text
    assertNoUnresolvedPlaceholders world resolved
      (ascii "request header " ++ StrictJson.stringText header.1)
    .ok (header.1, resolved)

/-- The request that a strategy makes of the arguments. -/
def prepareRequest (world : ResolveWorld) (strategy : FetchStrategy) (args : CallArgs) :
    Except ResolveError PreparedRequest := do
  let method := world.toUpperCase strategy.method
  -- An endpoint may have the method before its path.
  let endpointPath :=
    if 32 ∈ strategy.endpoint then (strategy.endpoint.dropWhile (· != 32)).drop 1
    else strategy.endpoint
  let url ← resolveEndpoint world strategy.baseUrl endpointPath args
  let bodyObj ← strategy.body.mapM fun body => resolveBody world body args
  let isForm := strategy.contentType = .form || strategyHeadersDeclareForm world strategy.headers
  let serializedBody :=
    if method = ascii "GET" then none
    else bodyObj.map fun body =>
      if isForm then world.urlSearchParams body else jsonStringify (.object body)
  .ok { method, url, isForm, bodyObj, serializedBody }

end Klura
