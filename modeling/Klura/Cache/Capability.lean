import Klura.Contracts.CanonicalBytes

/-! The cache of what capabilities returned: its keys, its entries, and the calls it answers. -/

namespace Klura

open StrictJson

/-- The order in which a locale ranks texts: one that any two texts have. -/
structure LocaleCompare where
  /-- Whether a text ranks no later than another. -/
  notAfter : Units → Units → Bool
  total : ∀ left right, (notAfter left right || notAfter right left) = true
  trans : ∀ first second third, notAfter first second = true → notAfter second third = true →
    notAfter first third = true

/-- Whether a code unit is a hexadecimal digit in lower case. -/
def isLowerHex (unit : UInt16) : Bool :=
  decide (48 ≤ unit.toNat ∧ unit.toNat ≤ 57 ∨ 97 ≤ unit.toNat ∧ unit.toNat ≤ 102)

/-- The digest that arguments are told apart by, no two of which collide. -/
structure ArgsDigest where
  /-- The hexadecimal digits of the digest of some bytes. -/
  hex : Bytes → Units
  digits : ∀ bytes, ∀ unit ∈ hex bytes, isLowerHex unit = true
  injective : Function.Injective hex

/-- The member of every object that an object without one of its own inherits as a value. -/
def PROTO : Units := ascii "__proto__"

/-- What JSON.stringify writes for the prototype of objects, which has no prototype. -/
def prototypeSyntax : JsonSyntax := objectSyntax [(PROTO, .null)]

/-- The member of an object under a key, its own or the one it inherits; what else an object
inherits are functions, which are not written. -/
def listedMember (members : List (Units × JsonSyntax)) (key : Units) : Option (Units × JsonSyntax) :=
  match OrderedMap.get? members key with
  | some value => some (key, value)
  | none => if key = PROTO then some (key, prototypeSyntax) else none

/-- The members of an object that a property list names, in the order of the list. -/
def listedMembers (propertyList : List Units) (members : List (Units × JsonSyntax)) :
    List (Units × JsonSyntax) :=
  propertyList.filterMap (listedMember members)

mutual

/-- What JSON.stringify writes for a value with a property list, which goes for every object in
the value, however deep. -/
def listedSyntax (propertyList : List Units) : JsValue → JsonSyntax
  | .null => .null
  | .boolean value => .boolean value
  | .number (.finite negative magnitude) => .number (magnitude.numeral negative)
  | .number (.infinite _) => .null
  | .string text => .string (quoteString text)
  | .array items => arraySyntax (listedItems propertyList items)
  | .object entries => objectSyntax (listedMembers propertyList (listedEntries propertyList entries))

/-- What JSON.stringify writes for the values of an array. -/
def listedItems (propertyList : List Units) : List JsValue → List JsonSyntax
  | [] => []
  | item :: rest => listedSyntax propertyList item :: listedItems propertyList rest

/-- What JSON.stringify would write for each member of an object. -/
def listedEntries (propertyList : List Units) : List (Units × JsValue) → List (Units × JsonSyntax)
  | [] => []
  | (key, value) :: rest => (key, listedSyntax propertyList value) :: listedEntries propertyList rest

end

/-- The keys of the arguments in the order of the locale. -/
def sortedKeys (locale : LocaleCompare) (args : List (Units × JsValue)) : List Units :=
  (args.map Prod.fst).insertionSort fun left right => locale.notAfter left right = true

/-- The text of arguments that is hashed. -/
def argsText (locale : LocaleCompare) (args : List (Units × JsValue)) : Units :=
  (listedSyntax (sortedKeys locale args) (.object args)).text

/-- The part of a key that stands for the arguments. -/
def stableArgsHash (locale : LocaleCompare) (digest : ArgsDigest) :
    List (Units × JsValue) → Units
  | [] => ascii "noargs"
  | entry :: rest => digest.hex (encodeUtf8 (argsText locale (entry :: rest)))

/-- A call of a capability with arguments of JSON; no arguments are none. -/
structure CapabilityCallV1 where
  platform : Units
  identity : Option Units
  capability : Units
  args : List (Units × JsValue)
  isJson : (JsValue.object args).IsJson

/-- The name of an identity, which is the default one where none is given. -/
def identityName : Option Units → Units
  | none | some [] => ascii "default"
  | some (unit :: rest) => unit :: rest

/-- The mark between the parts of a key. -/
def SEPARATOR : Units := ascii "::"

/-- The parts of a key that come before the arguments. -/
def CapabilityCallV1.names (call : CapabilityCallV1) : Units :=
  call.platform ++ SEPARATOR ++ identityName call.identity ++ SEPARATOR ++ call.capability

/-- The key of a call. -/
def cacheKey (locale : LocaleCompare) (digest : ArgsDigest) (call : CapabilityCallV1) : Units :=
  call.names ++ SEPARATOR ++ stableArgsHash locale digest call.args

/-- A stored result. -/
structure CachedExecuteResultV1 where
  body : JsValue
  status : Nat
  ts : Int
  ttlMs : Int

/-- Whether a member of a body is set to something. -/
def isSet (fields : List (Units × JsValue)) (key : String) : Bool :=
  match OrderedMap.get? fields (ascii key) with
  | none | some .null => false
  | some _ => true

/-- Whether a member of a body is a boolean. -/
def isBoolean (fields : List (Units × JsValue)) (key : String) (value : Bool) : Bool :=
  match OrderedMap.get? fields (ascii key) with
  | some (.boolean found) => found == value
  | _ => false

/-- Whether a result may be stored: it is accepted, and nothing is left to act on. -/
def isCacheable (status : Nat) (body : JsValue) : Bool :=
  decide (200 ≤ status ∧ status < 300) &&
    match body with
    | .object fields => !isBoolean fields "ok" false && !isSet fields "error" &&
        !isBoolean fields "needs_generation" true && !isSet fields "blocker" &&
        !isBoolean fields "healable" true
    | _ => true

/-- The stored results by their keys. -/
abbrev CapabilityCacheV1 : Type := OrderedMap Units CachedExecuteResultV1

variable (locale : LocaleCompare) (digest : ArgsDigest)

namespace CapabilityCacheV1

/-- Whether an entry has not expired at a time. -/
def isFresh (now : Int) (entry : CachedExecuteResultV1) : Bool :=
  decide (now - entry.ts < entry.ttlMs)

/-- Looks a call up; an expired entry is dropped. -/
def lookup (cache : CapabilityCacheV1) (now : Int) (call : CapabilityCallV1) :
    Option CachedExecuteResultV1 × CapabilityCacheV1 :=
  let key := cacheKey locale digest call
  match OrderedMap.get? cache key with
  | none => (none, cache)
  | some entry =>
    if isFresh now entry then (some entry, cache) else (none, OrderedMap.delete cache key)

/-- Stores a result where it may be stored. -/
def store (cache : CapabilityCacheV1) (now : Int) (call : CapabilityCallV1) (status : Nat)
    (body : JsValue) (ttlMs : Int) : CapabilityCacheV1 :=
  if isCacheable status body = true ∧ 0 < ttlMs then
    OrderedMap.set cache (cacheKey locale digest call) { body, status, ts := now, ttlMs }
  else cache

/-- Drops the results of a capability for an identity, whatever the arguments. -/
def evictForCapability (cache : CapabilityCacheV1) (platform : Units) (identity : Option Units)
    (capability : Units) : CapabilityCacheV1 :=
  let front := platform ++ SEPARATOR ++ identityName identity ++ SEPARATOR ++ capability ++ SEPARATOR
  cache.filter fun entry => !front.isPrefixOf entry.1

/-- Drops the expired results. -/
def sweep (cache : CapabilityCacheV1) (now : Int) : CapabilityCacheV1 :=
  cache.filter fun entry => isFresh now entry.2

end CapabilityCacheV1

/-- What a call is answered with. -/
structure CachedAnswerV1 where
  status : Nat
  body : JsValue

/-- A time span as a value. -/
def spanValue (span : Int) : JsValue :=
  .number (Double.nearest (decide (span < 0)) span.natAbs)

/-- A stored body, told to come from the cache where it is an object. -/
def hitBody (body : JsValue) (age : Int) : JsValue :=
  match body with
  | .object fields => .object (OrderedMap.set
      (OrderedMap.set fields (ascii "_cache_hit") (.boolean true)) (ascii "_cache_age_ms")
      (spanValue age))
  | other => other

/-- The answer of the cache to a call, when it has one; otherwise the call is executed. -/
def getCachedOrExecute (cache : CapabilityCacheV1) (now : Int) (call : CapabilityCallV1)
    (ttlMs : Int) : Option CachedAnswerV1 × CapabilityCacheV1 :=
  if 0 < ttlMs then
    let found := CapabilityCacheV1.lookup locale digest cache now call
    (found.1.map fun hit => { status := hit.status, body := hitBody hit.body (now - hit.ts) },
      found.2)
  else (none, cache)

/-- What happens to the cache. -/
inductive CacheEventV1 where
  /-- A call is looked up, and executed when the cache has no answer. -/
  | asks (call : CapabilityCallV1) (ttlMs : Int)
  /-- A result is stored: that of an execution which has ended, or another. -/
  | stores (call : CapabilityCallV1) (status : Nat) (body : JsValue) (ttlMs : Int)
  | evicts (platform : Units) (identity : Option Units) (capability : Units)
  | sweeps
  | clears

/-- What happens to the cache, and when. -/
structure CacheStepV1 where
  now : Int
  event : CacheEventV1

/-- The cache after a step. -/
def CacheStepV1.apply (cache : CapabilityCacheV1) (step : CacheStepV1) : CapabilityCacheV1 :=
  match step.event with
  | .asks call ttlMs => (getCachedOrExecute locale digest cache step.now call ttlMs).2
  | .stores call status body ttlMs => cache.store locale digest step.now call status body ttlMs
  | .evicts platform identity capability => cache.evictForCapability platform identity capability
  | .sweeps => cache.sweep step.now
  | .clears => []

/-- The cache after the steps of a history, which it begins without an entry. -/
def cacheAfter (history : List CacheStepV1) : CapabilityCacheV1 :=
  history.foldl (CacheStepV1.apply locale digest) []

end Klura
