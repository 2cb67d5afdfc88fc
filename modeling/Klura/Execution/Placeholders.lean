import Klura.Contracts.JsonText
import Klura.Library.Templates

/-! How the placeholders of a strategy are resolved with the arguments of a call. -/

namespace Klura

open StrictJson

/-- The arguments of a call, as an object's own members in their order. -/
abbrev CallArgs : Type := List (Units × JsValue)

/-- The functions of the language and of the machine that the resolution of templates rests on. -/
structure ResolveWorld where
  toUpperCase : Units → Units
  toLowerCase : Units → Units
  /-- None where a string has half a pair. -/
  encodeURIComponent : Units → Option Units
  /-- The names in the order localeCompare puts them in. -/
  sortByLocale : List Units → List Units
  /-- The command of a scheme run with a reference, none where it fails. -/
  resolveSecret : Units → Units → Option Units
  /-- The text of `new URL(path, base)`, none where the constructor throws. -/
  newUrl : Units → Units → Option Units
  /-- The text of a body as a form. -/
  urlSearchParams : List (Units × JsValue) → Units

/-- Why a template is not resolved. -/
inductive ResolveError where
  | unresolvedPlaceholders (field : Units) (unresolved : List Units)
  | secretResolution (scheme : Units)
  | malformedUri

/-- Whether a code unit is a letter, a digit or an underscore. -/
def isWordUnit (unit : UInt16) : Bool :=
  let code := unit.toNat
  decide (48 ≤ code ∧ code ≤ 57) || decide (65 ≤ code ∧ code ≤ 90) || code == 95
    || decide (97 ≤ code ∧ code ≤ 122)

/-- Whether a code unit may stand in the path of a placeholder. -/
def isPathUnit (unit : UInt16) : Bool := isWordUnit unit || unit == 46

/-- The own property of a value, for a name without inherited meaning. -/
def ownProperty : JsValue → Units → Option JsValue
  | .object entries, name => OrderedMap.get? entries name
  | .array items, name => (arrayIndex name).bind fun index => items[index]?
  | _, _ => none

/-- The value a placeholder's path leads to, or none. -/
def lookupPlaceholderPath (args : CallArgs) (path : Units) : Option JsValue :=
  if 46 ∉ path then OrderedMap.get? args path
  else (path.splitOn 46).foldl (fun value part => value.bind fun value => ownProperty value part)
    (some (.object args))

/-- The names of the placeholders in a string. -/
def collectInlinePlaceholderRefs (value : Units) : List Units := tokenNames isPathUnit value

/-- A string with a text for each of its placeholders. -/
def replacePlaceholders (value : Units) (replacer : Units → Units) : Units :=
  (tokenPattern isPathUnit replacer).replaceAll value

/-- Whether a value does not fill in a template. -/
def isMissingTemplateValue : Option JsValue → Bool
  | none | some .null | some (.string []) => true
  | some _ => false

/-- The text a value has in a template. -/
def templateText : JsValue → Units
  | .string text => text
  | value => jsonStringify value

/-- How values are written into a template. -/
inductive TemplateEncoding where
  | raw
  | path
  | query
  deriving DecidableEq

/-- The encoded text of a value, none where the encoding throws. -/
def encodeValue (world : ResolveWorld) : TemplateEncoding → Units → Option Units
  | .raw, text => some text
  | .query, text => world.encodeURIComponent text
  | .path, text => ((text.splitOn 47).mapM world.encodeURIComponent).map fun segments =>
    [47].intercalate segments

/-- What the place of a placeholder holds: the value's text, or the placeholder where none is. -/
def placeholderText (world : ResolveWorld) (args : CallArgs) (encoding : TemplateEncoding)
    (path : Units) : Option Units :=
  match lookupPlaceholderPath args path with
  | none => some (token path)
  | some value =>
    if isMissingTemplateValue (some value) then some (token path)
    else encodeValue world encoding (templateText value)

/-- A template with the values of its placeholders. -/
def interpolateVars (world : ResolveWorld) (template : Units) (args : CallArgs)
    (encoding : TemplateEncoding) : Except ResolveError Units :=
  if (collectInlinePlaceholderRefs template).any fun path =>
      (placeholderText world args encoding path).isNone
  then .error .malformedUri
  else .ok (replacePlaceholders template fun path =>
    (placeholderText world args encoding path).getD [])

/-- The check that no placeholder is left in what is sent. -/
def assertNoUnresolvedPlaceholders (world : ResolveWorld) (value field : Units) :
    Except ResolveError Unit :=
  let unresolved := collectInlinePlaceholderRefs value
  if unresolved.isEmpty then .ok ()
  else .error (.unresolvedPlaceholders field (world.sortByLocale unresolved.dedup))

/-- The start of a reference to a secret. -/
def SECRET_MARKER : Units := ascii "\x7b\x7bsecret:"

/-- Whether a code unit may stand in the scheme of a secret. -/
def isSchemeUnit (unit : UInt16) : Bool := isWordUnit unit || unit == 45

/-- Whether a code unit may stand in the reference of a secret. -/
def isReferenceUnit (unit : UInt16) : Bool :=
  unit != 123 && unit != 125 && unit != 13 && unit != 10

/-- The scheme and the reference of the secret that a string starts with. -/
def secretReference (text : Units) : Option (Units × Units) :=
  if SECRET_MARKER <+: text then
    let behind := text.drop SECRET_MARKER.length
    let scheme := behind.takeWhile isSchemeUnit
    match behind.drop scheme.length with
    | 58 :: rest =>
      let ref := rest.takeWhile isReferenceUnit
      if scheme ≠ [] ∧ ref ≠ [] ∧ [125, 125] <+: rest.dropWhile isReferenceUnit
      then some (scheme, ref) else none
    | _ => none
  else none

/-- The references to secrets in a string. -/
def secretReferences (text : Units) : List (Units × Units) :=
  text.tails.filterMap secretReference

/-- The pattern of references to secrets, with what each is resolved to. -/
def secretPattern (world : ResolveWorld) : Pattern := fun text =>
  (secretReference text).map fun reference =>
    ((world.resolveSecret reference.1 reference.2).getD [],
      SECRET_MARKER.length + reference.1.length + reference.2.length + 3)

/-- A string with its secrets. -/
def resolveSecrets (world : ResolveWorld) (template : Units) : Except ResolveError Units :=
  match (secretReferences template).find? fun reference =>
      (world.resolveSecret reference.1 reference.2).isNone with
  | some reference => .error (.secretResolution reference.1)
  | none => .ok ((secretPattern world).replaceAll template)

/-- The name behind a colon that a string starts with, in the style of REST paths. -/
def colonName : Units → Option Units
  | 58 :: rest =>
    match rest.takeWhile isWordUnit with
    | [] => none
    | first :: others => if 48 ≤ first.toNat ∧ first.toNat ≤ 57 then none else some (first :: others)
  | _ => none

/-- The pattern of such a name behind a slash or an equals sign. -/
def colonPattern : Pattern
  | 47 :: rest => (colonName rest).map fun name => (47 :: token name, name.length + 2)
  | 61 :: rest => (colonName rest).map fun name => (61 :: token name, name.length + 2)
  | _ => none

/-- A URL template with its names behind colons written in double braces. -/
def normalizeUrlColonPlaceholders (value : Units) : Units :=
  match colonName value with
  | some name => token name ++ colonPattern.replaceAll (value.drop (name.length + 1))
  | none => colonPattern.replaceAll value

/-- The parts of a query string, each with the values of its placeholders. -/
def resolveQueryString (world : ResolveWorld) (queryPart : Units) (args : CallArgs) :
    Except ResolveError Units := do
  let leading : Units := if [63] <+: queryPart then [63] else []
  let raw := queryPart.drop leading.length
  if raw = [] then .ok queryPart
  else
    let kept ← ((raw.splitOn 38).filter (· ≠ [])).mapM fun segment =>
      if 61 ∉ segment then interpolateVars world segment args .query
      else do
        let key ← interpolateVars world (segment.takeWhile (· != 61)) args .query
        let value ← interpolateVars world ((segment.dropWhile (· != 61)).drop 1) args .query
        .ok (key ++ 61 :: value)
    if kept = [] then .ok []
    else .ok (leading ++ [38].intercalate kept)

/-- The placeholder that a template consists of. -/
def exactPlaceholder (template : Units) : Option Units :=
  match (collectInlinePlaceholderRefs template).dedup with
  | [ref] => if template = token ref then some ref else none
  | _ => none

/-- The value of the placeholder that a template consists of, where it is not missing. -/
def exactValue (template : Units) (args : CallArgs) : Option JsValue :=
  ((exactPlaceholder template).bind (lookupPlaceholderPath args)).filter fun value =>
    !isMissingTemplateValue (some value)

/-- A URL template with the values of its placeholders, written as their places need. -/
def renderUrlTemplate (world : ResolveWorld) (template : Units) (args : CallArgs) :
    Except ResolveError Units := do
  let normalizedTemplate := normalizeUrlColonPlaceholders template
  match exactValue normalizedTemplate args with
  | some value => resolveSecrets world (templateText value)
  | none =>
    let path ← interpolateVars world (normalizedTemplate.takeWhile (· != 63)) args .path
    let query ← resolveQueryString world (normalizedTemplate.dropWhile (· != 63)) args
    resolveSecrets world (path ++ query)

/-- A URL template that must have no placeholder left. -/
def resolveUrlTemplate (world : ResolveWorld) (template : Units) (args : CallArgs)
    (field : Units) : Except ResolveError Units := do
  let resolved ← renderUrlTemplate world template args
  assertNoUnresolvedPlaceholders world resolved field
  return resolved

end Klura
