import Klura.Library.StableSort
import Klura.Library.UriComponents

/-! The keys that visits of pages are folded under in the graph of a platform's URLs. -/

namespace Klura

namespace UrlGraph

/-- A code unit in lower case, as it is for ASCII. -/
def lowerUnit (unit : UInt16) : UInt16 :=
  if 65 ≤ unit.toNat ∧ unit.toNat ≤ 90 then unit + 32 else unit

/-- What the URL class reads a text as. -/
structure Url where
  protocol : Units
  host : Units
  pathname : Units
  searchParams : List (Units × Units)
  /-- A protocol is a name in lower case with a colon behind it. -/
  scheme : ∃ name, protocol = name ++ [58] ∧
    ∀ unit ∈ name, unit.toNat < 0x80 ∧ unit ≠ 58 ∧ lowerUnit unit = unit
  hostUnits : ∀ unit ∈ host, unit.toNat < 0x80 ∧ unit ∉ [35, 47, 63]
  pathUnits : ∀ unit ∈ pathname, unit ∉ [35, 63]
  /-- A path behind a host is empty or starts with a slash. -/
  rooted : host = [] ∨ pathname = [] ∨ pathname.head? = some 47
  whole : ∀ pair ∈ searchParams, WellPaired pair.1 ∧ WellPaired pair.2

/-- Whether a URL is one without a host whose path is a text that does not start with a slash. -/
def Url.Opaque (url : Url) : Prop :=
  url.host = [] ∧ url.pathname ≠ [] ∧ url.pathname.head? ≠ some 47

/-- Whether the URL class leaves the pairs of a query as they are: no unit of it is outside of
ASCII, or a control, a space, a quotation mark, a hash or an angle bracket. -/
def IsQuery (query : Units) : Prop :=
  ∀ unit ∈ query, 33 ≤ unit.toNat ∧ unit.toNat < 0x7F ∧ unit ∉ [34, 35, 60, 62]

/-- The path without a slash at its end, which the root keeps. -/
def stripTrailingSlash (pathname : Units) : Units :=
  if pathname.length > 1 ∧ pathname.getLast? = some 47 then pathname.dropLast else pathname

/-- The functions of the language. -/
structure World where
  parse : Units → Option Url
  toLowerCase : Units → Units
  localeCompare : Units → Units → Int
  lower : ∀ text : Units, (∀ unit ∈ text, unit.toNat < 0x80) → toLowerCase text = text.map lowerUnit
  total : ∀ left right, localeCompare left right ≤ 0 ∨ localeCompare right left ≤ 0
  trans : ∀ left middle right, localeCompare left middle ≤ 0 → localeCompare middle right ≤ 0 →
    localeCompare left right ≤ 0
  /-- What a URL's protocol, two slashes, some text and a query are read as keeps the protocol and
  the pairs of the query. -/
  reads : ∀ {text : Units} {url again : Url} {rest query : Units}, parse text = some url →
    (∀ unit ∈ rest, unit ∉ [35, 63]) → IsQuery query →
      parse (url.protocol ++ [47, 47] ++ rest ++ searchText query) = some again →
        again.protocol = url.protocol ∧ again.searchParams = formPairs query
  /-- A URL with its host in lower case, and with its path, or its path without the last slash, is
  read back with this host and this path. -/
  rereads : ∀ {text : Units} {url : Url} {pathname query : Units}, parse text = some url →
    ¬ url.Opaque →
      (pathname = url.pathname ∨ pathname ≠ [] ∧ url.pathname = pathname ++ [47]) →
        IsQuery query →
          ∃ again, parse (url.protocol ++ [47, 47] ++ (url.host.map lowerUnit ++ pathname) ++
              searchText query) = some again ∧
            again.host = url.host.map lowerUnit ∧ again.pathname = pathname

/-- The names of parameters that almost always carry a session. -/
def SESSION_ISH_PARAM_NAMES : List Units :=
  ["token", "sid", "sess", "session", "auth", "csrf", "nonce", "state", "t", "ts",
    "timestamp"].map ascii

/-- Whether a code unit is a hexadecimal digit, in upper or lower case. -/
def isHex (unit : UInt16) : Bool :=
  let code := unit.toNat
  decide (48 ≤ code ∧ code ≤ 57 ∨ 65 ≤ code ∧ code ≤ 70 ∨ 97 ≤ code ∧ code ≤ 102)

/-- Whether a code unit is a letter, a digit, an underscore or a hyphen. -/
def isTokenUnit (unit : UInt16) : Bool :=
  let code := unit.toNat
  decide (48 ≤ code ∧ code ≤ 57 ∨ 65 ≤ code ∧ code ≤ 90 ∨ 97 ≤ code ∧ code ≤ 122 ∨ code = 95 ∨
    code = 45)

/-- Shapes of values that look like ids which a server produced. -/
def SESSION_ISH_VALUE_PATTERNS : List (Units → Bool) := [
  -- A UUID.
  fun value => decide ((value.splitOn 45).map List.length = [8, 4, 4, 4, 12]) &&
    value.all fun unit => isHex unit || unit == 45,
  -- A long hexadecimal id.
  fun value => decide (12 ≤ value.length) && value.all isHex,
  -- A URL-safe token.
  fun value => decide (24 ≤ value.length) && value.all isTokenUnit,
  -- A JWT.
  fun value =>
    match value.splitOn 46 with
    | [header, claims, signature] => (ascii "ey").isPrefixOf header && decide (2 < header.length) &&
        [header, claims, signature].all fun part => !part.isEmpty && part.all isTokenUnit
    | _ => false]

/-- Whether a parameter looks like part of a session. -/
def looksSessionIsh (world : World) (name value : Units) : Bool :=
  SESSION_ISH_PARAM_NAMES.contains (world.toLowerCase name) ||
    SESSION_ISH_VALUE_PATTERNS.any fun pattern => pattern value

/-- The parameters that a key keeps. -/
def kept (world : World) (url : Url) : List (Units × Units) :=
  url.searchParams.filter fun pair => !looksSessionIsh world pair.1 pair.2

/-- The order that parameters are sorted in. -/
def World.before (world : World) (left right : Units × Units) : Prop :=
  world.localeCompare left.1 right.1 ≤ 0

instance (world : World) : DecidableRel world.before :=
  fun left right => inferInstanceAs (Decidable (world.localeCompare left.1 right.1 ≤ 0))

/-- The key of a URL. A text that is none is its own key. -/
def normalizeUrlForGraph (world : World) (url : Units) : Units :=
  match world.parse url with
  | none => url
  | some parsed =>
    let scheme := world.toLowerCase parsed.protocol
    let host := world.toLowerCase parsed.host
    let pathname := stripTrailingSlash parsed.pathname
    let kept := (kept world parsed).insertionSort world.before
    scheme ++ [47, 47] ++ (host ++ pathname) ++ searchText (joinPairs componentBytes kept)

end UrlGraph

end Klura
