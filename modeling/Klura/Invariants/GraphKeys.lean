import Klura.Store.UrlGraph

/-! When the keys of the URL graph are canonical: kept by normalizing again, and one for each page. -/

namespace Klura

namespace UrlGraph

/-- The path without all the slashes at its end. -/
def withoutSlashes (pathname : Units) : Units := (pathname.reverse.dropWhile (· == 47)).reverse

/-- The parameters that a key keeps of one name, in their order. -/
def keptUnder (world : World) (url : Url) (name : Units) : List (Units × Units) :=
  (kept world url).filter fun pair => pair.1 == name

/-- The parameters that a key keeps whose names are sorted like a name, in their order. -/
def keptLike (world : World) (url : Url) (name : Units) : List (Units × Units) :=
  (kept world url).filter (inClass world.before (name, []))

/-- Two URLs that differ only in what a key leaves out: the case of the host, slashes at the end of
the path, dropped parameters, and the order of those with distinct names. -/
structure Same (world : World) (left right : Url) : Prop where
  protocol : left.protocol = right.protocol
  host : left.host.map lowerUnit = right.host.map lowerUnit
  pathname : withoutSlashes left.pathname = withoutSlashes right.pathname
  params : ∀ name, keptUnder world left name = keptUnder world right name

/-- Two URLs that differ in host, in path or in a parameter that is kept. -/
def Apart (world : World) (left right : Url) : Prop :=
  left.host.map lowerUnit ≠ right.host.map lowerUnit ∨
    withoutSlashes left.pathname ≠ withoutSlashes right.pathname ∨
      ∃ name, keptUnder world left name ≠ keptUnder world right name

/-- Whether the key of a URL is read as it is: its path does not end in two slashes, and one without
a host whose path starts with no slash is read, with two slashes before it, as no URL or as one of
this host and path. -/
def Settles (world : World) (url : Url) : Prop :=
  (¬ url.Opaque → [47, 47] <:+ url.pathname → url.pathname = [47, 47]) ∧
    (url.Opaque → ∀ again, world.parse (url.protocol ++ [47, 47] ++
        stripTrailingSlash url.pathname ++ searchText (joinPairs componentBytes
          ((kept world url).insertionSort world.before))) = some again →
      again.host.map lowerUnit ++ stripTrailingSlash again.pathname =
        stripTrailingSlash url.pathname)

/-- Whether a path that no host precedes is the host and the path of another URL. -/
structure Poses (world : World) (left right : Url) : Prop where
  unhosted : left.Opaque
  hosted : right.host ≠ []
  protocol : left.protocol = right.protocol
  pathname : stripTrailingSlash left.pathname =
    right.host.map lowerUnit ++ stripTrailingSlash right.pathname
  params : ∀ name, keptLike world left name = keptLike world right name

/-- Whether two URLs are told apart where they differ and only there: when they differ only in what
a key leaves out, at most a single slash is at the end of their paths and no two names of theirs
that the locale takes for the same stand in another order, and neither poses as the other. -/
def Tells (world : World) (left right : Url) : Prop :=
  (Same world left right →
    stripTrailingSlash left.pathname = stripTrailingSlash right.pathname ∧
      ∀ name, keptLike world left name = keptLike world right name) ∧
  ¬ Poses world left right ∧ ¬ Poses world right left

section Paths

variable {pathname : Units}

theorem strip_cases (pathname : Units) : stripTrailingSlash pathname = pathname ∨
    stripTrailingSlash pathname ≠ [] ∧ pathname = stripTrailingSlash pathname ++ [47] := by
  unfold stripTrailingSlash
  by_cases ends : pathname.length > 1 ∧ pathname.getLast? = some 47
  · rw [if_pos ends]
    obtain ⟨front, rfl⟩ := List.getLast?_eq_some_iff.mp ends.2
    have some : front ≠ [] := by
      rintro rfl
      exact absurd ends.1 (by simp)
    exact .inr ⟨by simpa using some, by simp⟩
  · rw [if_neg ends]
    exact .inl rfl

theorem strip_append {front : Units} (some : front ≠ []) :
    stripTrailingSlash (front ++ [47]) = front := by
  have long : (front ++ [47]).length > 1 := by
    have := List.length_pos_iff.mpr some
    simp
    omega
  rw [stripTrailingSlash, if_pos ⟨long, by simp⟩, List.dropLast_concat]

/-- Stripping again changes nothing just where a path does not end in two slashes. -/
theorem strip_strip (pathname : Units) :
    stripTrailingSlash (stripTrailingSlash pathname) = stripTrailingSlash pathname ↔
      ([47, 47] <:+ pathname → pathname = [47, 47]) := by
  rcases strip_cases pathname with plain | ⟨some, same⟩
  · rw [plain, plain]
    refine ⟨fun _ twice => ?_, fun _ => rfl⟩
    obtain ⟨front, rfl⟩ := twice
    have stripped := strip_append (show front ++ [47] ≠ [] by simp)
    rw [List.append_assoc] at stripped
    rw [show ([47, 47] : Units) = [47] ++ [47] from rfl, stripped] at plain
    have shorter := congrArg List.length plain
    simp at shorter
  · generalize stripTrailingSlash pathname = front at some same ⊢
    subst same
    rcases strip_cases front with plain | ⟨more, again⟩
    · refine ⟨fun _ twice => ?_, fun _ => plain⟩
      obtain ⟨before, ends⟩ := twice
      rw [show ([47, 47] : Units) = [47] ++ [47] from rfl, ← List.append_assoc] at ends
      obtain rfl := List.append_cancel_right ends
      by_cases nothing : before = []
      · rw [nothing]
        rfl
      · rw [strip_append nothing] at plain
        have shorter := congrArg List.length plain
        simp at shorter
    · have changes : stripTrailingSlash front ≠ front := fun equal => by
        have shorter := congrArg List.length again
        rw [equal] at shorter
        simp at shorter
      refine ⟨fun equal => absurd equal changes, fun single => ?_⟩
      have root := single ⟨stripTrailingSlash front, by
        rw [show ([47, 47] : Units) = [47] ++ [47] from rfl, ← List.append_assoc, ← again]⟩
      have short : front = [47] := by
        rw [show ([47, 47] : Units) = [47] ++ [47] from rfl] at root
        exact List.append_cancel_right root
      rw [short]
      rfl

theorem withoutSlashes_strip (pathname : Units) :
    withoutSlashes (stripTrailingSlash pathname) = withoutSlashes pathname := by
  rcases strip_cases pathname with plain | ⟨-, same⟩
  · rw [plain]
  · conv_rhs => rw [same]
    simp [withoutSlashes]

theorem strip_head (pathname : Units) :
    (stripTrailingSlash pathname).head? = pathname.head? := by
  rcases strip_cases pathname with plain | ⟨some, same⟩
  · rw [plain]
  · conv_rhs => rw [same]
    rw [List.head?_append_of_ne_nil _ some]

theorem split_unique {mark : UInt16} {front other back behind : Units} (clear : mark ∉ front)
    (free : mark ∉ other) (marked : back = [] ∨ back.head? = some mark)
    (noted : behind = [] ∨ behind.head? = some mark) (same : front ++ back = other ++ behind) :
    front = other ∧ back = behind := by
  -- Each text is the part of the whole before its first mark.
  have before : ∀ {front back : Units}, mark ∉ front → (back = [] ∨ back.head? = some mark) →
      (front ++ back).takeWhile (· != mark) = front := by
    intro front back clear marked
    rw [List.takeWhile_append_of_pos fun unit member => by
      simpa using fun equal : unit = mark => clear (equal ▸ member)]
    rcases marked with rfl | headed
    · simp
    · obtain ⟨rest, rfl⟩ := List.head?_eq_some_iff.mp headed
      simp
  have equal : front = other := by rw [← before clear marked, same, before free noted]
  exact ⟨equal, List.append_cancel_left (equal ▸ same)⟩

end Paths

section Keys

variable {world : World} {text other : Units} {url left right : Url}

theorem lowerUnit_lowerUnit (unit : UInt16) : lowerUnit (lowerUnit unit) = lowerUnit unit := by
  unfold lowerUnit
  by_cases upper : 65 ≤ unit.toNat ∧ unit.toNat ≤ 90
  · have wide : (unit + 32).toNat = unit.toNat + 32 := by
      rw [UInt16.toNat_add]
      simp
      omega
    simp only [if_pos upper, wide]
    rw [if_neg (by omega)]
  · simp only [if_neg upper]

theorem host_lower (url : Url) : ∀ unit ∈ url.host.map lowerUnit,
    unit.toNat < 0x80 ∧ unit ∉ [35, 47, 63] := by
  intro unit member
  obtain ⟨source, inside, rfl⟩ := List.mem_map.mp member
  obtain ⟨small, plain⟩ := url.hostUnits source inside
  unfold lowerUnit
  split
  · rename_i upper
    have wide : (source + 32).toNat = source.toNat + 32 := by
      rw [UInt16.toNat_add]
      simp
      omega
    refine ⟨by omega, fun marked => ?_⟩
    simp only [List.mem_cons, List.not_mem_nil, or_false] at marked
    rcases marked with equal | equal | equal <;>
      · rw [equal] at wide
        simp at wide
        omega
  · exact ⟨small, plain⟩

theorem toLowerCase_host (world : World) (url : Url) :
    world.toLowerCase url.host = url.host.map lowerUnit :=
  world.lower _ fun unit member => (url.hostUnits unit member).1

theorem toLowerCase_protocol (world : World) (url : Url) :
    world.toLowerCase url.protocol = url.protocol := by
  obtain ⟨name, same, units⟩ := url.scheme
  rw [world.lower _ fun unit member => by
    rw [same] at member
    rcases List.mem_append.mp member with front | colon
    · exact (units unit front).1
    · rw [List.mem_singleton.mp colon]
      decide]
  rw [same, List.map_append, List.map_congr_left fun unit member => (units unit member).2.2]
  simp [lowerUnit]

/-- The parameters of a key, in their order. -/
def sortedParams (world : World) (url : Url) : List (Units × Units) :=
  (kept world url).insertionSort world.before

/-- The key of a URL, from its parts. -/
def keyOf (world : World) (url : Url) : Units :=
  url.protocol ++ [47, 47] ++ (url.host.map lowerUnit ++ stripTrailingSlash url.pathname) ++
    searchText (joinPairs componentBytes (sortedParams world url))

theorem normalize_url (read : world.parse text = some url) :
    normalizeUrlForGraph world text = keyOf world url := by
  simp only [normalizeUrlForGraph, read, toLowerCase_protocol, toLowerCase_host]
  rfl

theorem sortedParams_whole (world : World) (url : Url) :
    ∀ pair ∈ sortedParams world url, WellPaired pair.1 ∧ WellPaired pair.2 := by
  intro pair member
  exact url.whole pair (List.mem_filter.mp ((List.mem_insertionSort _).mp member)).1

theorem joinPairs_query (pairs : List (Units × Units)) : IsQuery (joinPairs componentBytes pairs) := by
  intro unit member
  obtain ⟨byte, inside, rfl⟩ := List.mem_map.mp member
  have codes : 33 ≤ byte.toNat ∧ byte.toNat < 0x7F ∧ byte.toNat ∉ [34, 35, 60, 62] := by
    rcases mem_joinedPairs inside with rfl | rfl | ⟨text, among⟩
    · decide
    · decide
    · obtain ⟨least, small, apart⟩ := componentBytes_codes among
      simp only [List.mem_cons, List.not_mem_nil, or_false, not_or] at apart ⊢
      omega
  have wide : byte.toUInt16.toNat = byte.toNat := UInt8.toNat_toUInt16 byte
  refine ⟨by omega, by omega, fun marked => ?_⟩
  refine codes.2.2 ?_
  rw [← wide]
  simp only [List.mem_cons, List.not_mem_nil, or_false] at marked ⊢
  rcases marked with equal | equal | equal | equal <;> simp [equal]

theorem searchText_marked (query : Units) :
    searchText query = [] ∨ (searchText query).head? = some 63 := by
  unfold searchText
  split
  · exact .inl rfl
  · exact .inr rfl

theorem sortedParams_unique (same : searchText (joinPairs componentBytes (sortedParams world left)) =
      searchText (joinPairs componentBytes (sortedParams world right))) :
    sortedParams world left = sortedParams world right := by
  have queries : joinPairs componentBytes (sortedParams world left) =
      joinPairs componentBytes (sortedParams world right) := by
    unfold searchText at same
    split at same <;> split at same <;> simp_all
  have pairs := congrArg formPairs queries
  rwa [formPairs_joinPairs componentBytes_form (sortedParams_whole world left),
    formPairs_joinPairs componentBytes_form (sortedParams_whole world right)] at pairs

theorem location_clear (url : Url) :
    ∀ unit ∈ url.host.map lowerUnit ++ stripTrailingSlash url.pathname, unit ∉ [35, 63] := by
  intro unit member
  rcases List.mem_append.mp member with host | path
  · have apart := (host_lower url unit host).2
    simp only [List.mem_cons, List.not_mem_nil, or_false, not_or] at apart ⊢
    exact ⟨apart.1, apart.2.2⟩
  · refine url.pathUnits unit ?_
    rcases strip_cases url.pathname with plain | ⟨-, same⟩
    · rwa [plain] at path
    · rw [same]
      exact List.mem_append_left _ path

theorem keyOf_eq_iff : keyOf world left = keyOf world right ↔ left.protocol = right.protocol ∧
    left.host.map lowerUnit ++ stripTrailingSlash left.pathname =
      right.host.map lowerUnit ++ stripTrailingSlash right.pathname ∧
    sortedParams world left = sortedParams world right := by
  constructor
  · intro same
    obtain ⟨name, scheme, units⟩ := left.scheme
    obtain ⟨title, naming, letters⟩ := right.scheme
    unfold keyOf at same
    simp only [scheme, naming, List.append_assoc] at same
    -- The first colon ends the name of the protocol, and the first question mark the path.
    obtain ⟨rfl, tails⟩ := split_unique (fun member => (units 58 member).2.1 rfl)
      (fun member => (letters 58 member).2.1 rfl) (.inr rfl) (.inr rfl) same
    have rests := List.append_cancel_left (List.append_cancel_left tails)
    rw [← List.append_assoc, ← List.append_assoc] at rests
    obtain ⟨location, search⟩ := split_unique
      (fun member => location_clear left 63 member (by simp))
      (fun member => location_clear right 63 member (by simp)) (searchText_marked _)
      (searchText_marked _) rests
    exact ⟨scheme.trans naming.symm, location, sortedParams_unique search⟩
  · rintro ⟨protocol, location, params⟩
    rw [keyOf, keyOf, protocol, location, params]

instance (world : World) : Std.Total world.before := ⟨fun left right => world.total left.1 right.1⟩

instance (world : World) : IsTrans (Units × Units) world.before :=
  ⟨fun left middle right => world.trans left.1 middle.1 right.1⟩

theorem sortedParams_iff : sortedParams world left = sortedParams world right ↔
    ∀ name, keptLike world left name = keptLike world right name := by
  unfold sortedParams
  rw [insertionSort_eq_iff]
  exact ⟨fun same name => same (name, []), fun same element => same element.1⟩

theorem keptUnder_of_sorted (same : sortedParams world left = sortedParams world right)
    (name : Units) : keptUnder world left name = keptUnder world right name := by
  have kept : ∀ url, (sortedParams world url).filter (fun pair => pair.1 == name) =
      keptUnder world url name := fun url => filter_insertionSort (fun first second named called => by
    rw [World.before, eq_of_beq named, eq_of_beq called]
    exact or_self_iff.mp (world.total name name)) _
  rw [← kept, ← kept, same]

theorem rooted_of_clear (clear : ¬ url.Opaque) : stripTrailingSlash url.pathname = [] ∨
    (stripTrailingSlash url.pathname).head? = some 47 := by
  rw [strip_head]
  by_cases empty : url.pathname = []
  · rw [empty]
    exact .inl rfl
  · by_cases slashed : url.pathname.head? = some 47
    · exact .inr slashed
    · refine absurd ⟨?_, empty, slashed⟩ clear
      rcases url.rooted with none | path | slash
      · exact none
      · exact absurd path empty
      · exact absurd slash slashed

theorem reads_key {again : Url} (read : world.parse text = some url)
    (reread : world.parse (keyOf world url) = some again) :
    again.protocol = url.protocol ∧ sortedParams world again = sortedParams world url := by
  obtain ⟨protocol, params⟩ := world.reads read (location_clear url)
    (joinPairs_query (sortedParams world url)) reread
  rw [formPairs_joinPairs componentBytes_form (sortedParams_whole world url)] at params
  refine ⟨protocol, ?_⟩
  -- The parameters that a key keeps are kept again, and they are in order.
  have all : kept world again = sortedParams world url := by
    rw [kept, params, List.filter_eq_self]
    intro pair member
    exact (List.mem_filter.mp ((List.mem_insertionSort _).mp member)).2
  rw [sortedParams, all]
  exact (List.pairwise_insertionSort _ _).insertionSort_eq

/-- Normalizing twice is normalizing once just for texts that are no URL or one that settles. -/
theorem normalize_idem_iff (world : World) (text : Units) :
    normalizeUrlForGraph world (normalizeUrlForGraph world text) = normalizeUrlForGraph world text ↔
      ∀ url, world.parse text = some url → Settles world url := by
  cases read : world.parse text with
  | none =>
    have plain : normalizeUrlForGraph world text = text := by rw [normalizeUrlForGraph, read]
    rw [plain, plain]
    exact ⟨fun _ _ none => absurd none (by simp), fun _ => rfl⟩
  | some url =>
    rw [normalize_url read]
    have only : (∀ other, some url = some other → Settles world other) ↔ Settles world url :=
      ⟨fun all => all url rfl, fun settles other same => Option.some.inj same ▸ settles⟩
    rw [only]
    by_cases unhosted : url.Opaque
    · -- The key has the opaque path where a host would stand.
      have shape : keyOf world url = url.protocol ++ [47, 47] ++ stripTrailingSlash url.pathname ++
          searchText (joinPairs componentBytes ((kept world url).insertionSort world.before)) := by
        rw [keyOf, unhosted.1]
        rfl
      unfold Settles
      rw [← shape]
      cases reread : world.parse (keyOf world url) with
      | none =>
        rw [normalizeUrlForGraph, reread]
        exact ⟨fun _ => ⟨fun clear => absurd unhosted clear, fun _ _ none => absurd none (by simp)⟩,
          fun _ => rfl⟩
      | some again =>
        obtain ⟨protocol, params⟩ := reads_key read reread
        rw [normalize_url reread, keyOf_eq_iff, unhosted.1]
        constructor
        · rintro ⟨-, location, -⟩
          refine ⟨fun clear => absurd unhosted clear, fun _ other same => ?_⟩
          rw [← Option.some.inj same]
          exact location
        · rintro ⟨-, location⟩
          exact ⟨protocol, location unhosted again rfl, params⟩
    · have path : stripTrailingSlash url.pathname = url.pathname ∨
          stripTrailingSlash url.pathname ≠ [] ∧
            url.pathname = stripTrailingSlash url.pathname ++ [47] := strip_cases url.pathname
      obtain ⟨again, reread, host, pathname⟩ := world.rereads read unhosted path
        (joinPairs_query (sortedParams world url))
      obtain ⟨protocol, params⟩ := reads_key read reread
      have lower : again.host.map lowerUnit = url.host.map lowerUnit := by
        rw [host, List.map_map]
        exact List.map_congr_left fun unit _ => lowerUnit_lowerUnit unit
      change world.parse (keyOf world url) = some again at reread
      rw [normalize_url reread, keyOf_eq_iff, lower, pathname, List.append_cancel_left_eq,
        strip_strip]
      constructor
      · rintro ⟨-, single, -⟩
        exact ⟨fun _ => single, fun clear => absurd clear unhosted⟩
      · rintro ⟨single, -⟩
        exact ⟨protocol, single unhosted, params⟩

/-- Two URLs have one key where they differ only in what a key leaves out, and two where they are
apart, just when keys tell them apart. -/
theorem keys_tell_iff (world : World) (left right : Url) :
    (Same world left right → keyOf world left = keyOf world right) ∧
      (Apart world left right → keyOf world left ≠ keyOf world right) ↔
    Tells world left right := by
  have noHost : ∀ {url : Url}, url.Opaque → url.host.map lowerUnit = [] := fun unhosted => by
    rw [unhosted.1]
    rfl
  constructor
  · rintro ⟨joins, parts⟩
    -- A URL that poses as another has its key, and no host.
    have poses : ∀ {first second : Url}, Poses world first second →
        keyOf world first = keyOf world second ∧
          first.host.map lowerUnit ≠ second.host.map lowerUnit := by
      intro first second pose
      refine ⟨keyOf_eq_iff.mpr ⟨pose.protocol, ?_, sortedParams_iff.mpr pose.params⟩, ?_⟩
      · rw [noHost pose.unhosted, List.nil_append, pose.pathname]
      · rw [noHost pose.unhosted]
        exact fun none => pose.hosted (List.map_eq_nil_iff.mp none.symm)
    refine ⟨fun same => ?_, fun pose => ?_, fun pose => ?_⟩
    · obtain ⟨-, location, params⟩ := keyOf_eq_iff.mp (joins same)
      rw [same.host] at location
      exact ⟨List.append_cancel_left location, sortedParams_iff.mp params⟩
    · exact parts (.inl (poses pose).2) (poses pose).1
    · exact parts (.inl (poses pose).2.symm) (poses pose).1.symm
  · rintro ⟨alike, noPose, noGuise⟩
    refine ⟨fun same => ?_, fun apart equal => ?_⟩
    · obtain ⟨path, params⟩ := alike same
      exact keyOf_eq_iff.mpr ⟨same.protocol, by rw [same.host, path], sortedParams_iff.mpr params⟩
    · obtain ⟨protocol, location, params⟩ := keyOf_eq_iff.mp equal
      -- The parameters are the same, so that the hosts or the paths have to differ.
      have split : ¬ (left.host.map lowerUnit = right.host.map lowerUnit ∧
          stripTrailingSlash left.pathname = stripTrailingSlash right.pathname) := by
        rintro ⟨host, path⟩
        rcases apart with hosts | paths | ⟨name, differ⟩
        · exact hosts host
        · exact paths (by rw [← withoutSlashes_strip, path, withoutSlashes_strip])
        · exact differ (keptUnder_of_sorted params name)
      have marked : ∀ url : Url, (47 : UInt16) ∉ url.host.map lowerUnit := fun url member =>
        (host_lower url 47 member).2 (by simp)
      by_cases first : left.Opaque
      · by_cases none : right.host = []
        · refine split ⟨by rw [noHost first, none]; rfl, ?_⟩
          rwa [noHost first, none] at location
        · refine noPose ⟨first, none, protocol, ?_, sortedParams_iff.mp params⟩
          rw [← location, noHost first, List.nil_append]
      · by_cases second : right.Opaque
        · by_cases none : left.host = []
          · refine split ⟨by rw [noHost second, none]; rfl, ?_⟩
            rwa [noHost second, none] at location
          · refine noGuise ⟨second, none, protocol.symm, ?_, sortedParams_iff.mp params.symm⟩
            rw [location, noHost second, List.nil_append]
        · exact split (split_unique (marked left) (marked right) (rooted_of_clear first)
            (rooted_of_clear second) location)

/-- The keys of the graph are canonical just for the URLs that settle and for the pairs that keys
tell apart. -/
theorem graphKeys_iff (world : World) :
    (∀ text, normalizeUrlForGraph world (normalizeUrlForGraph world text) =
        normalizeUrlForGraph world text ↔
      ∀ url, world.parse text = some url → Settles world url) ∧
    ∀ text other left right, world.parse text = some left → world.parse other = some right →
      ((Same world left right →
          normalizeUrlForGraph world text = normalizeUrlForGraph world other) ∧
        (Apart world left right →
          normalizeUrlForGraph world text ≠ normalizeUrlForGraph world other) ↔
        Tells world left right) := by
  refine ⟨normalize_idem_iff world, fun text other left right first second => ?_⟩
  rw [normalize_url first, normalize_url second]
  exact keys_tell_iff world left right

end Keys

/-- Some paths of a host. -/
def somePaths : List Units := [ascii "/a//", ascii "/a/", ascii "/a"]

/-- The URL of a host with one of these paths and a query. -/
def pageUrl (pathname query : Units) (known : pathname ∈ somePaths) : Url where
  protocol := ascii "http:"
  host := ascii "h"
  pathname := pathname
  searchParams := formPairs query
  scheme := ⟨ascii "http", rfl, forall_of_all (by decide)⟩
  hostUnits := forall_of_all (by decide)
  pathUnits := by
    have all : ∀ path ∈ somePaths,
        path.all (fun unit => decide (unit ∉ ([35, 63] : Units))) = true := by decide
    exact forall_of_all (all pathname known)
  rooted := by
    have all : ∀ path ∈ somePaths, path.head? = some 47 := by decide
    exact .inr (.inr (all pathname known))
  whole := by
    intro pair member
    obtain ⟨sequence, -, rfl⟩ := List.mem_map.mp member
    exact ⟨decodeUtf8_wellPaired _, decodeUtf8_wellPaired _⟩

/-- The URL that a text is among these pages. -/
def readPage (text : Units) : Option Url :=
  let pathname := (text.takeWhile (· != 63)).drop 8
  if known : pathname ∈ somePaths ∧ text.takeWhile (· != 63) = ascii "http://h" ++ pathname then
    some (pageUrl pathname ((text.dropWhile (· != 63)).drop 1) known.1)
  else none

theorem cut_searchText {front query : Units} (clear : (63 : UInt16) ∉ front) :
    (front ++ searchText query).takeWhile (· != 63) = front ∧
      ((front ++ searchText query).dropWhile (· != 63)).drop 1 = query := by
  have before : ∀ unit ∈ front, (unit != 63) = true := fun unit member => by
    simpa using fun equal : unit = 63 => clear (equal ▸ member)
  rw [List.takeWhile_append_of_pos before, List.dropWhile_append_of_pos before]
  unfold searchText
  split
  · rename_i none
    simp [none]
  · simp

theorem readPage_text {pathname : Units} (known : pathname ∈ somePaths) (query : Units) :
    readPage (ascii "http://h" ++ pathname ++ searchText query) =
      some (pageUrl pathname query known) := by
  have clear : ∀ path ∈ somePaths, (63 : UInt16) ∉ ascii "http://h" ++ path := by decide
  obtain ⟨front, back⟩ := @cut_searchText _ query (clear pathname known)
  have path : (ascii "http://h" ++ pathname).drop 8 = pathname := rfl
  simp only [readPage, front, back, path]
  rw [dif_pos ⟨known, trivial⟩]

theorem readPage_some {text : Units} {url : Url} (read : readPage text = some url) :
    ∃ pathname query, ∃ known : pathname ∈ somePaths, url = pageUrl pathname query known ∧
      text.takeWhile (· != 63) = ascii "http://h" ++ pathname ∧
      query = (text.dropWhile (· != 63)).drop 1 := by
  unfold readPage at read
  dsimp only at read
  split at read
  · rename_i known
    exact ⟨_, _, known.1, (Option.some.inj read).symm, known.2, rfl⟩
  · exact absurd read (by simp)

/-- A language whose URL class knows these pages. -/
def pageWorld : World where
  parse := readPage
  toLowerCase := List.map lowerUnit
  localeCompare := fun left right => left.length - right.length
  lower := fun _ _ => rfl
  total := by omega
  trans := by omega
  reads := by
    intro text url again rest query read clear _ reread
    obtain ⟨pathname, _, known, rfl, -, -⟩ := readPage_some read
    obtain ⟨_, own, _, rfl, -, same⟩ := readPage_some reread
    have front : (63 : UInt16) ∉ ascii "http:" ++ [47, 47] ++ rest := by
      rw [List.mem_append]
      rintro (scheme | inside)
      · exact absurd scheme (by decide)
      · exact clear 63 inside (by simp)
    refine ⟨rfl, ?_⟩
    rw [show query = own from (same.trans (cut_searchText front).2).symm]
    rfl
  rereads := by
    intro text url pathname query read _ path _
    obtain ⟨own, _, known, rfl, -, -⟩ := readPage_some read
    -- A path without its last slash is again one of the paths.
    have inside : pathname ∈ somePaths := by
      rcases path with rfl | ⟨-, same⟩
      · exact known
      · have all : ∀ path ∈ somePaths, path.getLast? = some 47 → path.dropLast ∈ somePaths := by
          decide
        change own = pathname ++ [47] at same
        have shorter := all own known (by simp [same])
        rwa [same, List.dropLast_concat] at shorter
    exact ⟨_, readPage_text inside query, rfl, rfl⟩

/-- Keys tell the page with a slash at its end from the others as they should. -/
theorem graphKeys_page :
    (Same pageWorld (pageUrl (ascii "/a/") [] (by decide)) (pageUrl (ascii "/a") [] (by decide)) →
        normalizeUrlForGraph pageWorld (ascii "http://h/a/") =
          normalizeUrlForGraph pageWorld (ascii "http://h/a")) ∧
      (Apart pageWorld (pageUrl (ascii "/a/") [] (by decide)) (pageUrl (ascii "/a") [] (by decide)) →
        normalizeUrlForGraph pageWorld (ascii "http://h/a/") ≠
          normalizeUrlForGraph pageWorld (ascii "http://h/a")) ↔
      Tells pageWorld (pageUrl (ascii "/a/") [] (by decide)) (pageUrl (ascii "/a") [] (by decide)) :=
  (graphKeys_iff pageWorld).2 (ascii "http://h/a/") (ascii "http://h/a") _ _
    (@readPage_text (ascii "/a/") (by decide) []) (@readPage_text (ascii "/a") (by decide) [])

/-- Normalizing the key of a page with two slashes at its end changes it, and the slash is seen. -/
theorem slashes_counted :
    normalizeUrlForGraph pageWorld (ascii "http://h/a//") = ascii "http://h/a/" ∧
    normalizeUrlForGraph pageWorld (ascii "http://h/a/") = ascii "http://h/a" ∧
    ¬ ∀ world text, normalizeUrlForGraph world (normalizeUrlForGraph world text) =
      normalizeUrlForGraph world text := by
  have page : ∀ pathname, ∀ known : pathname ∈ somePaths,
      normalizeUrlForGraph pageWorld (ascii "http://h" ++ pathname) =
        ascii "http://h" ++ stripTrailingSlash pathname := by
    intro pathname known
    have read := readPage_text known []
    rw [show searchText [] = [] from rfl, List.append_nil] at read
    rw [@normalize_url pageWorld _ _ read, keyOf]
    simp [sortedParams, kept, pageUrl, formPairs, encodeUtf8, codePoints, joinPairs, searchText]
    rfl
  have twice := page (ascii "/a//") (by decide)
  have once := page (ascii "/a/") (by decide)
  refine ⟨twice, once, fun all => ?_⟩
  have same := all pageWorld (ascii "http://h/a//")
  rw [show ascii "http://h/a//" = ascii "http://h" ++ ascii "/a//" from rfl, twice,
    show ascii "http://h" ++ stripTrailingSlash (ascii "/a//") =
      ascii "http://h" ++ ascii "/a/" from rfl, once] at same
  exact absurd same (by decide)

end UrlGraph

end Klura
