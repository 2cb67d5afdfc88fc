import Klura.Browser.AuthenticationPolicy
import Klura.Library.Check

/-! Egress rules: no request has two that admit it, and routes overlap where a URL says so. -/

namespace Klura

open StrictJson

/-! Routes that overlap. -/

/-- Whether a text is the search part of some URL: empty, or a query of visible code units that the
    URL class leaves as they are, behind a question mark. -/
def IsSearch (search : Units) : Prop :=
  search = [] ∨ ∃ query, query ≠ [] ∧ search = 63 :: query ∧
    ∀ unit ∈ query, 0x21 ≤ unit.toNat ∧ unit.toNat < 0x7F ∧
      unit ≠ 34 ∧ unit ≠ 35 ∧ unit ≠ 39 ∧ unit ≠ 60 ∧ unit ≠ 62

/-- A URL whose path is canonical and whose search is one of a URL. -/
structure CanonicalUrl (urls : UrlClassV1) (url : UrlV1) : Prop where
  path : urls.pathnameOf url.pathname = some url.pathname
  search : IsSearch url.search

/-- The keys that a query requires. -/
def BrowserRouteQueryV1.required : BrowserRouteQueryV1 → List Units
  | .none => []
  | .keys required _ => required

/-- The text of a path. -/
def BrowserRoutePathV1.value : BrowserRoutePathV1 → Units
  | .exact value | .prefixed value => value

/-- A query that requires keys that it allows, all of them named. -/
def BrowserRouteQueryV1.Parsed : BrowserRouteQueryV1 → Prop
  | .none => True
  | .keys required allowed => (∀ key ∈ required, key ∈ allowed) ∧ ∀ key ∈ allowed, key ≠ []

/-- A matcher that the parser has accepted. -/
structure ParsedRoute (urls : UrlClassV1) (route : BrowserRouteMatcherV1) : Prop where
  path : urls.pathnameOf route.path.value = some route.path.value
  query : route.query.Parsed

variable {urls : UrlClassV1}

theorem pathsOverlap_of_admits {left right : BrowserRoutePathV1} {pathname : Units}
    (first : left.admits pathname = true) (second : right.admits pathname = true) :
    pathsOverlap left right = true := by
  cases left with
  | exact value =>
    have same : pathname = value := eq_of_beq first
    subst same
    cases right with
    | exact other => exact second
    | prefixed other => exact second
  | prefixed value =>
    cases right with
    | exact other =>
      have same : pathname = other := eq_of_beq second
      subst same
      exact first
    | prefixed other =>
      have first := List.isPrefixOf_iff_prefix.mp first
      have second := List.isPrefixOf_iff_prefix.mp second
      rw [pathsOverlap, Bool.or_eq_true, List.isPrefixOf_iff_prefix, List.isPrefixOf_iff_prefix]
      exact List.prefix_or_prefix_of_prefix second first

theorem admits_of_pathsOverlap {left right : BrowserRoutePathV1}
    (overlap : pathsOverlap left right = true) :
    ∃ pathname, (pathname = left.value ∨ pathname = right.value) ∧
      left.admits pathname = true ∧ right.admits pathname = true := by
  have own (value : Units) : value.isPrefixOf value = true :=
    List.isPrefixOf_iff_prefix.mpr (List.prefix_refl value)
  cases left with
  | exact value =>
    refine ⟨value, .inl rfl, BEq.rfl, ?_⟩
    cases right with
    | exact other => exact overlap
    | prefixed other => exact overlap
  | prefixed value =>
    cases right with
    | exact other => exact ⟨other, .inr rfl, overlap, BEq.rfl⟩
    | prefixed other =>
      rcases Bool.or_eq_true_iff.mp overlap with longer | longer
      · exact ⟨value, .inl rfl, own value, longer⟩
      · exact ⟨other, .inr rfl, longer, own other⟩

/-- Whether a query admits the search of a URL. -/
def BrowserRouteQueryV1.admits (query : BrowserRouteQueryV1) (search : Units) : Prop :=
  match query with
  | .none => search = []
  | .keys required allowed => (formKeys (search.drop 1)).Nodup ∧
      (∀ key ∈ formKeys (search.drop 1), key ∈ allowed) ∧
      ∀ key ∈ required, key ∈ formKeys (search.drop 1)

theorem browserRouteMatches_iff (route : BrowserRouteMatcherV1) (url : UrlV1) :
    browserRouteMatches route url = true ↔
      route.path.admits url.pathname = true ∧ route.query.admits url.search := by
  unfold browserRouteMatches
  rw [Bool.and_eq_true]
  refine and_congr_right fun _ => ?_
  cases route.query with
  | none => simp [BrowserRouteQueryV1.admits]
  | keys required allowed =>
    simp [BrowserRouteQueryV1.admits, UrlV1.searchKeys, and_assoc]

theorem queriesOverlap_of_admits {left right : BrowserRouteQueryV1} {search : Units}
    (first : left.admits search) (second : right.admits search) :
    queriesOverlap left right = true := by
  have nothing {required : List Units} (all : ∀ key ∈ required, key ∈ formKeys ([] : Units)) :
      required.isEmpty = true := by
    rw [List.isEmpty_iff, List.eq_nil_iff_forall_not_mem]
    exact fun key member => List.not_mem_nil (all key member)
  cases left with
  | none =>
    have empty : search = [] := first
    subst empty
    cases right with
    | none => rfl
    | keys required allowed => exact nothing second.2.2
  | keys required allowed =>
    cases right with
    | none =>
      have empty : search = [] := second
      subst empty
      exact nothing first.2.2
    | keys required' allowed' =>
      simp only [queriesOverlap, Bool.and_eq_true, List.all_eq_true, List.contains_iff_mem]
      constructor
      · intro key member
        exact second.2.1 key (first.2.2 key member)
      · intro key member
        exact first.2.1 key (second.2.2 key member)

/-- The search of a URL whose query has these keys. -/
def searchOf (keys : List Units) : Units := if keys = [] then [] else 63 :: queryOf keys

variable {keys : List Units}

theorem formKeys_searchOf (whole : ∀ key ∈ keys, WellPaired key) (named : ∀ key ∈ keys, key ≠ []) :
    formKeys ((searchOf keys).drop 1) = keys := by
  unfold searchOf
  split_ifs with none
  · rw [none]
    rfl
  · exact formKeys_queryOf whole named

theorem searchOf_isSearch (whole : ∀ key ∈ keys, WellPaired key) (named : ∀ key ∈ keys, key ≠ []) :
    IsSearch (searchOf keys) := by
  unfold searchOf
  split_ifs with none
  · exact .inl rfl
  · refine .inr ⟨queryOf keys, ?_, rfl, ?_⟩
    · intro empty
      have read := formKeys_queryOf whole named
      rw [empty] at read
      exact none read.symm
    · intro unit member
      have escape := queryOf_escape keys unit member
      unfold isEscapeCode at escape
      refine ⟨by omega, by omega, ?_, ?_, ?_, ?_, ?_⟩ <;>
        · rintro rfl
          simp at escape

variable {left right : BrowserRouteMatcherV1}

/-- Two parsed queries that overlap both admit the search of one URL, unless a key that they
    require has half of a pair. -/
theorem admits_of_queriesOverlap (leftParsed : ParsedRoute urls left)
    (rightParsed : ParsedRoute urls right)
    (whole : ∀ key ∈ left.query.required ++ right.query.required, WellPaired key)
    (overlap : queriesOverlap left.query right.query = true) :
    ∃ search, IsSearch search ∧ left.query.admits search ∧ right.query.admits search := by
  have leftKeys := leftParsed.query
  have rightKeys := rightParsed.query
  -- Where one route admits no query, the other requires none, and both admit the empty search.
  have empty {required allowed : List Units} (none : required.isEmpty = true) :
      (BrowserRouteQueryV1.keys required allowed).admits [] := by
    rw [List.isEmpty_iff] at none
    subst none
    exact ⟨List.nodup_nil, nofun, nofun⟩
  cases first : left.query with
  | none =>
    rw [first] at overlap
    cases second : right.query with
    | none => exact ⟨[], .inl rfl, rfl, rfl⟩
    | keys required allowed =>
      rw [second] at overlap
      exact ⟨[], .inl rfl, rfl, empty overlap⟩
  | keys required allowed =>
    rw [first] at overlap leftKeys whole
    cases second : right.query with
    | none =>
      rw [second] at overlap
      exact ⟨[], .inl rfl, empty overlap, rfl⟩
    | keys required' allowed' =>
      rw [second] at overlap rightKeys whole
      simp only [queriesOverlap, Bool.and_eq_true, List.all_eq_true, List.contains_iff_mem]
        at overlap
      -- The keys that either requires, each once.
      set keys := (required ++ required').dedup with defined
      have member (key : Units) : key ∈ keys ↔ key ∈ required ∨ key ∈ required' := by
        rw [defined, List.mem_dedup, List.mem_append]
      have paired : ∀ key ∈ keys, WellPaired key := fun key inside =>
        whole key (List.mem_append.mpr ((member key).mp inside))
      have allowedLeft : ∀ key ∈ keys, key ∈ allowed := by
        intro key inside
        rcases (member key).mp inside with own | other
        · exact leftKeys.1 key own
        · exact overlap.2 key other
      have allowedRight : ∀ key ∈ keys, key ∈ allowed' := by
        intro key inside
        rcases (member key).mp inside with other | own
        · exact overlap.1 key other
        · exact rightKeys.1 key own
      have named : ∀ key ∈ keys, key ≠ [] := fun key inside =>
        leftKeys.2 key (allowedLeft key inside)
      have read := formKeys_searchOf paired named
      refine ⟨searchOf keys, searchOf_isSearch paired named, ?_, ?_⟩
      · rw [BrowserRouteQueryV1.admits, read]
        exact ⟨List.nodup_dedup _, allowedLeft, fun key own => (member key).mpr (.inl own)⟩
      · rw [BrowserRouteQueryV1.admits, read]
        exact ⟨List.nodup_dedup _, allowedRight, fun key own => (member key).mpr (.inr own)⟩

theorem browserRoutesOverlap_of_matches {url : UrlV1} (first : browserRouteMatches left url = true)
    (second : browserRouteMatches right url = true) :
    browserRoutesOverlap left right = true := by
  rw [browserRouteMatches_iff] at first second
  exact Bool.and_eq_true_iff.mpr ⟨pathsOverlap_of_admits first.1 second.1,
    queriesOverlap_of_admits first.2 second.2⟩

/-- Parsed routes overlap exactly when both match some URL, unless a key that they require has half
    of a pair. -/
theorem browserRoutesOverlap_iff (leftParsed : ParsedRoute urls left)
    (rightParsed : ParsedRoute urls right)
    (whole : ∀ key ∈ left.query.required ++ right.query.required, WellPaired key) :
    browserRoutesOverlap left right = true ↔ ∃ url, CanonicalUrl urls url ∧
      browserRouteMatches left url = true ∧ browserRouteMatches right url = true := by
  constructor
  · intro overlap
    obtain ⟨paths, queries⟩ := Bool.and_eq_true_iff.mp overlap
    obtain ⟨pathname, canonical, firstPath, secondPath⟩ := admits_of_pathsOverlap paths
    obtain ⟨search, isSearch, firstQuery, secondQuery⟩ :=
      admits_of_queriesOverlap leftParsed rightParsed whole queries
    have path : urls.pathnameOf pathname = some pathname := by
      rcases canonical with rfl | rfl
      · exact leftParsed.path
      · exact rightParsed.path
    refine ⟨⟨ascii "https:", [], [], [], pathname, search, []⟩, ⟨path, isSearch⟩, ?_, ?_⟩
    · exact (browserRouteMatches_iff _ _).mpr ⟨firstPath, firstQuery⟩
    · exact (browserRouteMatches_iff _ _).mpr ⟨secondPath, secondQuery⟩
  · rintro ⟨url, -, first, second⟩
    exact browserRoutesOverlap_of_matches first second

/-! What the parsers accept. -/

variable {value : JsValue} {field : Units}

theorem parseQueryKeys_named (parses : parseQueryKeys value field = .ok keys) :
    ∀ key ∈ keys, key ≠ [] := by
  unfold parseQueryKeys at parses
  cases value with
  | array items =>
    dsimp only at parses
    split_ifs at parses
    obtain ⟨found, elements, parses⟩ := bind_ok.mp parses
    obtain ⟨_, -, same⟩ := bind_ok.mp parses
    cases same
    intro key member empty
    obtain ⟨item, place, parsed⟩ := parseElements_ok elements key member
    unfold parseQueryKey at parsed
    obtain ⟨text, -, parsed⟩ := bind_ok.mp parsed
    split_ifs at parsed with none
    · cases parsed
    · cases parsed
      exact none (.inl empty)
  | _ => cases parses

theorem parseRouteQuery_ok {query : BrowserRouteQueryV1}
    (parses : parseRouteQuery value field = .ok query) : query.Parsed := by
  unfold parseRouteQuery at parses
  obtain ⟨fields, -, parses⟩ := bind_ok.mp parses
  split_ifs at parses
  · cases parses
    trivial
  · obtain ⟨exactFields, -, parses⟩ := bind_ok.mp parses
    split_ifs at parses
    · cases parses
    · obtain ⟨required, -, parses⟩ := bind_ok.mp parses
      obtain ⟨allowed, allowedParses, parses⟩ := bind_ok.mp parses
      split_ifs at parses with contained
      · cases parses
      · cases parses
        refine ⟨fun key member => ?_, parseQueryKeys_named allowedParses⟩
        by_contra outside
        refine contained (List.any_eq_true.mpr ⟨key, member, ?_⟩)
        simpa using outside

theorem parseCanonicalPath_ok {path : Units}
    (parses : parseCanonicalPath urls value field = .ok path) :
    urls.pathnameOf path = some path := by
  unfold parseCanonicalPath at parses
  obtain ⟨text, -, parses⟩ := bind_ok.mp parses
  split_ifs at parses
  · cases parses
  · cases normalizes : urls.pathnameOf text with
    | none =>
      rw [normalizes] at parses
      cases parses
    | some normalized =>
      rw [normalizes] at parses
      dsimp only at parses
      split_ifs at parses with same
      · cases parses
      · cases parses
        rw [normalizes, not_not.mp same]

theorem parseBrowserRouteMatcher_ok {route : BrowserRouteMatcherV1}
    (parses : parseBrowserRouteMatcher urls value field = .ok route) : ParsedRoute urls route := by
  unfold parseBrowserRouteMatcher at parses
  obtain ⟨fields, -, parses⟩ := bind_ok.mp parses
  obtain ⟨path, -, parses⟩ := bind_ok.mp parses
  dsimp only at parses
  split_ifs at parses with unknown isExact
  · cases parses
  all_goals
    obtain ⟨text, pathParses, parses⟩ := bind_ok.mp parses
    obtain ⟨query, queryParses, same⟩ := bind_ok.mp parses
    cases same
    exact ⟨parseCanonicalPath_ok pathParses, parseRouteQuery_ok queryParses⟩

variable {rules : List BrowserEgressRuleV1}

variable {parseRule : JsValue → Units → Except PublicContractError BrowserEgressRuleV1}

theorem parseRulesFrom_ok {index : Nat} {ids : List Units} {items : List JsValue}
    (parses : parseRulesFrom parseRule field index ids items = .ok rules) :
    (∀ rule ∈ rules, ∃ item place, parseRule item place = .ok rule) ∧
      (rules.map BrowserEgressRuleV1.ruleId).Nodup ∧ ∀ rule ∈ rules, rule.ruleId ∉ ids := by
  induction items generalizing index ids rules with
  | nil =>
    cases parses
    exact ⟨nofun, List.nodup_nil, nofun⟩
  | cons item rest ih =>
    rw [parseRulesFrom, bind_ok] at parses
    obtain ⟨first, own, parses⟩ := parses
    split_ifs at parses with fresh
    · cases parses
    obtain ⟨later, others, same⟩ := bind_ok.mp parses
    cases same
    obtain ⟨sources, distinct, apart⟩ := ih others
    refine ⟨?_, ?_, ?_⟩
    · intro rule member
      rcases List.mem_cons.mp member with rfl | inside
      · exact ⟨item, _, own⟩
      · exact sources rule inside
    · rw [List.map_cons, List.nodup_cons]
      refine ⟨fun member => ?_, distinct⟩
      obtain ⟨rule, inside, same⟩ := List.mem_map.mp member
      exact apart rule inside (same ▸ List.mem_cons_self)
    · intro rule member
      rcases List.mem_cons.mp member with rfl | inside
      · exact fresh
      · exact fun known => apart rule inside (List.mem_cons_of_mem _ known)

variable {overlap : BrowserEgressRuleV1 → BrowserEgressRuleV1 → Bool}

theorem firstOverlap_none (none : firstOverlap overlap rules = none) :
    rules.Pairwise fun left right => overlap left right = false := by
  induction rules with
  | nil => exact .nil
  | cons rule rest ih =>
    unfold firstOverlap at none
    cases found : rest.find? (overlap rule) with
    | some other =>
      rw [found] at none
      cases none
    | none =>
      rw [found] at none
      refine .cons (fun other member => ?_) (ih none)
      simpa using List.find?_eq_none.mp found other member

theorem parseRuleList_ok {maximum : Nat} {kind : String}
    (parses : parseRuleList parseRule overlap maximum kind value field = .ok rules) :
    (rules.Pairwise fun left right => overlap left right = false) ∧
      (rules.map BrowserEgressRuleV1.ruleId).Nodup ∧
      ∀ rule ∈ rules, ∃ item place, parseRule item place = .ok rule := by
  unfold parseRuleList at parses
  cases value with
  | array items =>
    dsimp only at parses
    split_ifs at parses
    obtain ⟨found, elements, parses⟩ := bind_ok.mp parses
    cases overlaps : firstOverlap overlap found with
    | some pair =>
      rw [overlaps] at parses
      cases parses
    | none =>
      rw [overlaps] at parses
      cases parses
      obtain ⟨sources, distinct, -⟩ := parseRulesFrom_ok elements
      exact ⟨firstOverlap_none overlaps, distinct, sources⟩
  | _ => cases parses

/-! Requests and the rules that admit them. -/

/-- Whether a rule admits a request. -/
structure Admits (urls : UrlClassV1) (rule : BrowserEgressRuleV1)
    (candidate : BrowserEgressCandidateV1) : Prop where
  url : ∃ url, parseBrowserEgressUrl urls candidate.url = some url ∧ rule.origin = url.origin ∧
    browserRouteMatches rule.route url = true
  phase : rulePhaseAdmits rule candidate.phase = true
  method : ∃ method ∈ rule.methods, method.text = candidate.method
  resourceType : ∃ resourceType ∈ rule.resourceTypes,
    resourceTypeOf candidate.resourceType = some resourceType

/-- Whether a rule admits a preflight. -/
structure AdmitsPreflight (urls : UrlClassV1) (rule : BrowserEgressRuleV1)
    (candidate : BrowserPreflightEgressCandidateV1) : Prop where
  preflight : candidate.method = ascii "OPTIONS" ∧ candidate.resourceType = ascii "preflight" ∧
    candidate.phase = .resource
  url : ∃ url, parseBrowserEgressUrl urls candidate.url = some url ∧ rule.origin = url.origin ∧
    browserRouteMatches rule.route url = true
  phase : rulePhaseAdmits rule candidate.phase = true
  method : ∃ method ∈ rule.methods, candidate.requestedMethod.bind methodOf = some method
  resourceType : canReceiveBrowserPreflight rule = true

/-- A policy by which every request and every preflight has one rule at most: the matchers find the
    rule that admits it, wherever there is one. -/
structure Unambiguous (urls : UrlClassV1) (policy : BrowserResourcePolicyV1) : Prop where
  apart : ∀ candidate, policy.egressRules.Pairwise fun left right =>
    ¬(Admits urls left candidate ∧ Admits urls right candidate)
  matched : ∀ candidate rule, matchBrowserEgressRule urls policy candidate = some rule ↔
    rule ∈ policy.egressRules ∧ Admits urls rule candidate
  preflightApart : ∀ candidate, policy.egressRules.Pairwise fun left right =>
    ¬(AdmitsPreflight urls left candidate ∧ AdmitsPreflight urls right candidate)
  preflightMatched : ∀ candidate rule,
    matchBrowserPreflightEgressRule urls policy candidate = some rule ↔
      rule ∈ policy.egressRules ∧ AdmitsPreflight urls rule candidate

theorem onlyOne_filter {α : Type} {test : α → Bool} {items : List α}
    (apart : items.Pairwise fun left right => ¬(test left = true ∧ test right = true)) (item : α) :
    onlyOne (items.filter test) = some item ↔ item ∈ items ∧ test item = true := by
  induction items with
  | nil => simp [onlyOne]
  | cons first rest ih =>
    obtain ⟨alone, later⟩ := List.pairwise_cons.mp apart
    by_cases passes : test first = true
    · have none : rest.filter test = [] := by
        rw [List.filter_eq_nil_iff]
        exact fun other member accepted => alone other member ⟨passes, accepted⟩
      rw [List.filter_cons_of_pos passes, none]
      constructor
      · intro same
        cases same
        exact ⟨List.mem_cons_self, passes⟩
      · rintro ⟨member, accepted⟩
        rcases List.mem_cons.mp member with rfl | inside
        · rfl
        · exact absurd ⟨passes, accepted⟩ (alone item inside)
    · rw [List.filter_cons_of_neg passes, ih later, List.mem_cons]
      constructor
      · rintro ⟨member, accepted⟩
        exact ⟨.inr member, accepted⟩
      · rintro ⟨rfl | member, accepted⟩
        · exact absurd accepted passes
        · exact ⟨member, accepted⟩

variable {policy : BrowserResourcePolicyV1}

/-- A policy with rules that are apart is unambiguous. -/
theorem Unambiguous.of_apart
    (apart : ∀ candidate, policy.egressRules.Pairwise fun left right => ¬(Admits urls left candidate ∧ Admits urls right candidate))
    (preflightApart : ∀ candidate, policy.egressRules.Pairwise fun left right => ¬(AdmitsPreflight urls left candidate ∧ AdmitsPreflight urls right candidate)) :
    Unambiguous urls policy := by
  refine ⟨apart, fun candidate rule => ?_, preflightApart, fun candidate rule => ?_⟩
  · unfold matchBrowserEgressRule
    cases parsed : parseBrowserEgressUrl urls candidate.url with
    | none =>
      refine iff_of_false (by rintro ⟨⟩) fun holds => ?_
      obtain ⟨url, found, -⟩ := holds.2.url
      rw [parsed] at found
      cases found
    | some url =>
      cases known : resourceTypeOf candidate.resourceType with
      | none =>
        refine iff_of_false (by rintro ⟨⟩) fun holds => ?_
        obtain ⟨resourceType, -, found⟩ := holds.2.resourceType
        rw [known] at found
        cases found
      | some resourceType =>
        have admits (rule : BrowserEgressRuleV1) : (rulePhaseAdmits rule candidate.phase &&
            rule.origin == url.origin &&
            rule.methods.any (fun method => method.text == candidate.method) &&
            rule.resourceTypes.contains resourceType && browserRouteMatches rule.route url) = true ↔
              Admits urls rule candidate := by
          simp only [Bool.and_eq_true, List.any_eq_true, List.contains_iff_mem, beq_iff_eq]
          constructor
          · rintro ⟨⟨⟨⟨phase, origin⟩, method⟩, inside⟩, route⟩
            exact ⟨⟨url, parsed, origin, route⟩, phase, method, resourceType, inside, known⟩
          · rintro ⟨⟨other, same, origin, route⟩, phase, method, other', inside, same'⟩
            rw [parsed] at same
            rw [known] at same'
            cases same
            cases same'
            exact ⟨⟨⟨⟨phase, origin⟩, method⟩, inside⟩, route⟩
        dsimp only
        rw [onlyOne_filter, admits]
        exact (apart candidate).imp fun differs both =>
          differs ⟨(admits _).mp both.1, (admits _).mp both.2⟩
  · unfold matchBrowserPreflightEgressRule
    split_ifs with other
    · refine iff_of_false (by rintro ⟨⟩) fun holds => ?_
      obtain ⟨method, resourceType, phase⟩ := holds.2.preflight
      rcases other with differs | differs | differs
      · exact differs method
      · exact differs resourceType
      · exact differs phase
    simp only [not_or, not_not] at other
    cases requested : candidate.requestedMethod.bind methodOf with
    | none =>
      refine iff_of_false (by rintro ⟨⟩) fun holds => ?_
      obtain ⟨method, -, found⟩ := holds.2.method
      rw [requested] at found
      cases found
    | some requestedMethod =>
      cases parsed : parseBrowserEgressUrl urls candidate.url with
      | none =>
        refine iff_of_false (by rintro ⟨⟩) fun holds => ?_
        obtain ⟨url, found, -⟩ := holds.2.url
        rw [parsed] at found
        cases found
      | some url =>
        have admits (rule : BrowserEgressRuleV1) : (rulePhaseAdmits rule candidate.phase &&
            rule.origin == url.origin && rule.methods.contains requestedMethod &&
            canReceiveBrowserPreflight rule && browserRouteMatches rule.route url) = true ↔
              AdmitsPreflight urls rule candidate := by
          simp only [Bool.and_eq_true, List.contains_iff_mem, beq_iff_eq]
          constructor
          · rintro ⟨⟨⟨⟨phase, origin⟩, inside⟩, receives⟩, route⟩
            exact ⟨other, ⟨url, parsed, origin, route⟩, phase, ⟨requestedMethod, inside, requested⟩,
              receives⟩
          · rintro ⟨-, ⟨found, same, origin, route⟩, phase, ⟨method, inside, same'⟩, receives⟩
            rw [parsed] at same
            rw [requested] at same'
            cases same
            cases same'
            exact ⟨⟨⟨⟨phase, origin⟩, inside⟩, receives⟩, route⟩
        dsimp only
        rw [onlyOne_filter, admits]
        exact (preflightApart candidate).imp fun differs both =>
          differs ⟨(admits _).mp both.1, (admits _).mp both.2⟩

theorem BrowserMethodV1.text_injective {left right : BrowserMethodV1}
    (same : left.text = right.text) : left = right := by
  cases left <;> cases right <;> first | rfl | (exfalso; revert same; decide)

/-- Two rules that admit one request have an origin, a method, a resource type and a URL in
    common. -/
theorem Admits.common {left right : BrowserEgressRuleV1} {candidate : BrowserEgressCandidateV1}
    (first : Admits urls left candidate) (second : Admits urls right candidate) :
    left.origin = right.origin ∧ (left.methods.any (right.methods.contains ·)) = true ∧
      (left.resourceTypes.any (right.resourceTypes.contains ·)) = true ∧
      browserRoutesOverlap left.route right.route = true := by
  obtain ⟨url, parsed, origin, route⟩ := first.url
  obtain ⟨url', parsed', origin', route'⟩ := second.url
  rw [parsed] at parsed'
  cases parsed'
  obtain ⟨method, inside, text⟩ := first.method
  obtain ⟨method', inside', text'⟩ := second.method
  have one : method = method' := BrowserMethodV1.text_injective (text.trans text'.symm)
  obtain ⟨resourceType, typed, known⟩ := first.resourceType
  obtain ⟨resourceType', typed', known'⟩ := second.resourceType
  rw [known] at known'
  cases known'
  refine ⟨origin.trans origin'.symm, ?_, ?_, browserRoutesOverlap_of_matches route route'⟩
  · exact List.any_eq_true.mpr ⟨method, inside, List.contains_iff_mem.mpr (one ▸ inside')⟩
  · exact List.any_eq_true.mpr ⟨resourceType, typed, List.contains_iff_mem.mpr typed'⟩

theorem AdmitsPreflight.common {left right : BrowserEgressRuleV1}
    {candidate : BrowserPreflightEgressCandidateV1} (first : AdmitsPreflight urls left candidate)
    (second : AdmitsPreflight urls right candidate) :
    left.origin = right.origin ∧ (left.methods.any (right.methods.contains ·)) = true ∧
      browserRoutesOverlap left.route right.route = true := by
  obtain ⟨url, parsed, origin, route⟩ := first.url
  obtain ⟨url', parsed', origin', route'⟩ := second.url
  rw [parsed] at parsed'
  cases parsed'
  obtain ⟨method, inside, requested⟩ := first.method
  obtain ⟨method', inside', requested'⟩ := second.method
  rw [requested] at requested'
  cases requested'
  refine ⟨origin.trans origin'.symm, ?_, browserRoutesOverlap_of_matches route route'⟩
  exact List.any_eq_true.mpr ⟨method, inside, List.contains_iff_mem.mpr inside'⟩

variable {rule : BrowserEgressRuleV1} {phase : BrowserEgressPhaseV1}

theorem phase_of_admits (declared : rule.phase ≠ .login)
    (admits : rulePhaseAdmits rule phase = true) :
    rule.phase = phase := by
  rcases Bool.or_eq_true_iff.mp admits with login | same
  · exact absurd (eq_of_beq login) declared
  · exact eq_of_beq same

theorem unambiguous_of_rulesOverlap (declared : ∀ rule ∈ policy.egressRules, rule.phase ≠ .login)
    (apart : policy.egressRules.Pairwise fun left right => rulesOverlap left right = false) :
    Unambiguous urls policy := by
  refine .of_apart (fun candidate => ?_) fun candidate => ?_
  · refine apart.imp_of_mem fun {left right} inside inside' separate both => ?_
    obtain ⟨origin, methods, types, routes⟩ := both.1.common both.2
    have phase := phase_of_admits (declared left inside) both.1.phase
    have phase' := phase_of_admits (declared right inside') both.2.phase
    have overlap : rulesOverlap left right = true := by
      unfold rulesOverlap
      rw [phase, phase', origin, methods, types, routes]
      simp
    rw [separate] at overlap
    cases overlap
  · refine apart.imp_of_mem fun {left right} inside inside' separate both => ?_
    obtain ⟨origin, methods, routes⟩ := both.1.common both.2
    have phase := phase_of_admits (declared left inside) both.1.phase
    have phase' := phase_of_admits (declared right inside') both.2.phase
    have overlap : rulesOverlap left right = true := by
      unfold rulesOverlap
      rw [phase, phase', both.1.preflight.2.2, origin, methods, both.1.resourceType,
        both.2.resourceType, routes]
      simp
    rw [separate] at overlap
    cases overlap

theorem unambiguous_of_authenticationRulesOverlap {policy : AuthenticationBrowserResourcePolicyV1}
    (apart : policy.egressRules.Pairwise fun left right =>
      authenticationRulesOverlap left right = false) :
    Unambiguous urls (loginResourcePolicy policy) := by
  refine .of_apart (fun candidate => ?_) fun candidate => ?_
  · refine List.pairwise_map.mpr (apart.imp fun {left right} separate both => ?_)
    obtain ⟨origin, methods, types, routes⟩ := both.1.common both.2
    have overlap : authenticationRulesOverlap left right = true := by
      unfold authenticationRulesOverlap
      dsimp only at origin methods types routes
      rw [origin, methods, types, routes]
      simp
    rw [separate] at overlap
    cases overlap
  · refine List.pairwise_map.mpr (apart.imp fun {left right} separate both => ?_)
    obtain ⟨origin, methods, routes⟩ := both.1.common both.2
    have receives : canReceiveBrowserPreflight left = true := both.1.resourceType
    have receives' : canReceiveBrowserPreflight right = true := both.2.resourceType
    have overlap : authenticationRulesOverlap left right = true := by
      unfold authenticationRulesOverlap
      dsimp only at origin methods routes
      rw [origin, methods, receives, receives', routes]
      simp
    rw [separate] at overlap
    cases overlap

theorem parsePhase_declared (parses : parsePhase value field = .ok phase) : phase ≠ .login := by
  unfold parsePhase at parses
  cases value with
  | string text =>
    dsimp only at parses
    cases found : DECLARED_PHASES.find? fun phase => phase.text == text with
    | none =>
      rw [found] at parses
      cases parses
    | some declared =>
      rw [found] at parses
      cases parses
      have inside := List.mem_of_find?_eq_some found
      rintro rfl
      revert inside
      decide
  | _ => cases parses

theorem parseEgressRule_declared {maximum : Nat}
    (parses : parseEgressRule urls maximum value field = .ok rule) :
    rule.phase ≠ .login := by
  unfold parseEgressRule at parses
  obtain ⟨fields, -, parses⟩ := bind_ok.mp parses
  obtain ⟨phase, declared, parses⟩ := bind_ok.mp parses
  dsimp only at parses
  obtain ⟨resourceTypes, -, parses⟩ := bind_ok.mp parses
  obtain ⟨_, -, parses⟩ := bind_ok.mp parses
  obtain ⟨methods, -, parses⟩ := bind_ok.mp parses
  obtain ⟨bodyBytes, -, parses⟩ := bind_ok.mp parses
  split_ifs at parses
  · cases parses
  · simp only [bind_ok] at parses
    obtain ⟨ruleId, -, origin, -, route, -, requests, -, responseBytes, -, same⟩ := parses
    cases same
    exact parsePhase_declared declared

/-- Every policy that the parsers accept is unambiguous, and parsed routes overlap exactly when both
    match some URL, unless they require a key with half of a pair; no URL has such a key. -/
theorem egressRules_unambiguous (urls : UrlClassV1) :
    (∀ value field policy, parseBrowserResourcePolicy urls value field = .ok policy →
      Unambiguous urls policy) ∧
    (∀ value field policy, parseAuthenticationBrowserResourcePolicy urls value field = .ok policy →
      Unambiguous urls (loginResourcePolicy policy)) ∧
    ∀ leftValue rightValue leftField rightField left right,
      parseBrowserRouteMatcher urls leftValue leftField = .ok left →
      parseBrowserRouteMatcher urls rightValue rightField = .ok right →
      ((∃ url, browserRouteMatches left url = true ∧ browserRouteMatches right url = true) →
        browserRoutesOverlap left right = true) ∧
      ((∀ key ∈ left.query.required ++ right.query.required, WellPaired key) →
        (browserRoutesOverlap left right = true ↔ ∃ url, CanonicalUrl urls url ∧
          browserRouteMatches left url = true ∧ browserRouteMatches right url = true)) ∧
      (∀ key ∈ left.query.required, ¬WellPaired key →
        ¬∃ url, browserRouteMatches left url = true) := by
  refine ⟨?_, ?_, ?_⟩
  · intro value field policy parses
    unfold parseBrowserResourcePolicy at parses
    simp only [bind_ok] at parses
    obtain ⟨fields, -, requests, -, body, -, response, -, wire, -, singleRequest, -, singleResponse,
      -, _, -, rules, rulesParse, same⟩ := parses
    cases same
    obtain ⟨apart, -, sources⟩ := parseRuleList_ok rulesParse
    refine unambiguous_of_rulesOverlap (fun rule member => ?_) apart
    obtain ⟨item, place, parsed⟩ := sources rule member
    exact parseEgressRule_declared parsed
  · intro value field policy parses
    unfold parseAuthenticationBrowserResourcePolicy at parses
    simp only [bind_ok] at parses
    obtain ⟨fields, -, requests, -, body, -, response, -, wire, -, singleRequest, -, singleResponse,
      -, _, -, rules, rulesParse, timeout, -, same⟩ := parses
    cases same
    exact unambiguous_of_authenticationRulesOverlap (parseRuleList_ok rulesParse).1
  · intro leftValue rightValue leftField rightField left right leftParses rightParses
    refine ⟨?_, browserRoutesOverlap_iff (parseBrowserRouteMatcher_ok leftParses)
      (parseBrowserRouteMatcher_ok rightParses), ?_⟩
    · rintro ⟨url, first, second⟩
      exact browserRoutesOverlap_of_matches first second
    · rintro key member unpaired ⟨url, matches_⟩
      obtain ⟨-, query⟩ := (browserRouteMatches_iff _ _).mp matches_
      cases given : left.query with
      | none =>
        rw [given] at member
        cases member
      | keys required allowed =>
        rw [given] at member query
        exact unpaired (formKeys_wellPaired _ key (query.2.2 key member))

/-- A URL class that has every text as a canonical path. -/
def plainUrlClass : UrlClassV1 := { parse := fun _ => none, pathnameOf := some }

/-- A route at the root that requires a key of one half of a pair. -/
def unpairedRoute : JsValue :=
  .object [(ascii "path", .object [(ascii "kind", .string (ascii "prefix")),
      (ascii "value", .string (ascii "/"))]),
    (ascii "query", .object [(ascii "kind", .string (ascii "keys")),
      (ascii "required", .array [.string [0xD800]]), (ascii "allowed", .array [.string [0xD800]])])]

/-- A parsed route may overlap with itself and match no URL. -/
theorem browserRoutesOverlap_without_url : ∃ route,
    parseBrowserRouteMatcher plainUrlClass unpairedRoute (ascii "route") = .ok route ∧
      browserRoutesOverlap route route = true ∧ ¬∃ url, browserRouteMatches route url = true := by
  refine ⟨⟨.prefixed (ascii "/"), .keys [[0xD800]] [[0xD800]]⟩, rfl, by decide, ?_⟩
  rintro ⟨url, matches_⟩
  have query := ((browserRouteMatches_iff _ _).mp matches_).2
  have whole := formKeys_wellPaired _ [0xD800] (query.2.2 [0xD800] (by simp))
  exact absurd (whole (.single 0xD800) (by decide)) (by decide)

end Klura
