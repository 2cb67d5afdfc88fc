import Klura.Invariants.PlainTemplates
import Klura.Strategies.Graduation

/-! What the strategies that graduation persists send, beside what the observed runs sent. -/

namespace Klura

open StrictJson

/-- What is documented of the functions that graduation rests on. -/
structure GraduationWorld.Lawful (world : GraduationWorld) : Prop where
  upper : ∀ text, world.toUpperCase (world.toUpperCase text) = world.toUpperCase text
  /-- The path of a parsed HTTP URL combined with its origin is the URL without its query. -/
  resolves : ∀ text url, world.parseUrl text = some url →
    (url.protocol = ascii "https:" ∨ url.protocol = ascii "http:") → url.pathname ≠ [] →
    ¬ [47, 47] <+: url.pathname →
      world.newUrl (url.protocol ++ ascii "//" ++ url.host) url.pathname =
        some (url.protocol ++ ascii "//" ++ (url.host ++ url.pathname))

/-- The request of a log whose call is captured. -/
def capturedRequest (world : GraduationWorld) (log : List InterceptedRequest) :
    Option InterceptedRequest :=
  (log.filter fun entry => (candidateOf world entry).isSome).getLast?

/-- A captured request with nothing in it that a strategy would read as a template. -/
structure Resendable (world : GraduationWorld) (url : ParsedUrl) (call : CapturedCallShape) :
    Prop where
  scheme : url.protocol = ascii "https:" ∨ url.protocol = ascii "http:"
  origin : PlainUrl (url.protocol ++ ascii "//" ++ url.host)
  path : PlainUrl url.pathname
  rooted : url.pathname ≠ [] ∧ ¬ [47, 47] <+: url.pathname
  spaceless : 32 ∉ url.pathname
  address : Plain (url.protocol ++ ascii "//" ++ (url.host ++ url.pathname))
  headers : ∀ header ∈ call.headers, Plain header.2
  json : call.bodyKind = .json → strategyHeadersDeclareForm world.toResolveWorld call.headers = false
  body : ∀ entries, parsedBody call.rawBody = .object entries → PlainBody entries

/-- What is captured of a request. -/
structure CapturedFrom (world : GraduationWorld) (entry : InterceptedRequest) (url : ParsedUrl)
    (call : CapturedCallShape) : Prop where
  method : call.method = world.toUpperCase entry.method
  writes : call.method ≠ ascii "GET"
  parsed : world.parseUrl entry.url = some url
  shape : call.urlShape = url.host ++ url.pathname
  origin : call.origin = url.protocol ++ ascii "//" ++ url.host
  path : call.endpointPath = url.pathname
  rawBody : entry.postData = some call.rawBody

theorem candidateOf_captured {world : GraduationWorld} {entry : InterceptedRequest}
    {call : CapturedCallShape} (captured : candidateOf world entry = some call) :
    ∃ url, CapturedFrom world entry url call := by
  simp only [candidateOf] at captured
  split at captured
  · cases captured
  rename_i writes
  split at captured
  · cases captured
  split at captured
  · cases captured
  split at captured
  · cases captured
  rename_i sent
  split at captured
  · cases captured
  rename_i url parsed
  split at captured
  · cases captured
  cases captured
  refine ⟨url, rfl, ?_, parsed, rfl, rfl, rfl, ?_⟩
  · intro get
    have read : world.toUpperCase entry.method = ascii "GET" := get
    exact writes (by simp [read])
  · cases held : entry.postData with
    | none => simp [bodyMissing, held] at sent
    | some body => rfl

theorem selectCandidateCall_eq (world : GraduationWorld) (log : List InterceptedRequest) :
    selectCandidateCall world log = (capturedRequest world log).bind (candidateOf world) := by
  simp only [selectCandidateCall, capturedRequest]
  induction log using List.reverseRecOn with
  | nil => rfl
  | append_singleton front entry ih =>
    cases captured : candidateOf world entry with
    | none => simpa [captured] using ih
    | some call => simp [captured]

section Fetch

variable {world : GraduationWorld}

variable {base : CapturedCallShape} {names : List Units}

theorem synthesized_headers {header : Units × Units}
    (member : header ∈ (synthesizeHighestViable base names).headers) :
    header ∈ base.headers := by
  obtain ⟨name, _, held⟩ := List.mem_filterMap.mp member
  obtain ⟨value, found, rfl⟩ := Option.map_eq_some_iff.mp held
  exact OrderedMap.mem_of_get? found

theorem declareForm_subset {headers wider : List (Units × Units)}
    (among : ∀ header ∈ headers, header ∈ wider)
    (clear : strategyHeadersDeclareForm world.toResolveWorld wider = false) :
    strategyHeadersDeclareForm world.toResolveWorld headers = false := by
  simp only [strategyHeadersDeclareForm, List.any_eq_false] at clear ⊢
  intro header member
  exact clear header (among header member)

variable {entry : InterceptedRequest} {call : CapturedCallShape}

theorem resolveEndpoint_resendable (lawful : world.Lawful) {url : ParsedUrl}
    (captured : CapturedFrom world entry url call) (resendable : Resendable world url call)
    (args : CallArgs) :
    resolveEndpoint world.toResolveWorld call.origin call.endpointPath args =
      .ok (url.protocol ++ ascii "//" ++ call.urlShape) := by
  have joined := lawful.resolves _ _ captured.parsed resendable.scheme resendable.rooted.1
    resendable.rooted.2
  have based : url.protocol ++ ascii "//" ++ url.host ≠ [] := by
    intro nothing
    have slashes := (List.append_eq_nil_iff.mp (List.append_eq_nil_iff.mp nothing).1).2
    exact absurd slashes (by decide)
  rw [captured.origin, captured.path, captured.shape]
  simp only [resolveEndpoint, resolveUrlTemplate_plain _ _ resendable.path,
    resolveUrlTemplate_plain _ _ resendable.origin, bind, Except.bind, joinBaseAndPath,
    if_neg based, if_neg resendable.rooted.1, joined,
    assertNoUnresolved_plain _ resendable.address]

theorem synthesized_body {entries : List (Units × JsValue)}
    (held : (synthesizeHighestViable base names).body = some entries) :
    base.bodyKind = .json ∧ parsedBody base.rawBody = .object entries := by
  simp only [synthesizeHighestViable] at held
  split at held
  · rename_i kind
    split at held
    · rename_i members parsed
      cases held
      exact ⟨kind, parsed⟩
    · cases held
  · cases held

/-- A made strategy sends the call's method and address, and its body as JSON writes it. -/
theorem prepareRequest_resendable (lawful : world.Lawful) {url : ParsedUrl}
    (captured : CapturedFrom world entry url call) (resendable : Resendable world url call)
    (names : List Units) (args : CallArgs) :
    ∃ prepared, prepareRequest world.toResolveWorld (synthesizeHighestViable call names) args =
        .ok prepared ∧ prepared.method = call.method ∧
      prepared.url = url.protocol ++ ascii "//" ++ call.urlShape ∧
      ∀ entries, call.bodyKind = .json → parsedBody call.rawBody = .object entries →
        prepared.serializedBody = some (jsonStringify (.object entries)) := by
  have again : world.toUpperCase call.method = call.method := by
    rw [captured.method, lawful.upper]
  have spaceless : 32 ∉ call.endpointPath := by
    rw [captured.path]
    exact resendable.spaceless
  have address := resolveEndpoint_resendable lawful captured resendable args
  have kept : (synthesizeHighestViable call names).body.mapM
      (fun body => resolveBody world.toResolveWorld body args) =
        .ok (synthesizeHighestViable call names).body := by
    cases held : (synthesizeHighestViable call names).body with
    | none => rfl
    | some entries =>
      have plain := resendable.body entries (synthesized_body held).2
      simp [resolveBody_plain world.toResolveWorld args plain, Functor.map, Except.map]
  have path : (synthesizeHighestViable call names).endpoint = call.endpointPath := rfl
  have base : (synthesizeHighestViable call names).baseUrl = call.origin := rfl
  have method : (synthesizeHighestViable call names).method = call.method := rfl
  -- Every step of the preparation has its result, so the request is made of these.
  cases ready : prepareRequest world.toResolveWorld (synthesizeHighestViable call names) args with
  | error problem =>
    simp only [prepareRequest, kept, bind, Except.bind, path, base, if_neg spaceless, address]
      at ready
    cases ready
  | ok prepared =>
    simp only [prepareRequest, kept, bind, Except.bind, path, base, method, if_neg spaceless,
      address] at ready
    cases ready
    refine ⟨_, rfl, again, rfl, ?_⟩
    intro entries kind parsed
    have among : ∀ header ∈ (synthesizeHighestViable call names).headers, header ∈ call.headers :=
      fun header => synthesized_headers
    have plainHeaders := declareForm_subset among (resendable.json kind)
    have body : (synthesizeHighestViable call names).body = some entries := by
      simp [synthesizeHighestViable, kind, parsed]
    have json : (synthesizeHighestViable call names).contentType = .json := by
      simp [synthesizeHighestViable, kind]
    simp [again, captured.writes, body, json, plainHeaders]

end Fetch

section Echo

/-- Arguments whose values can be told from the text around them and from the names put in. -/
structure Tellable (args : CallArgs) : Prop where
  distinct : (args.map Prod.fst).Nodup
  names : ∀ arg ∈ args, (replaceable arg.1 arg.2).isSome →
    arg.1 ≠ [] ∧ ∀ unit ∈ arg.1, isWordUnit unit = true
  braces : ∀ arg ∈ args, ∀ value, replaceable arg.1 arg.2 = some value →
    123 ∉ value ∧ 125 ∉ value
  apart : ∀ arg ∈ args, ∀ value, replaceable arg.1 arg.2 = some value →
    ∀ other ∈ args, (replaceable other.1 other.2).isSome → includes other.1 value = false

/-- A template of a payload: its names are of arguments, and their values make it the payload. -/
def TemplateOf (args : CallArgs) (payload text : Units) : Prop :=
  ∃ template : Template, template.text = text ∧
    (∀ name ∈ template.names, ∃ value, (name, JsValue.string value) ∈ args ∧
      replaceable name (.string value) = some value) ∧
      ∀ fill : Units → Units, (∀ name value, (name, JsValue.string value) ∈ args →
        replaceable name (.string value) = some value → fill name = value) →
          template.fill fill = payload

theorem replaceable_string {name value : Units} {held : JsValue}
    (found : replaceable name held = some value) : held = .string value ∧ value ≠ [] := by
  cases held with
  | string text =>
    simp only [replaceable] at found
    split at found
    · cases found
    · rename_i long
      cases found
      refine ⟨rfl, ?_⟩
      rintro rfl
      exact long (Or.inl (by decide))
  | null | boolean _ | number _ | array _ | object _ => cases found

variable {args : CallArgs}

theorem TemplateOf.step (tellable : Tellable args) {payload text : Units}
    (holds : TemplateOf args payload text) {arg : Units × JsValue} (member : arg ∈ args)
    {value : Units} (found : replaceable arg.1 arg.2 = some value) :
    TemplateOf args payload ((literalPattern value (token arg.1)).replaceAll text) := by
  obtain ⟨template, rfl, named, filled⟩ := holds
  obtain ⟨held, inhabited⟩ := replaceable_string found
  have braces := tellable.braces arg member value found
  have apart : ∀ other ∈ template.names, includes other value = false := by
    intro other among
    obtain ⟨text, listed, replaced⟩ := named other among
    exact tellable.apart arg member value found (other, .string text) listed (by simp [replaced])
  obtain ⟨next, written, same, names⟩ :=
    Template.replaceAll_value arg.1 braces.1 braces.2 inhabited template apart
  refine ⟨next, written.symm, ?_, ?_⟩
  · intro name among
    rcases names name among with rfl | before
    · refine ⟨value, ?_, ?_⟩
      · rw [← held]
        exact member
      · rw [← held]
        exact found
    · exact named name before
  · intro fill reads
    rw [same fill (reads arg.1 value (by rw [← held]; exact member) (by rw [← held]; exact found))]
    exact filled fill reads

theorem rewriteArgs_template (tellable : Tellable args) (payload : Units) :
    TemplateOf args payload (rewriteArgs args payload).1 := by
  have start : TemplateOf args payload payload :=
    ⟨⟨payload, []⟩, by simp [Template.text, Template.fill], by simp [Template.names],
      by simp [Template.fill]⟩
  unfold rewriteArgs
  -- Each argument that is written leaves a template of the payload.
  refine List.foldlRecOn (motive := fun state : Units × List (Units × Units) =>
    TemplateOf args payload state.1) args _ start ?_
  intro state holds arg member
  cases found : replaceable arg.1 arg.2 with
  | none => exact holds
  | some value =>
    dsimp only
    split
    · -- The value does not occur, so nothing is rewritten.
      exact holds
    · exact holds.step tellable member found

theorem placeholderText_raw (world : ResolveWorld) (args : CallArgs) (path : Units) :
    (placeholderText world args .raw path).isNone = false := by
  simp only [placeholderText]
  split
  · rfl
  · split
    · rfl
    · rfl

/-- The template of a frame sends the frame again for the arguments of its run. -/
theorem resolveWsFrame_rewritten (world : ResolveWorld) (tellable : Tellable args) {payload : Units}
    (plain : Plain payload) (strategy : WsStrategy)
    (framed : strategy.frame = (rewriteArgs args payload).1) :
    resolveWsFrame world strategy args = .ok payload := by
  obtain ⟨template, written, named, filled⟩ := rewriteArgs_template tellable payload
  -- The value of an argument that is replaced is what its placeholder stands for.
  have looked : ∀ name value, (name, JsValue.string value) ∈ args →
      replaceable name (.string value) = some value →
        placeholderText world args .raw name = some value := by
    intro name value member replaced
    have word := (tellable.names (name, .string value) member (by simp [replaced])).2
    have undotted : 46 ∉ name := by
      intro dot
      exact absurd (word 46 dot) (by decide)
    have held := OrderedMap.get?_of_mem tellable.distinct member
    have inhabited := (replaceable_string replaced).2
    cases value with
    | nil => exact absurd rfl inhabited
    | cons first others =>
      simp [placeholderText, lookupPlaceholderPath, undotted, held, isMissingTemplateValue,
        encodeValue, templateText]
  have valid : ∀ name ∈ template.names,
      name ≠ [] ∧ ∀ unit ∈ name, isPathUnit unit = true := by
    intro name among
    obtain ⟨value, member, replaced⟩ := named name among
    have word := tellable.names (name, .string value) member (by simp [replaced])
    exact ⟨word.1, fun unit inside => by simp [isPathUnit, word.2 unit inside]⟩
  let fill : Units → Units := fun path => (placeholderText world args .raw path).getD []
  have whole : template.fill fill = payload := by
    apply filled fill
    intro name value member replaced
    simp [fill, looked name value member replaced]
  have clear : ∀ literal ∈ template.literals, tokenNames isPathUnit literal = [] := by
    intro literal member
    have inside := template.literal_part fill member
    rw [whole] at inside
    exact (plain.part inside).refs
  have replaced : replacePlaceholders strategy.frame fill = payload := by
    rw [replacePlaceholders, framed, ← written,
      template.replaceAll_text isPathUnit_opening isPathUnit_closing valid clear, whole]
  have interpolated : interpolateVars world strategy.frame args .raw = .ok payload := by
    have every : ((collectInlinePlaceholderRefs strategy.frame).any fun path =>
        (placeholderText world args .raw path).isNone) = false := by
      rw [List.any_eq_false]
      intro path _
      simp [placeholderText_raw world args path]
    simpa [interpolateVars, every] using replaced
  simp [resolveWsFrame, interpolated, resolveSecrets_plain world plain.secrets,
    assertNoUnresolved_plain world plain, bind, Except.bind]

end Echo

/-- The strategy that a run persists, beside the runs of the window it was made of. -/
def ReplaysWindow (world : GraduationWorld) (window : List RecordedRun) :
    SynthesizedStrategy → Prop
  | .fetch strategy => ∃ entry base url first, window.head? = some first ∧
    capturedRequest world first.log = some entry ∧ candidateOf world entry = some base ∧
      CapturedFrom world entry url base ∧
      -- Every run of the window sent the same method, host and path, and the same kind of body.
      (∀ run ∈ window, ∃ call, selectCandidateCall world run.log = some call ∧
        sameShape call base = true) ∧
      -- The strategy sends them too, without a query, and with the body of the first run.
      (Resendable world url base → ∀ args, ∃ prepared,
        prepareRequest world.toResolveWorld strategy args = .ok prepared ∧
        (∀ run ∈ window, ∀ call, selectCandidateCall world run.log = some call →
          prepared.method = call.method ∧
            prepared.url = url.protocol ++ ascii "//" ++ call.urlShape) ∧
        (∀ entries, base.bodyKind = .json → parsedBody base.rawBody = .object entries →
          prepared.serializedBody = some (jsonStringify (.object entries))) ∧
        resolveHeaders world.toResolveWorld strategy.headers args = .ok strategy.headers)
  | .websocket strategy => ∀ run ∈ window, ∃ ctx frame, run.wsContext = some ctx ∧
    echoedFrame world ctx = some frame ∧ strategy.wsUrl = frame.url.takeWhile (· != 63) ∧
      (Tellable ctx.args → Plain frame.payload →
        resolveWsFrame world.toResolveWorld strategy ctx.args = .ok frame.payload)

section Runs

variable {world : GraduationWorld}

/-- Observations that are of some of the runs, in their order. -/
def ObservedIn {α : Type} (observe : RecordedRun → Option α) (runs : List RecordedRun)
    (observations : List α) : Prop :=
  ∃ sources : List RecordedRun, sources.Sublist runs ∧
    observations.map some = sources.map observe

/-- The frame's shape that a run is observed with. -/
def observedShape (world : GraduationWorld) (run : RecordedRun) : Option WsObservedShape :=
  run.wsContext.bind (detectWsEchoShape world)

/-- The stored observations are of some of the runs, in their order. -/
structure Sourced (world : GraduationWorld) (runs : List RecordedRun) (state : GraduationState) :
    Prop where
  calls : ObservedIn (fun run => selectCandidateCall world run.log) runs state.observations
  echoes : ObservedIn (observedShape world) runs state.wsObservations

variable {α : Type}

theorem ObservedIn.nil (observe : RecordedRun → Option α) (runs : List RecordedRun) :
    ObservedIn observe runs [] :=
  ⟨[], List.nil_sublist _, rfl⟩

variable {runs : List RecordedRun}

variable {observe : RecordedRun → Option α} {observations : List α}

theorem ObservedIn.more (observed : ObservedIn observe runs observations) (later : List RecordedRun) :
    ObservedIn observe (runs ++ later) observations := by
  obtain ⟨sources, among, same⟩ := observed
  exact ⟨sources, among.trans (List.sublist_append_left runs later), same⟩

variable {run : RecordedRun}

theorem ObservedIn.push (observed : ObservedIn observe runs observations) {value : α}
    (here : observe run = some value) :
    ObservedIn observe (runs ++ [run]) (pushObservation observations value) := by
  obtain ⟨sources, among, same⟩ := observed
  refine ⟨(sources ++ [run]).drop ((observations ++ [value]).length - MAX_OBSERVATIONS), ?_, ?_⟩
  · exact (List.drop_sublist _ _).trans (among.append (List.Sublist.refl [run]))
  · rw [pushObservation, List.map_drop, List.map_drop, List.map_append, List.map_append, same]
    simp [here]

theorem ObservedIn.last {α : Type} {observe : RecordedRun → Option α} {runs : List RecordedRun}
    {observations rest : List α} {base : α} {threshold : Nat}
    (observed : ObservedIn observe runs observations)
    (last : lastObservations observations threshold = base :: rest) :
    ∃ window : List RecordedRun, window.Sublist runs ∧ window.length = threshold ∧
      (base :: rest).map some = window.map observe := by
  obtain ⟨sources, among, same⟩ := observed
  rw [lastObservations] at last
  split at last
  · cases last
  · rename_i long
    have lengths : observations.length = sources.length := by
      have := congrArg List.length same
      simpa using this
    refine ⟨sources.drop (observations.length - threshold),
      (List.drop_sublist _ _).trans among, ?_, ?_⟩
    · rw [List.length_drop]
      omega
    · rw [← last, List.map_drop, List.map_drop, same]

/-- What a run leaves: observations of runs, and a strategy that sends what a window sent. -/
structure Observed (world : GraduationWorld) (runs : List RecordedRun) (run : RecordedRun)
    (outcome : RecordedOutcome) : Prop where
  sourced : Sourced world (runs ++ [run]) outcome.state
  replays : ∀ strategy, outcome.persisted = some strategy →
    ∃ window : List RecordedRun, window.Sublist (runs ++ [run]) ∧
      window.length = run.observationThreshold ∧ ReplaysWindow world window strategy

variable {state : GraduationState}

theorem Observed.silent (sourced : Sourced world (runs ++ [run]) state) :
    Observed world runs run { state, persisted := none } where
  sourced := sourced
  replays := by
    intro strategy persisted
    cases persisted

theorem Sourced.withTier {runs : List RecordedRun} {run : RecordedRun}
    {stored state : GraduationState} (before : Sourced world runs stored)
    (sourced : Sourced world runs state) (tier : GraduatedTier) :
    Sourced world runs (withTier run stored state tier) := by
  rw [Klura.withTier]
  split
  · exact ⟨sourced.calls, sourced.echoes⟩
  · exact before

theorem websocket_replays {observations : List WsObservedShape}
    (observed : ObservedIn (observedShape world) runs observations) {threshold : Nat}
    {base : WsObservedShape} (consistent : detectWsConsistency observations threshold = some base) :
    ∃ window : List RecordedRun, window.Sublist runs ∧ window.length = threshold ∧
      ReplaysWindow world window (.websocket (synthesizeWsStrategy base)) := by
  rw [detectWsConsistency] at consistent
  split at consistent
  · cases consistent
  rename_i _ first rest last
  split at consistent
  · rename_i agree
    rw [← Option.some.inj consistent]
    obtain ⟨window, among, length, same⟩ := observed.last last
    refine ⟨window, among, length, ?_⟩
    intro run member
    -- The run's own shape agrees with the first one in its URL and its template.
    have listed : observedShape world run ∈ (first :: rest).map some := by
      rw [same]
      exact List.mem_map_of_mem member
    obtain ⟨shape, at_shape, held⟩ := List.mem_map.mp listed
    have equal : shape.wsUrl = first.wsUrl ∧ shape.frameTemplate = first.frameTemplate := by
      rcases List.mem_cons.mp at_shape with rfl | later
      · exact ⟨rfl, rfl⟩
      · simpa using List.all_eq_true.mp agree shape later
    obtain ⟨ctx, given, detected⟩ := Option.bind_eq_some_iff.mp held.symm
    obtain ⟨frame, echoed, rfl⟩ := Option.map_eq_some_iff.mp detected
    refine ⟨ctx, frame, given, echoed, equal.1.symm, ?_⟩
    intro tellable plain
    exact resolveWsFrame_rewritten world.toResolveWorld tellable plain _ equal.2.symm
  · cases consistent

/-- Calls that agree make a strategy that sends each run's method and address again. -/
theorem fetch_replays (lawful : world.Lawful) {observations : List CapturedCallShape}
    (observed : ObservedIn (fun run => selectCandidateCall world run.log) runs observations)
    {threshold : Nat} {base : CapturedCallShape} {required : List Units}
    (consistent : detectConsistency world observations threshold = some (base, required)) :
    ∃ window : List RecordedRun, window.Sublist runs ∧ window.length = threshold ∧
      ReplaysWindow world window (.fetch (synthesizeHighestViable base required)) := by
  rw [detectConsistency] at consistent
  split at consistent
  · cases consistent
  rename_i _ first rest last
  split at consistent
  · rename_i agree
    simp only [Option.some.injEq, Prod.mk.injEq] at consistent
    obtain ⟨rfl, -⟩ := consistent
    obtain ⟨window, among, length, same⟩ := observed.last last
    refine ⟨window, among, length, ?_⟩
    have shaped : ∀ run ∈ window, ∃ call, selectCandidateCall world run.log = some call ∧
        sameShape call first = true := by
      intro run member
      have listed : selectCandidateCall world run.log ∈ (first :: rest).map some := by
        rw [same]
        exact List.mem_map_of_mem member
      obtain ⟨call, at_call, held⟩ := List.mem_map.mp listed
      refine ⟨call, held.symm, ?_⟩
      rcases List.mem_cons.mp at_call with rfl | later
      · simp [sameShape]
      · exact List.all_eq_true.mp agree call later
    cases window with
    | nil => cases same
    | cons initial others =>
      rw [List.map_cons, List.map_cons, List.cons.injEq] at same
      have selected : selectCandidateCall world initial.log = some first := same.1.symm
      rw [selectCandidateCall_eq] at selected
      obtain ⟨entry, captured, candidate⟩ := Option.bind_eq_some_iff.mp selected
      obtain ⟨url, from_entry⟩ := candidateOf_captured candidate
      refine ⟨entry, first, url, initial, rfl, captured, candidate, from_entry, shaped, ?_⟩
      intro resendable args
      obtain ⟨prepared, ready, method, address, body⟩ :=
        prepareRequest_resendable lawful from_entry resendable required args
      refine ⟨prepared, ready, ?_, body, ?_⟩
      · intro run member call selected
        obtain ⟨own, found, alike⟩ := shaped run member
        obtain rfl : own = call := Option.some.inj (found.symm.trans selected)
        simp only [sameShape, Bool.and_eq_true, beq_iff_eq] at alike
        rw [method, address, alike.1.1.1, alike.1.1.2]
        exact ⟨rfl, rfl⟩
      · exact resolveHeaders_plain _ args fun header member =>
          resendable.headers header (synthesized_headers member)
  · cases consistent

variable {stored : GraduationState}

theorem recordWsEcho_observed (before : Sourced world (runs ++ [run]) stored)
    (calls : ObservedIn (fun run => selectCandidateCall world run.log) (runs ++ [run]) state.observations)
    (echoes : ObservedIn (observedShape world) runs state.wsObservations) :
    Observed world runs run (recordWsEcho world run stored state) := by
  rw [recordWsEcho]
  split
  · exact .silent before
  · rename_i shape detected
    have pushed : ObservedIn (observedShape world) (runs ++ [run])
        (pushObservation state.wsObservations shape) := echoes.push detected
    have observed : Sourced world (runs ++ [run])
        { state with wsObservations := pushObservation state.wsObservations shape } :=
      ⟨calls, pushed⟩
    have written : Sourced world (runs ++ [run])
        (if run.writesWsObservation then
          { state with wsObservations := pushObservation state.wsObservations shape }
        else stored) := by
      split
      · exact observed
      · exact before
    dsimp only
    split
    · exact .silent written
    · rename_i base consistent
      split
      · refine ⟨written.withTier observed .pageScript, ?_⟩
        intro strategy persisted
        cases persisted
        exact websocket_replays pushed consistent
      · exact .silent written

theorem recordObserved_observed (lawful : world.Lawful) (before : Sourced world runs stored)
    (sourced : Sourced world runs state) :
    Observed world runs run (recordObserved world run stored state) := by
  have later : Sourced world (runs ++ [run]) stored := ⟨before.calls.more _, before.echoes.more _⟩
  rw [recordObserved]
  split
  · exact recordWsEcho_observed later (sourced.calls.more _) sourced.echoes
  · rename_i call selected
    have pushed : ObservedIn (fun run => selectCandidateCall world run.log) (runs ++ [run])
        (pushObservation state.observations call) := sourced.calls.push selected
    have observed : Sourced world (runs ++ [run])
        { state with observations := pushObservation state.observations call } :=
      ⟨pushed, sourced.echoes.more _⟩
    have written : Sourced world (runs ++ [run])
        (if run.writesObservation then
          { state with observations := pushObservation state.observations call }
        else stored) := by
      split
      · exact observed
      · exact later
    dsimp only
    split
    · exact recordWsEcho_observed written pushed sourced.echoes
    · rename_i base required consistent
      split
      · refine ⟨written.withTier observed .fetch, ?_⟩
        intro strategy persisted
        cases persisted
        exact fetch_replays lawful pushed consistent
      · exact recordWsEcho_observed written pushed sourced.echoes

theorem recordRecordedPathSuccess_observed (lawful : world.Lawful)
    (before : Sourced world runs stored) (run : RecordedRun) :
    Observed world runs run (recordRecordedPathSuccess world stored run) := by
  have later : Sourced world (runs ++ [run]) stored := ⟨before.calls.more _, before.echoes.more _⟩
  have state : Sourced world runs (if run.readable then stored else .empty) := by
    split
    · exact before
    · exact ⟨.nil _ _, .nil _ _⟩
  rw [recordRecordedPathSuccess]
  split
  · exact .silent later
  · dsimp only
    generalize (if run.readable then stored else GraduationState.empty) = read at state ⊢
    split
    · exact .silent later
    · split
      · exact .silent later
      · exact .silent (later.withTier ⟨state.calls.more _, state.echoes.more _⟩ _)
      · exact recordObserved_observed lawful before state

theorem storedAfter_sourced (lawful : world.Lawful) (runs : List RecordedRun) :
    Sourced world runs (storedAfter world runs) := by
  induction runs using List.reverseRecOn with
  | nil => exact ⟨.nil _ _, .nil _ _⟩
  | append_singleton before run ih =>
    have next := recordRecordedPathSuccess_observed lawful ih run
    rw [storedAfter, List.foldl_append]
    exact next.sourced

/-- A persisted strategy is of a window of runs that agree, and sends what its first run sent, or
the frame of each of its runs. -/
theorem graduation_replays_window (lawful : world.Lawful) (before : List RecordedRun)
    (run : RecordedRun) (strategy : SynthesizedStrategy)
    (persisted : (recordRecordedPathSuccess world (storedAfter world before) run).persisted =
      some strategy) :
    ∃ window : List RecordedRun, window.Sublist (before ++ [run]) ∧
      window.length = run.observationThreshold ∧ ReplaysWindow world window strategy :=
  (recordRecordedPathSuccess_observed lawful (storedAfter_sourced lawful before) run).replays
    strategy persisted

end Runs

/-- Functions that act as the language's do on the runs below. -/
def thingsWorld : GraduationWorld where
  toUpperCase := id
  toLowerCase := id
  encodeURIComponent := some
  sortByLocale := fun names => names.insertionSort fun left right =>
    StrictJson.compareJsonKeys left right = true
  resolveSecret := fun _ _ => none
  newUrl := fun base path => some (base ++ path)
  urlSearchParams := fun _ => []
  parseUrl := fun text =>
    if text = ascii "https://api.example.com/v1/things?trace=abc" then
      some { protocol := ascii "https:", host := ascii "api.example.com",
             pathname := ascii "/v1/things" }
    else none
  decodeURIComponent := some

theorem thingsWorld_lawful : thingsWorld.Lawful where
  upper := fun _ => rfl
  resolves := by
    intro text url _ _ _ _
    simp [thingsWorld]

/-- The JSON text of a thing with a title. -/
def thingText (title : String) : Units :=
  ascii "\x7b\"title\":\"" ++ ascii title ++ ascii "\"\x7d"

/-- The arguments of a run that makes a thing. -/
def thingArgs (title : String) : CallArgs := [(ascii "title", .string (ascii title))]

/-- A run that makes a thing, on a capability with a recorded path only. -/
def thingRun (title : String) : RecordedRun where
  log := [{ method := ascii "POST", url := ascii "https://api.example.com/v1/things?trace=abc",
            headers := [(ascii "content-type", ascii "application/json"),
              (ascii "x-csrf-token", ascii "tok-1234")],
            postData := some (.string (thingText title)), status := some 201,
            isNavigation := false }]
  wsContext := some { frames := [], typedValues := [ascii title], args := thingArgs title }
  lockFree := true
  readable := true
  saved := some none
  observationThreshold := 3
  writesObservation := true
  writesWsObservation := true
  writesTier := true
  accepts := fun _ => true

/-- What three runs that make different things persist. -/
def thingsOutcome : RecordedOutcome :=
  recordRecordedPathSuccess thingsWorld
    (storedAfter thingsWorld [thingRun "first", thingRun "second"]) (thingRun "third")

/-- The address and the body of the request of a persisted strategy for some arguments. -/
def requestOf (world : GraduationWorld) (args : CallArgs) :
    Option SynthesizedStrategy → Option (Units × Option Units)
  | some (.fetch strategy) =>
    match prepareRequest world.toResolveWorld strategy args with
    | .ok prepared => some (prepared.url, prepared.serializedBody)
    | .error _ => none
  | _ => none

theorem requestOf_eq_some {world : GraduationWorld} {args : CallArgs}
    {persisted : Option SynthesizedStrategy} {url : Units} {body : Option Units}
    (request : requestOf world args persisted = some (url, body)) :
    ∃ strategy prepared, persisted = some (.fetch strategy) ∧
      prepareRequest world.toResolveWorld strategy args = .ok prepared ∧
        prepared.url = url ∧ prepared.serializedBody = body := by
  match persisted, request with
  | some (.fetch strategy), request =>
    simp only [requestOf] at request
    split at request
    · rename_i prepared ready
      cases request
      exact ⟨strategy, prepared, rfl, ready, rfl, rfl⟩
    · cases request

theorem thingsOutcome_request : requestOf thingsWorld (thingArgs "second")
    thingsOutcome.persisted =
      some (ascii "https://api.example.com/v1/things", some (thingText "first")) := by
  decide +kernel

/-- The window of three runs persists a strategy that sends what its first run sent. -/
theorem graduation_replays_window_things :
    (∃ strategy, thingsOutcome.persisted = some strategy) ∧
      ∀ strategy, thingsOutcome.persisted = some strategy → ∃ window : List RecordedRun,
        window.Sublist ([thingRun "first", thingRun "second"] ++ [thingRun "third"]) ∧
          window.length = 3 ∧ ReplaysWindow thingsWorld window strategy := by
  obtain ⟨strategy, prepared, persisted, -⟩ := requestOf_eq_some thingsOutcome_request
  refine ⟨⟨_, persisted⟩, fun strategy persisted => ?_⟩
  exact graduation_replays_window thingsWorld_lawful [thingRun "first", thingRun "second"]
    (thingRun "third") strategy persisted

/-- For the second run's arguments the strategy sends the first run's body and no query. -/
theorem graduation_sends_first :
    ∃ strategy prepared, thingsOutcome.persisted = some (.fetch strategy) ∧
      prepareRequest thingsWorld.toResolveWorld strategy (thingArgs "second") = .ok prepared ∧
        ((capturedRequest thingsWorld (thingRun "second").log).map fun entry => entry.url) =
          some (ascii "https://api.example.com/v1/things?trace=abc") ∧
        prepared.url ≠ ascii "https://api.example.com/v1/things?trace=abc" ∧
        prepared.serializedBody = some (thingText "first") ∧
        thingText "first" ≠ thingText "second" := by
  obtain ⟨strategy, prepared, persisted, ready, url, body⟩ :=
    requestOf_eq_some thingsOutcome_request
  refine ⟨strategy, prepared, persisted, ready, by decide +kernel, ?_, body, by decide +kernel⟩
  rw [url]
  decide +kernel

end Klura
