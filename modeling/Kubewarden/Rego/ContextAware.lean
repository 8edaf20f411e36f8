/-
# Context-aware requests of a Rego policy over the callback channel

`runtimes/rego/context_aware.rs` builds the Kubernetes context of a Rego
policy by one request per declared resource over the callback channel, sent by
`make_request_via_callback_channel` (`try_send`, then a blocking wait on the
request's one-shot reply channel). The guest sees the router as the outcome of
each request, which may depend on every request sent so far: `Router`. The
requests sent are a log threaded through the calls.

`has_resource_changed_since`, `get_all_resources_by_type` and the body of
`get_plural_names` are one request followed by the decoding of the reply's
payload (`requestAndDecode`); what such a fetch answers is fixed by the
router's outcome for its request (`requestAndDecode_fst`). The decoders of
`serde_json` are parameters, and so is the text of its error for a payload
that is not a `bool`.

`have_allowed_resources_changed_since_instant` asks, resource by resource in
the set's order, whether the list of that resource changed since an instant,
and stops at the first answer that is not a decoded `false`
(`have_allowed_resources_changed_law`).

`get_allowed_resources` and `get_plural_names` run one loop, `collectLoop`: fetch
each resource of the set in turn and insert its value into a `BTreeMap`, stopping
at the first error. Its law, `FetchesEachInOrder`, is proved once for any fetch
that sends one request (`collectLoop_fetchesEachInOrder`); the JSON decoders are
parameters, so the law holds for every decoder (`get_allowed_resources_law`).
-/
import Mathlib.Data.String.Basic

namespace Kubewarden
namespace Rego

/-- `ContextAwareResource`; its order is the derived one, field by field. -/
structure ContextAwareResource where
  apiVersion : String
  kind : String
  deriving DecidableEq, Repr

/-- The derived order of `ContextAwareResource`. -/
def ContextAwareResource.lt (a b : ContextAwareResource) : Prop :=
  a.apiVersion < b.apiVersion ∨ (a.apiVersion = b.apiVersion ∧ a.kind < b.kind)

/-- A `BTreeSet<ContextAwareResource>`, as its elements in increasing order. -/
structure ResourceSet where
  toList : List ContextAwareResource
  sorted : toList.Pairwise ContextAwareResource.lt

/-- A set holds each resource once. -/
theorem ResourceSet.nodup (S : ResourceSet) : S.toList.Nodup :=
  S.sorted.imp fun h => by
    rintro rfl
    rcases h with h | ⟨-, h⟩ <;> exact lt_irrefl _ h

/-- The request verbs the context-aware code sends. -/
inductive CallbackRequestType
  | kubernetesListResourceAll (apiVersion kind : String)
      (labelSelector fieldSelector : Option String)
  | kubernetesGetResourcePluralName (apiVersion kind : String)
  | hasKubernetesListResourceAllResultChangedSinceInstant (apiVersion kind : String)
      (labelSelector fieldSelector : Option String) (since : ℕ)
  deriving DecidableEq, Repr

/-- `CallbackResponse`: the reply's payload. -/
structure CallbackResponse where
  payload : List UInt8
  deriving DecidableEq, Repr

/-- `tokio::sync::mpsc::error::TrySendError`. -/
inductive TrySendError
  | full
  | closed
  deriving DecidableEq, Repr

/-- The `Display` of a `TrySendError`. -/
def TrySendError.toString : TrySendError → String
  | .full => "no available capacity"
  | .closed => "channel closed"

/-- The variants of `RegoRuntimeError` these functions raise. -/
inductive RegoRuntimeError
  | callbackSend (msg : String)
  | callbackRequest (msg : String)
  | callbackResponse (msg : String)
  | callbackConvertBool (msg : String)
  | callbackConvertList (msg : String)
  | callbackGetPluralName (msg : String)
  deriving DecidableEq, Repr

/-- What becomes of one request: `try_send` fails, the router drops the reply
channel (`RecvError`), or it replies with a response or an error. -/
inductive BusOutcome
  | sendFailed (e : TrySendError)
  | dropped
  | replied (r : Except String CallbackResponse)

/-- The requests sent so far, oldest first. -/
abbrev Log := List CallbackRequestType

/-- The router as a guest sees it: the outcome of the last request of a log. -/
abbrev Router := Log → BusOutcome

variable (router : Router)

/-- `make_request_via_callback_channel`. -/
def makeRequestViaCallbackChannel (requestType : CallbackRequestType) (log : Log) :
    Except RegoRuntimeError CallbackResponse × Log :=
  let log := log ++ [requestType]
  (match router log with
    | .sendFailed e => .error (.callbackSend e.toString)
    | .dropped => .error (.callbackResponse "channel closed")
    | .replied (.ok msg) => .ok msg
    | .replied (.error e) => .error (.callbackRequest e), log)

@[simp] theorem makeRequestViaCallbackChannel_log (requestType : CallbackRequestType) (log : Log) :
    (makeRequestViaCallbackChannel router requestType log).2 = log ++ [requestType] := rfl

/-- JSON whitespace, as `serde_json` skips it. -/
def isJsonWhitespace (b : UInt8) : Bool := b = 32 || b = 10 || b = 9 || b = 13

/-- `serde_json::from_slice::<bool>`: `true` or `false` between whitespace;
any other payload fails with `serde_json`'s message for it, `serdeError`. -/
def fromSliceBool (serdeError : List UInt8 → String) (payload : List UInt8) : Except String Bool :=
  let v := (payload.dropWhile isJsonWhitespace).reverse.dropWhile isJsonWhitespace |>.reverse
  if v = "true".toUTF8.toList then .ok true
  else if v = "false".toUTF8.toList then .ok false
  else .error (serdeError payload)

/-- A request, then the decoding of its reply's payload, whose failure `convertError` wraps:
the shape of `has_resource_changed_since`, `get_all_resources_by_type` and of the body of
`get_plural_names`. -/
def requestAndDecode {V : Type} (decode : List UInt8 → Except String V)
    (convertError : String → RegoRuntimeError) (requestType : CallbackRequestType) (log : Log) :
    Except RegoRuntimeError V × Log :=
  let (response, log) := makeRequestViaCallbackChannel router requestType log
  (response.bind fun r => (decode r.payload).mapError convertError, log)

@[simp] theorem requestAndDecode_log {V : Type} (decode : List UInt8 → Except String V)
    (convertError : String → RegoRuntimeError) (requestType : CallbackRequestType) (log : Log) :
    (requestAndDecode router decode convertError requestType log).2 = log ++ [requestType] := rfl

/-- The answer of a request and decoding, by what the router did with the request: the
`Display` of a failed `try_send`, `RecvError`'s text for a dropped reply channel, the router's
error, or the decoding of the reply's payload. -/
theorem requestAndDecode_fst {V : Type} (decode : List UInt8 → Except String V)
    (convertError : String → RegoRuntimeError) (requestType : CallbackRequestType) (log : Log) :
    (requestAndDecode router decode convertError requestType log).1 =
      match router (log ++ [requestType]) with
      | .sendFailed e => .error (.callbackSend e.toString)
      | .dropped => .error (.callbackResponse "channel closed")
      | .replied (.ok response) => (decode response.payload).mapError convertError
      | .replied (.error e) => .error (.callbackRequest e) := by
  simp only [requestAndDecode, makeRequestViaCallbackChannel]
  rcases router (log ++ [requestType]) with e | _ | (e | response) <;> rfl

/-- A request and decoding succeeds exactly when the router replies with a response whose
payload decodes, and its value is that decoding. -/
theorem requestAndDecode_ok {V : Type} (decode : List UInt8 → Except String V)
    (convertError : String → RegoRuntimeError) (requestType : CallbackRequestType) (log : Log)
    (v : V) :
    (requestAndDecode router decode convertError requestType log).1 = .ok v ↔
      ∃ response, router (log ++ [requestType]) = .replied (.ok response) ∧
        decode response.payload = .ok v := by
  rw [requestAndDecode_fst]
  rcases router (log ++ [requestType]) with e | _ | (e | response) <;> simp
  cases decode response.payload <;> simp [Except.mapError]

/-- The request `has_resource_changed_since` sends for a resource. -/
def changedRequest (since : ℕ) (resource : ContextAwareResource) : CallbackRequestType :=
  .hasKubernetesListResourceAllResultChangedSinceInstant resource.apiVersion resource.kind none none
    since

variable (serdeError : List UInt8 → String)

/-- `has_resource_changed_since`. -/
def hasResourceChangedSince (resource : ContextAwareResource) (since : ℕ) (log : Log) :
    Except RegoRuntimeError Bool × Log :=
  requestAndDecode router (fromSliceBool serdeError) .callbackConvertBool
    (changedRequest since resource) log

@[simp] theorem hasResourceChangedSince_log (resource : ContextAwareResource) (since : ℕ)
    (log : Log) :
    (hasResourceChangedSince router serdeError resource since log).2 =
      log ++ [changedRequest since resource] :=
  rfl

/-- The loop of `have_allowed_resources_changed_since_instant` over the
resources left, returning at the first change. -/
def haveChangedLoop (since : ℕ) : List ContextAwareResource → Log → Except RegoRuntimeError Bool × Log
  | [], log => (.ok false, log)
  | resource :: rest, log =>
    match hasResourceChangedSince router serdeError resource since log with
    | (.ok true, log) => (.ok true, log)
    | (.ok false, log) => haveChangedLoop since rest log
    | (.error e, log) => (.error e, log)

/-- `have_allowed_resources_changed_since_instant`. -/
def haveAllowedResourcesChangedSinceInstant (allowedResources : ResourceSet) (since : ℕ)
    (log : Log) : Except RegoRuntimeError Bool × Log :=
  haveChangedLoop router serdeError since allowedResources.toList log

/-! ### The law of the change query -/

/-- Each resource of the list, asked in turn from `log`, decodes to `false`. -/
def AllUnchanged (since : ℕ) : Log → List ContextAwareResource → Prop
  | _, [] => True
  | log, resource :: rest => (hasResourceChangedSince router serdeError resource since log).1 = .ok false ∧
      AllUnchanged since (log ++ [changedRequest since resource]) rest

/-- One round of the loop: ask for `resource`, then stop or go on. -/
theorem haveChangedLoop_cons (since : ℕ) (resource : ContextAwareResource)
    (rest : List ContextAwareResource) (log : Log) :
    haveChangedLoop router serdeError since (resource :: rest) log =
      match (hasResourceChangedSince router serdeError resource since log).1 with
      | .ok true => (.ok true, log ++ [changedRequest since resource])
      | .ok false => haveChangedLoop router serdeError since rest (log ++ [changedRequest since resource])
      | .error e => (.error e, log ++ [changedRequest since resource]) := by
  have hpair : hasResourceChangedSince router serdeError resource since log =
      ((hasResourceChangedSince router serdeError resource since log).1, log ++ [changedRequest since resource]) :=
    Prod.ext rfl rfl
  rw [haveChangedLoop, hpair]
  rcases (hasResourceChangedSince router serdeError resource since log).1 with e | _ | _ <;> rfl

theorem haveChangedLoop_unchanged (since : ℕ) :
    ∀ (L : List ContextAwareResource) (log : Log), AllUnchanged router serdeError since log L →
      haveChangedLoop router serdeError since L log = (.ok false, log ++ L.map (changedRequest since))
  | [], log, _ => by simp [haveChangedLoop]
  | resource :: rest, log, ⟨h, hrest⟩ => by
    rw [haveChangedLoop_cons, h, haveChangedLoop_unchanged since rest _ hrest]
    simp

theorem haveChangedLoop_first (since : ℕ) :
    ∀ (pre : List ContextAwareResource) (x : ContextAwareResource) (post : List ContextAwareResource)
      (log : Log), AllUnchanged router serdeError since log pre →
      (hasResourceChangedSince router serdeError x since (log ++ pre.map (changedRequest since))).1 ≠ .ok false →
      haveChangedLoop router serdeError since (pre ++ x :: post) log =
        ((hasResourceChangedSince router serdeError x since (log ++ pre.map (changedRequest since))).1,
          log ++ (pre ++ [x]).map (changedRequest since))
  | [], x, post, log, _, hx => by
    simp only [List.nil_append, List.map_nil, List.append_nil, List.map_cons] at hx ⊢
    rw [haveChangedLoop_cons]
    rcases h : (hasResourceChangedSince router serdeError x since log).1 with e | _ | _
    · rfl
    · exact absurd h hx
    · rfl
  | resource :: rest, x, post, log, ⟨h, hrest⟩, hx => by
    have := haveChangedLoop_first since rest x post _ hrest (by simpa using hx)
    rw [List.cons_append, haveChangedLoop_cons, h]
    simpa using this

theorem exists_first_change (since : ℕ) :
    ∀ (L : List ContextAwareResource) (log : Log), ¬ AllUnchanged router serdeError since log L →
      ∃ pre x post, L = pre ++ x :: post ∧ AllUnchanged router serdeError since log pre ∧
        (hasResourceChangedSince router serdeError x since (log ++ pre.map (changedRequest since))).1 ≠ .ok false
  | [], _, h => absurd trivial h
  | resource :: rest, log, h => by
    by_cases hr : (hasResourceChangedSince router serdeError resource since log).1 = .ok false
    · have hrest : ¬ AllUnchanged router serdeError since (log ++ [changedRequest since resource]) rest :=
        fun h' => h ⟨hr, h'⟩
      obtain ⟨pre, x, post, rfl, hpre, hx⟩ := exists_first_change since rest _ hrest
      exact ⟨resource :: pre, x, post, rfl, ⟨hr, hpre⟩, by simpa using hx⟩
    · exact ⟨[], resource, rest, rfl, trivial, by simpa using hr⟩

/-- **The change query asks in order and stops at the first change.** From
any log of earlier requests: when every resource decodes to `false`, the query
sends one request per resource, in the set's order, and answers `false`; when
the first resource that does not decode to `false` is `x`, it sends the
requests up to and including `x`'s and none after, and answers what `x`'s did
(`true`, or its error); so it answers `false` exactly when every resource
decodes to `false`. Each request names its resource's api version and kind,
no selector, and the instant; what it answers is the router's reply to it,
decoded as a `bool`, or the error of its send, of its reply channel or of the
router. -/
theorem have_allowed_resources_changed_law (allowedResources : ResourceSet) (since : ℕ)
    (log : Log) :
    (AllUnchanged router serdeError since log allowedResources.toList →
      haveAllowedResourcesChangedSinceInstant router serdeError allowedResources since log =
        (.ok false, log ++ allowedResources.toList.map (changedRequest since))) ∧
    (∀ pre x post, allowedResources.toList = pre ++ x :: post →
      AllUnchanged router serdeError since log pre →
      (hasResourceChangedSince router serdeError x since
        (log ++ pre.map (changedRequest since))).1 ≠ .ok false →
      haveAllowedResourcesChangedSinceInstant router serdeError allowedResources since log =
        ((hasResourceChangedSince router serdeError x since
            (log ++ pre.map (changedRequest since))).1,
          log ++ (pre ++ [x]).map (changedRequest since))) ∧
    ((haveAllowedResourcesChangedSinceInstant router serdeError allowedResources since log).1 =
        .ok false ↔
      AllUnchanged router serdeError since log allowedResources.toList) ∧
    (∀ resource log, (hasResourceChangedSince router serdeError resource since log).1 =
      match router (log ++ [changedRequest since resource]) with
      | .sendFailed e => .error (.callbackSend e.toString)
      | .dropped => .error (.callbackResponse "channel closed")
      | .replied (.ok response) =>
        (fromSliceBool serdeError response.payload).mapError .callbackConvertBool
      | .replied (.error e) => .error (.callbackRequest e)) ∧
    (∀ r, changedRequest since r =
      .hasKubernetesListResourceAllResultChangedSinceInstant r.apiVersion r.kind none none since) := by
  refine ⟨haveChangedLoop_unchanged router serdeError since _ log,
    fun pre x post hL hpre hx => by
      rw [haveAllowedResourcesChangedSinceInstant, hL]
      exact haveChangedLoop_first router serdeError since pre x post log hpre hx,
    ⟨fun h => ?_, fun h => by
      rw [haveAllowedResourcesChangedSinceInstant,
        haveChangedLoop_unchanged router serdeError since _ log h]⟩,
    fun _ _ => requestAndDecode_fst .., fun _ => rfl⟩
  by_contra hn
  obtain ⟨pre, x, post, hL, hpre, hx⟩ := exists_first_change router serdeError since _ log hn
  rw [haveAllowedResourcesChangedSinceInstant, hL,
    haveChangedLoop_first router serdeError since pre x post log hpre hx] at h
  exact hx h

/-! ### Lists and plural names of the allowed resources -/

/-- A `BTreeMap<ContextAwareResource, V>`, as the value it holds at each key. -/
def ResourceMap (V : Type) : Type := ContextAwareResource → Option V

namespace ResourceMap

variable {V : Type}

/-- `BTreeMap::new`. -/
def empty : ResourceMap V := fun _ => none

/-- `BTreeMap::insert`, which replaces the value of a present key. -/
def insert (m : ResourceMap V) (k : ContextAwareResource) (v : V) : ResourceMap V :=
  fun k' => if k' = k then some v else m k'

@[simp] theorem empty_apply (k : ContextAwareResource) : (empty : ResourceMap V) k = none := rfl

@[simp] theorem insert_apply (m : ResourceMap V) (k k' : ContextAwareResource) (v : V) :
    m.insert k v k' = if k' = k then some v else m k' := rfl

end ResourceMap

/-- The request `get_all_resources_by_type` sends: every object of the resource's kind, with no
label or field selector. -/
def listRequest (resourceType : ContextAwareResource) : CallbackRequestType :=
  .kubernetesListResourceAll resourceType.apiVersion resourceType.kind none none

/-- The request `get_plural_names` sends for a resource. -/
def pluralRequest (resource : ContextAwareResource) : CallbackRequestType :=
  .kubernetesGetResourcePluralName resource.apiVersion resource.kind

/-- The loop of `get_allowed_resources` and `get_plural_names` over the resources left: fetch
each resource's value in turn and insert it, returning at the first error (the `?`). -/
def collectLoop {V : Type} (fetch : ContextAwareResource → Log → Except RegoRuntimeError V × Log) :
    List ContextAwareResource → ResourceMap V → Log → Except RegoRuntimeError (ResourceMap V) × Log
  | [], m, log => (.ok m, log)
  | resource :: rest, m, log =>
    match fetch resource log with
    | (.ok v, log) => collectLoop fetch rest (m.insert resource v) log
    | (.error e, log) => (.error e, log)


/-! ### The law of the collect loops -/

section CollectLaw

variable {V : Type} (req : ContextAwareResource → CallbackRequestType)
  (fetch : ContextAwareResource → Log → Except RegoRuntimeError V × Log)

/-- Each resource of the list, fetched in turn from `log`, succeeds. -/
def AllOk : Log → List ContextAwareResource → Prop
  | _, [] => True
  | log, resource :: rest =>
    (∃ v, (fetch resource log).1 = .ok v) ∧ AllOk (log ++ [req resource]) rest

variable {req fetch}

/-- When not every fetch succeeds, one is the first to fail. -/
theorem exists_first_error :
    ∀ (L : List ContextAwareResource) (log : Log), ¬ AllOk req fetch log L →
      ∃ pre x post e, L = pre ++ x :: post ∧ AllOk req fetch log pre ∧
        (fetch x (log ++ pre.map req)).1 = .error e
  | [], _, h => absurd trivial h
  | resource :: rest, log, h => by
    rcases hr : (fetch resource log).1 with e | v
    · exact ⟨[], resource, rest, e, rfl, trivial, by simpa using hr⟩
    · obtain ⟨pre, x, post, e, rfl, hpre, hx⟩ :=
        exists_first_error rest _ fun h' => h ⟨⟨v, hr⟩, h'⟩
      exact ⟨resource :: pre, x, post, e, rfl, ⟨⟨v, hr⟩, hpre⟩, by simpa using hx⟩

/-- What a loop that fetches each resource of a set in turn promises, from any log of
earlier requests. -/
structure FetchesEachInOrder (req : ContextAwareResource → CallbackRequestType)
    (fetch : ContextAwareResource → Log → Except RegoRuntimeError V × Log)
    (loop : ResourceSet → Log → Except RegoRuntimeError (ResourceMap V) × Log) : Prop where
  /-- When every fetch succeeds: one request per resource, in the set's order, and a map whose
  keys are exactly the set, each holding the value of its own fetch. -/
  all_ok : ∀ S log, AllOk req fetch log S.toList →
    ∃ m, loop S log = (.ok m, log ++ S.toList.map req) ∧ (∀ r, (m r).isSome ↔ r ∈ S.toList) ∧
      ∀ pre r post, S.toList = pre ++ r :: post →
        ∃ v, (fetch r (log ++ pre.map req)).1 = .ok v ∧ m r = some v
  /-- At the first failing fetch: its request is the last one sent and its error is returned. -/
  first_error : ∀ S log pre x post e, S.toList = pre ++ x :: post → AllOk req fetch log pre →
    (fetch x (log ++ pre.map req)).1 = .error e →
    loop S log = (.error e, log ++ (pre ++ [x]).map req)
  /-- It succeeds exactly when every fetch does. -/
  ok_iff : ∀ S log, (∃ m, (loop S log).1 = .ok m) ↔ AllOk req fetch log S.toList

variable (hlog : ∀ resource log, (fetch resource log).2 = log ++ [req resource])
include hlog

/-- One round of the loop: fetch `resource`, then go on with its value inserted or stop. -/
theorem collectLoop_cons (resource : ContextAwareResource) (rest : List ContextAwareResource)
    (m : ResourceMap V) (log : Log) :
    collectLoop fetch (resource :: rest) m log =
      match (fetch resource log).1 with
      | .ok v => collectLoop fetch rest (m.insert resource v) (log ++ [req resource])
      | .error e => (.error e, log ++ [req resource]) := by
  rw [collectLoop, ← hlog]
  rcases fetch resource log with ⟨_ | _, _⟩ <;> rfl

/-- When every fetch succeeds, the loop sends one request per resource, in order, and
returns a map. -/
theorem collectLoop_allOk :
    ∀ (L : List ContextAwareResource) (m : ResourceMap V) (log : Log), AllOk req fetch log L →
      ∃ m', collectLoop fetch L m log = (.ok m', log ++ L.map req)
  | [], m, log, _ => ⟨m, by simp [collectLoop]⟩
  | resource :: rest, m, log, ⟨⟨v, hv⟩, hrest⟩ => by
    obtain ⟨m', hm'⟩ := collectLoop_allOk rest (m.insert resource v) _ hrest
    exact ⟨m', by rw [collectLoop_cons hlog, hv]; simp [hm']⟩

/-- A successful round fetched a value and went on with it inserted. -/
theorem collectLoop_cons_ok {resource : ContextAwareResource} {rest : List ContextAwareResource}
    {m m' : ResourceMap V} {log log' : Log}
    (h : collectLoop fetch (resource :: rest) m log = (.ok m', log')) :
    ∃ v, (fetch resource log).1 = .ok v ∧
      collectLoop fetch rest (m.insert resource v) (log ++ [req resource]) = (.ok m', log') := by
  rw [collectLoop_cons hlog] at h
  rcases hv : (fetch resource log).1 with e | v <;> rw [hv] at h
  · cases h
  · exact ⟨v, rfl, h⟩

/-- A successful loop leaves each resource outside its list as it was. -/
theorem collectLoop_ok_frame {m' : ResourceMap V} {log' : Log} (r : ContextAwareResource) :
    ∀ (L : List ContextAwareResource) (m : ResourceMap V) (log : Log),
      collectLoop fetch L m log = (.ok m', log') → r ∉ L → m' r = m r
  | [], m, log, h, _ => by cases h; rfl
  | resource :: rest, m, log, h, hr => by
    obtain ⟨v, -, hrest⟩ := collectLoop_cons_ok hlog h
    rw [collectLoop_ok_frame r rest _ _ hrest (fun h => hr (.tail _ h)),
      ResourceMap.insert_apply, if_neg (by rintro rfl; exact hr (List.mem_cons_self _ _))]

/-- In a successful loop over distinct resources, each resource holds the value of its own
fetch, made after the requests of the resources before it. -/
theorem collectLoop_ok_value {m' : ResourceMap V} {log' : Log} :
    ∀ (pre : List ContextAwareResource) (r : ContextAwareResource) (post : List ContextAwareResource)
      (m : ResourceMap V) (log : Log), (pre ++ r :: post).Nodup →
      collectLoop fetch (pre ++ r :: post) m log = (.ok m', log') →
      ∃ v, (fetch r (log ++ pre.map req)).1 = .ok v ∧ m' r = some v
  | [], r, post, m, log, hnd, h => by
    obtain ⟨v, hv, hrest⟩ := collectLoop_cons_ok hlog h
    refine ⟨v, by simpa using hv, ?_⟩
    rw [collectLoop_ok_frame hlog r post _ _ hrest (List.nodup_cons.1 hnd).1]
    simp
  | p :: pre, r, post, m, log, hnd, h => by
    obtain ⟨_, -, hrest⟩ := collectLoop_cons_ok hlog h
    simpa using collectLoop_ok_value pre r post _ _ (List.nodup_cons.1 hnd).2 hrest

/-- When the fetches before `x` succeed and `x`'s fails, the loop stops right after `x`'s
request, with `x`'s error. -/
theorem collectLoop_first_error {e : RegoRuntimeError} :
    ∀ (pre : List ContextAwareResource) (x : ContextAwareResource) (post : List ContextAwareResource)
      (m : ResourceMap V) (log : Log), AllOk req fetch log pre →
      (fetch x (log ++ pre.map req)).1 = .error e →
      collectLoop fetch (pre ++ x :: post) m log = (.error e, log ++ (pre ++ [x]).map req)
  | [], x, post, m, log, _, hx => by
    have hx : (fetch x log).1 = .error e := by simpa using hx
    rw [List.nil_append, collectLoop_cons hlog, hx]
    simp
  | p :: pre, x, post, m, log, ⟨⟨v, hv⟩, hpre⟩, hx => by
    rw [List.cons_append, collectLoop_cons hlog, hv]
    simpa using collectLoop_first_error pre x post _ _ hpre (by simpa using hx)

/-- The collect loop, started from the empty map, keeps that promise for any fetch that sends
one request. -/
theorem collectLoop_fetchesEachInOrder :
    FetchesEachInOrder req fetch fun S log => collectLoop fetch S.toList .empty log where
  all_ok S log h := by
    obtain ⟨m, hm⟩ := collectLoop_allOk hlog _ _ log h
    have hval : ∀ pre r post, S.toList = pre ++ r :: post →
        ∃ v, (fetch r (log ++ pre.map req)).1 = .ok v ∧ m r = some v := fun pre r post hS => by
      rw [hS] at hm
      exact collectLoop_ok_value hlog pre r post _ _ (hS ▸ S.nodup) hm
    refine ⟨m, hm, fun r => ⟨fun hs => ?_, fun hr => ?_⟩, hval⟩
    · by_contra hr
      simp [collectLoop_ok_frame hlog r _ _ _ hm hr] at hs
    · obtain ⟨pre, post, hS⟩ := List.append_of_mem hr
      obtain ⟨v, -, hv⟩ := hval pre r post hS
      simp [hv]
  first_error S log pre x post e hS hpre hx := by
    rw [hS]
    exact collectLoop_first_error hlog pre x post _ log hpre hx
  ok_iff S log := by
    refine ⟨fun ⟨m, h⟩ => ?_, fun h => ?_⟩
    · by_contra hn
      obtain ⟨pre, x, post, e, hS, hpre, hx⟩ := exists_first_error _ log hn
      rw [hS, collectLoop_first_error hlog pre x post _ log hpre hx] at h
      cases h
    · obtain ⟨m, hm⟩ := collectLoop_allOk hlog _ _ log h
      exact ⟨m, by rw [hm]⟩

end CollectLaw

section Collect

variable {ObjectList : Type} (fromSliceObjectList : List UInt8 → Except String ObjectList)
  (fromSliceString : List UInt8 → Except String String)

/-- `get_all_resources_by_type`; `fromSliceObjectList` is
`serde_json::from_slice::<ObjectList<DynamicObject>>`. -/
def getAllResourcesByType (resourceType : ContextAwareResource) (log : Log) :
    Except RegoRuntimeError ObjectList × Log :=
  requestAndDecode router fromSliceObjectList .callbackConvertList (listRequest resourceType) log

/-- `get_allowed_resources`. -/
def getAllowedResources (allowedResources : ResourceSet) (log : Log) :
    Except RegoRuntimeError (ResourceMap ObjectList) × Log :=
  collectLoop (getAllResourcesByType router fromSliceObjectList) allowedResources.toList .empty log

/-- The body of the loop of `get_plural_names` for one resource; `fromSliceString` is
`serde_json::from_slice::<String>`. -/
def pluralNameOf (resource : ContextAwareResource) (log : Log) :
    Except RegoRuntimeError String × Log :=
  requestAndDecode router fromSliceString .callbackGetPluralName (pluralRequest resource) log

/-- `get_plural_names`. -/
def getPluralNames (allowedResources : ResourceSet) (log : Log) :
    Except RegoRuntimeError (ResourceMap String) × Log :=
  collectLoop (pluralNameOf router fromSliceString) allowedResources.toList .empty log

/-- **Each allowed resource is asked for once, in order, and keeps its own reply.** For every
set, router and decoder, from any log of earlier requests, `get_allowed_resources` and
`get_plural_names` keep the promise of `FetchesEachInOrder` with their own request and fetch;
a fetch answers the router's reply to its request decoded, or the error of its send, of its
reply channel, of the router or of the decoder, so it succeeds exactly when the router replies
with a response whose payload decodes, and its value is that decoding; the list request names
the resource's api version and kind and no selector, the plural-name request its api version
and kind. -/
theorem get_allowed_resources_law :
    FetchesEachInOrder listRequest (getAllResourcesByType router fromSliceObjectList)
      (getAllowedResources router fromSliceObjectList) ∧
    FetchesEachInOrder pluralRequest (pluralNameOf router fromSliceString)
      (getPluralNames router fromSliceString) ∧
    (∀ resource log, (getAllResourcesByType router fromSliceObjectList resource log).1 =
      match router (log ++ [listRequest resource]) with
      | .sendFailed e => .error (.callbackSend e.toString)
      | .dropped => .error (.callbackResponse "channel closed")
      | .replied (.ok response) => (fromSliceObjectList response.payload).mapError .callbackConvertList
      | .replied (.error e) => .error (.callbackRequest e)) ∧
    (∀ resource log, (pluralNameOf router fromSliceString resource log).1 =
      match router (log ++ [pluralRequest resource]) with
      | .sendFailed e => .error (.callbackSend e.toString)
      | .dropped => .error (.callbackResponse "channel closed")
      | .replied (.ok response) => (fromSliceString response.payload).mapError .callbackGetPluralName
      | .replied (.error e) => .error (.callbackRequest e)) ∧
    (∀ resource log list,
      (getAllResourcesByType router fromSliceObjectList resource log).1 = .ok list ↔
        ∃ response, router (log ++ [listRequest resource]) = .replied (.ok response) ∧
          fromSliceObjectList response.payload = .ok list) ∧
    (∀ resource log name, (pluralNameOf router fromSliceString resource log).1 = .ok name ↔
      ∃ response, router (log ++ [pluralRequest resource]) = .replied (.ok response) ∧
        fromSliceString response.payload = .ok name) ∧
    (∀ r, listRequest r = .kubernetesListResourceAll r.apiVersion r.kind none none) ∧
    (∀ r, pluralRequest r = .kubernetesGetResourcePluralName r.apiVersion r.kind) :=
  ⟨collectLoop_fetchesEachInOrder fun _ _ => rfl, collectLoop_fetchesEachInOrder fun _ _ => rfl,
    fun _ _ => requestAndDecode_fst .., fun _ _ => requestAndDecode_fst ..,
    fun _ _ _ => requestAndDecode_ok .., fun _ _ _ => requestAndDecode_ok ..,
    fun _ => rfl, fun _ => rfl⟩

end Collect

end Rego
end Kubewarden
