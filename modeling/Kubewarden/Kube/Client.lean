/-
# The Kubernetes client as a machine of interleaved calls

`Client` (policy-evaluator, `callback_handler/kubernetes/client.rs`) is cloned
freely; the clones share two maps behind `Arc<RwLock<..>>`: the discovery cache
`kube_resources` and the reflectors by id. A call reaches the maps only in its
lock sections and its awaits, so a run of the clones is an interleaving of
these atomic steps of the calls in flight:

* `build_kube_resource`: look the resource up under the read lock (`buildLookup`);
  on a miss, run discovery and insert under the write lock (`buildDiscover`);
* `get_reflector_reader`: look the id up under the read lock (`afterBuild`);
  on a miss, await `Reflector::create_and_run` (`createAndRun`); then insert
  under the write lock (`insertReflector`);
* `list_resources_from_reflector` reads `reader.state()` (`readStore`);
* `have_reflector_resources_changed_since` reads the reflector's
  `last_change_seen_at` under the read lock.

A reflector is an identity `uid`; its store and its last-change instant are
kept by its watch task, a step of its own (`Event.watch`). The world also
carries two ghost logs: every result `build_kube_resource` returned, and every
id `create_and_run` was started for, with the uid of the reflector it returned.

`Reflector::compute_id` and `create_and_run` live in `reflector.rs`, which is
not among the sources: the id is a parameter `computeId`, and the outcome of a
`create_and_run` is chosen by the scheduler's event.
-/
import Kubewarden.Kube.Resource
import Mathlib.Logic.Function.Basic

namespace Kubewarden
namespace Kube

/-- A `HashMap` as the client uses it: lookups and inserts. -/
def KMap (K V : Type) : Type := K → Option V

namespace KMap

variable {K V : Type}

/-- The empty map. -/
def empty : KMap K V := fun _ => none

@[simp] theorem empty_apply (k : K) : (empty : KMap K V) k = none := rfl

variable [DecidableEq K]

/-- `HashMap::insert`, which replaces the value of a present key. -/
def insert (m : KMap K V) (k : K) (v : V) : KMap K V := fun k' => if k' = k then some v else m k'

@[simp] theorem insert_self (m : KMap K V) (k : K) (v : V) : m.insert k v k = some v := by
  simp [insert]

theorem insert_apply (m : KMap K V) (k k' : K) (v : V) :
    m.insert k v k' = if k' = k then some v else m k' := rfl

theorem insert_isSome {m : KMap K V} {k k' : K} {v : V} (h : (m k').isSome) :
    (m.insert k v k').isSome := by
  rw [insert_apply]; split_ifs <;> simp_all

end KMap

/-- An object held by a reflector. -/
structure DynamicObject where
  json : String
  deriving DecidableEq, Repr

/-- `ObjectList<DynamicObject>` as `list_resources_from_reflector` builds it. -/
structure ObjectList where
  apiVersion : String
  kind : String
  items : List DynamicObject
  deriving DecidableEq, Repr

/-- A reflector started by `create_and_run`; its reader reads its store. -/
structure Reflector where
  uid : ℕ
  deriving DecidableEq, Repr

/-- The shared state of the clones, the reflectors' own state, and the ghost logs. -/
structure World where
  kubeResources : KMap ApiVersionKind KubeResource
  reflectors : KMap String Reflector
  store : ℕ → List DynamicObject
  lastChangeSeenAt : ℕ → ℕ
  nextUid : ℕ
  now : ℕ
  builds : List (ApiVersionKind × Except String KubeResource)
  createCalls : List (String × Option ℕ)

/-- The calls of a clone that reach the shared maps. -/
inductive Call
  | listResourcesAll (apiVersion kind : String) (labelSelector fieldSelector : Option String)
  | listResourcesByNamespace (apiVersion kind ns : String)
      (labelSelector fieldSelector : Option String)
  | hasListResourcesAllResultChangedSinceInstant (apiVersion kind : String)
      (labelSelector fieldSelector : Option String) (since : ℕ)
  | getResourcePluralName (apiVersion kind : String)
  deriving DecidableEq, Repr

namespace Call

/-- The api version a call asks about. -/
def apiVersion : Call → String
  | listResourcesAll av .. | listResourcesByNamespace av .. => av
  | hasListResourcesAllResultChangedSinceInstant av .. | getResourcePluralName av _ => av

/-- The kind a call asks about. -/
def kind : Call → String
  | listResourcesAll _ k .. | listResourcesByNamespace _ k .. => k
  | hasListResourcesAllResultChangedSinceInstant _ k .. | getResourcePluralName _ k => k

/-- The namespace of a listing call (`None` for `list_resources_all`). -/
def ns? : Call → Option String
  | listResourcesByNamespace _ _ ns _ _ => some ns
  | _ => none

/-- The label selector of a call. -/
def labelSelector : Call → Option String
  | listResourcesAll _ _ l _ | listResourcesByNamespace _ _ _ l _ => l
  | hasListResourcesAllResultChangedSinceInstant _ _ l _ _ => l
  | getResourcePluralName _ _ => none

/-- The field selector of a call. -/
def fieldSelector : Call → Option String
  | listResourcesAll _ _ _ f | listResourcesByNamespace _ _ _ _ f => f
  | hasListResourcesAllResultChangedSinceInstant _ _ _ f _ => f
  | getResourcePluralName _ _ => none

/-- The calls that list from a reflector. -/
def IsListing : Call → Prop
  | listResourcesAll .. | listResourcesByNamespace .. => True
  | _ => False

end Call

instance decEqExcept {ε α : Type} [DecidableEq ε] [DecidableEq α] : DecidableEq (Except ε α)
  | .ok x, .ok y => decidable_of_iff (x = y) (by simp)
  | .error x, .error y => decidable_of_iff (x = y) (by simp)
  | .ok _, .error _ => isFalse (by simp)
  | .error _, .ok _ => isFalse (by simp)

/-- What a call returns. -/
inductive Reply
  | list (l : ObjectList)
  | changed (b : Bool)
  | plural (name : String)
  deriving DecidableEq, Repr

/-- Where a call is: before an atomic step of its code, or returned. -/
inductive Phase
  | start
  | discover
  | resolved (kr : KubeResource)
  | create (kr : KubeResource)
  | insert (kr : KubeResource) (r : Reflector)
  | read (kr : KubeResource) (reader : ℕ)
  | done (result : Except String Reply)
  deriving DecidableEq, Repr

/-- The resource `build_kube_resource` returned to a call, once it has. -/
def Phase.resource? : Phase → Option KubeResource
  | .resolved kr | .create kr | .insert kr _ | .read kr _ => some kr
  | _ => none

variable (D : Discovery) (computeId : KubeResource → Option String → Option String → Option String → String)

/-- The id `list_resources_from_reflector` computes for a listing call. -/
def reflectorIdOf (kr : KubeResource) (c : Call) : String :=
  computeId kr c.ns? c.labelSelector c.fieldSelector

/-- The read-locked lookup of `build_kube_resource`. -/
def buildLookup (w : World) (c : Call) : World × Phase :=
  match w.kubeResources ⟨c.apiVersion, c.kind⟩ with
  | some kr => ({ w with builds := w.builds ++ [(⟨c.apiVersion, c.kind⟩, .ok kr)] }, .resolved kr)
  | none => (w, .discover)

/-- The miss path of `build_kube_resource`: discovery, then the insert under the
write lock; an error returns before the insert. -/
def buildDiscover (w : World) (c : Call) : World × Phase :=
  match discoverKubeResource D c.apiVersion c.kind with
  | .ok kr =>
    ({ w with kubeResources := w.kubeResources.insert ⟨c.apiVersion, c.kind⟩ kr
              builds := w.builds ++ [(⟨c.apiVersion, c.kind⟩, .ok kr)] }, .resolved kr)
  | .error e => ({ w with builds := w.builds ++ [(⟨c.apiVersion, c.kind⟩, .error e)] }, .done (.error e))

/-- The read-locked lookup of `get_reflector_reader`. -/
def lookupReflector (w : World) (kr : KubeResource) (reflectorId : String) : Phase :=
  match w.reflectors reflectorId with
  | some r => .read kr r.uid
  | none => .create kr

/-- `have_reflector_resources_changed_since` on the reflector of `reflectorId`:
a missing reflector counts as changed. -/
def haveReflectorResourcesChangedSince (w : World) (reflectorId : String) (since : ℕ) : Bool :=
  match w.reflectors reflectorId with
  | some r => decide (since < w.lastChangeSeenAt r.uid)
  | none => true

/-- The step after `build_kube_resource` returned `kr`. -/
def afterBuild (w : World) (kr : KubeResource) : Call → Phase
  | c@(.listResourcesAll ..) => lookupReflector w kr (reflectorIdOf computeId kr c)
  | c@(.listResourcesByNamespace av k ..) =>
    if !kr.namespaced then
      .done (.error ("resource " ++ av ++ "/" ++ k ++
        " is cluster wide. Cannot search for it inside of a namespace"))
    else lookupReflector w kr (reflectorIdOf computeId kr c)
  | .hasListResourcesAllResultChangedSinceInstant _ _ l f since =>
    .done (.ok (.changed (haveReflectorResourcesChangedSince w (computeId kr none l f) since)))
  | .getResourcePluralName _ _ => .done (.ok (.plural kr.resource.plural))

/-- The await of `Reflector::create_and_run`: a new reflector, or the error `e`. -/
def createAndRun (w : World) (kr : KubeResource) (c : Call) (err : Option String) :
    World × Phase :=
  match err with
  | none =>
    ({ w with nextUid := w.nextUid + 1
              store := Function.update w.store w.nextUid []
              lastChangeSeenAt := Function.update w.lastChangeSeenAt w.nextUid w.now
              createCalls := w.createCalls ++ [(reflectorIdOf computeId kr c, some w.nextUid)] },
      .insert kr ⟨w.nextUid⟩)
  | some e =>
    ({ w with createCalls := w.createCalls ++ [(reflectorIdOf computeId kr c, none)] },
      .done (.error e))

/-- The write-locked insert of `get_reflector_reader`. -/
def insertReflector (w : World) (kr : KubeResource) (c : Call) (r : Reflector) : World × Phase :=
  ({ w with reflectors := w.reflectors.insert (reflectorIdOf computeId kr c) r }, .read kr r.uid)

/-- `reader.state()` into the `ObjectList` of `list_resources_from_reflector`. -/
def readStore (w : World) (kr : KubeResource) (reader : ℕ) : Phase :=
  .done (.ok (.list ⟨kr.resource.apiVersion, kr.resource.kind ++ "List", w.store reader⟩))

/-- One atomic step of a call; `err` is the outcome of a `create_and_run`. -/
def threadStep (w : World) (c : Call) (err : Option String) : Phase → Option (World × Phase)
  | .start => some (buildLookup w c)
  | .discover => some (buildDiscover D w c)
  | .resolved kr => some (w, afterBuild computeId w kr c)
  | .create kr => some (createAndRun computeId w kr c err)
  | .insert kr r => some (insertReflector computeId w kr c r)
  | .read kr reader => some (w, readStore w kr reader)
  | .done _ => none

/-- The world and the calls made so far, each with where it is. -/
structure Sys where
  world : World
  threads : List (Call × Phase)

/-- A step of a run: a clone starts a call, a call takes a step, a reflector's
watch task applies an event, or time passes. -/
inductive Event
  | spawn (c : Call)
  | run (i : ℕ) (err : Option String)
  | watch (uid : ℕ) (items : List DynamicObject)
  | tick

/-- The client as `Client::new` leaves it. -/
def Sys.init : Sys :=
  ⟨⟨KMap.empty, KMap.empty, fun _ => [], fun _ => 0, 0, 0, [], []⟩, []⟩

/-- The machine's step. -/
def step (s : Sys) : Event → Option Sys
  | .spawn c => some ⟨s.world, s.threads ++ [(c, .start)]⟩
  | .run i err =>
    match s.threads[i]? with
    | some (c, ph) =>
      (threadStep D computeId s.world c err ph).map fun p => ⟨p.1, s.threads.set i (c, p.2)⟩
    | none => none
  | .watch uid items =>
    if uid < s.world.nextUid then
      some ⟨{ s.world with store := Function.update s.world.store uid items
                           lastChangeSeenAt := Function.update s.world.lastChangeSeenAt uid s.world.now },
        s.threads⟩
    else none
  | .tick => some ⟨{ s.world with now := s.world.now + 1 }, s.threads⟩

/-- The states a run of the clones reaches. -/
inductive Reachable : Sys → Prop
  | init : Reachable Sys.init
  | step {s s' : Sys} (e : Event) : Reachable s → step D computeId s e = some s' → Reachable s'

/-- The states reached from `s` by further steps. -/
inductive Later : Sys → Sys → Prop
  | refl (s : Sys) : Later s s
  | step {s s' s'' : Sys} (e : Event) : Later s s' → step D computeId s' e = some s'' → Later s s''

/-- A schedule run from a state. -/
def run (s : Sys) : List Event → Option Sys
  | [] => some s
  | e :: es => (step D computeId s e).bind fun s' => run s' es

end Kube
end Kubewarden
