/-
# Resolving a resource from the discovery data

The miss path of `Client::build_kube_resource` (policy-evaluator,
`callback_handler/kubernetes/client.rs`): list the resources of the api
version (core discovery for `v1`, group discovery otherwise), take the first
entry of the wanted kind, and split the api version into group and version.
`discoverKubeResource` is that computation; the cache around it is
`Kube.Client`.

The entry taken is the first one of the kind, whether it names a resource
(`pods`) or one of its subresources (`pods/status`, which also reports kind
`Pod`) (`discoverKubeResource_first_entry`): when a subresource comes first,
the result addresses that subresource (`discoverKubeResource_subresource_first`).
-/
import Mathlib.Data.List.Basic

namespace Kubewarden
namespace Kube

/-- `ApiVersionKind`, the key of the discovery cache. -/
structure ApiVersionKind where
  apiVersion : String
  kind : String
  deriving DecidableEq, Repr

/-- `kube::api::ApiResource`. -/
structure ApiResource where
  group : String
  version : String
  apiVersion : String
  kind : String
  plural : String
  deriving DecidableEq, Repr

/-- `KubeResource`: a resolved resource and whether it is namespaced. -/
structure KubeResource where
  resource : ApiResource
  namespaced : Bool
  deriving DecidableEq, Repr

/-- An entry of a discovery list: its name (`pods`, or `pods/status` for a
subresource), its kind and its scope. -/
structure APIResource where
  name : String
  kind : String
  namespaced : Bool
  deriving DecidableEq, Repr

/-- The API server's discovery data, fixed: the resources of the core group
(`list_core_api_resources`) and of a group version (`list_api_group_resources`),
or the error of the call. -/
structure Discovery where
  listCoreApiResources : String → Except String (List APIResource)
  listApiGroupResources : String → Except String (List APIResource)

/-- `str::split_once`: the parts before and after the first `c`. -/
def splitOnce (s : String) (c : Char) : Option (String × String) :=
  match s.toList.span (· ≠ c) with
  | (_, []) => none
  | (pre, _ :: post) => some (String.mk pre, String.mk post)

variable (D : Discovery)

/-- The discovery call of `build_kube_resource`, with its error. -/
def resourcesListOf (apiVersion kind : String) : Except String (List APIResource) :=
  if apiVersion = "v1" then D.listCoreApiResources apiVersion
  else (D.listApiGroupResources apiVersion).mapError fun e =>
    "error finding resource " ++ apiVersion ++ " / " ++ kind ++ ": " ++ e

/-- What `build_kube_resource` computes when the cache misses. -/
def discoverKubeResource (apiVersion kind : String) : Except String KubeResource := do
  let resourcesList ← resourcesListOf D apiVersion kind
  let resource ← match resourcesList.find? (·.kind = kind) with
    | some r => pure r
    | none => throw ("Cannot find resource " ++ apiVersion ++ "/" ++ kind)
  let (group, version) ← if apiVersion = "v1" then pure ("", "v1")
    else match splitOnce apiVersion '/' with
      | some gv => pure gv
      | none => throw ("cannot determine group and version for " ++ apiVersion)
  pure ⟨⟨group, version, apiVersion, kind, resource.name⟩, resource.namespaced⟩

theorem discoverKubeResource_eq_ok {apiVersion kind : String} {kr : KubeResource}
    (h : discoverKubeResource D apiVersion kind = .ok kr) :
    ∃ L r, resourcesListOf D apiVersion kind = .ok L ∧ L.find? (·.kind = kind) = some r ∧
      kr.resource.apiVersion = apiVersion ∧ kr.resource.kind = kind ∧
      kr.resource.plural = r.name ∧ kr.namespaced = r.namespaced := by
  unfold discoverKubeResource at h
  rcases hL : resourcesListOf D apiVersion kind with e | L <;>
    simp only [hL, bind, Except.bind] at h
  · cases h
  rcases hr : L.find? (·.kind = kind) with _ | r <;> simp only [hr, throw, throwThe,
    MonadExceptOf.throw, pure, Except.pure] at h
  · cases h
  refine ⟨L, r, rfl, hr, ?_⟩
  split_ifs at h
  · cases h; exact ⟨rfl, rfl, rfl, rfl⟩
  · rcases hs : splitOnce apiVersion '/' with _ | ⟨g, v⟩ <;> simp only [hs] at h <;> cases h
    exact ⟨rfl, rfl, rfl, rfl⟩

/-- The resolved resource keeps the api version and kind it was asked for. -/
theorem discoverKubeResource_coordinates {apiVersion kind : String} {kr : KubeResource}
    (h : discoverKubeResource D apiVersion kind = .ok kr) :
    kr.resource.apiVersion = apiVersion ∧ kr.resource.kind = kind := by
  obtain ⟨_, _, _, _, h1, h2, _⟩ := discoverKubeResource_eq_ok D h
  exact ⟨h1, h2⟩

theorem find?_eq_of_first {L pre post : List APIResource} {r : APIResource} {kind : String}
    (hL : L = pre ++ r :: post) (hpre : ∀ x ∈ pre, x.kind ≠ kind) (hr : r.kind = kind) :
    L.find? (·.kind = kind) = some r := by
  subst hL
  induction pre with
  | nil => simp [hr]
  | cons x xs ih =>
    simp only [List.mem_cons, forall_eq_or_imp] at hpre
    simp [hpre.1, ih hpre.2]

/-- **Discovery takes the first entry of the kind.** Whatever the order of the
list, the resolved resource has the plural name and scope of the first entry
whose kind is `kind`, a resource or a subresource alike. -/
theorem discoverKubeResource_first_entry (apiVersion kind : String) (L : List APIResource)
    (hL : resourcesListOf D apiVersion kind = .ok L) (kr : KubeResource)
    (h : discoverKubeResource D apiVersion kind = .ok kr) (pre post : List APIResource)
    (r : APIResource) (hsplit : L = pre ++ r :: post) (hpre : ∀ x ∈ pre, x.kind ≠ kind)
    (hr : r.kind = kind) :
    kr.resource.plural = r.name ∧ kr.namespaced = r.namespaced := by
  obtain ⟨L', r', hL', hr', -, -, hp, hn⟩ := discoverKubeResource_eq_ok D h
  rw [hL] at hL'
  cases hL'
  rw [find?_eq_of_first hsplit hpre hr] at hr'
  cases hr'
  exact ⟨hp, hn⟩

/-- Core discovery that names `pods` before its subresource `pods/status`. -/
def podsFirst : Discovery where
  listCoreApiResources _ := .ok [⟨"pods", "Pod", true⟩, ⟨"pods/status", "Pod", true⟩]
  listApiGroupResources _ := .error "not found"

theorem discoverKubeResource_first_entry_pods :
    resourcesListOf podsFirst "v1" "Pod" = .ok [⟨"pods", "Pod", true⟩, ⟨"pods/status", "Pod", true⟩] ∧
    discoverKubeResource podsFirst "v1" "Pod" = .ok ⟨⟨"", "v1", "v1", "Pod", "pods"⟩, true⟩ ∧
    [⟨"pods", "Pod", true⟩, ⟨"pods/status", "Pod", true⟩] =
      ([] : List APIResource) ++ ⟨"pods", "Pod", true⟩ :: [⟨"pods/status", "Pod", true⟩] ∧
    (∀ x ∈ ([] : List APIResource), x.kind ≠ "Pod") ∧ ("Pod" : String) = "Pod" ∧
    (KubeResource.mk ⟨"", "v1", "v1", "Pod", "pods"⟩ true).resource.plural = "pods" ∧
      (KubeResource.mk ⟨"", "v1", "v1", "Pod", "pods"⟩ true).namespaced = true :=
  ⟨rfl, rfl, rfl, by simp, rfl, discoverKubeResource_first_entry podsFirst "v1" "Pod" _ rfl _ rfl
    [] [⟨"pods/status", "Pod", true⟩] ⟨"pods", "Pod", true⟩ rfl (by simp) rfl⟩

/-- Core discovery that names the subresource `pods/status` before `pods`. -/
def subresourceFirst : Discovery where
  listCoreApiResources _ := .ok [⟨"pods/status", "Pod", true⟩, ⟨"pods", "Pod", true⟩]
  listApiGroupResources _ := .error "not found"

/-- A list with the top-level `pods` resolves `Pod` to the subresource
`pods/status` when that comes first. -/
theorem discoverKubeResource_subresource_first :
    resourcesListOf subresourceFirst "v1" "Pod" =
      .ok [⟨"pods/status", "Pod", true⟩, ⟨"pods", "Pod", true⟩] ∧
    discoverKubeResource subresourceFirst "v1" "Pod" =
      .ok ⟨⟨"", "v1", "v1", "Pod", "pods/status"⟩, true⟩ ∧
    '/' ∉ "pods".toList ∧ '/' ∈ "pods/status".toList :=
  ⟨rfl, rfl, by decide, by decide⟩

end Kube
end Kubewarden
