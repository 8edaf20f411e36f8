/-
# The discovery cache agrees with discovery, in every run

Discovery data is fixed, so every writer of `kube_resources` inserts what
discovery computes for its key, racing writers included; a hit therefore
returns what a miss would compute, and a key whose discovery fails is never
cached. `CacheSound` is that invariant of the world, `ThreadSound` what each
call holds about the resource its build returned and the list it returned;
both hold in every reachable state (`reachable_cacheInv`). A call's build
step can always be taken, and gives the call discovery's resource or returns
discovery's error (`build_step`); with the invariant this gives
`build_kube_resource_agrees`.

First the inversion of a step (`step_run`, `step_frame`), used here and by
`Kube.Reflectors`.
-/
import Kubewarden.Kube.Client

namespace Kubewarden
namespace Kube

variable (D : Discovery) (computeId : KubeResource → Option String → Option String → Option String → String)

/-! ### What a step can do -/

theorem step_run {s s' : Sys} {i : ℕ} {err : Option String}
    (h : step D computeId s (.run i err) = some s') :
    ∃ c ph w' ph', s.threads[i]? = some (c, ph) ∧
      threadStep D computeId s.world c err ph = some (w', ph') ∧
      s' = ⟨w', s.threads.set i (c, ph')⟩ := by
  simp only [step] at h
  rcases hi : s.threads[i]? with _ | ⟨c, ph⟩ <;> simp only [hi] at h
  · cases h
  rcases ht : threadStep D computeId s.world c err ph with _ | ⟨w', ph'⟩ <;> simp only [ht] at h
  · cases h
  exact ⟨c, ph, w', ph', rfl, ht, (Option.some.inj h).symm⟩

/-- A spawn, a watch event or a tick changes neither the maps nor the logs,
and adds at most a call at its start. -/
theorem step_frame {s s' : Sys} {e : Event} (h : step D computeId s e = some s')
    (he : ∀ i err, e ≠ .run i err) :
    s'.world.kubeResources = s.world.kubeResources ∧ s'.world.reflectors = s.world.reflectors ∧
      s'.world.builds = s.world.builds ∧ s'.world.createCalls = s.world.createCalls ∧
      s'.world.nextUid = s.world.nextUid ∧ ∀ t ∈ s'.threads, t ∈ s.threads ∨ t.2 = .start := by
  cases e with
  | spawn c =>
    simp only [step, Option.some.injEq] at h; subst h
    refine ⟨rfl, rfl, rfl, rfl, rfl, fun t ht => ?_⟩
    rcases List.mem_append.1 ht with ht | ht
    · exact .inl ht
    · exact .inr (by rw [List.mem_singleton.1 ht])
  | run i err => exact absurd rfl (he i err)
  | watch uid items =>
    simp only [step] at h; split_ifs at h; cases h
    exact ⟨rfl, rfl, rfl, rfl, rfl, fun t ht => .inl ht⟩
  | tick =>
    simp only [step, Option.some.injEq] at h; subst h
    exact ⟨rfl, rfl, rfl, rfl, rfl, fun t ht => .inl ht⟩

/-! ### The invariant -/

/-- Every cached resource and every result a build returned is what discovery computes. -/
def CacheSound (w : World) : Prop :=
  (∀ avk kr, w.kubeResources avk = some kr → discoverKubeResource D avk.apiVersion avk.kind = .ok kr) ∧
  (∀ p ∈ w.builds, p.2 = discoverKubeResource D p.1.apiVersion p.1.kind)

/-- A call's resource is what discovery computes for its coordinates, and a
list it returned carries them. -/
def ThreadSound (c : Call) (ph : Phase) : Prop :=
  (∀ kr, ph.resource? = some kr → discoverKubeResource D c.apiVersion c.kind = .ok kr) ∧
  (∀ ol, ph = .done (.ok (.list ol)) → ol.apiVersion = c.apiVersion ∧ ol.kind = c.kind ++ "List")

/-- The cache invariant of a state. -/
def CacheInv (s : Sys) : Prop :=
  CacheSound D s.world ∧ ∀ t ∈ s.threads, ThreadSound D t.1 t.2

theorem threadSound_start (c : Call) : ThreadSound D c .start :=
  ⟨fun _ h => (by cases h), fun _ h => (by cases h)⟩

theorem threadSound_of_resource {c : Call} {kr : KubeResource} {ph : Phase}
    (hkr : discoverKubeResource D c.apiVersion c.kind = .ok kr) (h : ph.resource? = some kr)
    (hd : ∀ r, ph ≠ .done r) : ThreadSound D c ph :=
  ⟨fun kr' h' => by rw [h] at h'; cases h'; exact hkr, fun _ h' => absurd h' (hd _)⟩

theorem threadSound_done {c : Call} {r : Except String Reply} (h : ∀ ol, r ≠ .ok (.list ol)) :
    ThreadSound D c (.done r) :=
  ⟨fun _ h' => (by cases h'), fun ol h' => absurd (Phase.done.inj h') (h ol)⟩

theorem lookupReflector_sound {c : Call} {kr : KubeResource} (w : World) (id : String)
    (hkr : discoverKubeResource D c.apiVersion c.kind = .ok kr) :
    ThreadSound D c (lookupReflector w kr id) := by
  unfold lookupReflector
  split <;> exact threadSound_of_resource D hkr rfl (by simp)

theorem afterBuild_sound {c : Call} {kr : KubeResource} (w : World)
    (hkr : discoverKubeResource D c.apiVersion c.kind = .ok kr) :
    ThreadSound D c (afterBuild computeId w kr c) := by
  cases c with
  | listResourcesAll => exact lookupReflector_sound D w _ hkr
  | listResourcesByNamespace =>
    simp only [afterBuild]
    split_ifs
    · exact threadSound_done D (by simp)
    · exact lookupReflector_sound D w _ hkr
  | hasListResourcesAllResultChangedSinceInstant => exact threadSound_done D (by simp)
  | getResourcePluralName => exact threadSound_done D (by simp)

theorem buildLookup_cacheSound {w : World} (hw : CacheSound D w) (c : Call) :
    CacheSound D (buildLookup w c).1 ∧ ThreadSound D c (buildLookup w c).2 := by
  unfold buildLookup
  split
  · rename_i kr hkr
    have hd := hw.1 _ kr hkr
    exact ⟨⟨hw.1, List.forall_mem_append.2 ⟨hw.2, List.forall_mem_singleton.2 hd.symm⟩⟩,
      threadSound_of_resource D hd rfl (by simp)⟩
  · exact ⟨hw, fun _ h => (by cases h), fun _ h => (by cases h)⟩

theorem buildDiscover_cacheSound {w : World} (hw : CacheSound D w) (c : Call) :
    CacheSound D (buildDiscover D w c).1 ∧ ThreadSound D c (buildDiscover D w c).2 := by
  unfold buildDiscover
  split <;> rename_i hd
  · refine ⟨⟨fun avk kr' h' => ?_, List.forall_mem_append.2 ⟨hw.2, List.forall_mem_singleton.2 hd.symm⟩⟩,
      threadSound_of_resource D hd rfl (by simp)⟩
    dsimp only at h'
    rw [KMap.insert_apply] at h'
    split_ifs at h' with heq
    · cases h'; subst heq; exact hd
    · exact hw.1 _ _ h'
  · exact ⟨⟨hw.1, List.forall_mem_append.2 ⟨hw.2, List.forall_mem_singleton.2 hd.symm⟩⟩,
      threadSound_done D (by simp)⟩

theorem createAndRun_cacheSound {w : World} (hw : CacheSound D w) {c : Call} {kr : KubeResource}
    (hkr : discoverKubeResource D c.apiVersion c.kind = .ok kr) (err : Option String) :
    CacheSound D (createAndRun computeId w kr c err).1 ∧
      ThreadSound D c (createAndRun computeId w kr c err).2 := by
  cases err
  · exact ⟨hw, threadSound_of_resource D hkr rfl (by simp [createAndRun])⟩
  · exact ⟨hw, threadSound_done D (by simp)⟩

theorem readStore_sound {w : World} {c : Call} {kr : KubeResource}
    (hkr : discoverKubeResource D c.apiVersion c.kind = .ok kr) (reader : ℕ) :
    ThreadSound D c (readStore w kr reader) := by
  obtain ⟨hav, hk⟩ := discoverKubeResource_coordinates D hkr
  exact ⟨fun _ h => (by cases h), fun ol h => by cases h; exact ⟨hav, by rw [hk]⟩⟩

/-- **One atomic step keeps the cache sound.** -/
theorem threadStep_cacheSound {w : World} {c : Call} {err : Option String} {ph : Phase}
    {p : World × Phase} (hw : CacheSound D w) (hph : ThreadSound D c ph)
    (h : threadStep D computeId w c err ph = some p) : CacheSound D p.1 ∧ ThreadSound D c p.2 := by
  cases ph with
  | start => cases h; exact buildLookup_cacheSound D hw c
  | discover => cases h; exact buildDiscover_cacheSound D hw c
  | resolved kr => cases h; exact ⟨hw, afterBuild_sound D computeId w (hph.1 kr rfl)⟩
  | create kr => cases h; exact createAndRun_cacheSound D computeId hw (hph.1 kr rfl) err
  | insert kr r => cases h; exact ⟨hw, threadSound_of_resource D (hph.1 kr rfl) rfl (by simp [insertReflector])⟩
  | read kr reader => cases h; exact ⟨hw, readStore_sound D (hph.1 kr rfl) reader⟩
  | done r => cases h

theorem cacheInv_init : CacheInv D Sys.init :=
  ⟨⟨fun _ _ h => (by cases h), fun _ h => (by cases h)⟩, fun _ h => (by cases h)⟩

theorem cacheInv_step {s s' : Sys} {e : Event} (hI : CacheInv D s)
    (h : step D computeId s e = some s') : CacheInv D s' := by
  by_cases hr : ∃ i err, e = .run i err
  · obtain ⟨i, err, rfl⟩ := hr
    obtain ⟨c, ph, w', ph', hi, ht, rfl⟩ := step_run D computeId h
    have hmem : (c, ph) ∈ s.threads := List.getElem?_mem hi
    obtain ⟨hw', hph'⟩ := threadStep_cacheSound D computeId hI.1 (hI.2 _ hmem) ht
    refine ⟨hw', fun t ht' => ?_⟩
    rcases List.mem_or_eq_of_mem_set ht' with ht' | rfl
    · exact hI.2 t ht'
    · exact hph'
  · push_neg at hr
    obtain ⟨hk, -, hb, -, -, ht⟩ := step_frame D computeId h hr
    refine ⟨⟨fun avk kr h' => hI.1.1 avk kr (hk ▸ h'), fun p hp => hI.1.2 p (hb ▸ hp)⟩,
      fun t ht' => ?_⟩
    rcases ht t ht' with ht' | h0
    · exact hI.2 t ht'
    · rw [h0]; exact threadSound_start D t.1

theorem reachable_cacheInv {s : Sys} (hs : Reachable D computeId s) : CacheInv D s := by
  induction hs with
  | init => exact cacheInv_init D
  | step e _ h ih => exact cacheInv_step D computeId ih h

/-- **A build returns what discovery computes.** From a state whose cache is
sound, a call at its start or at its discovery can always take its step,
whatever `create_and_run` would return: the step gives the call the resource
discovery computes, or discovery's error as the call's result, or, only from
the start and only on a miss, the discovery itself. -/
theorem build_step {s : Sys} (hI : CacheInv D s) {i : ℕ} {c : Call} {ph : Phase}
    (hi : s.threads[i]? = some (c, ph)) (hph : ph = .start ∨ ph = .discover) (err : Option String) :
    ∃ s', step D computeId s (.run i err) = some s' ∧
      ((∃ kr, discoverKubeResource D c.apiVersion c.kind = .ok kr ∧
          s'.threads[i]? = some (c, .resolved kr)) ∨
        (∃ e, discoverKubeResource D c.apiVersion c.kind = .error e ∧
          s'.threads[i]? = some (c, .done (.error e))) ∨
        (ph = .start ∧ s.world.kubeResources ⟨c.apiVersion, c.kind⟩ = none ∧
          s'.threads[i]? = some (c, .discover))) := by
  have hset : ∀ p, (s.threads.set i (c, p))[i]? = some (c, p) := fun p =>
    List.getElem?_set_self (List.getElem?_eq_some_iff.1 hi).1
  rcases hph with rfl | rfl
  · refine ⟨⟨(buildLookup s.world c).1, s.threads.set i (c, (buildLookup s.world c).2)⟩,
      by simp [step, hi, threadStep], ?_⟩
    rcases hk : s.world.kubeResources ⟨c.apiVersion, c.kind⟩ with _ | kr
    · exact .inr (.inr ⟨rfl, rfl, by simp only [buildLookup, hk]; exact hset _⟩)
    · exact .inl ⟨kr, hI.1.1 _ kr hk, by simp only [buildLookup, hk]; exact hset _⟩
  · refine ⟨⟨(buildDiscover D s.world c).1, s.threads.set i (c, (buildDiscover D s.world c).2)⟩,
      by simp [step, hi, threadStep], ?_⟩
    rcases hd : discoverKubeResource D c.apiVersion c.kind with e | kr
    · exact .inr (.inl ⟨e, rfl, by simp only [buildDiscover, hd]; exact hset _⟩)
    · exact .inl ⟨kr, rfl, by simp only [buildDiscover, hd]; exact hset _⟩

/-- **The discovery cache agrees with discovery.** In every state a run of the
clones reaches, racing writers included: a cached entry is what discovery
computes for its key, and names that api version and kind; every result
`build_kube_resource` has returned is the uncached computation's (its error
included), and a key whose discovery fails is never cached; every call past
its build holds the resource discovery computes for its coordinates; a call
at its start or at its discovery can always take its step, which gives it the
resource discovery computes, or returns discovery's error, or (only from the
start, on a miss) runs the discovery, so that a build returns within two of
the call's own steps; and every list a listing call returned has `apiVersion`
the api version asked for and `kind` the kind followed by `List`. -/
theorem build_kube_resource_agrees (s : Sys) (hs : Reachable D computeId s) :
    (∀ avk kr, s.world.kubeResources avk = some kr →
      discoverKubeResource D avk.apiVersion avk.kind = .ok kr ∧
        kr.resource.apiVersion = avk.apiVersion ∧ kr.resource.kind = avk.kind) ∧
    (∀ p ∈ s.world.builds, p.2 = discoverKubeResource D p.1.apiVersion p.1.kind) ∧
    (∀ avk e, discoverKubeResource D avk.apiVersion avk.kind = .error e →
      s.world.kubeResources avk = none) ∧
    (∀ t ∈ s.threads, ∀ kr, t.2.resource? = some kr →
      discoverKubeResource D t.1.apiVersion t.1.kind = .ok kr) ∧
    (∀ i c ph, s.threads[i]? = some (c, ph) → (ph = .start ∨ ph = .discover) → ∀ err,
      ∃ s', step D computeId s (.run i err) = some s' ∧
        ((∃ kr, discoverKubeResource D c.apiVersion c.kind = .ok kr ∧
            s'.threads[i]? = some (c, .resolved kr)) ∨
          (∃ e, discoverKubeResource D c.apiVersion c.kind = .error e ∧
            s'.threads[i]? = some (c, .done (.error e))) ∨
          (ph = .start ∧ s.world.kubeResources ⟨c.apiVersion, c.kind⟩ = none ∧
            s'.threads[i]? = some (c, .discover)))) ∧
    (∀ t ∈ s.threads, ∀ ol, t.2 = .done (.ok (.list ol)) →
      ol.apiVersion = t.1.apiVersion ∧ ol.kind = t.1.kind ++ "List") := by
  have hI := reachable_cacheInv D computeId hs
  obtain ⟨⟨hcache, hbuilds⟩, hthreads⟩ := id hI
  refine ⟨fun avk kr h => ⟨hcache avk kr h, discoverKubeResource_coordinates D (hcache avk kr h)⟩,
    hbuilds, fun avk e he => ?_, fun t ht => (hthreads t ht).1,
    fun i c ph hi hph err => build_step D computeId hI hi hph err, fun t ht => (hthreads t ht).2⟩
  rcases h : s.world.kubeResources avk with _ | kr
  · rfl
  · rw [hcache avk kr h] at he; cases he

/-- A reflector id that names the resource's plural, for concrete runs. -/
def pluralId (kr : KubeResource) (_ _ _ : Option String) : String := kr.resource.plural

/-- The states a schedule reaches from a reachable state are reachable. -/
theorem run_reachable {s s' : Sys} (hs : Reachable D computeId s) :
    ∀ {es : List Event}, run D computeId s es = some s' → Reachable D computeId s'
  | [], h => by cases h; exact hs
  | e :: es, h => by
    simp only [run, Option.bind_eq_some] at h
    obtain ⟨s₁, h₁, h⟩ := h
    exact run_reachable (.step e hs h₁) h

/-- Two clones list all pods: both build, both miss the reflector, both create,
both insert. -/
def raceSchedule : List Event :=
  [.spawn (.listResourcesAll "v1" "Pod" none none), .spawn (.listResourcesAll "v1" "Pod" none none),
    .run 0 none, .run 0 none, .run 1 none, .run 0 none, .run 1 none, .run 0 none, .run 1 none,
    .run 0 none]

/-- The race of `raceSchedule`, then the second insert, the first listing's
read, and a third listing spawned: one listing has returned its list, one is
about to read, one is at its start. -/
def raceEnd : Sys :=
  (run podsFirst pluralId Sys.init (raceSchedule ++ [.run 1 none, .run 0 none,
    .spawn (.listResourcesAll "v1" "Pod" none none)])).getD Sys.init

theorem raceEnd_reachable : Reachable podsFirst pluralId raceEnd :=
  run_reachable podsFirst pluralId .init (show run podsFirst pluralId Sys.init (raceSchedule ++
    [.run 1 none, .run 0 none, .spawn (.listResourcesAll "v1" "Pod" none none)]) = some raceEnd from rfl)

theorem build_kube_resource_agrees_race :
    Reachable podsFirst pluralId raceEnd ∧
    raceEnd.threads[2]? = some (.listResourcesAll "v1" "Pod" none none, .start) ∧
    ((∀ avk kr, raceEnd.world.kubeResources avk = some kr →
      discoverKubeResource podsFirst avk.apiVersion avk.kind = .ok kr ∧
        kr.resource.apiVersion = avk.apiVersion ∧ kr.resource.kind = avk.kind) ∧
    (∀ p ∈ raceEnd.world.builds, p.2 = discoverKubeResource podsFirst p.1.apiVersion p.1.kind) ∧
    (∀ avk e, discoverKubeResource podsFirst avk.apiVersion avk.kind = .error e →
      raceEnd.world.kubeResources avk = none) ∧
    (∀ t ∈ raceEnd.threads, ∀ kr, t.2.resource? = some kr →
      discoverKubeResource podsFirst t.1.apiVersion t.1.kind = .ok kr) ∧
    (∀ i c ph, raceEnd.threads[i]? = some (c, ph) → (ph = .start ∨ ph = .discover) → ∀ err,
      ∃ s', step podsFirst pluralId raceEnd (.run i err) = some s' ∧
        ((∃ kr, discoverKubeResource podsFirst c.apiVersion c.kind = .ok kr ∧
            s'.threads[i]? = some (c, .resolved kr)) ∨
          (∃ e, discoverKubeResource podsFirst c.apiVersion c.kind = .error e ∧
            s'.threads[i]? = some (c, .done (.error e))) ∨
          (ph = .start ∧ raceEnd.world.kubeResources ⟨c.apiVersion, c.kind⟩ = none ∧
            s'.threads[i]? = some (c, .discover)))) ∧
    (∀ t ∈ raceEnd.threads, ∀ ol, t.2 = .done (.ok (.list ol)) →
      ol.apiVersion = t.1.apiVersion ∧ ol.kind = t.1.kind ++ "List")) :=
  ⟨raceEnd_reachable, rfl, build_kube_resource_agrees podsFirst pluralId raceEnd raceEnd_reachable⟩

end Kube
end Kubewarden
