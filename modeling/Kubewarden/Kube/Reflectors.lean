/-
# The reflectors map over runs, and the change query

The reflectors map only grows, and gains a key only when a call inserts the
reflector `create_and_run` returned to it (`step_reflectors`). A listing call
that has returned a list leaves its reflector in the map, under the id it
computed from the resource discovery gives; the change query computes the same
id from the same resource, so once a listing has returned, every later change
query reads the stored reflector's last change and never takes the branch of a
missing reflector (`reflectors_law`).

The lookup and the insert of `get_reflector_reader` are separate lock
sections with the `create_and_run` await between them, so two listings of one
id can both miss, both create, and the second insert replaces the first
reflector (`get_reflector_reader_race`). The race costs a second reflector,
never a wrong list: a call about to read a store holds the reader of a
reflector created for its own id (`listing_reads_own_reflector`).
-/
import Kubewarden.Kube.Cache

namespace Kubewarden
namespace Kube

variable (D : Discovery) (computeId : KubeResource → Option String → Option String → Option String → String)

/-! ### The world only grows -/

/-- What a step keeps: cached keys, reflector keys and the create log. -/
def Grows (w w' : World) : Prop :=
  (∀ avk, (w.kubeResources avk).isSome → (w'.kubeResources avk).isSome) ∧
  (∀ id, (w.reflectors id).isSome → (w'.reflectors id).isSome) ∧
  (∀ x ∈ w.createCalls, x ∈ w'.createCalls)

theorem Grows.refl (w : World) : Grows w w := ⟨fun _ h => h, fun _ h => h, fun _ h => h⟩

theorem Grows.trans {w w' w'' : World} (h : Grows w w') (h' : Grows w' w'') : Grows w w'' :=
  ⟨fun a ha => h'.1 a (h.1 a ha), fun i hi => h'.2.1 i (h.2.1 i hi),
    fun x hx => h'.2.2 x (h.2.2 x hx)⟩

theorem Grows.of_eq {w w' : World} (hk : w'.kubeResources = w.kubeResources)
    (hr : w'.reflectors = w.reflectors) (hc : w'.createCalls = w.createCalls) : Grows w w' :=
  ⟨fun _ h => hk ▸ h, fun _ h => hr ▸ h, fun _ h => hc ▸ h⟩

theorem threadStep_grows {w w' : World} {c : Call} {err : Option String} {ph ph' : Phase}
    (h : threadStep D computeId w c err ph = some (w', ph')) : Grows w w' := by
  cases ph with
  | start =>
    simp only [threadStep, buildLookup, Option.some.injEq] at h
    split at h <;> cases h <;> exact Grows.of_eq rfl rfl rfl
  | discover =>
    simp only [threadStep, buildDiscover, Option.some.injEq] at h
    split at h <;> cases h
    · exact ⟨fun _ h => KMap.insert_isSome h, fun _ h => h, fun _ h => h⟩
    · exact Grows.of_eq rfl rfl rfl
  | create kr =>
    simp only [threadStep, createAndRun, Option.some.injEq] at h
    split at h <;> cases h <;>
      exact ⟨fun _ h => h, fun _ h => h, fun _ h => List.mem_append_left _ h⟩
  | insert kr r =>
    cases h
    exact ⟨fun _ h => h, fun _ h => KMap.insert_isSome h, fun _ h => h⟩
  | resolved | read | done => cases h <;> exact Grows.refl _

theorem step_grows {s s' : Sys} {e : Event} (h : step D computeId s e = some s') :
    Grows s.world s'.world := by
  by_cases hr : ∃ i err, e = .run i err
  · obtain ⟨i, err, rfl⟩ := hr
    obtain ⟨c, ph, w', ph', -, ht, rfl⟩ := step_run D computeId h
    exact threadStep_grows D computeId ht
  · push_neg at hr
    obtain ⟨hk, hr', -, hc, -⟩ := step_frame D computeId h hr
    exact Grows.of_eq hk hr' hc

theorem Later.grows {s s' : Sys} (h : Later D computeId s s') : Grows s.world s'.world := by
  induction h with
  | refl => exact Grows.refl _
  | step e _ h ih => exact ih.trans (step_grows D computeId h)

theorem Later.reachable {s s' : Sys} (h : Later D computeId s s') (hs : Reachable D computeId s) :
    Reachable D computeId s' := by
  induction h with
  | refl => exact hs
  | step e _ h ih => exact .step e ih h

/-- Only the insert of `get_reflector_reader` writes the reflectors map. -/
theorem threadStep_reflectors {w w' : World} {c : Call} {err : Option String} {ph ph' : Phase}
    (h : threadStep D computeId w c err ph = some (w', ph')) (hph : ∀ kr r, ph ≠ .insert kr r) :
    w'.reflectors = w.reflectors := by
  cases ph with
  | start =>
    simp only [threadStep, buildLookup, Option.some.injEq] at h
    split at h <;> cases h <;> rfl
  | discover =>
    simp only [threadStep, buildDiscover, Option.some.injEq] at h
    split at h <;> cases h <;> rfl
  | create kr =>
    simp only [threadStep, createAndRun, Option.some.injEq] at h
    split at h <;> cases h <;> rfl
  | insert kr r => exact absurd rfl (hph kr r)
  | resolved | read | done => cases h <;> rfl

/-- **A key is gained only by an insert.** After a step, the reflector under an
id is the one before, or the reflector a call in phase `insert` put there. -/
theorem step_reflectors {s s' : Sys} {e : Event} (h : step D computeId s e = some s')
    (id : String) :
    s'.world.reflectors id = s.world.reflectors id ∨
      ∃ i err c kr r, e = .run i err ∧ s.threads[i]? = some (c, .insert kr r) ∧
        reflectorIdOf computeId kr c = id ∧ s'.world.reflectors id = some r := by
  by_cases hr : ∃ i err, e = .run i err
  · obtain ⟨i, err, rfl⟩ := hr
    obtain ⟨c, ph, w', ph', hi, ht, rfl⟩ := step_run D computeId h
    cases ph with
    | insert kr r =>
      cases ht
      dsimp only [insertReflector]
      rw [KMap.insert_apply]
      split_ifs with heq
      · exact .inr ⟨i, err, c, kr, r, rfl, hi, heq.symm, rfl⟩
      · exact .inl rfl
    | _ => exact .inl (by rw [threadStep_reflectors D computeId ht (by simp)])
  · push_neg at hr
    exact .inl (by rw [(step_frame D computeId h hr).2.1])

/-! ### The invariant -/

/-- Every reflector in the map is one `create_and_run` returned for its id. -/
def ReflWorld (w : World) : Prop :=
  ∀ id r, w.reflectors id = some r → (id, some r.uid) ∈ w.createCalls

/-- What a call holds of the maps: its resource is cached, a reflector it is
about to insert was created for its id, and once it has its reader, or has
returned a list, its reflector is in the map. -/
def ThreadRefl (w : World) (c : Call) (ph : Phase) : Prop :=
  (ph.resource?.isSome → (w.kubeResources ⟨c.apiVersion, c.kind⟩).isSome) ∧
  (∀ kr r, ph = .insert kr r → (reflectorIdOf computeId kr c, some r.uid) ∈ w.createCalls) ∧
  (∀ kr reader, ph = .read kr reader → (w.reflectors (reflectorIdOf computeId kr c)).isSome) ∧
  (∀ ol, ph = .done (.ok (.list ol)) → (w.kubeResources ⟨c.apiVersion, c.kind⟩).isSome ∧
    ∀ kr, discoverKubeResource D c.apiVersion c.kind = .ok kr →
      (w.reflectors (reflectorIdOf computeId kr c)).isSome)

/-- The reflector invariant of a state. -/
def ReflInv (s : Sys) : Prop :=
  ReflWorld s.world ∧ ∀ t ∈ s.threads, ThreadRefl D computeId s.world t.1 t.2

theorem ThreadRefl.mono {w w' : World} {c : Call} {ph : Phase} (hg : Grows w w')
    (h : ThreadRefl D computeId w c ph) : ThreadRefl D computeId w' c ph :=
  ⟨fun h1 => hg.1 _ (h.1 h1), fun kr r h2 => hg.2.2 _ (h.2.1 kr r h2),
    fun kr rd h3 => hg.2.1 _ (h.2.2.1 kr rd h3),
    fun ol h4 => ⟨hg.1 _ (h.2.2.2 ol h4).1, fun kr hkr => hg.2.1 _ ((h.2.2.2 ol h4).2 kr hkr)⟩⟩

theorem threadRefl_of_resource {w : World} {c : Call} {ph : Phase}
    (hk : (w.kubeResources ⟨c.apiVersion, c.kind⟩).isSome) (hins : ∀ kr r, ph ≠ .insert kr r)
    (hread : ∀ kr reader, ph = .read kr reader → (w.reflectors (reflectorIdOf computeId kr c)).isSome)
    (hd : ∀ r, ph ≠ .done r) : ThreadRefl D computeId w c ph :=
  ⟨fun _ => hk, fun kr r h => absurd h (hins kr r), hread, fun _ h => absurd h (hd _)⟩

theorem threadRefl_done {w : World} {c : Call} {r : Except String Reply}
    (h : ∀ ol, r ≠ .ok (.list ol)) : ThreadRefl D computeId w c (.done r) :=
  ⟨fun h' => (by cases h'), fun _ _ h' => (by cases h'), fun _ _ h' => (by cases h'),
    fun ol h' => absurd (Phase.done.inj h') (h ol)⟩

/-- A call before its build returned holds nothing. -/
theorem threadRefl_idle {w : World} {c : Call} {ph : Phase} (h : ph.resource? = none)
    (hd : ∀ r, ph ≠ .done r) : ThreadRefl D computeId w c ph :=
  ⟨fun h' => (by simp [h] at h'), fun _ _ h' => (by subst h'; simp [Phase.resource?] at h),
    fun _ _ h' => (by subst h'; simp [Phase.resource?] at h), fun _ h' => absurd h' (hd _)⟩

theorem lookupReflector_refl {w : World} {c : Call} {kr : KubeResource}
    (hk : (w.kubeResources ⟨c.apiVersion, c.kind⟩).isSome) :
    ThreadRefl D computeId w c (lookupReflector w kr (reflectorIdOf computeId kr c)) := by
  unfold lookupReflector
  split
  · rename_i r hr
    refine threadRefl_of_resource D computeId hk (by simp) (fun kr' rd h => ?_) (by simp)
    cases h; simp [hr]
  · exact threadRefl_of_resource D computeId hk (by simp) (fun _ _ h => by cases h) (by simp)

theorem afterBuild_refl {w : World} {c : Call} {kr : KubeResource}
    (hk : (w.kubeResources ⟨c.apiVersion, c.kind⟩).isSome) :
    ThreadRefl D computeId w c (afterBuild computeId w kr c) := by
  cases c with
  | listResourcesAll => exact lookupReflector_refl D computeId hk
  | listResourcesByNamespace =>
    simp only [afterBuild]
    split_ifs
    · exact threadRefl_done D computeId (by simp)
    · exact lookupReflector_refl D computeId hk
  | hasListResourcesAllResultChangedSinceInstant => exact threadRefl_done D computeId (by simp)
  | getResourcePluralName => exact threadRefl_done D computeId (by simp)

theorem buildLookup_refl {w : World} (hw : ReflWorld w) (c : Call) :
    ReflWorld (buildLookup w c).1 ∧ ThreadRefl D computeId (buildLookup w c).1 c (buildLookup w c).2 := by
  unfold buildLookup
  split
  · rename_i kr hkr
    exact ⟨hw, threadRefl_of_resource D computeId (by simp [hkr]) (by simp)
      (fun _ _ h => by cases h) (by simp)⟩
  · exact ⟨hw, threadRefl_idle D computeId rfl (by simp)⟩

theorem buildDiscover_refl {w : World} (hw : ReflWorld w) (c : Call) :
    ReflWorld (buildDiscover D w c).1 ∧
      ThreadRefl D computeId (buildDiscover D w c).1 c (buildDiscover D w c).2 := by
  unfold buildDiscover
  split
  · exact ⟨hw, threadRefl_of_resource D computeId (by simp) (by simp) (fun _ _ h => by cases h)
      (by simp)⟩
  · exact ⟨hw, threadRefl_done D computeId (by simp)⟩

theorem createAndRun_refl {w : World} (hw : ReflWorld w) {c : Call} {kr : KubeResource}
    (hk : (w.kubeResources ⟨c.apiVersion, c.kind⟩).isSome) (err : Option String) :
    ReflWorld (createAndRun computeId w kr c err).1 ∧
      ThreadRefl D computeId (createAndRun computeId w kr c err).1 c
        (createAndRun computeId w kr c err).2 := by
  have hw' : ∀ x, ReflWorld { w with createCalls := w.createCalls ++ [x] } :=
    fun _ id r hr => List.mem_append_left _ (hw id r hr)
  cases err
  · refine ⟨hw' _, fun _ => hk, fun kr' r h => ?_, fun _ _ h => (by cases h), fun _ h => (by cases h)⟩
    cases h; simp [createAndRun]
  · exact ⟨hw' _, threadRefl_done D computeId (by simp)⟩

theorem insertReflector_refl {w : World} (hw : ReflWorld w) {c : Call} {kr : KubeResource}
    {r : Reflector} (ht : ThreadRefl D computeId w c (.insert kr r)) :
    ReflWorld (insertReflector computeId w kr c r).1 ∧
      ThreadRefl D computeId (insertReflector computeId w kr c r).1 c
        (insertReflector computeId w kr c r).2 := by
  refine ⟨fun id r' hr => ?_, threadRefl_of_resource D computeId (ht.1 rfl) (by simp [insertReflector])
    (fun kr' rd h => by cases h; simp [insertReflector]) (by simp [insertReflector])⟩
  simp only [insertReflector, KMap.insert_apply] at hr
  split_ifs at hr with heq
  · cases hr; subst heq; exact ht.2.1 kr r rfl
  · exact hw id r' hr

theorem readStore_refl {w : World} {c : Call} {kr : KubeResource} {reader : ℕ}
    (ht : ThreadRefl D computeId w c (.read kr reader)) (hs : ThreadSound D c (.read kr reader)) :
    ThreadRefl D computeId w c (readStore w kr reader) := by
  refine ⟨fun h => (by cases h), fun _ _ h => (by cases h), fun _ _ h => (by cases h),
    fun ol _ => ⟨ht.1 rfl, fun kr' hkr' => ?_⟩⟩
  rw [hs.1 kr rfl] at hkr'
  cases hkr'
  exact ht.2.2.1 kr reader rfl

/-- **One atomic step keeps the reflector invariant.** -/
theorem threadStep_refl {w : World} {c : Call} {err : Option String} {ph : Phase}
    {p : World × Phase} (hw : ReflWorld w) (ht : ThreadRefl D computeId w c ph)
    (hs : ThreadSound D c ph) (h : threadStep D computeId w c err ph = some p) :
    ReflWorld p.1 ∧ ThreadRefl D computeId p.1 c p.2 := by
  cases ph with
  | start => cases h; exact buildLookup_refl D computeId hw c
  | discover => cases h; exact buildDiscover_refl D computeId hw c
  | resolved kr => cases h; exact ⟨hw, afterBuild_refl D computeId (ht.1 rfl)⟩
  | create kr => cases h; exact createAndRun_refl D computeId hw (ht.1 rfl) err
  | insert kr r => cases h; exact insertReflector_refl D computeId hw ht
  | read kr reader => cases h; exact ⟨hw, readStore_refl D computeId ht hs⟩
  | done r => cases h

theorem reflInv_step {s s' : Sys} {e : Event} (hI : ReflInv D computeId s) (hC : CacheInv D s)
    (h : step D computeId s e = some s') : ReflInv D computeId s' := by
  have hg := step_grows D computeId h
  by_cases hr : ∃ i err, e = .run i err
  · obtain ⟨i, err, rfl⟩ := hr
    obtain ⟨c, ph, w', ph', hi, ht, rfl⟩ := step_run D computeId h
    have hmem : (c, ph) ∈ s.threads := List.getElem?_mem hi
    obtain ⟨hw', hph'⟩ := threadStep_refl D computeId hI.1 (hI.2 _ hmem) (hC.2 _ hmem) ht
    refine ⟨hw', fun t ht' => ?_⟩
    rcases List.mem_or_eq_of_mem_set ht' with ht' | rfl
    · exact (hI.2 t ht').mono D computeId hg
    · exact hph'
  · push_neg at hr
    obtain ⟨-, hrf, -, hc, -, ht⟩ := step_frame D computeId h hr
    refine ⟨fun id r h' => hc ▸ hI.1 id r (hrf ▸ h'), fun t ht' => ?_⟩
    rcases ht t ht' with ht' | h0
    · exact (hI.2 t ht').mono D computeId hg
    · rw [h0]; exact threadRefl_idle D computeId rfl (by simp)

theorem reachable_reflInv {s : Sys} (hs : Reachable D computeId s) : ReflInv D computeId s := by
  induction hs with
  | init => exact ⟨fun _ _ h => (by cases h), fun _ h => (by cases h)⟩
  | step e hs h ih => exact reflInv_step D computeId ih (reachable_cacheInv D computeId hs) h

/-! ### A listing reads its own reflector -/

/-- A call about to read a store holds the reader of a reflector that
`create_and_run` started for the call's own id. -/
def ThreadOwn (w : World) (c : Call) (ph : Phase) : Prop :=
  ∀ kr reader, ph = .read kr reader → (reflectorIdOf computeId kr c, some reader) ∈ w.createCalls

/-- Every call's reader is its own. -/
def ReadOwn (s : Sys) : Prop := ∀ t ∈ s.threads, ThreadOwn computeId s.world t.1 t.2

theorem threadOwn_of_not_read {w : World} {c : Call} {ph : Phase}
    (h : ∀ kr reader, ph ≠ .read kr reader) : ThreadOwn computeId w c ph :=
  fun kr reader h' => absurd h' (h kr reader)

theorem ThreadOwn.mono {w w' : World} {c : Call} {ph : Phase} (hg : Grows w w')
    (h : ThreadOwn computeId w c ph) : ThreadOwn computeId w' c ph :=
  fun kr reader h' => hg.2.2 _ (h kr reader h')

theorem lookupReflector_own {w : World} (hw : ReflWorld w) (c : Call) (kr : KubeResource) :
    ThreadOwn computeId w c (lookupReflector w kr (reflectorIdOf computeId kr c)) := by
  unfold lookupReflector
  split
  · rename_i r hr
    rintro kr' reader h
    cases h
    exact hw _ r hr
  · exact threadOwn_of_not_read computeId (by simp)

theorem afterBuild_own {w : World} (hw : ReflWorld w) (c : Call) (kr : KubeResource) :
    ThreadOwn computeId w c (afterBuild computeId w kr c) := by
  cases c with
  | listResourcesAll => exact lookupReflector_own computeId hw _ kr
  | listResourcesByNamespace =>
    simp only [afterBuild]
    split_ifs
    · exact threadOwn_of_not_read computeId (by simp)
    · exact lookupReflector_own computeId hw _ kr
  | hasListResourcesAllResultChangedSinceInstant | getResourcePluralName =>
    exact threadOwn_of_not_read computeId (by simp [afterBuild])

/-- One atomic step leaves the stepping call with its own reader: it takes one
from the map, which holds only reflectors created for their ids, or from the
reflector it created and just inserted. -/
theorem threadStep_own {w : World} {c : Call} {err : Option String} {ph : Phase}
    {p : World × Phase} (hw : ReflWorld w) (ht : ThreadRefl D computeId w c ph)
    (h : threadStep D computeId w c err ph = some p) : ThreadOwn computeId p.1 c p.2 := by
  cases ph with
  | start =>
    cases h
    unfold buildLookup
    split <;> exact threadOwn_of_not_read computeId (by simp)
  | discover =>
    cases h
    unfold buildDiscover
    split <;> exact threadOwn_of_not_read computeId (by simp)
  | resolved kr => cases h; exact afterBuild_own computeId hw c kr
  | create kr =>
    cases h
    cases err <;> exact threadOwn_of_not_read computeId (by simp [createAndRun])
  | insert kr r =>
    cases h
    rintro kr' reader h
    cases h
    exact ht.2.1 kr r rfl
  | read kr reader => cases h; exact threadOwn_of_not_read computeId (by simp [readStore])
  | done r => cases h

theorem readOwn_step {s s' : Sys} {e : Event} (hO : ReadOwn computeId s) (hI : ReflInv D computeId s)
    (h : step D computeId s e = some s') : ReadOwn computeId s' := by
  have hg := step_grows D computeId h
  intro t ht'
  by_cases hr : ∃ i err, e = .run i err
  · obtain ⟨i, err, rfl⟩ := hr
    obtain ⟨c, ph, w', ph', hi, ht, rfl⟩ := step_run D computeId h
    rcases List.mem_or_eq_of_mem_set ht' with ht' | rfl
    · exact (hO t ht').mono computeId hg
    · exact threadStep_own D computeId hI.1 (hI.2 _ (List.getElem?_mem hi)) ht
  · push_neg at hr
    rcases (step_frame D computeId h hr).2.2.2.2.2 t ht' with ht' | h0
    · exact (hO t ht').mono computeId hg
    · exact threadOwn_of_not_read computeId (by simp [h0])

theorem reachable_readOwn {s : Sys} (hs : Reachable D computeId s) : ReadOwn computeId s := by
  induction hs with
  | init => intro _ h; cases h
  | step e hs h ih => exact readOwn_step D computeId ih (reachable_reflInv D computeId hs) h

/-- The create log holds each reflector uid once, each below the next uid. -/
def CreateLog (w : World) : Prop :=
  (∀ id u, (id, some u) ∈ w.createCalls → u < w.nextUid) ∧
  ∀ id id' u, (id, some u) ∈ w.createCalls → (id', some u) ∈ w.createCalls → id = id'

theorem CreateLog.of_eq {w w' : World} (hc : w'.createCalls = w.createCalls)
    (hn : w'.nextUid = w.nextUid) (h : CreateLog w) : CreateLog w' := by
  unfold CreateLog; rw [hc, hn]; exact h

/-- `create_and_run` logs the fresh uid it hands out, or no uid. -/
theorem createAndRun_createLog {w : World} (hw : CreateLog w) (kr : KubeResource) (c : Call)
    (err : Option String) : CreateLog (createAndRun computeId w kr c err).1 := by
  cases err with
  | none =>
    simp only [CreateLog, createAndRun, List.mem_append, List.mem_singleton, Prod.mk.injEq,
      Option.some.injEq]
    refine ⟨fun id u hu => ?_, fun id id' u hu hu' => ?_⟩
    · rcases hu with hu | ⟨-, rfl⟩
      · exact Nat.lt_succ_of_lt (hw.1 id u hu)
      · exact Nat.lt_succ_self _
    · rcases hu with hu | ⟨rfl, rfl⟩ <;> rcases hu' with hu' | ⟨rfl, h⟩
      · exact hw.2 id id' _ hu hu'
      · exact absurd (hw.1 id _ (h ▸ hu)) (lt_irrefl _)
      · exact absurd (hw.1 id' _ hu') (lt_irrefl _)
      · rfl
  | some e =>
    simp only [CreateLog, createAndRun, List.mem_append, List.mem_singleton, Prod.mk.injEq,
      reduceCtorEq, and_false, or_false]
    exact hw

theorem threadStep_createLog {w : World} {c : Call} {err : Option String} {ph : Phase}
    {p : World × Phase} (hw : CreateLog w) (h : threadStep D computeId w c err ph = some p) :
    CreateLog p.1 := by
  cases ph with
  | create kr => cases h; exact createAndRun_createLog computeId hw kr c err
  | start => cases h; unfold buildLookup; split <;> exact hw
  | discover => cases h; unfold buildDiscover; split <;> exact hw
  | insert | resolved | read => cases h; exact hw
  | done r => cases h

theorem reachable_createLog {s : Sys} (hs : Reachable D computeId s) : CreateLog s.world := by
  induction hs with
  | init => exact ⟨fun _ _ h => (by cases h), fun _ _ _ h => (by cases h)⟩
  | step e _ h ih =>
    by_cases hr : ∃ i err, e = .run i err
    · obtain ⟨i, err, rfl⟩ := hr
      obtain ⟨c, ph, w', ph', -, ht, rfl⟩ := step_run D computeId h
      exact threadStep_createLog D computeId ih ht
    · push_neg at hr
      obtain ⟨-, -, -, hc, hn, -⟩ := step_frame D computeId h hr
      exact ih.of_eq hc hn

/-- **A listing reads only a store started for its own id.** In every state a
run of the clones reaches, under any interleaving: a call about to read a store
(its `build_kube_resource` and `get_reflector_reader` have returned) holds the
resource discovery computes for its coordinates, and the reader of a reflector
that `create_and_run` started for the call's own id, the one computed from that
resource, its namespace and its selectors; no other `create_and_run` returned
that reflector. This holds also when a racing call has since replaced the map's
entry for that id (the race below). Two queries whose ids collide share the
id's reflector: `compute_id` is not among the sources. -/
theorem listing_reads_own_reflector (s : Sys) (hs : Reachable D computeId s) :
    ∀ c kr reader, (c, Phase.read kr reader) ∈ s.threads →
      discoverKubeResource D c.apiVersion c.kind = .ok kr ∧
      (reflectorIdOf computeId kr c, some reader) ∈ s.world.createCalls ∧
      ∀ id, (id, some reader) ∈ s.world.createCalls → id = reflectorIdOf computeId kr c := by
  intro c kr reader h
  have hown := reachable_readOwn D computeId hs _ h kr reader rfl
  exact ⟨((reachable_cacheInv D computeId hs).2 _ h).1 kr rfl, hown,
    fun id hid => (reachable_createLog D computeId hs).2 id _ reader hid hown⟩

theorem listing_reads_own_reflector_race :
    Reachable podsFirst pluralId raceEnd ∧
    raceEnd.threads[1]? = some (.listResourcesAll "v1" "Pod" none none,
      .read ⟨⟨"", "v1", "v1", "Pod", "pods"⟩, true⟩ 1) ∧
    ∀ c kr reader, (c, Phase.read kr reader) ∈ raceEnd.threads →
      discoverKubeResource podsFirst c.apiVersion c.kind = .ok kr ∧
      (reflectorIdOf pluralId kr c, some reader) ∈ raceEnd.world.createCalls ∧
      ∀ id, (id, some reader) ∈ raceEnd.world.createCalls → id = reflectorIdOf pluralId kr c :=
  ⟨raceEnd_reachable, rfl, listing_reads_own_reflector podsFirst pluralId raceEnd raceEnd_reachable⟩

/-! ### The change query -/

theorem haveReflectorResourcesChangedSince_of_some {w : World} {id : String} {r : Reflector}
    (h : w.reflectors id = some r) (since : ℕ) :
    haveReflectorResourcesChangedSince w id since = decide (since < w.lastChangeSeenAt r.uid) := by
  simp [haveReflectorResourcesChangedSince, h]

/-- A change query answers `false` only from a reflector that saw no change after `since`. -/
theorem haveReflectorResourcesChangedSince_eq_false {w : World} {id : String} {since : ℕ}
    (h : haveReflectorResourcesChangedSince w id since = false) :
    ∃ r, w.reflectors id = some r ∧ w.lastChangeSeenAt r.uid ≤ since := by
  unfold haveReflectorResourcesChangedSince at h
  split at h
  · rename_i r hr; exact ⟨r, hr, by simpa using h⟩
  · cases h

/-- A new key of a step holds a reflector created for it, inserted by the call
holding it. -/
theorem step_reflectors_new {s s' : Sys} {e : Event} (hs : Reachable D computeId s)
    (h : step D computeId s e = some s') (id : String) (r : Reflector)
    (hnone : s.world.reflectors id = none) (hsome : s'.world.reflectors id = some r) :
    ∃ i err c kr, e = .run i err ∧ s.threads[i]? = some (c, .insert kr r) ∧
      reflectorIdOf computeId kr c = id ∧ (id, some r.uid) ∈ s.world.createCalls := by
  rcases step_reflectors D computeId h id with heq | ⟨i, err, c, kr, r', he, hi, hid, hr⟩
  · rw [heq, hnone] at hsome; cases hsome
  · obtain rfl := Option.some.inj (hr.symm.trans hsome)
    have hins := ((reachable_reflInv D computeId hs).2 _ (List.getElem?_mem hi)).2.1 kr r' rfl
    exact ⟨i, err, c, kr, he, hi, hid, hid ▸ hins⟩

/-- A change query and a listing of the same coordinates resolve the same
resource, so the query looks up the id the listing stores under. -/
theorem changeQuery_id {s : Sys} (hC : CacheInv D s) {av k : String} {l f : Option String}
    {t : ℕ} {ph ph' : Phase} {kr kr' : KubeResource}
    (h1 : (.hasListResourcesAllResultChangedSinceInstant av k l f t, ph) ∈ s.threads)
    (h2 : (.listResourcesAll av k l f, ph') ∈ s.threads) (hk : ph.resource? = some kr)
    (hk' : ph'.resource? = some kr') :
    computeId kr none l f = reflectorIdOf computeId kr' (.listResourcesAll av k l f) := by
  have e1 := (hC.2 _ h1).1 kr hk
  have e2 := (hC.2 _ h2).1 kr' hk'
  dsimp only [Call.apiVersion, Call.kind] at e1 e2
  rw [e1] at e2; cases e2; rfl

/-- Once a listing has returned a list, a later change query of its
coordinates finds the resource cached and the listing's reflector stored. -/
theorem changeQuery_after_listing {s s' : Sys} (hs : Reachable D computeId s)
    (hlater : Later D computeId s s') {av k : String} {l f : Option String} {ol : ObjectList}
    (hl : (.listResourcesAll av k l f, .done (.ok (.list ol))) ∈ s.threads) {t : ℕ} {ph : Phase}
    (hph : (.hasListResourcesAllResultChangedSinceInstant av k l f t, ph) ∈ s'.threads) :
    (ph = .start → ∃ kr, (buildLookup s'.world
        (.hasListResourcesAllResultChangedSinceInstant av k l f t)).2 = .resolved kr) ∧
    (∀ kr, ph = .resolved kr → ∃ r, s'.world.reflectors (computeId kr none l f) = some r ∧
      afterBuild computeId s'.world kr (.hasListResourcesAllResultChangedSinceInstant av k l f t) =
        .done (.ok (.changed (decide (t < s'.world.lastChangeSeenAt r.uid))))) := by
  have hg := hlater.grows D computeId
  obtain ⟨hkube, hrefl⟩ := ((reachable_reflInv D computeId hs).2 _ hl).2.2.2 ol rfl
  dsimp only [Call.apiVersion, Call.kind] at hkube hrefl
  refine ⟨fun _ => ?_, fun kr hkr => ?_⟩
  · obtain ⟨kr, hkr⟩ := Option.isSome_iff_exists.1 (hg.1 _ hkube)
    exact ⟨kr, by simp [buildLookup, Call.apiVersion, Call.kind] at hkr ⊢; simp [hkr]⟩
  · subst hkr
    have hd := ((reachable_cacheInv D computeId (hlater.reachable D computeId hs)).2 _ hph).1 kr rfl
    obtain ⟨r, hr⟩ := Option.isSome_iff_exists.1 (hg.2.1 _ (hrefl kr hd))
    have hr' : s'.world.reflectors (computeId kr none l f) = some r := hr
    exact ⟨r, hr', by simp only [afterBuild]; rw [haveReflectorResourcesChangedSince_of_some hr']⟩

/-- **The reflectors map and the change query, over every run.** In every
reachable state: a step never removes a key, and adds one only by the insert of
a call holding the reflector `create_and_run` returned for that id; a change
query and a listing of the same coordinates resolve the same resource, so the
change query looks up the id the listing stores under; once a listing has
returned a list, every change query of its coordinates, in any later state,
finds its resource cached and answers from the last change of the reflector
then stored under that id, never with the `true` of a missing reflector; and a
change query answers `false` only when that reflector exists and saw its last
change at or before `since`. -/
theorem reflectors_law (s : Sys) (hs : Reachable D computeId s) :
    (∀ e s', step D computeId s e = some s' → ∀ id,
      ((s.world.reflectors id).isSome → (s'.world.reflectors id).isSome) ∧
      (∀ r, s.world.reflectors id = none → s'.world.reflectors id = some r →
        ∃ i err c kr, e = .run i err ∧ s.threads[i]? = some (c, .insert kr r) ∧
          reflectorIdOf computeId kr c = id ∧ (id, some r.uid) ∈ s.world.createCalls)) ∧
    (∀ av k l f t ph ph' kr kr',
      (.hasListResourcesAllResultChangedSinceInstant av k l f t, ph) ∈ s.threads →
      (.listResourcesAll av k l f, ph') ∈ s.threads → ph.resource? = some kr →
      ph'.resource? = some kr' →
      computeId kr none l f = reflectorIdOf computeId kr' (.listResourcesAll av k l f)) ∧
    (∀ av k l f ol, (.listResourcesAll av k l f, .done (.ok (.list ol))) ∈ s.threads →
      ∀ s', Later D computeId s s' → ∀ t ph,
        (.hasListResourcesAllResultChangedSinceInstant av k l f t, ph) ∈ s'.threads →
        (ph = .start → ∃ kr, (buildLookup s'.world
            (.hasListResourcesAllResultChangedSinceInstant av k l f t)).2 = .resolved kr) ∧
        (∀ kr, ph = .resolved kr → ∃ r, s'.world.reflectors (computeId kr none l f) = some r ∧
          afterBuild computeId s'.world kr (.hasListResourcesAllResultChangedSinceInstant av k l f t) =
            .done (.ok (.changed (decide (t < s'.world.lastChangeSeenAt r.uid)))))) ∧
    (∀ av k l f t kr,
      afterBuild computeId s.world kr (.hasListResourcesAllResultChangedSinceInstant av k l f t) =
        .done (.ok (.changed false)) →
      ∃ r, s.world.reflectors (computeId kr none l f) = some r ∧
        s.world.lastChangeSeenAt r.uid ≤ t) :=
  ⟨fun _ _ h id => ⟨(step_grows D computeId h).2.1 id, step_reflectors_new D computeId hs h id⟩,
    fun _ _ _ _ _ _ _ _ _ h1 h2 hk hk' =>
      changeQuery_id D computeId (reachable_cacheInv D computeId hs) h1 h2 hk hk',
    fun _ _ _ _ _ hl _ hlater _ _ hph => changeQuery_after_listing D computeId hs hlater hl hph,
    fun _ _ _ _ _ _ h => haveReflectorResourcesChangedSince_eq_false (by
      simpa only [afterBuild, Phase.done.injEq, Except.ok.injEq, Reply.changed.injEq] using h)⟩

theorem reflectors_law_race :
    Reachable podsFirst pluralId raceEnd ∧
    raceEnd.threads[0]? = some (.listResourcesAll "v1" "Pod" none none,
      .done (.ok (.list ⟨"v1", "PodList", []⟩))) ∧
    ((∀ e s', step podsFirst pluralId raceEnd e = some s' → ∀ id,
      ((raceEnd.world.reflectors id).isSome → (s'.world.reflectors id).isSome) ∧
      (∀ r, raceEnd.world.reflectors id = none → s'.world.reflectors id = some r →
        ∃ i err c kr, e = .run i err ∧ raceEnd.threads[i]? = some (c, .insert kr r) ∧
          reflectorIdOf pluralId kr c = id ∧ (id, some r.uid) ∈ raceEnd.world.createCalls)) ∧
    (∀ av k l f t ph ph' kr kr',
      (.hasListResourcesAllResultChangedSinceInstant av k l f t, ph) ∈ raceEnd.threads →
      (.listResourcesAll av k l f, ph') ∈ raceEnd.threads → ph.resource? = some kr →
      ph'.resource? = some kr' →
      pluralId kr none l f = reflectorIdOf pluralId kr' (.listResourcesAll av k l f)) ∧
    (∀ av k l f ol, (.listResourcesAll av k l f, .done (.ok (.list ol))) ∈ raceEnd.threads →
      ∀ s', Later podsFirst pluralId raceEnd s' → ∀ t ph,
        (.hasListResourcesAllResultChangedSinceInstant av k l f t, ph) ∈ s'.threads →
        (ph = .start → ∃ kr, (buildLookup s'.world
            (.hasListResourcesAllResultChangedSinceInstant av k l f t)).2 = .resolved kr) ∧
        (∀ kr, ph = .resolved kr → ∃ r, s'.world.reflectors (pluralId kr none l f) = some r ∧
          afterBuild pluralId s'.world kr (.hasListResourcesAllResultChangedSinceInstant av k l f t) =
            .done (.ok (.changed (decide (t < s'.world.lastChangeSeenAt r.uid)))))) ∧
    (∀ av k l f t kr,
      afterBuild pluralId raceEnd.world kr (.hasListResourcesAllResultChangedSinceInstant av k l f t) =
        .done (.ok (.changed false)) →
      ∃ r, raceEnd.world.reflectors (pluralId kr none l f) = some r ∧
        raceEnd.world.lastChangeSeenAt r.uid ≤ t)) :=
  ⟨raceEnd_reachable, rfl, reflectors_law podsFirst pluralId raceEnd raceEnd_reachable⟩

/-! ### Two listings of one id race -/

/-- **`get_reflector_reader` can start a second reflector for an id.** On the
schedule above, whatever the id function: `create_and_run` runs twice for the
same id, the second insert replaces the reflector the first one stored, and
the first call keeps the reader of a reflector no longer in the map. -/
theorem get_reflector_reader_race (computeId : KubeResource → Option String → Option String →
    Option String → String) :
    let kr : KubeResource := ⟨⟨"", "v1", "v1", "Pod", "pods"⟩, true⟩
    let id := computeId kr none none none
    ∃ s₁ s₂, run podsFirst computeId Sys.init raceSchedule = some s₁ ∧
      step podsFirst computeId s₁ (.run 1 none) = some s₂ ∧
      s₁.world.reflectors id = some ⟨0⟩ ∧ s₂.world.reflectors id = some ⟨1⟩ ∧
      s₂.world.createCalls = [(id, some 0), (id, some 1)] ∧
      s₂.threads = [(.listResourcesAll "v1" "Pod" none none, .read kr 0),
        (.listResourcesAll "v1" "Pod" none none, .read kr 1)] := by
  refine ⟨_, _, rfl, rfl, ?_⟩
  have hd : discoverKubeResource podsFirst "v1" "Pod" = .ok ⟨⟨"", "v1", "v1", "Pod", "pods"⟩, true⟩ :=
    rfl
  simp [KMap.insert_apply, insertReflector, createAndRun, buildLookup, buildDiscover, Sys.init,
    Call.apiVersion, Call.kind, reflectorIdOf, Call.ns?, Call.labelSelector, Call.fieldSelector, hd]

end Kube
end Kubewarden
