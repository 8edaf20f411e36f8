/-
# Verifying a policy's signatures against a verification config

`verify_signatures_against_config` (policy-fetcher, `verify/mod.rs`) filters
the configuration's `all_of` and `any_of` constraints down to the ones that no
trusted signature layer satisfies, and fails when an `all_of` constraint is
left or when fewer than `minimum_matches` of the `any_of` constraints are
satisfied. `Verifier::verify` fetches the trusted layers of an image with
`fetch_sigstore_remote_data` and runs that check on them.

Sigstore itself is out of the model: building a constraint's verifier,
`cosign::verify_constraints`, `serde_yaml::to_string` and the registry calls
are parameters (`Cosign`, `CosignClient`). Rayon's `par_iter().filter()`
collects in the order of the input, so it is `List.filter`.

Key definitions: `verifySignaturesAgainstConfig`, `Verifier.verify`,
`Satisfied`, `ConfigSatisfied`.
Key theorems: `verifySignaturesAgainstConfig_ok_iff`, `verify_signatures_law`.
-/
import Mathlib.Data.List.Basic

namespace Kubewarden
namespace Verify

/-- The errors of sigstore that `fetch_sigstore_remote_data` tells apart. -/
inductive SigstoreError
  | registryPullManifestError (image error : String)
  | other (msg : String)
  deriving DecidableEq, Repr

/-- The variants of `VerifyError` (`verify/errors.rs`, not among the sources)
that the verifier raises. -/
inductive VerifyError
  | imageVerificationError (msg : String)
  | failedToParseYamlDataError (msg : String)
  | failedToFetchTrustedLayersError (e : SigstoreError)
  | invalidOCIImageReferenceError (msg : String)
  | missingWasmFileError (path : String)
  | checksumVerificationError (msg : String)
  | registryError (msg : String)
  | unreachable (msg : String)
  deriving DecidableEq, Repr

/-- `config::AnyOf`: at least `minimum_matches` of `signatures` must hold. -/
structure AnyOf (Sig : Type) where
  minimumMatches : ℕ
  signatures : List Sig

/-- `config::LatestVerificationConfig`. -/
structure LatestVerificationConfig (Sig : Type) where
  allOf : Option (List Sig)
  anyOf : Option (AnyOf Sig)

/-- The sigstore functions the check calls on a constraint `Sig`: its verifier
(`Signature::verifier`), `cosign::verify_constraints` over trusted layers, and
its YAML for the error message. -/
structure Cosign (Sig Layer V : Type) where
  verifier : Sig → Except String V
  verifyConstraints : List Layer → List V → Except String Unit
  toYaml : Sig → Except String String

variable {Sig Layer V : Type} (cs : Cosign Sig Layer V)

/-- The closure given to `filter`: `true` when the constraint goes to
`unsatisfied_signatures`. -/
def isUnsatisfied (layers : List Layer) (s : Sig) : Bool :=
  match cs.verifier s with
  | .ok v =>
    match cs.verifyConstraints layers [v] with
    | .ok _ => false
    | .error _ => true
  | .error _ => true

/-- A constraint is satisfied: its verifier can be built and some layer of
`layers` satisfies it. -/
def Satisfied (layers : List Layer) (s : Sig) : Prop :=
  ∃ v, cs.verifier s = .ok v ∧ cs.verifyConstraints layers [v] = .ok ()

theorem isUnsatisfied_eq_false_iff (layers : List Layer) (s : Sig) :
    isUnsatisfied cs layers s = false ↔ Satisfied cs layers s := by
  unfold isUnsatisfied Satisfied
  rcases cs.verifier s with e | v
  · simp
  · rcases h : cs.verifyConstraints layers [v] with e | ⟨⟩ <;> simp [h]

instance (layers : List Layer) : DecidablePred (Satisfied cs layers) := fun s =>
  decidable_of_iff _ (isUnsatisfied_eq_false_iff cs layers s)

theorem isUnsatisfied_eq (layers : List Layer) (s : Sig) :
    isUnsatisfied cs layers s = !decide (Satisfied cs layers s) := by
  have := isUnsatisfied_eq_false_iff cs layers s
  cases h : isUnsatisfied cs layers s <;> simp_all

/-- The constraints of `sigs` that no layer satisfies, in configuration order. -/
def unsatisfiedSignatures (layers : List Layer) (sigs : List Sig) : List Sig :=
  sigs.filter (isUnsatisfied cs layers)

theorem unsatisfiedSignatures_eq (layers : List Layer) (sigs : List Sig) :
    unsatisfiedSignatures cs layers sigs = sigs.filter fun s => ¬ Satisfied cs layers s := by
  unfold unsatisfiedSignatures
  congr 1
  funext s
  simp [isUnsatisfied_eq]

/-- The loop `for s in unsatisfied_signatures { errormsg.push_str(&to_yaml(s)?) }`. -/
def pushYaml : String → List Sig → Except VerifyError String
  | msg, [] => .ok msg
  | msg, s :: ss =>
    match cs.toYaml s with
    | .ok y => pushYaml (msg ++ y) ss
    | .error e => .error (.failedToParseYamlDataError e)

/-- The loop pushes each constraint's YAML in turn, and stops at the first that
cannot be written. -/
theorem pushYaml_eq : ∀ (msg : String) (ss : List Sig), pushYaml cs msg ss =
    match ss.mapM cs.toYaml with
    | .ok yamls => .ok (yamls.foldl (· ++ ·) msg)
    | .error e => .error (.failedToParseYamlDataError e)
  | msg, [] => rfl
  | msg, s :: ss => by
    rw [pushYaml, List.mapM_cons]
    rcases cs.toYaml s with e | y
    · rfl
    · simp only [bind, Except.bind, pushYaml_eq (msg ++ y) ss]
      rcases ss.mapM cs.toYaml with e | yamls <;> rfl

/-- The error of a failed `all_of` check, built from its unsatisfied constraints. -/
def missingSignaturesError (unsatisfied : List Sig) : VerifyError :=
  match pushYaml cs ("Image verification failed: missing signatures\n" ++
      "The following constraints were not satisfied:\n") unsatisfied with
  | .ok msg => .imageVerificationError msg
  | .error e => e

/-- The error of a failed `any_of` check, built from `minimum_matches`, the
number of satisfied constraints and the unsatisfied ones. -/
def minimumNotReachedError (minimumMatches got : ℕ) (unsatisfied : List Sig) : VerifyError :=
  match pushYaml cs ("Image verification failed: minimum number of signatures not reached: " ++
      "needed " ++ toString minimumMatches ++ ", got " ++ toString got ++
      "\nThe following constraints were not satisfied:\n") unsatisfied with
  | .ok msg => .imageVerificationError msg
  | .error e => e

theorem missingSignaturesError_eq (unsatisfied : List Sig) :
    missingSignaturesError cs unsatisfied =
      match unsatisfied.mapM cs.toYaml with
      | .ok yamls => .imageVerificationError (yamls.foldl (· ++ ·)
          ("Image verification failed: missing signatures\n" ++
            "The following constraints were not satisfied:\n"))
      | .error e => .failedToParseYamlDataError e := by
  unfold missingSignaturesError
  rw [pushYaml_eq]
  rcases unsatisfied.mapM cs.toYaml with e | yamls <;> rfl

theorem minimumNotReachedError_eq (minimumMatches got : ℕ) (unsatisfied : List Sig) :
    minimumNotReachedError cs minimumMatches got unsatisfied =
      match unsatisfied.mapM cs.toYaml with
      | .ok yamls => .imageVerificationError (yamls.foldl (· ++ ·)
          ("Image verification failed: minimum number of signatures not reached: " ++
            "needed " ++ toString minimumMatches ++ ", got " ++ toString got ++
            "\nThe following constraints were not satisfied:\n"))
      | .error e => .failedToParseYamlDataError e := by
  unfold minimumNotReachedError
  rw [pushYaml_eq]
  rcases unsatisfied.mapM cs.toYaml with e | yamls <;> rfl

/-- The `all_of` branch. -/
def checkAllOf (layers : List Layer) (signaturesAllOf : List Sig) : Except VerifyError Unit :=
  let unsatisfied := unsatisfiedSignatures cs layers signaturesAllOf
  if unsatisfied.isEmpty then .ok () else .error (missingSignaturesError cs unsatisfied)

/-- The `any_of` branch; `num_satisfied_constraints` is a `usize` subtraction. -/
def checkAnyOf (layers : List Layer) (signaturesAnyOf : AnyOf Sig) : Except VerifyError Unit :=
  let unsatisfied := unsatisfiedSignatures cs layers signaturesAnyOf.signatures
  let numSatisfiedConstraints := signaturesAnyOf.signatures.length - unsatisfied.length
  if numSatisfiedConstraints < signaturesAnyOf.minimumMatches then
    .error (minimumNotReachedError cs signaturesAnyOf.minimumMatches numSatisfiedConstraints
      unsatisfied)
  else .ok ()

/-- `verify_signatures_against_config`. -/
def verifySignaturesAgainstConfig (verificationConfig : LatestVerificationConfig Sig)
    (trustedLayers : List Layer) : Except VerifyError Unit :=
  if verificationConfig.allOf.isNone && verificationConfig.anyOf.isNone then
    .error (.imageVerificationError "Image verification failed: no signatures to verify")
  else do
    if let some signaturesAllOf := verificationConfig.allOf then
      checkAllOf cs trustedLayers signaturesAllOf
    if let some signaturesAnyOf := verificationConfig.anyOf then
      checkAnyOf cs trustedLayers signaturesAnyOf

/-! ### What the check accepts -/

/-- The number of satisfied constraints of a list. -/
def numSatisfied (layers : List Layer) (sigs : List Sig) : ℕ :=
  sigs.countP fun s => Satisfied cs layers s

/-- The configuration is met by `layers`: it has a list, every `all_of`
constraint is satisfied, and at least `minimum_matches` `any_of` ones are. -/
def ConfigSatisfied (c : LatestVerificationConfig Sig) (layers : List Layer) : Prop :=
  (c.allOf.isSome ∨ c.anyOf.isSome) ∧
  (∀ a ∈ c.allOf, ∀ s ∈ a, Satisfied cs layers s) ∧
  (∀ o ∈ c.anyOf, o.minimumMatches ≤ numSatisfied cs layers o.signatures)

/-- The satisfied and the unsatisfied constraints make up the list. -/
theorem numSatisfied_add_length (layers : List Layer) (sigs : List Sig) :
    numSatisfied cs layers sigs + (unsatisfiedSignatures cs layers sigs).length = sigs.length := by
  rw [unsatisfiedSignatures_eq, ← List.countP_eq_length_filter, numSatisfied,
    List.length_eq_countP_add_countP (fun s => Satisfied cs layers s) sigs]
  simp

/-- `num_satisfied_constraints` counts the satisfied constraints. -/
theorem length_sub_unsatisfied (layers : List Layer) (sigs : List Sig) :
    sigs.length - (unsatisfiedSignatures cs layers sigs).length = numSatisfied cs layers sigs := by
  have := numSatisfied_add_length cs layers sigs
  omega

/-- **The `any_of` count cannot underflow.** The unsatisfied constraints are an
order-preserving sub-list of the `any_of` ones, so `num_satisfied_constraints`, a
`usize` subtraction, takes away a length no larger than the one it starts from:
computed in `ℤ` it is the same number, the count of satisfied constraints. -/
theorem any_of_count_no_underflow (layers : List Layer) (o : AnyOf Sig) :
    (unsatisfiedSignatures cs layers o.signatures).Sublist o.signatures ∧
    (unsatisfiedSignatures cs layers o.signatures).length ≤ o.signatures.length ∧
    (o.signatures.length : ℤ) - (unsatisfiedSignatures cs layers o.signatures).length =
      numSatisfied cs layers o.signatures ∧
    o.signatures.length - (unsatisfiedSignatures cs layers o.signatures).length =
      numSatisfied cs layers o.signatures := by
  have hsub : (unsatisfiedSignatures cs layers o.signatures).Sublist o.signatures :=
    List.filter_sublist _
  have hsum := numSatisfied_add_length cs layers o.signatures
  exact ⟨hsub, hsub.length_le, by omega, by omega⟩

theorem checkAllOf_ok_iff (layers : List Layer) (a : List Sig) :
    checkAllOf cs layers a = .ok () ↔ ∀ s ∈ a, Satisfied cs layers s := by
  simp [checkAllOf, unsatisfiedSignatures_eq, List.filter_eq_nil_iff]

theorem checkAnyOf_ok_iff (layers : List Layer) (o : AnyOf Sig) :
    checkAnyOf cs layers o = .ok () ↔ o.minimumMatches ≤ numSatisfied cs layers o.signatures := by
  simp [checkAnyOf, length_sub_unsatisfied]

theorem checkAllOf_error (layers : List Layer) (a : List Sig) (h : ∃ s ∈ a, ¬ Satisfied cs layers s) :
    checkAllOf cs layers a =
      .error (missingSignaturesError cs (a.filter fun s => ¬ Satisfied cs layers s)) := by
  obtain ⟨s, hs, hn⟩ := h
  have : (a.filter fun s => ¬ Satisfied cs layers s) ≠ [] :=
    List.ne_nil_of_mem (List.mem_filter.mpr ⟨hs, by simpa using hn⟩)
  simpa [checkAllOf, unsatisfiedSignatures_eq, this] using ⟨s, hs, hn⟩

theorem checkAnyOf_error (layers : List Layer) (o : AnyOf Sig)
    (h : numSatisfied cs layers o.signatures < o.minimumMatches) :
    checkAnyOf cs layers o = .error (minimumNotReachedError cs o.minimumMatches
      (numSatisfied cs layers o.signatures) (o.signatures.filter fun s => ¬ Satisfied cs layers s)) := by
  simp only [checkAnyOf, length_sub_unsatisfied, h, if_true]
  rw [unsatisfiedSignatures_eq]

theorem bind_unit_eq_ok {ε : Type} (x y : Except ε Unit) :
    (x >>= fun _ => y) = .ok () ↔ x = .ok () ∧ y = .ok () := by
  rcases x with e | ⟨⟩ <;> simp [bind, Except.bind]

/-- **The check passes exactly on configurations the layers meet.** -/
theorem verifySignaturesAgainstConfig_ok_iff (c : LatestVerificationConfig Sig)
    (layers : List Layer) :
    verifySignaturesAgainstConfig cs c layers = .ok () ↔ ConfigSatisfied cs c layers := by
  rcases c with ⟨_ | a, _ | o⟩ <;>
    simp [verifySignaturesAgainstConfig, ConfigSatisfied, bind_unit_eq_ok, checkAllOf_ok_iff,
      checkAnyOf_ok_iff]

theorem verifySignaturesAgainstConfig_allOf_error (c : LatestVerificationConfig Sig)
    (layers : List Layer) (a : List Sig) (ha : c.allOf = some a)
    (h : ∃ s ∈ a, ¬ Satisfied cs layers s) :
    verifySignaturesAgainstConfig cs c layers =
      .error (missingSignaturesError cs (a.filter fun s => ¬ Satisfied cs layers s)) := by
  rcases c with ⟨_ | a, _ | o⟩ <;> cases ha <;>
    simp [verifySignaturesAgainstConfig, checkAllOf_error cs layers a h, bind, Except.bind]

theorem verifySignaturesAgainstConfig_anyOf_error (c : LatestVerificationConfig Sig)
    (layers : List Layer) (o : AnyOf Sig) (ho : c.anyOf = some o)
    (hall : ∀ a ∈ c.allOf, ∀ s ∈ a, Satisfied cs layers s)
    (h : numSatisfied cs layers o.signatures < o.minimumMatches) :
    verifySignaturesAgainstConfig cs c layers = .error (minimumNotReachedError cs o.minimumMatches
      (numSatisfied cs layers o.signatures) (o.signatures.filter fun s => ¬ Satisfied cs layers s)) := by
  rcases c with ⟨_ | a, _ | o⟩ <;> cases ho
  · simp [verifySignaturesAgainstConfig, checkAnyOf_error cs layers o h, bind, Except.bind, pure,
      Except.pure]
  · have : checkAllOf cs layers a = .ok () := (checkAllOf_ok_iff cs layers a).mpr (hall a rfl)
    simp [verifySignaturesAgainstConfig, this, checkAnyOf_error cs layers o h, bind, Except.bind]

/-! ### `Verifier::verify` -/

/-- The registry and sigstore calls of `fetch_sigstore_remote_data`:
`build_fully_resolved_reference` (as its reference's `whole()`),
`OciReference::from_str`, `triangulate` (the signature image and the source
digest) and `trusted_signature_layers`. -/
structure CosignClient (Layer : Type) where
  buildFullyResolvedReference : String → Except VerifyError String
  ociReferenceFromStr : String → Except SigstoreError String
  triangulate : String → Except SigstoreError (String × String)
  trustedSignatureLayers : String → String → Except SigstoreError (List Layer)

/-- `fetch_sigstore_remote_data`: the source image digest and the trusted layers. -/
def fetchSigstoreRemoteData (cl : CosignClient Layer) (imageUrl : String) :
    Except VerifyError (String × List Layer) := do
  let imageName ← cl.buildFullyResolvedReference imageUrl
  let imageOciRef ← (cl.ociReferenceFromStr imageName).mapError .failedToFetchTrustedLayersError
  let (cosignSignatureImage, sourceImageDigest) ←
    (cl.triangulate imageOciRef).mapError .failedToFetchTrustedLayersError
  let layers ← (cl.trustedSignatureLayers sourceImageDigest cosignSignatureImage).mapError fun
    | .registryPullManifestError _ _ =>
      .imageVerificationError ("no signatures found for image: " ++ imageName ++ " ")
    | e => .failedToFetchTrustedLayersError e
  pure (sourceImageDigest, layers)

/-- `Verifier::verify`: the source image digest, once the trusted layers meet
the configuration. -/
def Verifier.verify (cl : CosignClient Layer) (imageUrl : String)
    (verificationConfig : LatestVerificationConfig Sig) : Except VerifyError String := do
  let (sourceImageDigest, trustedLayers) ← fetchSigstoreRemoteData cl imageUrl
  verifySignaturesAgainstConfig cs verificationConfig trustedLayers
  pure sourceImageDigest

theorem verify_of_fetch (cl : CosignClient Layer) (imageUrl d : String) (layers : List Layer)
    (c : LatestVerificationConfig Sig) (h : fetchSigstoreRemoteData cl imageUrl = .ok (d, layers)) :
    Verifier.verify cs cl imageUrl c = (verifySignaturesAgainstConfig cs c layers).map fun _ => d := by
  simp only [Verifier.verify, h, bind, Except.bind]
  rcases verifySignaturesAgainstConfig cs c layers with e | ⟨⟩ <;> rfl

end Verify
end Kubewarden
