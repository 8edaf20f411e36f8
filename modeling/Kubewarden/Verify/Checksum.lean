/-
# The local file of a verified policy matches its signed manifest

`Verifier::verify_local_file_checksum` (policy-fetcher, `verify/mod.rs`)
fetches the manifest of `registry/repository@digest`, keeps the digests of its
Wasm layers, requires exactly one, strips its `sha256:` prefix and compares
the rest with the digest of the local file. This is the tamper check: it passes
exactly when the manifest has one Wasm layer and that layer's digest is
`sha256:` followed by the file's own digest (`verifyLocalFileChecksum_ok_iff`).

The reference parser, the file system, the registry and `Policy::digest` are
parameters (`ChecksumEnv`).
-/
import Kubewarden.Verify.Signatures

namespace Kubewarden
namespace Verify

/-! ### `str::strip_prefix` -/

/-- `strip_prefix` on characters: the rest of `s` after `p`, if `p` starts it. -/
def stripPrefixChars : List Char → List Char → Option (List Char)
  | [], s => some s
  | _ :: _, [] => none
  | p :: ps, c :: cs => if p = c then stripPrefixChars ps cs else none

theorem stripPrefixChars_eq_some : ∀ (p s r : List Char),
    stripPrefixChars p s = some r ↔ s = p ++ r
  | [], s, r => by simp [stripPrefixChars, eq_comm]
  | _ :: _, [], r => by simp [stripPrefixChars]
  | p :: ps, c :: cs, r => by
    by_cases h : p = c
    · subst h; simp [stripPrefixChars, stripPrefixChars_eq_some ps cs r]
    · simp [stripPrefixChars, h, Ne.symm h]

/-- `str::strip_prefix`. -/
def stripPrefix (s pre : String) : Option String :=
  (stripPrefixChars pre.toList s.toList).map String.mk

theorem stripPrefix_eq_some (s pre r : String) : stripPrefix s pre = some r ↔ s = pre ++ r := by
  rw [stripPrefix, Option.map_eq_some']
  constructor
  · rintro ⟨r', h, rfl⟩
    rw [stripPrefixChars_eq_some] at h
    exact String.ext (by simpa using h)
  · rintro rfl
    exact ⟨r.toList, (stripPrefixChars_eq_some _ _ _).mpr (by simp), rfl⟩

/-! ### The check -/

/-- The Wasm layer media type of `oci_client::manifest`. -/
def wasmLayerMediaType : String := "application/vnd.wasm.content.layer.v1+wasm"

/-- A layer descriptor of an image manifest. -/
structure OciDescriptor where
  mediaType : String
  digest : String

/-- `oci_client::manifest::OciManifest`. -/
inductive OciManifest
  | image (layers : List OciDescriptor)
  | imageIndex

/-- An OCI reference, by the two parts the check uses. -/
structure Reference where
  registry : String
  repository : String

/-- A fetched policy: its uri and the path of its local file. -/
structure Policy where
  uri : String
  localPath : String

/-- What the check asks of the outside: `Reference::try_from` (and `from_str`,
the same parser), `Path::exists`, `Registry::manifest` and `Policy::digest`. -/
structure ChecksumEnv where
  referenceTryFrom : String → Except String Reference
  pathExists : String → Bool
  manifest : String → Except String OciManifest
  policyDigest : Policy → Except String String

variable (env : ChecksumEnv)

/-- The image name: the uri without its `registry://` scheme. -/
def imageNameOf (policy : Policy) : String :=
  (stripPrefix policy.uri "registry://").getD policy.uri

/-- The immutable reference of the verified manifest. -/
def imageImmutableRef (reference : Reference) (verifiedManifestDigest : String) : String :=
  "registry://" ++ reference.registry ++ "/" ++ reference.repository ++ "@" ++
    verifiedManifestDigest

/-- The digests of the Wasm layers, in manifest order. -/
def wasmDigests (layers : List OciDescriptor) : List String :=
  layers.filterMap fun layer => if layer.mediaType = wasmLayerMediaType then some layer.digest else none

/-- The end of the check, on the one Wasm layer's digest: strip `sha256:`
and compare with the local file's digest. -/
def checkWasmDigest (policy : Policy) (digest : String) : Except VerifyError Unit := do
  let expectedDigest ← match stripPrefix digest "sha256:" with
    | some d => pure d
    | none => throw (.checksumVerificationError ("The checksum inside of the remote manifest " ++
        "is not using the sha256 hashing algorithm as expected."))
  let fileDigest ← (env.policyDigest policy).mapError .registryError
  if fileDigest ≠ expectedDigest then
    throw (.checksumVerificationError ("The digest of the local file doesn't match with the " ++
      "one reported inside of the signed manifest. Got " ++ fileDigest ++ " instead of " ++
      expectedDigest))
  else pure ()

/-- `Verifier::verify_local_file_checksum`. The `unreachable!` on an image
index is the `unreachable` error; `digests.len() != 1` followed by
`digests[0]` is a match on the one-element list. -/
def verifyLocalFileChecksum (policy : Policy) (verifiedManifestDigest : String) :
    Except VerifyError Unit := do
  let imageName := imageNameOf policy
  if let .error e := env.referenceTryFrom imageName then
    throw (.invalidOCIImageReferenceError e)
  if !env.pathExists policy.localPath then
    throw (.missingWasmFileError policy.localPath)
  let reference ← (env.referenceTryFrom imageName).mapError .invalidOCIImageReferenceError
  let manifest ← (env.manifest (imageImmutableRef reference verifiedManifestDigest)).mapError
    .registryError
  let digests ← match manifest with
    | .image layers => pure (wasmDigests layers)
    | .imageIndex => throw (.unreachable ("Expected Image, found ImageIndex manifest. This " ++
        "cannot happen, as oci clientConfig.platform_resolver is None and we will error earlier"))
  match digests with
  | [digest] => checkWasmDigest env policy digest
  | _ => throw (.checksumVerificationError ("Cannot verify local file integrity, the remote " ++
      "manifest doesn't have only one WASM layer"))

theorem stripPrefix_append (p r : String) : stripPrefix (p ++ r) p = some r :=
  (stripPrefix_eq_some _ _ _).mpr rfl

theorem append_left_cancel {p e f : String} (h : p ++ e = p ++ f) : e = f :=
  String.ext (List.append_cancel_left (congrArg String.data h))

theorem wasmDigests_eq (layers : List OciDescriptor) :
    wasmDigests layers = (layers.filter (·.mediaType = wasmLayerMediaType)).map (·.digest) := by
  induction layers with
  | nil => rfl
  | cons l ls ih =>
    by_cases h : l.mediaType = wasmLayerMediaType <;> simp [wasmDigests, h] at ih ⊢ <;> exact ih

theorem wasmDigests_eq_singleton (layers : List OciDescriptor) (d : String) :
    wasmDigests layers = [d] ↔
      ∃ l, layers.filter (·.mediaType = wasmLayerMediaType) = [l] ∧ l.digest = d := by
  simp only [wasmDigests_eq, List.map_eq_cons_iff, List.map_eq_nil_iff]
  constructor
  · rintro ⟨l, _, h, rfl, rfl⟩
    exact ⟨l, h, rfl⟩
  · rintro ⟨l, h, rfl⟩
    exact ⟨l, [], h, rfl, rfl⟩

theorem checkWasmDigest_ok_iff (policy : Policy) (digest : String) :
    checkWasmDigest env policy digest = .ok () ↔
      ∃ fileDigest, env.policyDigest policy = .ok fileDigest ∧ digest = "sha256:" ++ fileDigest := by
  rcases hs : stripPrefix digest "sha256:" with _ | e <;>
    rcases hd : env.policyDigest policy with err | f <;>
    simp [checkWasmDigest, hs, hd, bind, Except.bind, pure, Except.pure, throw, throwThe,
      MonadExceptOf.throw, Except.mapError]
  · intro h
    simp [h, stripPrefix_append] at hs
  · rw [stripPrefix_eq_some] at hs
    subst hs
    exact ⟨fun h => by rw [h], fun h => (append_left_cancel h).symm⟩

/-- **The tamper check.** For a policy whose uri parses and whose file exists,
and an image manifest fetched for the verified digest, the check passes exactly
when the manifest has one Wasm layer, whose digest is `sha256:` followed by the
digest of the local file; layers of other media types are ignored. -/
theorem verifyLocalFileChecksum_ok_iff (policy : Policy) (verifiedManifestDigest : String)
    (reference : Reference) (layers : List OciDescriptor)
    (hRef : env.referenceTryFrom (imageNameOf policy) = .ok reference)
    (hPath : env.pathExists policy.localPath = true)
    (hManifest : env.manifest (imageImmutableRef reference verifiedManifestDigest) =
      .ok (.image layers)) :
    verifyLocalFileChecksum env policy verifiedManifestDigest = .ok () ↔
      ∃ fileDigest, env.policyDigest policy = .ok fileDigest ∧
        ∃ l, layers.filter (·.mediaType = wasmLayerMediaType) = [l] ∧
          l.digest = "sha256:" ++ fileDigest := by
  have key : verifyLocalFileChecksum env policy verifiedManifestDigest = .ok () ↔
      ∃ d, wasmDigests layers = [d] ∧ checkWasmDigest env policy d = .ok () := by
    simp only [verifyLocalFileChecksum, hRef, hPath, Except.mapError, bind, Except.bind, hManifest,
      Bool.not_true, pure, Except.pure]
    rcases wasmDigests layers with _ | ⟨d, _ | ⟨d', ds⟩⟩ <;> simp [throw, throwThe, MonadExceptOf.throw]
  simp only [key, checkWasmDigest_ok_iff, wasmDigests_eq_singleton]
  constructor
  · rintro ⟨d, ⟨l, hl, rfl⟩, f, hf, hd⟩
    exact ⟨f, hf, l, hl, hd⟩
  · rintro ⟨f, hf, l, hl, hd⟩
    exact ⟨l.digest, ⟨l, hl, rfl⟩, f, hf, hd⟩

/-- A registry holding one manifest: a config layer and one Wasm layer of digest `sha256:ab`. -/
def sampleEnv : ChecksumEnv where
  referenceTryFrom _ := .ok ⟨"ghcr.io", "kubewarden/policy"⟩
  pathExists _ := true
  manifest _ := .ok (.image [⟨"application/vnd.wasm.config.v1+json", "sha256:cf"⟩,
    ⟨wasmLayerMediaType, "sha256:ab"⟩])
  policyDigest _ := .ok "ab"

theorem verifyLocalFileChecksum_ok_iff_sample :
    let policy : Policy := ⟨"registry://ghcr.io/kubewarden/policy:v1", "/policy.wasm"⟩
    let layers : List OciDescriptor := [⟨"application/vnd.wasm.config.v1+json", "sha256:cf"⟩,
      ⟨wasmLayerMediaType, "sha256:ab"⟩]
    sampleEnv.referenceTryFrom (imageNameOf policy) = .ok ⟨"ghcr.io", "kubewarden/policy"⟩ ∧
    sampleEnv.pathExists policy.localPath = true ∧
    sampleEnv.manifest (imageImmutableRef ⟨"ghcr.io", "kubewarden/policy"⟩ "sha256:ff") =
      .ok (.image layers) ∧
    (verifyLocalFileChecksum sampleEnv policy "sha256:ff" = .ok () ↔
      ∃ fileDigest, sampleEnv.policyDigest policy = .ok fileDigest ∧
        ∃ l, layers.filter (·.mediaType = wasmLayerMediaType) = [l] ∧
          l.digest = "sha256:" ++ fileDigest) :=
  ⟨rfl, rfl, rfl, verifyLocalFileChecksum_ok_iff sampleEnv _ "sha256:ff" ⟨"ghcr.io", "kubewarden/policy"⟩
    _ rfl rfl rfl⟩

end Verify
end Kubewarden
