/-
# Loading a policy module: the version and protocol gates

`PrecompiledPolicy::new` (policy-server, `evaluation/precompiled_policy.rs`)
reads a Wasm module, takes its metadata (`Metadata::default()` when it has
none), and admits it only when `has_minimum_kubewarden_version` and
`has_valid_protocol_version` pass. Both sides of the version comparison are
cut to `major.minor.0` with empty pre-release and build, so the semver order,
pre-release rules included, reduces to the order of `(major, minor)`
(`hasMinimumKubewardenVersion_ok_iff`).

The semver comparison is modelled after the `semver` crate's `Ord` for
`Version`, `Prerelease` and `BuildMetadata`; the file system, the metadata
parser, the engine and SHA-256 are parameters (`PrecompileEnv`).
-/
import Mathlib.Order.Basic
import Mathlib.Order.Compare
import Mathlib.Data.Nat.Defs

namespace Kubewarden
namespace Server

/-! ### Semantic versions -/

/-- `semver::Version`; the numbers are `u64`, only ever compared. -/
structure Version where
  major : ℕ
  minor : ℕ
  patch : ℕ
  pre : String
  build : String
  deriving DecidableEq, Repr

/-- `str::split('.')` on characters. -/
def splitDot : List Char → List (List Char)
  | [] => [[]]
  | c :: cs =>
    if c = '.' then [] :: splitDot cs
    else match splitDot cs with
      | w :: ws => (c :: w) :: ws
      | [] => [[c]]

/-- Byte order on ASCII identifiers: the lexicographic order of characters. -/
def cmpChars : List Char → List Char → Ordering
  | [], [] => .eq
  | [], _ :: _ => .lt
  | _ :: _, [] => .gt
  | a :: as, b :: bs => (compare a.toNat b.toNat).then (cmpChars as bs)

/-- An identifier made of ASCII digits only. -/
def isNumeric (w : List Char) : Bool := w.all Char.isDigit

/-- One pre-release identifier against another: numeric ones by length then
digits, numeric below alphanumeric, alphanumeric ones by bytes. -/
def cmpPreIdent (a b : List Char) : Ordering :=
  match isNumeric a, isNumeric b with
  | true, true => (compare a.length b.length).then (cmpChars a b)
  | true, false => .lt
  | false, true => .gt
  | false, false => cmpChars a b

/-- One build identifier against another: numeric ones by value, then by
leading zeros (`0 < 00 < 1 < 01`), numeric below alphanumeric. -/
def cmpBuildIdent (a b : List Char) : Ordering :=
  match isNumeric a, isNumeric b with
  | true, true =>
    let av := a.dropWhile (· = '0')
    let bv := b.dropWhile (· = '0')
    (compare av.length bv.length).then ((cmpChars av bv).then (compare a.length b.length))
  | true, false => .lt
  | false, true => .gt
  | false, false => cmpChars a b

/-- Identifier lists, the shorter one below when it is a prefix. -/
def cmpIdents (f : List Char → List Char → Ordering) : List (List Char) → List (List Char) → Ordering
  | [], [] => .eq
  | [], _ :: _ => .lt
  | _ :: _, [] => .gt
  | a :: as, b :: bs => (f a b).then (cmpIdents f as bs)

/-- `Ord for Prerelease`: an empty pre-release is above every other one. -/
def cmpPre (a b : String) : Ordering :=
  match a.isEmpty, b.isEmpty with
  | true, true => .eq
  | true, false => .gt
  | false, true => .lt
  | false, false => cmpIdents cmpPreIdent (splitDot a.toList) (splitDot b.toList)

/-- `Ord for BuildMetadata`. -/
def cmpBuild (a b : String) : Ordering :=
  cmpIdents cmpBuildIdent (splitDot a.toList) (splitDot b.toList)

/-- `Ord for Version`: major, minor, patch, pre-release, build. -/
def Version.cmp (a b : Version) : Ordering :=
  (compare a.major b.major).then <| (compare a.minor b.minor).then <|
    (compare a.patch b.patch).then <| (cmpPre a.pre b.pre).then (cmpBuild a.build b.build)

instance : LT Version := ⟨fun a b => a.cmp b = .lt⟩

instance (a b : Version) : Decidable (a < b) := inferInstanceAs (Decidable (a.cmp b = .lt))

/-- `Display for Version`. -/
def Version.toString (v : Version) : String :=
  Nat.repr v.major ++ "." ++ Nat.repr v.minor ++ "." ++ Nat.repr v.patch ++ (if v.pre.isEmpty then "" else "-" ++ v.pre) ++
    (if v.build.isEmpty then "" else "+" ++ v.build)

/-- A version cut to `major.minor.0`, without pre-release or build. -/
def Version.sanitize (v : Version) : Version := ⟨v.major, v.minor, 0, "", ""⟩

theorem cmp_sanitize (a b : Version) :
    a.sanitize.cmp b.sanitize = (compare a.major b.major).then (compare a.minor b.minor) := by
  have hpatch : compare (0 : ℕ) 0 = .eq := rfl
  have hpre : cmpPre "" "" = .eq := rfl
  have hbuild : cmpBuild "" "" = .eq := rfl
  simp only [Version.cmp, Version.sanitize, hpatch, hpre, hbuild]
  rcases compare a.major b.major <;> rcases compare a.minor b.minor <;> rfl

/-- On versions cut to `major.minor`, the semver order is the lexicographic
order of `(major, minor)`. -/
theorem sanitize_lt_iff (a b : Version) :
    a.sanitize < b.sanitize ↔ a.major < b.major ∨ (a.major = b.major ∧ a.minor < b.minor) := by
  show a.sanitize.cmp b.sanitize = .lt ↔ _
  rw [cmp_sanitize, Ordering.then_eq_lt, Nat.compare_eq_lt, Nat.compare_eq_lt, Nat.compare_eq_eq]

/-! ### The metadata gates -/

/-- `PolicyExecutionMode`; `KubewardenWapc` is its default. -/
inductive PolicyExecutionMode
  | kubewardenWapc
  | opa
  | opaGatekeeper
  | wasi
  deriving DecidableEq, Repr

/-- `ProtocolVersion` of the policy SDK, with the variants its tests name. -/
inductive ProtocolVersion
  | unknown
  | v1
  deriving DecidableEq, Repr

/-- The `{:?}` of a protocol version. -/
def ProtocolVersion.debug : ProtocolVersion → String
  | .unknown => "Unknown"
  | .v1 => "V1"

/-- The fields of `policy_metadata::Metadata` that loading reads. -/
structure Metadata where
  protocolVersion : Option ProtocolVersion
  executionMode : PolicyExecutionMode
  minimumKubewardenVersion : Option Version
  deriving DecidableEq, Repr

/-- `Metadata::default()` on those fields: no protocol version, the default
execution mode, no minimum version. -/
def Metadata.default : Metadata := ⟨none, .kubewardenWapc, none⟩

/-- `KUBEWARDEN_VERSION`: the running version with patch, pre-release and build
removed. -/
def kubewardenVersion (cargoPkgVersion : Version) : Version := cargoPkgVersion.sanitize

/-- `has_minimum_kubewarden_version`, against the running version. -/
def hasMinimumKubewardenVersion (cargoPkgVersion : Version) (metadata : Metadata) :
    Except String Unit :=
  match metadata.minimumKubewardenVersion with
  | some minimumKubewardenVersion =>
    let sanitizedMinimumKubewardenVersion := minimumKubewardenVersion.sanitize
    if kubewardenVersion cargoPkgVersion < sanitizedMinimumKubewardenVersion then
      .error ("Policy required Kubewarden version " ++ sanitizedMinimumKubewardenVersion.toString ++
        " but is running on " ++ (kubewardenVersion cargoPkgVersion).toString)
    else .ok ()
  | none => .ok ()

/-- `has_valid_protocol_version`. -/
def hasValidProtocolVersion (metadata : Metadata) : Except String Unit :=
  if metadata.executionMode = .kubewardenWapc then
    match metadata.protocolVersion with
    | some .v1 => .ok ()
    | some other => .error ("Policy uses protocol version " ++ other.debug ++
        " but only V1 is supported")
    | none => .error ("Policy is missing protocol version, which is required for " ++
        "KubewardenWapc execution mode")
  else .ok ()

/-- The running version is at least the policy's minimum, on `(major, minor)`. -/
def MeetsMinimum (cargoPkgVersion : Version) (metadata : Metadata) : Prop :=
  ∀ minimum ∈ metadata.minimumKubewardenVersion,
    minimum.major < cargoPkgVersion.major ∨
      (minimum.major = cargoPkgVersion.major ∧ minimum.minor ≤ cargoPkgVersion.minor)

theorem hasMinimumKubewardenVersion_ok_iff (cargoPkgVersion : Version) (metadata : Metadata) :
    hasMinimumKubewardenVersion cargoPkgVersion metadata = .ok () ↔
      MeetsMinimum cargoPkgVersion metadata := by
  rcases h : metadata.minimumKubewardenVersion with _ | minimum
  · simp [hasMinimumKubewardenVersion, MeetsMinimum, h]
  · simp only [hasMinimumKubewardenVersion, MeetsMinimum, h, kubewardenVersion, sanitize_lt_iff]
    split_ifs with hlt <;> simp <;> omega

theorem hasValidProtocolVersion_ok_iff (metadata : Metadata) :
    hasValidProtocolVersion metadata = .ok () ↔
      metadata.executionMode ≠ .kubewardenWapc ∨ metadata.protocolVersion = some .v1 := by
  unfold hasValidProtocolVersion
  split_ifs with h
  · rcases metadata.protocolVersion with _ | _ | _ <;> simp [h]
  · simp [h]

/-! ### `PrecompiledPolicy::new` -/

/-- A precompiled module, its execution mode and the SHA-256 of the module. -/
structure PrecompiledPolicy where
  precompiledModule : List UInt8
  executionMode : PolicyExecutionMode
  digest : String

/-- What loading asks of the outside: `fs::read`, `Metadata::from_contents`,
`Engine::precompile_module` and the hex SHA-256 of bytes. -/
structure PrecompileEnv where
  read : String → Except String (List UInt8)
  fromContents : List UInt8 → Except String (Option Metadata)
  precompileModule : List UInt8 → Except String (List UInt8)
  sha256Hex : List UInt8 → String

/-- `PrecompiledPolicy::new`, on a server built as `cargoPkgVersion`. -/
def PrecompiledPolicy.new (cargoPkgVersion : Version) (env : PrecompileEnv)
    (wasmModulePath : String) : Except String PrecompiledPolicy := do
  let policyContents ← env.read wasmModulePath
  let policyMetadata ← env.fromContents policyContents
  let metadata := policyMetadata.getD Metadata.default
  let executionMode := metadata.executionMode
  hasMinimumKubewardenVersion cargoPkgVersion metadata
  hasValidProtocolVersion metadata
  let precompiledModule ← env.precompileModule policyContents
  pure { precompiledModule, executionMode, digest := env.sha256Hex precompiledModule }

/-- The two gates pass. -/
def Admitted (cargoPkgVersion : Version) (metadata : Metadata) : Prop :=
  MeetsMinimum cargoPkgVersion metadata ∧
    (metadata.executionMode ≠ .kubewardenWapc ∨ metadata.protocolVersion = some .v1)

theorem new_eq (cargoPkgVersion : Version) (env : PrecompileEnv) (path : String)
    (contents : List UInt8) (policyMetadata : Option Metadata)
    (hRead : env.read path = .ok contents)
    (hMeta : env.fromContents contents = .ok policyMetadata) :
    PrecompiledPolicy.new cargoPkgVersion env path =
      (do
        hasMinimumKubewardenVersion cargoPkgVersion (policyMetadata.getD Metadata.default)
        hasValidProtocolVersion (policyMetadata.getD Metadata.default)
        let precompiledModule ← env.precompileModule contents
        pure ⟨precompiledModule, (policyMetadata.getD Metadata.default).executionMode,
          env.sha256Hex precompiledModule⟩) := by
  simp [PrecompiledPolicy.new, hRead, hMeta, bind, Except.bind]

/-- **Loading admits exactly the compatible modules.** The gates pass iff the
policy's minimum version is at most the running one on `(major, minor)`,
whatever the patch, pre-release and build of either, and a `kubewarden-wapc`
policy declares protocol `V1`; a module that passes and precompiles is loaded
with the execution mode of its metadata (`Metadata::default()` when it has
none). -/
theorem precompiled_policy_admission (cargoPkgVersion : Version) (metadata : Metadata) :
    ((hasMinimumKubewardenVersion cargoPkgVersion metadata = .ok () ∧
        hasValidProtocolVersion metadata = .ok ()) ↔ Admitted cargoPkgVersion metadata) ∧
    ∀ (env : PrecompileEnv) (path : String) (contents : List UInt8) (policyMetadata : Option Metadata),
      env.read path = .ok contents → env.fromContents contents = .ok policyMetadata →
      ∀ p, PrecompiledPolicy.new cargoPkgVersion env path = .ok p ↔
        Admitted cargoPkgVersion (policyMetadata.getD Metadata.default) ∧
          ∃ m, env.precompileModule contents = .ok m ∧
            p = ⟨m, (policyMetadata.getD Metadata.default).executionMode, env.sha256Hex m⟩ := by
  refine ⟨by rw [hasMinimumKubewardenVersion_ok_iff, hasValidProtocolVersion_ok_iff]; rfl,
    fun env path contents policyMetadata hRead hMeta p => ?_⟩
  rw [new_eq cargoPkgVersion env path contents policyMetadata hRead hMeta, Admitted,
    ← hasMinimumKubewardenVersion_ok_iff, ← hasValidProtocolVersion_ok_iff]
  rcases hasMinimumKubewardenVersion cargoPkgVersion (policyMetadata.getD Metadata.default)
    with e | ⟨⟩ <;>
  rcases hasValidProtocolVersion (policyMetadata.getD Metadata.default) with e' | ⟨⟩ <;>
  rcases env.precompileModule contents with e'' | m <;>
  simp [bind, Except.bind, pure, Except.pure, eq_comm]

end Server
end Kubewarden
