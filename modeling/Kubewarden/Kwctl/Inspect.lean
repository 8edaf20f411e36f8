/-
# What kwctl inspect prints

`kwctl inspect` (`inspect.rs`) prints a policy's metadata, as YAML or as
tables. The first table, `print_metadata_generic_info`, needs the protocol
version whatever the execution mode, though it shows it for waPC policies
only. It shows the known annotations the policy has (title, description,
author, url, source, license), in that order, each under its key after the
`io.kubewarden.policy.` prefix; then the policy's properties; then, under
`Annotations`, every other annotation but the usage, in the map's order,
when there is one (`print_metadata_generic_info_law`). The usage gets a
section of its own. After the metadata, `inspect` fetches the signatures of a
`registry://` policy and reports a failure to fetch them.

The annotation keys (`policy_evaluator::constants`), the `Display` of the
metadata's types from other crates, the YAML serializer, the terminal
renderer and the registry are parameters; a table is its rows of cell texts,
styles left out, and what is printed is a list of `Printed` items.

Key definitions: `annotationToRowKey`, `printMetadataGenericInfo`,
`MetadataPrinter.print`, `inspect`.
Key theorems: `detailsLoop_eq`, `print_metadata_generic_info_law`.
-/
import Kubewarden.Evaluator.Modes
import Kubewarden.Rego.ContextAware
import Kubewarden.Verify.Checksum

namespace Kubewarden
namespace Kwctl

open Server (ProtocolVersion Version)

/-! ### The metadata -/

/-- The metadata's annotations: its map's entries in iteration order, each key
once. -/
structure Annotations where
  entries : List (String × String)
  nodup : (entries.map Prod.fst).Nodup

namespace Annotations

/-- No annotation (`unwrap_or_default`). -/
def empty : Annotations := ⟨[], List.nodup_nil⟩

/-- The map's `get`. -/
def get (annotations : Annotations) (key : String) : Option String :=
  (annotations.entries.find? fun entry => entry.1 = key).map Prod.snd

/-- The map's `remove`, the returned value dropped. -/
def remove (annotations : Annotations) (key : String) : Annotations :=
  ⟨annotations.entries.filter fun entry => entry.1 ≠ key,
    ((List.filter_sublist _).map Prod.fst).nodup annotations.nodup⟩

theorem get_eq_none (annotations : Annotations) (key : String) :
    annotations.get key = none ↔ ∀ entry ∈ annotations.entries, entry.1 ≠ key := by
  simp [get]

/-- Removing a key leaves the other keys' values. -/
theorem get_remove_of_ne (annotations : Annotations) {key key' : String} (h : key' ≠ key) :
    (annotations.remove key).get key' = annotations.get key' := by
  simp only [get, remove, List.find?_filter]
  congr 2
  funext entry
  by_cases he : entry.1 = key' <;> simp [he, h]

end Annotations

/-- The annotation keys of `policy_evaluator::constants` that inspect reads. -/
structure AnnotationKeys where
  title : String
  description : String
  author : String
  url : String
  source : String
  license : String
  usage : String

/-- `pretty_annotations`: the keys shown among the details, in order. -/
def AnnotationKeys.pretty (keys : AnnotationKeys) : List String :=
  [keys.title, keys.description, keys.author, keys.url, keys.source, keys.license]

/-- `PolicyType`. -/
inductive PolicyType
  | kubernetes
  | raw
  deriving DecidableEq, Repr

/-- The fields of `policy_metadata::Metadata` that inspect reads, beyond those
loading reads. -/
structure Metadata extends Server.Metadata where
  annotations : Option Annotations
  mutating : Bool
  backgroundAudit : Bool
  contextAwareResources : Rego.ResourceSet
  policyType : PolicyType

/-- What inspect uses from other crates to write the metadata out: the
`Display` of the policy type and of the protocol version, and
`serde_yaml::to_string` of the metadata, of its rules and of its
context-aware resources. -/
structure Formats where
  policyType : PolicyType → String
  protocolVersion : ProtocolVersion → String
  metadataYaml : Metadata → Except String String
  rulesYaml : Metadata → Except String String
  contextAwareResourcesYaml : Metadata → Except String String

/-! ### The output format -/

/-- `OutputType`; `MetadataPrinter` and `SignaturesPrinter` are built from it
one for one. -/
inductive OutputType
  | yaml
  | pretty
  deriving DecidableEq, Repr

/-- `TryFrom<Option<&str>> for OutputType`. -/
def outputTypeTryFrom : Option String → Except String OutputType
  | some "yaml" => .ok .yaml
  | none => .ok .pretty
  | some unknown => .error ("Invalid output format \x27" ++ unknown ++ "\x27")

/-! ### Row keys -/

/-- `str::trim_start_matches` with a text, given at most `n` matches to strip. -/
def trimStartMatchesAux (pat : List Char) : ℕ → List Char → List Char
  | 0, s => s
  | n + 1, s => if pat ≠ [] ∧ pat <+: s then trimStartMatchesAux pat n (s.drop pat.length) else s

/-- `str::trim_start_matches` with a text: strip it off the front for as long
as it is there. Each match strips a character at least, so the text's length
bounds the matches (`trimStartMatches_spec`). -/
def trimStartMatches (pat s : List Char) : List Char := trimStartMatchesAux pat s.length s

/-- The matches are stripped to the end: the result is what follows some
copies of the pattern, and does not start with it. -/
theorem trimStartMatchesAux_spec (pat : List Char) (hpat : pat ≠ []) :
    ∀ (n : ℕ) (s : List Char), s.length ≤ n →
      ∃ k, s = (List.replicate k pat).flatten ++ trimStartMatchesAux pat n s ∧
        ¬ pat <+: trimStartMatchesAux pat n s
  | 0, s, hs => by
    obtain rfl : s = [] := List.length_eq_zero.1 (Nat.le_zero.1 hs)
    refine ⟨0, rfl, fun h => hpat (List.prefix_nil.1 h)⟩
  | n + 1, s, hs => by
    by_cases hp : pat <+: s
    · obtain ⟨t, rfl⟩ := hp
      have hlen : 0 < pat.length := List.length_pos.2 hpat
      have ht : t.length ≤ n := by simp only [List.length_append] at hs; omega
      obtain ⟨k, hk, hn⟩ := trimStartMatchesAux_spec pat hpat n t ht
      refine ⟨k + 1, ?_, ?_⟩ <;>
        simp only [trimStartMatchesAux, hpat, List.prefix_append, List.drop_left, ne_eq,
          not_false_eq_true, and_self, if_true]
      · rw [List.replicate_succ, List.flatten_cons, List.append_assoc, ← hk]
      · exact hn
    · exact ⟨0, by simp [trimStartMatchesAux, hp], by simp [trimStartMatchesAux, hp]⟩

theorem trimStartMatches_spec (pat s : List Char) (hpat : pat ≠ []) :
    ∃ k, s = (List.replicate k pat).flatten ++ trimStartMatches pat s ∧
      ¬ pat <+: trimStartMatches pat s :=
  trimStartMatchesAux_spec pat hpat _ s le_rfl

/-- `MetadataPrinter::annotation_to_row_key`. -/
def annotationToRowKey (text : String) : String :=
  ⟨trimStartMatches "io.kubewarden.policy.".toList (text.toList ++ [':'])⟩

example : annotationToRowKey "io.kubewarden.policy.title" = "title:" := by decide

/-! ### The details table -/

section Print

variable (keys : AnnotationKeys) (formats : Formats)

/-- The loop of `print_metadata_generic_info` over the keys left: a key the
annotations have gets a row and is removed from them. -/
def detailsLoop : Annotations → List (List String) → List String → List (List String) × Annotations
  | annotations, table, [] => (table, annotations)
  | annotations, table, annotation :: rest =>
    match annotations.get annotation with
    | some value =>
      detailsLoop (annotations.remove annotation) (table ++ [[annotationToRowKey annotation, value]]) rest
    | none => detailsLoop annotations table rest

/-- `MetadataPrinter::print_metadata_generic_info`: the table it prints. -/
def printMetadataGenericInfo (metadata : Metadata) : Except String (List (List String)) :=
  match metadata.protocolVersion with
  | none => .error "Invalid policy: protocol_version not defined"
  | some protocolVersion =>
    let (table, annotations) := detailsLoop (metadata.annotations.getD .empty) [["Details"]] keys.pretty
    let table := table ++
      [["mutating:", toString metadata.mutating],
        ["background audit support:", toString metadata.backgroundAudit],
        ["context aware:", toString !metadata.contextAwareResources.toList.isEmpty],
        ["policy type:", formats.policyType metadata.policyType],
        ["execution mode:", Evaluator.display metadata.executionMode]]
    let table := if metadata.executionMode = .kubewardenWapc then
      table ++ [["protocol version:", formats.protocolVersion protocolVersion]] else table
    let table := match metadata.minimumKubewardenVersion with
      | some minimumKubewardenVersion =>
        table ++ [["minimum kubewarden version:", minimumKubewardenVersion.toString]]
      | none => table
    let annotations := annotations.remove keys.usage
    .ok (if annotations.entries.isEmpty then table
      else table ++ [[], ["Annotations"]] ++ annotations.entries.map fun entry => [entry.1, entry.2])

/-- The rows of the known annotations a map has, in the order of the keys. -/
def prettyRows (annotations : Annotations) (pretty : List String) : List (List String) :=
  pretty.filterMap fun annotation =>
    (annotations.get annotation).map fun value => [annotationToRowKey annotation, value]

/-- The details loop over distinct keys adds a row for each key the
annotations have, in the keys' order, and leaves the annotations whose key is
none of them. -/
theorem detailsLoop_eq : ∀ (pretty : List String), pretty.Nodup →
    ∀ (annotations : Annotations) (table : List (List String)),
      (detailsLoop annotations table pretty).1 = table ++ prettyRows annotations pretty ∧
      (detailsLoop annotations table pretty).2.entries =
        annotations.entries.filter fun entry => entry.1 ∉ pretty
  | [], _, annotations, table => by simp [detailsLoop, prettyRows]
  | annotation :: rest, hnd, annotations, table => by
    obtain ⟨hnot, hnd⟩ := List.nodup_cons.1 hnd
    rcases hg : annotations.get annotation with _ | value
    · have hkeep : ∀ entry ∈ annotations.entries, entry.1 ≠ annotation :=
        (Annotations.get_eq_none _ _).1 hg
      obtain ⟨h1, h2⟩ := detailsLoop_eq rest hnd annotations table
      refine ⟨by simp [detailsLoop, hg, h1, prettyRows], ?_⟩
      simp only [detailsLoop, hg, h2]
      exact List.filter_congr fun entry he => by simp [hkeep entry he]
    · have hrest : prettyRows (annotations.remove annotation) rest = prettyRows annotations rest :=
        List.filterMap_congr fun k hk => by
          have hne : k ≠ annotation := fun h => hnot (h ▸ hk)
          rw [Annotations.get_remove_of_ne _ hne]
      obtain ⟨h1, h2⟩ := detailsLoop_eq rest hnd (annotations.remove annotation)
        (table ++ [[annotationToRowKey annotation, value]])
      simp only [detailsLoop, hg]
      refine ⟨by rw [h1, hrest]; simp [prettyRows, hg], ?_⟩
      rw [h2]
      simp only [Annotations.remove, List.filter_filter]
      apply List.filter_congr
      intro entry _
      by_cases h : entry.1 = annotation <;> simp [h]

/-- **What the details table shows.** For every metadata and every iteration
order of its annotations, with distinct known keys: without a protocol
version the table fails, whatever the execution mode; otherwise it is the
`Details` title, a row for each known annotation the policy has, in the
keys' order, under its short key, the policy's properties (the protocol
version only for a waPC policy, the minimum version only when set), and,
when there is one, an `Annotations` section with every other annotation but
the usage, in the map's order. -/
theorem print_metadata_generic_info_law (hkeys : keys.pretty.Nodup) (metadata : Metadata) :
    (metadata.protocolVersion = none →
      printMetadataGenericInfo keys formats metadata = .error "Invalid policy: protocol_version not defined") ∧
    ∀ protocolVersion, metadata.protocolVersion = some protocolVersion →
      let annotations := metadata.annotations.getD .empty
      let others := annotations.entries.filter fun entry => entry.1 ∉ keys.usage :: keys.pretty
      printMetadataGenericInfo keys formats metadata = .ok
        (["Details"] :: prettyRows annotations keys.pretty ++
          [["mutating:", toString metadata.mutating],
            ["background audit support:", toString metadata.backgroundAudit],
            ["context aware:", toString !metadata.contextAwareResources.toList.isEmpty],
            ["policy type:", formats.policyType metadata.policyType],
            ["execution mode:", Evaluator.display metadata.executionMode]] ++
          (if metadata.executionMode = .kubewardenWapc then
            [["protocol version:", formats.protocolVersion protocolVersion]] else []) ++
          (metadata.minimumKubewardenVersion.map fun v => ["minimum kubewarden version:", v.toString]).toList ++
          (if others = [] then [] else [] :: ["Annotations"] :: others.map fun entry => [entry.1, entry.2])) := by
  refine ⟨fun h => by simp [printMetadataGenericInfo, h], fun protocolVersion h => ?_⟩
  obtain ⟨h1, h2⟩ := detailsLoop_eq keys.pretty hkeys (metadata.annotations.getD .empty) [["Details"]]
  have hothers : ((detailsLoop (metadata.annotations.getD .empty) [["Details"]] keys.pretty).2.remove
      keys.usage).entries = (metadata.annotations.getD .empty).entries.filter
        fun entry => entry.1 ∉ keys.usage :: keys.pretty := by
    simp only [Annotations.remove, h2, List.filter_filter]
    exact List.filter_congr fun entry _ => by simp [and_comm]
  simp only [printMetadataGenericInfo, h]
  rw [hothers, h1]
  by_cases ho : (metadata.annotations.getD .empty).entries.filter
      (fun entry => entry.1 ∉ keys.usage :: keys.pretty) = []
  · rw [ho]
    rcases metadata.minimumKubewardenVersion with _ | v <;>
      by_cases hw : metadata.executionMode = .kubewardenWapc <;> simp [hw]
  · rw [if_neg (by rwa [List.isEmpty_iff]), if_neg ho]
    rcases metadata.minimumKubewardenVersion with _ | v <;>
      by_cases hw : metadata.executionMode = .kubewardenWapc <;> simp [hw]

/-- The annotation keys as `policy_evaluator::constants` defines them. -/
def kubewardenAnnotationKeys : AnnotationKeys where
  title := "io.kubewarden.policy.title"
  description := "io.kubewarden.policy.description"
  author := "io.kubewarden.policy.author"
  url := "io.kubewarden.policy.url"
  source := "io.kubewarden.policy.source"
  license := "io.kubewarden.policy.license"
  usage := "io.kubewarden.policy.usage"

/-- Formats for the run below. -/
def plainFormats : Formats where
  policyType
    | .kubernetes => "kubernetes"
    | .raw => "raw"
  protocolVersion := ProtocolVersion.debug
  metadataYaml _ := .ok ""
  rulesYaml _ := .ok ""
  contextAwareResourcesYaml _ := .ok ""

/-- A waPC policy with a title, a usage and an annotation of its own. -/
def sampleMetadata : Metadata where
  protocolVersion := some .v1
  executionMode := .kubewardenWapc
  minimumKubewardenVersion := none
  annotations := some ⟨[("io.kubewarden.policy.title", "pod-privileged"),
    ("io.kubewarden.policy.usage", "Reject privileged pods"), ("team", "platform")], by decide⟩
  mutating := false
  backgroundAudit := true
  contextAwareResources := ⟨[], List.Pairwise.nil⟩
  policyType := .kubernetes

theorem print_metadata_generic_info_law_sample :
    kubewardenAnnotationKeys.pretty.Nodup ∧
    (sampleMetadata.protocolVersion = none →
      printMetadataGenericInfo kubewardenAnnotationKeys plainFormats sampleMetadata =
        .error "Invalid policy: protocol_version not defined") ∧
    ∀ protocolVersion, sampleMetadata.protocolVersion = some protocolVersion →
      let annotations := sampleMetadata.annotations.getD .empty
      let others := annotations.entries.filter fun entry =>
        entry.1 ∉ kubewardenAnnotationKeys.usage :: kubewardenAnnotationKeys.pretty
      printMetadataGenericInfo kubewardenAnnotationKeys plainFormats sampleMetadata = .ok
        (["Details"] :: prettyRows annotations kubewardenAnnotationKeys.pretty ++
          [["mutating:", toString sampleMetadata.mutating],
            ["background audit support:", toString sampleMetadata.backgroundAudit],
            ["context aware:", toString !sampleMetadata.contextAwareResources.toList.isEmpty],
            ["policy type:", plainFormats.policyType sampleMetadata.policyType],
            ["execution mode:", Evaluator.display sampleMetadata.executionMode]] ++
          (if sampleMetadata.executionMode = .kubewardenWapc then
            [["protocol version:", plainFormats.protocolVersion protocolVersion]] else []) ++
          (sampleMetadata.minimumKubewardenVersion.map fun v =>
            ["minimum kubewarden version:", v.toString]).toList ++
          (if others = [] then [] else [] :: ["Annotations"] :: others.map fun entry => [entry.1, entry.2])) :=
  ⟨by decide, print_metadata_generic_info_law kubewardenAnnotationKeys plainFormats (by decide) sampleMetadata⟩

/-! ### The pretty printer -/

/-- What the pretty printer writes, in order. -/
inductive Printed
  /-- A table, `printstd`. -/
  | table (rows : List (List String))
  /-- An empty `println!()`. -/
  | blank
  /-- A line of text. -/
  | line (text : String)
  /-- A text through `render_markdown`. -/
  | markdown (text : String)
  /-- A text with `print!`. -/
  | text (s : String)
  deriving DecidableEq, Repr

/-- A printing step after another: its output follows, and it runs only when
the first succeeded. -/
def andThen (first : List Printed × Except String Unit) (next : Unit → List Printed × Except String Unit) :
    List Printed × Except String Unit :=
  match first.2 with
  | .error e => (first.1, .error e)
  | .ok () => (first.1 ++ (next ()).1, (next ()).2)

/-- `MetadataPrinter::print_metadata_rules`. -/
def printMetadataRules (metadata : Metadata) : List Printed × Except String Unit :=
  match formats.rulesYaml metadata with
  | .error e => ([], .error e)
  | .ok rulesYaml => ([.table [["Rules"]], .markdown ("```yaml\n" ++ rulesYaml ++ "```")], .ok ())

/-- `MetadataPrinter::print_metadata_context_aware_resources`. -/
def printMetadataContextAwareResources (metadata : Metadata) : List Printed × Except String Unit :=
  match formats.contextAwareResourcesYaml metadata with
  | .error e => ([], .error e)
  | .ok resourcesYaml =>
    ([.table [["Context Aware"]],
      .line "The policy requires access to the following Kubernetes resources at evaluation time:",
      .markdown ("```yaml\n" ++ resourcesYaml ++ "```"),
      .line "To avoid abuses, review carefully what the policy requires access to."], .ok ())

/-- `MetadataPrinter::print_metadata_usage`. -/
def printMetadataUsage (metadata : Metadata) : List Printed :=
  match metadata.annotations.bind fun annotations => annotations.get keys.usage with
  | none => []
  | some usage => [.table [["Usage"]], .markdown ("---\n" ++ usage ++ "\n---")]

/-- `MetadataPrinter::print`. -/
def MetadataPrinter.print (printer : OutputType) (metadata : Metadata) : List Printed × Except String Unit :=
  match printer with
  | .yaml =>
    match formats.metadataYaml metadata with
    | .error e => ([], .error e)
    | .ok metadataYaml => ([.text metadataYaml], .ok ())
  | .pretty =>
    andThen (match printMetadataGenericInfo keys formats metadata with
      | .error e => ([], .error e)
      | .ok table => ([.table table, .blank], .ok ())) fun () =>
    andThen (printMetadataRules formats metadata) fun () =>
    andThen ([.blank], .ok ()) fun () =>
    andThen (if metadata.contextAwareResources.toList.isEmpty then ([], .ok ())
      else andThen (printMetadataContextAwareResources formats metadata) fun () => ([.blank], .ok ()))
      fun () => (printMetadataUsage keys metadata, .ok ())

/-! ### The command -/

/-- What `inspect` calls: `map_path_to_uri`, `wasm_path`,
`Metadata::from_path` (its error's text), `SignaturesPrinter::print`, and for
`fetch_signatures_manifest` the build of the cosign client from the command's
sources and, for an image name, the signature manifest the registry holds
for it (`OciReference::from_str`, `Registry::auth`, `triangulate` and
`manifest`, an image manifest or none; an error's text). -/
structure InspectEnv (Manifest : Type) where
  mapPathToUri : String → Except String String
  wasmPath : String → Except String String
  metadataFromPath : String → Except String (Option Metadata)
  printSignatures : OutputType → Manifest → List Printed
  buildCosignClient : Except String Unit
  signaturesManifestOf : String → Except String (Option Manifest)

variable {Manifest : Type} (env : InspectEnv Manifest)

/-- `fetch_signatures_manifest`: the cosign client is built, then the image
name is the uri after `registry://`. -/
def fetchSignaturesManifest (uri : String) : Except String (Option Manifest) :=
  match env.buildCosignClient with
  | .error e => .error e
  | .ok () =>
    match Verify.stripPrefix uri "registry://" with
    | none => .error "invalid uri"
    | some imageName => env.signaturesManifestOf imageName

/-- The part of `inspect` up to the metadata printed. -/
def printMetadataOf (uriOrShaPrefix : String) (output : OutputType) :
    List Printed × Except String String :=
  match env.mapPathToUri uriOrShaPrefix with
  | .error e => ([], .error e)
  | .ok uri =>
    match env.wasmPath uri with
    | .error e => ([], .error e)
    | .ok wasmPath =>
      match env.metadataFromPath wasmPath with
      | .error e => ([], .error ("Error parsing policy metadata: " ++ e))
      | .ok none => ([], .error ("No Kubewarden metadata found inside of \x27" ++ uri ++
          "\x27.\nPolicies can be annotated with the `kwctl annotate` command."))
      | .ok (some metadata) =>
        match MetadataPrinter.print keys formats output metadata with
        | (out, .error e) => (out, .error e)
        | (out, .ok ()) => (out, .ok uri)

/-- `inspect`. -/
def inspect (uriOrShaPrefix : String) (output : OutputType) (noSignatures : Bool) :
    List Printed × Except String Unit :=
  match printMetadataOf keys formats env uriOrShaPrefix output with
  | (out, .error e) => (out, .error e)
  | (out, .ok uri) =>
    if noSignatures then (out, .ok ())
    else
      match fetchSignaturesManifest env uri with
      | .ok (some signatures) => (out ++ env.printSignatures output signatures, .ok ())
      | .ok none => (out, .ok ())
      | .error error =>
        (out ++ [.blank,
          if "OCI API error: manifest unknown on".isPrefixOf error then .line "No sigstore signatures found"
          else .line ("Cannot determine if the policy has been signed. There was an error while " ++
            "attempting to fetch its signatures from the remote registry: " ++ error ++ " ")], .ok ())

end Print

end Kwctl
end Kubewarden
