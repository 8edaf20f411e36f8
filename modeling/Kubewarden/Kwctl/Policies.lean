/-
# What kwctl policies prints

`kwctl policies` (`policies.rs`) lists the policies of the local store: nothing
when the store is empty, else a table with a title row and a row per policy,
in the store's order, telling whether the policy mutates and is context aware
(`unknown` and `no` for a policy without metadata), the first twelve
characters of its SHA-256 digest and its size. The first policy whose
metadata, digest or file cannot be read fails the command, and then no table
is printed.

The store, the metadata reader, the digest, the file size, `humansize` and the
policy's `Display` are parameters; the store is listed twice by the code, and
both listings see the same store here.
-/
import Kubewarden.Kwctl.Inspect

namespace Kubewarden
namespace Kwctl

/-- What `kwctl policies` calls: the store's `list`, `Metadata::from_path` on a
policy's local path (its error's `{:?}`), `Policy::digest`, the length of the
policy's file, `humansize::format_size` and the policy's `Display`. -/
structure PoliciesEnv (Policy : Type) where
  policyList : Except String (List Policy)
  metadataFromPath : Policy → Except String (Option Metadata)
  digest : Policy → Except String String
  fileLength : Policy → Except String ℕ
  formatSize : ℕ → String
  display : Policy → String

variable {Policy : Type} (env : PoliciesEnv Policy)

/-- The row `list` adds for a policy. The digest is hexadecimal, so
`truncate(12)` keeps twelve characters. -/
def policyRow (policy : Policy) : Except String (List String) := do
  let (mutating, contextAware) ← match env.metadataFromPath policy with
    | .error e => .error ("error processing metadata of policy " ++ env.display policy ++ ": " ++ e)
    | .ok (some policyMetadata) =>
      .ok (if policyMetadata.mutating then "yes" else "no",
        if policyMetadata.contextAwareResources.toList.isEmpty then "no" else "yes")
    | .ok none => .ok ("unknown", "no")
  let sha256sum ← env.digest policy
  let length ← env.fileLength policy
  pure [env.display policy, mutating, contextAware, ⟨sha256sum.toList.take 12⟩, env.formatSize length]

/-- `list`: the table it prints, if any. -/
def list : Except String (Option (List (List String))) := do
  let policies ← env.policyList
  if policies.isEmpty then pure none
  else
    let rows ← policies.mapM (policyRow env)
    pure (some (["Policy", "Mutating", "Context aware", "SHA-256", "Size"] :: rows))

end Kwctl
end Kubewarden
