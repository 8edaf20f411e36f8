/-
# The registry clients' configuration from the sources

`Sources` is what the sources file gives the fetcher: the hosts it reaches
without TLS (`insecure_sources`) and the certificates each host is trusted with
(`source_authorities`). `Sources::try_from(RawSources)` keeps the first as it is
and converts the second (`SourceAuthorities::try_from`). Both registry clients,
`oci_client`'s and `sigstore`'s, are configured from a `Sources` by the same
code (`From<Sources>` for each `ClientConfig`): `Https`, or `HttpsExcept` with
the insecure hosts when there are any, never accepting invalid certificates,
and as extra roots every certificate of every host, in the map's iteration
order.

A `HashSet` is its elements in iteration order, each once; a `HashMap` being
iterated is any list of its entries with each key once (`AuthorityOrder`), and
every theorem holds for every such order. Two orders give the same roots up to
order (`extraRootCertificates_perm`), and from a sources file every authority
of every host becomes one root (`client_config_from_raw_sources`).

`TryFrom<&Certificate>` for `rustls_pki_types::CertificateDer` reads a `Pem`
certificate with `parse_x509_pem`, whose result (nom's `IResult`) is the input
left after the first PEM block, then the block. The code keeps the first
component: a trusted certificate always converts, but a `Pem` one converts to
what follows its first block, not to the block's DER contents
(`certificate_der_of_trusted`).

Key definitions: `sourcesTryFrom`, `clientConfigFrom`, `certificateDerTryFrom`.
Key theorems: `authorityOrder_perm`, `authorityOrder_of_raw`,
`client_config_from_raw_sources`, `certificate_der_of_trusted`.
-/
import Mathlib.Data.List.Nodup
import Mathlib.Data.List.Perm.Basic
import Kubewarden.Fetcher.Sources

namespace Kubewarden
namespace Fetcher

/-- A `HashSet<String>` of hosts: its elements in iteration order, each once. -/
structure HostSet where
  elems : List String
  nodup : elems.Nodup

/-- `RawSources`, as the sources file is deserialized. -/
structure RawSources where
  insecureSources : HostSet
  sourceAuthorities : RawSourceAuthorities

/-- `Sources`. -/
structure Sources where
  insecureSources : HostSet
  sourceAuthorities : SourceAuthorities

namespace Sources

/-- `Sources::is_insecure_source`. -/
def isInsecureSource (sources : Sources) (host : String) : Bool :=
  sources.insecureSources.elems.contains host

/-- `Sources::source_authority`. -/
def sourceAuthority (sources : Sources) (host : String) : Option (List Certificate) :=
  sources.sourceAuthorities.get host

theorem isInsecureSource_eq_true (sources : Sources) (host : String) :
    sources.isInsecureSource host = true ↔ host ∈ sources.insecureSources.elems := by
  simp [isInsecureSource]

end Sources

/-! ### The client configuration -/

/-- `sigstore::registry::CertificateEncoding`. -/
inductive CertificateEncoding
  | der
  | pem
  deriving DecidableEq, Repr

/-- `sigstore::registry::Certificate`, which `oci_client::client::Certificate`
also is: the one conversion from `&Certificate` serves both clients. -/
structure RegistryCertificate where
  encoding : CertificateEncoding
  data : List UInt8
  deriving DecidableEq, Repr

/-- `From<&Certificate> for sigstore::registry::Certificate`. -/
def registryCertificateFrom : Certificate → RegistryCertificate
  | .der data => ⟨.der, data⟩
  | .pem data => ⟨.pem, data⟩

/-- `ClientProtocol`, of either client. -/
inductive ClientProtocol
  | https
  | httpsExcept (insecure : List String)
  deriving DecidableEq, Repr

/-- The fields of a registry client's `ClientConfig` that `From<Sources>` sets
from the sources. -/
structure ClientConfig where
  protocol : ClientProtocol
  acceptInvalidCertificates : Bool
  extraRootCertificates : List RegistryCertificate
  deriving DecidableEq, Repr

/-- An iteration order of a `SourceAuthorities` map: its entries, each host
once, exactly the pairs the map holds. -/
structure AuthorityOrder (sa : SourceAuthorities) where
  entries : List (String × List Certificate)
  nodup : (entries.map Prod.fst).Nodup
  mem_iff : ∀ host certs, (host, certs) ∈ entries ↔ sa.get host = some certs

/-- `From<Sources>` for `oci_client::client::ClientConfig` and for
`sigstore::registry::ClientConfig`, which set these fields alike, the map of
authorities iterated in `order`. -/
def clientConfigFrom (sources : Sources) (order : AuthorityOrder sources.sourceAuthorities) :
    ClientConfig :=
  let protocol :=
    if sources.insecureSources.elems.isEmpty then .https
    else .httpsExcept sources.insecureSources.elems
  let extraRootCertificates := order.entries.flatMap fun entry => entry.2.map registryCertificateFrom
  { protocol, acceptInvalidCertificates := false, extraRootCertificates }

/-- Two iteration orders of one map list the same entries. -/
theorem authorityOrder_perm {sa : SourceAuthorities} (o₁ o₂ : AuthorityOrder sa) :
    o₁.entries.Perm o₂.entries := by
  rw [List.perm_ext_iff_of_nodup (List.Nodup.of_map _ o₁.nodup) (List.Nodup.of_map _ o₂.nodup)]
  rintro ⟨host, certs⟩
  rw [o₁.mem_iff, o₂.mem_iff]

/-- The extra roots depend on the map's iteration order only for their order. -/
theorem extraRootCertificates_perm (sources : Sources) (o₁ o₂ : AuthorityOrder sources.sourceAuthorities) :
    (clientConfigFrom sources o₁).extraRootCertificates.Perm
      (clientConfigFrom sources o₂).extraRootCertificates :=
  (authorityOrder_perm o₁ o₂).flatMap_right _

/-- The protocol is plain HTTPS exactly when no source is insecure, and
otherwise lists every insecure host once and no other host. -/
theorem clientConfigFrom_protocol (sources : Sources) (order : AuthorityOrder sources.sourceAuthorities) :
    ((clientConfigFrom sources order).protocol = .https ∧ ∀ host, sources.isInsecureSource host = false) ∨
      ∃ insecure, (clientConfigFrom sources order).protocol = .httpsExcept insecure ∧
        insecure ≠ [] ∧ insecure.Nodup ∧ ∀ host, host ∈ insecure ↔ sources.isInsecureSource host = true := by
  simp only [clientConfigFrom, Sources.isInsecureSource_eq_true]
  rcases h : sources.insecureSources.elems with _ | ⟨host, rest⟩
  · exact .inl ⟨rfl, fun host => by simp [Sources.isInsecureSource, h]⟩
  · exact .inr ⟨_, rfl, List.cons_ne_nil _ _, h ▸ sources.insecureSources.nodup, fun _ => Iff.rfl⟩

/-- `Sources::default`: no insecure host, no authority. -/
def Sources.default : Sources := ⟨⟨[], List.nodup_nil⟩, .default⟩

/-! ### From the sources file -/

section FromRaw

variable (read : String → Except String (List UInt8)) (parseX509Pem fromDer : List UInt8 → Bool)

/-- `Sources::try_from(RawSources)`. -/
def sourcesTryFrom (sources : RawSources) : Except SourceError Sources := do
  let sourceAuthorities ← sourceAuthoritiesTryFrom read parseX509Pem fromDer sources.sourceAuthorities
  pure { insecureSources := sources.insecureSources, sourceAuthorities }

theorem sourcesTryFrom_ok (rawSources : RawSources) (sources : Sources) :
    sourcesTryFrom read parseX509Pem fromDer rawSources = .ok sources ↔
      sourceAuthoritiesTryFrom read parseX509Pem fromDer rawSources.sourceAuthorities =
        .ok sources.sourceAuthorities ∧ sources.insecureSources = rawSources.insecureSources := by
  rcases sources with ⟨insecure, sa⟩
  simp only [sourcesTryFrom, bind, Except.bind]
  rcases sourceAuthoritiesTryFrom read parseX509Pem fromDer rawSources.sourceAuthorities with e | sa'
  · simp
  · simp [pure, Except.pure, eq_comm, and_comm]

/-- The converted map listed in the raw map's order. -/
def listedInRawOrder (sa : SourceAuthorities) (raw : RawSourceAuthorities) :
    List (String × List Certificate) :=
  raw.entries.map fun entry => (entry.1, (sa.get entry.1).getD [])

/-- A successful conversion holds, host by host, the raw map's hosts with their
authorities converted one for one. -/
theorem sourceAuthoritiesTryFrom_ok_get {raw : RawSourceAuthorities} {sa : SourceAuthorities}
    (h : sourceAuthoritiesTryFrom read parseX509Pem fromDer raw = .ok sa) (host : String)
    (certs : List Certificate) : sa.get host = some certs ↔
      ∃ entry ∈ raw.entries, entry.1 = host ∧ (sa.get entry.1).getD [] = certs := by
  constructor
  · intro hc
    by_cases hm : host ∈ raw.entries.map Prod.fst
    · obtain ⟨entry, he, rfl⟩ := List.mem_map.1 hm
      exact ⟨entry, he, rfl, by simp [hc]⟩
    · simp [hostsLoop_ok_frame read parseX509Pem fromDer host _ _ h hm] at hc
  · rintro ⟨entry, he, rfl, rfl⟩
    obtain ⟨certs, hc, -⟩ := hostsLoop_ok_entry read parseX509Pem fromDer _ _ raw.nodup h entry he
    simp [hc]

/-- The raw map's order is an iteration order of the map it converts to. -/
def authorityOrderOfRaw {raw : RawSourceAuthorities} {sa : SourceAuthorities}
    (h : sourceAuthoritiesTryFrom read parseX509Pem fromDer raw = .ok sa) : AuthorityOrder sa where
  entries := listedInRawOrder sa raw
  nodup := by simpa [listedInRawOrder, Function.comp_def] using raw.nodup
  mem_iff host certs := by
    rw [sourceAuthoritiesTryFrom_ok_get read parseX509Pem fromDer h]
    simp [listedInRawOrder, and_comm]

/-- In the raw map's order, each host's certificates are its authorities
converted one for one. -/
theorem authorityOrder_of_raw {raw : RawSourceAuthorities} {sa : SourceAuthorities}
    (h : sourceAuthoritiesTryFrom read parseX509Pem fromDer raw = .ok sa) :
    List.Forall₂ (fun entry cs => List.Forall₂ (Converts read parseX509Pem fromDer) entry.2 cs)
      raw.entries (raw.entries.map fun entry => (sa.get entry.1).getD []) := by
  rw [List.forall₂_map_right_iff, List.forall₂_same]
  intro entry he
  obtain ⟨certs, hc, hf⟩ := hostsLoop_ok_entry read parseX509Pem fromDer _ _ raw.nodup h entry he
  simpa [hc] using hf

/-- A converted certificate becomes the registry certificate of the same
encoding and bytes. -/
theorem registryCertificateFrom_ite (p : Bool) (bytes : List UInt8) :
    registryCertificateFrom (if p then .pem bytes else .der bytes) =
      if p then ⟨.pem, bytes⟩ else ⟨.der, bytes⟩ := by
  cases p <;> rfl

/-- **The client trusts exactly the sources file's authorities.** For every
sources file whose conversion succeeds, whatever the iteration orders of its
set and its map, the configuration of either registry client never accepts
invalid certificates; it is plain HTTPS exactly when no source is insecure,
and otherwise `HttpsExcept` with every host `is_insecure_source` holds for,
once, and no other; and its extra roots are, up to order, one root per
authority, host by host and each host's in its own order: the authority's
bytes (`Data` its own, `Path` the file's contents) as they are, `Pem` encoded
when they parse as PEM and `Der` otherwise. -/
theorem client_config_from_raw_sources (rawSources : RawSources) (sources : Sources)
    (h : sourcesTryFrom read parseX509Pem fromDer rawSources = .ok sources)
    (order : AuthorityOrder sources.sourceAuthorities) :
    (clientConfigFrom sources order).acceptInvalidCertificates = false ∧
    (((clientConfigFrom sources order).protocol = .https ∧
        ∀ host, sources.isInsecureSource host = false) ∨
      ∃ insecure, (clientConfigFrom sources order).protocol = .httpsExcept insecure ∧
        insecure ≠ [] ∧ insecure.Nodup ∧
        ∀ host, host ∈ insecure ↔ sources.isInsecureSource host = true) ∧
    ∃ roots : List (List RegistryCertificate),
      List.Forall₂ (fun entry rs => List.Forall₂ (fun a r => ∃ bytes,
          (a = .data ⟨bytes⟩ ∨ ∃ path, a = .path path ∧ read path = .ok bytes) ∧
            (parseX509Pem bytes ∨ fromDer bytes) ∧
            r = if parseX509Pem bytes then ⟨.pem, bytes⟩ else ⟨.der, bytes⟩) entry.2 rs)
        rawSources.sourceAuthorities.entries roots ∧
      (clientConfigFrom sources order).extraRootCertificates.Perm roots.flatten := by
  have hsa := ((sourcesTryFrom_ok read parseX509Pem fromDer _ _).1 h).1
  refine ⟨rfl, clientConfigFrom_protocol sources order,
    (rawSources.sourceAuthorities.entries.map fun entry =>
      ((sources.sourceAuthorities.get entry.1).getD []).map registryCertificateFrom), ?_, ?_⟩
  · have hraw := authorityOrder_of_raw read parseX509Pem fromDer hsa
    rw [List.forall₂_map_right_iff] at hraw ⊢
    refine hraw.imp fun entry entry' hc => ?_
    rw [List.forall₂_map_right_iff]
    refine hc.imp fun a c hconv => ?_
    obtain ⟨bytes, hb, hv, rfl⟩ := (converts_iff read parseX509Pem fromDer a c).1 hconv
    exact ⟨bytes, hb, hv, registryCertificateFrom_ite _ _⟩
  · have hperm := extraRootCertificates_perm sources order
      (authorityOrderOfRaw read parseX509Pem fromDer hsa)
    simpa [clientConfigFrom, authorityOrderOfRaw, listedInRawOrder, List.flatMap_map] using hperm

end FromRaw

/-- A sources file for the runs below: one insecure registry, and `ghcr.io`
trusted with one certificate given as data. -/
def rawSourcesSample : RawSources :=
  ⟨⟨["registry.local:5000"], List.nodup_singleton _⟩,
    ⟨[("ghcr.io", [.data ⟨[45]⟩])], List.pairwise_singleton _ _⟩⟩

/-- What `rawSourcesSample` converts to with the parsers `pemIfDash` and
`derIfSequence`. -/
def sourcesSample : Sources :=
  ⟨⟨["registry.local:5000"], List.nodup_singleton _⟩,
    SourceAuthorities.default.insert "ghcr.io" [.pem [45]]⟩

theorem client_config_from_raw_sources_sample :
    let order := @authorityOrderOfRaw noFiles pemIfDash derIfSequence
      rawSourcesSample.sourceAuthorities sourcesSample.sourceAuthorities rfl
    sourcesTryFrom noFiles pemIfDash derIfSequence rawSourcesSample = .ok sourcesSample ∧
    (clientConfigFrom sourcesSample order).acceptInvalidCertificates = false ∧
    (((clientConfigFrom sourcesSample order).protocol = .https ∧
        ∀ host, sourcesSample.isInsecureSource host = false) ∨
      ∃ insecure, (clientConfigFrom sourcesSample order).protocol = .httpsExcept insecure ∧
        insecure ≠ [] ∧ insecure.Nodup ∧
        ∀ host, host ∈ insecure ↔ sourcesSample.isInsecureSource host = true) ∧
    ∃ roots : List (List RegistryCertificate),
      List.Forall₂ (fun entry rs => List.Forall₂ (fun a r => ∃ bytes,
          (a = .data ⟨bytes⟩ ∨ ∃ path, a = .path path ∧ noFiles path = .ok bytes) ∧
            (pemIfDash bytes ∨ derIfSequence bytes) ∧
            r = if pemIfDash bytes then ⟨.pem, bytes⟩ else ⟨.der, bytes⟩) entry.2 rs)
        rawSourcesSample.sourceAuthorities.entries roots ∧
      (clientConfigFrom sourcesSample order).extraRootCertificates.Perm roots.flatten :=
  ⟨rfl, client_config_from_raw_sources noFiles pemIfDash derIfSequence rawSourcesSample sourcesSample
    rfl _⟩

/-! ### The DER form of a certificate -/

/-- `x509_parser::pem::Pem`: the block's label and its DER contents. -/
structure Pem where
  label : String
  contents : List UInt8
  deriving DecidableEq, Repr

section CertificateDer

/- `parse_x509_pem`, nom's `IResult`: on success the input left after the first
PEM block, then the block; `Certificate::try_from` uses its `is_ok()`. -/
variable (read : String → Except String (List UInt8))
  (parseX509Pem : List UInt8 → Option (List UInt8 × Pem)) (fromDer : List UInt8 → Bool)

/-- `TryFrom<&Certificate> for rustls_pki_types::CertificateDer`. -/
def certificateDerTryFrom : Certificate → Except String (List UInt8)
  | .der data => .ok data
  | .pem data =>
    match parseX509Pem data with
    | some pem => .ok pem.1
    | none => .error "Failed to parse PEM data"

/-- A certificate `Certificate::try_from` keeps as `Pem` parses as PEM. -/
theorem converts_pem {a : RawSourceAuthority} {bytes : List UInt8}
    (h : Converts read (fun b => (parseX509Pem b).isSome) fromDer a (.pem bytes)) :
    (parseX509Pem bytes).isSome := by
  obtain ⟨rawCert, -, hc⟩ := h
  obtain ⟨-, hc⟩ := (certificateTryFrom_ok _ fromDer rawCert _).1 hc
  split_ifs at hc with hp
  cases hc
  exact hp

theorem exists_mem_of_forall₂ {α β : Type} {R : α → β → Prop} :
    ∀ {l₁ : List α} {l₂ : List β}, List.Forall₂ R l₁ l₂ → ∀ b ∈ l₂, ∃ a ∈ l₁, R a b
  | _, _, .nil, _, hb => absurd hb (List.not_mem_nil _)
  | _, _, .cons hab hrest, b, hb => by
    rcases List.mem_cons.1 hb with rfl | hb
    · exact ⟨_, List.mem_cons_self _ _, hab⟩
    · obtain ⟨a, ha, hr⟩ := exists_mem_of_forall₂ hrest b hb
      exact ⟨a, List.mem_cons_of_mem _ ha, hr⟩

/-- **A trusted certificate converts to DER, a PEM one to what follows its
block.** For every raw map whose conversion succeeds, every file system and
pair of parsers, every certificate the result trusts for a host converts to a
`CertificateDer` without error (`Certificate::try_from` keeps bytes as `Pem`
only when `parse_x509_pem` accepts them): a `Der` certificate to its own bytes,
a `Pem` one to the input `parse_x509_pem` leaves after the first PEM block, not
to the block's contents; a file of one PEM block and nothing after it converts
to an empty certificate. -/
theorem certificate_der_of_trusted (raw : RawSourceAuthorities) (sa : SourceAuthorities)
    (h : sourceAuthoritiesTryFrom read (fun b => (parseX509Pem b).isSome) fromDer raw = .ok sa)
    (host : String) (certs : List Certificate) (hc : sa.get host = some certs)
    (c : Certificate) (hcert : c ∈ certs) :
    ∃ der, certificateDerTryFrom parseX509Pem c = .ok der ∧
      (∀ bytes, c = .der bytes → der = bytes) ∧
      (∀ bytes, c = .pem bytes → ∃ pem, parseX509Pem bytes = some (der, pem)) := by
  obtain ⟨entry, he, -, hget⟩ := (sourceAuthoritiesTryFrom_ok_get read _ fromDer h host certs).1 hc
  obtain ⟨certs', hc', hf⟩ := hostsLoop_ok_entry read _ fromDer _ _ raw.nodup h entry he
  rw [hc', Option.getD_some] at hget
  subst hget
  obtain ⟨a, -, ha⟩ := exists_mem_of_forall₂ hf c hcert
  cases c with
  | der bytes => exact ⟨bytes, rfl, fun _ h => Certificate.der.inj h, fun _ h => by cases h⟩
  | pem bytes =>
    obtain ⟨⟨rest, pem⟩, hp⟩ := Option.isSome_iff_exists.1 (converts_pem read parseX509Pem fromDer ha)
    exact ⟨rest, by simp [certificateDerTryFrom, hp], fun _ h => (by cases h),
      fun _ h => ⟨pem, by cases h; exact hp⟩⟩

end CertificateDer

/-- A parser for the run below: the bytes `[45]` are a file of one PEM block,
whose DER contents are `0x30 0x82`, with nothing after it. -/
def oneBlockPem (bytes : List UInt8) : Option (List UInt8 × Pem) :=
  if bytes = [45] then some ([], ⟨"CERTIFICATE", [48, 130]⟩) else none

theorem certificate_der_of_trusted_one_block :
    certificateDerTryFrom oneBlockPem (.pem [45]) = .ok [] ∧
    sourceAuthoritiesTryFrom noFiles (fun b => (oneBlockPem b).isSome) derIfSequence
        rawSourcesSample.sourceAuthorities = .ok sourcesSample.sourceAuthorities ∧
    sourcesSample.sourceAuthorities.get "ghcr.io" = some [.pem [45]] ∧
    Certificate.pem [45] ∈ [Certificate.pem [45]] ∧
    ∃ der, certificateDerTryFrom oneBlockPem (.pem [45]) = .ok der ∧
      (∀ bytes, Certificate.pem [45] = .der bytes → der = bytes) ∧
      (∀ bytes, Certificate.pem [45] = .pem bytes → ∃ pem, oneBlockPem bytes = some (der, pem)) :=
  ⟨rfl, rfl, rfl, List.mem_singleton_self _, certificate_der_of_trusted noFiles oneBlockPem
    derIfSequence rawSourcesSample.sourceAuthorities sourcesSample.sourceAuthorities rfl "ghcr.io" _ rfl _
    (List.mem_singleton_self _)⟩

end Fetcher
end Kubewarden
