/-
# Source authorities of the policy fetcher

`sources.rs` (policy-fetcher) turns the sources file's `source_authorities`, a
map from registry host to a list of raw authorities (`Data`: the certificate's
bytes; `Path`: a file to read them from), into the certificates each host is
trusted with. `SourceAuthorities::try_from` converts every authority of every
host in turn (`RawCertificate::try_from`, then `Certificate::try_from`, which
keeps the bytes as `Pem` when they parse as a PEM certificate, else as `Der`
when they parse as DER, else fails) and returns the first error.

Reading a file (`fs::read`) and the two X.509 parsers are parameters. A
`HashMap` is iterated in an order the code does not fix, so the raw map is its
entries in iteration order, with each host once (`RawSourceAuthorities`), and
every theorem holds for every such order.

Key definitions: `sourceAuthoritiesTryFrom`, `certificateTryFrom`,
`rawCertificateTryFrom`.
Key theorems: `certsLoop_ok`, `hostsLoop_ok_iff`, `hostsLoop_ok_entry`,
`source_authorities_try_from_law` (what a success holds),
`source_authorities_first_error` (which error a failure returns).
-/
import Mathlib.Data.List.Forall2

namespace Kubewarden
namespace Fetcher

/-- The variants of `SourceError` these conversions raise. -/
inductive SourceError
  | invalidCertificateError (msg : String)
  | cannotReadCertificateError (e : String)
  deriving DecidableEq, Repr

/-- `RawCertificate`: the bytes of a certificate, in whichever encoding. -/
structure RawCertificate where
  bytes : List UInt8
  deriving DecidableEq, Repr

/-- `RawSourceAuthority`. -/
inductive RawSourceAuthority
  | data (data : RawCertificate)
  | path (path : String)
  deriving DecidableEq, Repr

/-- `Certificate`. -/
inductive Certificate
  | der (bytes : List UInt8)
  | pem (bytes : List UInt8)
  deriving DecidableEq, Repr

/-- `RawSourceAuthorities`: its `HashMap`'s entries in iteration order; a map
holds each host once. -/
structure RawSourceAuthorities where
  entries : List (String × List RawSourceAuthority)
  nodup : (entries.map Prod.fst).Nodup

/-- `SourceAuthorities`: its `HashMap`, as the certificates it holds for each
host. -/
structure SourceAuthorities where
  get : String → Option (List Certificate)

namespace SourceAuthorities

/-- `SourceAuthorities::default`. -/
def default : SourceAuthorities := ⟨fun _ => none⟩

/-- `HashMap::insert`, which replaces the value of a present key. -/
def insert (sa : SourceAuthorities) (host : String) (certs : List Certificate) :
    SourceAuthorities :=
  ⟨fun h => if h = host then some certs else sa.get h⟩

@[simp] theorem default_get (host : String) : default.get host = none := rfl

@[simp] theorem insert_get (sa : SourceAuthorities) (host h : String) (certs : List Certificate) :
    (sa.insert host certs).get h = if h = host then some certs else sa.get h := rfl

end SourceAuthorities

section TryFrom

/- `fs::read`, with the message of its `io::Error`; `parse_x509_pem(..).is_ok()`;
`X509Certificate::from_der(..).is_ok()`. -/
variable (read : String → Except String (List UInt8))
  (parseX509Pem fromDer : List UInt8 → Bool)

/-- `RawCertificate::try_from(RawSourceAuthority)`. -/
def rawCertificateTryFrom : RawSourceAuthority → Except SourceError RawCertificate
  | .data data => .ok data
  | .path path =>
    match read path with
    | .ok fileData => .ok ⟨fileData⟩
    | .error e => .error (.cannotReadCertificateError e)

/-- An authority yields bytes: a `Data` authority its own, a `Path` one the
file's contents. -/
theorem rawCertificateTryFrom_ok (a : RawSourceAuthority) (bytes : List UInt8) :
    rawCertificateTryFrom read a = .ok ⟨bytes⟩ ↔
      a = .data ⟨bytes⟩ ∨ ∃ path, a = .path path ∧ read path = .ok bytes := by
  cases a with
  | data d => simp [rawCertificateTryFrom, eq_comm]
  | path p => rcases h : read p with e | b <;> simp [rawCertificateTryFrom, h]

/-- `Certificate::try_from(RawCertificate)`. -/
def certificateTryFrom (rawCertificate : RawCertificate) : Except SourceError Certificate :=
  let certData := rawCertificate.bytes
  if parseX509Pem certData then .ok (.pem certData)
  else if fromDer certData then .ok (.der certData)
  else .error (.invalidCertificateError "Raw certificate is not in PEM nor in DER encoding")

/-- The inner loop of `SourceAuthorities::try_from` over a host's authorities
left, pushing each converted certificate onto `certs`. -/
def certsLoop : List Certificate → List RawSourceAuthority → Except SourceError (List Certificate)
  | certs, [] => .ok certs
  | certs, authority :: rest => do
    let rawCert ← rawCertificateTryFrom read authority
    let cert ← certificateTryFrom parseX509Pem fromDer rawCert
    certsLoop (certs ++ [cert]) rest

/-- The outer loop of `SourceAuthorities::try_from` over the hosts left. -/
def hostsLoop : SourceAuthorities → List (String × List RawSourceAuthority) →
    Except SourceError SourceAuthorities
  | sa, [] => .ok sa
  | sa, (host, authorities) :: rest => do
    let certs ← certsLoop read parseX509Pem fromDer [] authorities
    hostsLoop (sa.insert host certs) rest

/-- `SourceAuthorities::try_from(RawSourceAuthorities)`. -/
def sourceAuthoritiesTryFrom (rawSourceAuthorities : RawSourceAuthorities) :
    Except SourceError SourceAuthorities :=
  hostsLoop read parseX509Pem fromDer .default rawSourceAuthorities.entries

/-! ### Converting one authority, then one host's list -/

/-- Authority `a` converts to certificate `c`: both conversions of the loop's
body succeed on it, the second with `c`. -/
def Converts (a : RawSourceAuthority) (c : Certificate) : Prop :=
  ∃ rawCert, rawCertificateTryFrom read a = .ok rawCert ∧
    certificateTryFrom parseX509Pem fromDer rawCert = .ok c

theorem certificateTryFrom_ok (rawCertificate : RawCertificate) (c : Certificate) :
    certificateTryFrom parseX509Pem fromDer rawCertificate = .ok c ↔
      (parseX509Pem rawCertificate.bytes ∨ fromDer rawCertificate.bytes) ∧
        c = if parseX509Pem rawCertificate.bytes then .pem rawCertificate.bytes
          else .der rawCertificate.bytes := by
  unfold certificateTryFrom
  by_cases hp : parseX509Pem rawCertificate.bytes <;> by_cases hd : fromDer rawCertificate.bytes <;>
    simp [hp, hd, eq_comm]

theorem certificateTryFrom_error (rawCertificate : RawCertificate) (e : SourceError) :
    certificateTryFrom parseX509Pem fromDer rawCertificate = .error e ↔
      parseX509Pem rawCertificate.bytes = false ∧ fromDer rawCertificate.bytes = false ∧
        e = .invalidCertificateError "Raw certificate is not in PEM nor in DER encoding" := by
  unfold certificateTryFrom
  by_cases hp : parseX509Pem rawCertificate.bytes <;> by_cases hd : fromDer rawCertificate.bytes <;>
    simp [hp, hd, eq_comm]

/-- One round of the inner loop succeeds exactly when its authority converts
and the rest of the loop, with that certificate pushed, succeeds. -/
theorem certsLoop_cons_ok (certs : List Certificate) (authority : RawSourceAuthority)
    (rest : List RawSourceAuthority) (out : List Certificate) :
    certsLoop read parseX509Pem fromDer certs (authority :: rest) = .ok out ↔
      ∃ c, Converts read parseX509Pem fromDer authority c ∧
        certsLoop read parseX509Pem fromDer (certs ++ [c]) rest = .ok out := by
  simp only [certsLoop, Converts, bind, Except.bind]
  rcases rawCertificateTryFrom read authority with e | rawCert
  · simp
  · rcases h : certificateTryFrom parseX509Pem fromDer rawCert with e | c <;> simp [h]

/-- The inner loop converts each authority in order: it succeeds with `out`
exactly when `out` is `certs` followed by the authorities' conversions, one for
one. -/
theorem certsLoop_ok : ∀ (certs : List Certificate) (authorities : List RawSourceAuthority)
    (out : List Certificate),
    certsLoop read parseX509Pem fromDer certs authorities = .ok out ↔
      ∃ cs, List.Forall₂ (Converts read parseX509Pem fromDer) authorities cs ∧ out = certs ++ cs
  | certs, [], out => by simp [certsLoop, eq_comm]
  | certs, a :: rest, out => by
    simp only [certsLoop_cons_ok, certsLoop_ok _ rest, List.forall₂_cons_left_iff]
    constructor
    · rintro ⟨c, hc, cs, hcs, rfl⟩
      exact ⟨c :: cs, ⟨c, cs, hc, hcs, rfl⟩, by simp⟩
    · rintro ⟨_, ⟨c, cs, hc, hcs, rfl⟩, rfl⟩
      exact ⟨c, hc, cs, hcs, by simp⟩

/-- The inner loop succeeds exactly when every authority converts. -/
theorem certsLoop_isOk : ∀ (certs : List Certificate) (authorities : List RawSourceAuthority),
    (∃ out, certsLoop read parseX509Pem fromDer certs authorities = .ok out) ↔
      ∀ a ∈ authorities, ∃ c, Converts read parseX509Pem fromDer a c
  | certs, [] => by simp [certsLoop]
  | certs, a :: rest => by
    simp only [certsLoop_cons_ok, List.forall_mem_cons]
    constructor
    · rintro ⟨out, c, hc, h⟩
      exact ⟨⟨c, hc⟩, (certsLoop_isOk _ rest).1 ⟨out, h⟩⟩
    · rintro ⟨⟨c, hc⟩, hrest⟩
      obtain ⟨out, h⟩ := (certsLoop_isOk (certs ++ [c]) rest).2 hrest
      exact ⟨out, c, hc, h⟩

/-! ### The hosts -/

/-- One round of the outer loop succeeds exactly when its host's list converts
and the rest of the loop, with that host's certificates inserted, succeeds. -/
theorem hostsLoop_cons_ok (sa : SourceAuthorities) (host : String)
    (authorities : List RawSourceAuthority) (rest : List (String × List RawSourceAuthority))
    (out : SourceAuthorities) :
    hostsLoop read parseX509Pem fromDer sa ((host, authorities) :: rest) = .ok out ↔
      ∃ certs, certsLoop read parseX509Pem fromDer [] authorities = .ok certs ∧
        hostsLoop read parseX509Pem fromDer (sa.insert host certs) rest = .ok out := by
  simp only [hostsLoop, bind, Except.bind]
  rcases h : certsLoop read parseX509Pem fromDer [] authorities with e | certs <;> simp [h]

/-- The outer loop succeeds exactly when every authority of every host converts. -/
theorem hostsLoop_ok_iff :
    ∀ (sa : SourceAuthorities) (entries : List (String × List RawSourceAuthority)),
    (∃ out, hostsLoop read parseX509Pem fromDer sa entries = .ok out) ↔
      ∀ entry ∈ entries, ∀ a ∈ entry.2, ∃ c, Converts read parseX509Pem fromDer a c
  | sa, [] => by simp [hostsLoop]
  | sa, (host, authorities) :: rest => by
    rw [List.forall_mem_cons, ← certsLoop_isOk read parseX509Pem fromDer []]
    constructor
    · rintro ⟨out, h⟩
      obtain ⟨certs, hc, hrest⟩ := (hostsLoop_cons_ok read parseX509Pem fromDer ..).1 h
      exact ⟨⟨certs, hc⟩, (hostsLoop_ok_iff _ rest).1 ⟨out, hrest⟩⟩
    · rintro ⟨⟨certs, hc⟩, hrest⟩
      obtain ⟨out, h⟩ := (hostsLoop_ok_iff (sa.insert host certs) rest).2 hrest
      exact ⟨out, (hostsLoop_cons_ok read parseX509Pem fromDer ..).2 ⟨certs, hc, h⟩⟩

/-- A successful outer loop leaves each host outside its entries as it was. -/
theorem hostsLoop_ok_frame {out : SourceAuthorities} (host : String) :
    ∀ (sa : SourceAuthorities) (entries : List (String × List RawSourceAuthority)),
      hostsLoop read parseX509Pem fromDer sa entries = .ok out → host ∉ entries.map Prod.fst →
      out.get host = sa.get host
  | sa, [], h, _ => by cases h; rfl
  | sa, (h0, authorities) :: rest, h, hn => by
    obtain ⟨certs, -, hrest⟩ := (hostsLoop_cons_ok read parseX509Pem fromDer ..).1 h
    rw [List.map_cons, List.mem_cons, not_or] at hn
    rw [hostsLoop_ok_frame host _ rest hrest hn.2, SourceAuthorities.insert_get, if_neg hn.1]

/-- In a successful outer loop over distinct hosts, each host holds the
conversions of its own authorities, one for one and in order. -/
theorem hostsLoop_ok_entry {out : SourceAuthorities} :
    ∀ (sa : SourceAuthorities) (entries : List (String × List RawSourceAuthority)),
      (entries.map Prod.fst).Nodup → hostsLoop read parseX509Pem fromDer sa entries = .ok out →
      ∀ entry ∈ entries, ∃ certs, out.get entry.1 = some certs ∧
        List.Forall₂ (Converts read parseX509Pem fromDer) entry.2 certs
  | sa, [], _, _, entry, he => absurd he (List.not_mem_nil _)
  | sa, (host, authorities) :: rest, hnd, h, entry, he => by
    obtain ⟨certs, hc, hrest⟩ := (hostsLoop_cons_ok read parseX509Pem fromDer ..).1 h
    rw [List.map_cons, List.nodup_cons] at hnd
    rcases List.mem_cons.1 he with rfl | he
    · obtain ⟨cs, hcs, rfl⟩ := (certsLoop_ok read parseX509Pem fromDer [] authorities certs).1 hc
      refine ⟨_, ?_, hcs⟩
      rw [hostsLoop_ok_frame read parseX509Pem fromDer host _ rest hrest hnd.1]
      simp
    · exact hostsLoop_ok_entry _ rest hnd.2 hrest entry he

/-- An authority converts to some certificate exactly when it yields bytes that
parse as PEM or as DER. -/
theorem exists_converts_iff (a : RawSourceAuthority) :
    (∃ c, Converts read parseX509Pem fromDer a c) ↔
      ∃ bytes, rawCertificateTryFrom read a = .ok ⟨bytes⟩ ∧
        (parseX509Pem bytes ∨ fromDer bytes) := by
  simp only [Converts, certificateTryFrom_ok]
  exact ⟨fun ⟨_, ⟨bytes⟩, hb, hv, _⟩ => ⟨bytes, hb, hv⟩, fun ⟨bytes, hb, hv⟩ => ⟨_, _, hb, hv, rfl⟩⟩

/-- What an authority converts to: its bytes, as they are, when they parse as
PEM or as DER. -/
theorem converts_iff (a : RawSourceAuthority) (c : Certificate) :
    Converts read parseX509Pem fromDer a c ↔ ∃ bytes,
      (a = .data ⟨bytes⟩ ∨ ∃ path, a = .path path ∧ read path = .ok bytes) ∧
        (parseX509Pem bytes ∨ fromDer bytes) ∧
        c = if parseX509Pem bytes then .pem bytes else .der bytes := by
  simp only [Converts, certificateTryFrom_ok, ← rawCertificateTryFrom_ok]
  exact ⟨fun ⟨⟨bytes⟩, hb, hv⟩ => ⟨bytes, hb, hv⟩, fun ⟨bytes, hb, hv⟩ => ⟨_, hb, hv⟩⟩

/-- **Every certificate is kept, in its place.** For every raw map, whatever
its iteration order, and every file system and pair of parsers:
`SourceAuthorities::try_from` succeeds exactly when every authority of every
host yields bytes (`Data` its own, `Path` the file's contents) that parse as
PEM or as DER; and then the result has exactly the raw map's hosts, and each
host's list is its raw list converted one for one and in order, the i-th
certificate holding the i-th authority's bytes as they are, as `Pem` when they
parse as PEM and as `Der` otherwise. -/
theorem source_authorities_try_from_law (rawSourceAuthorities : RawSourceAuthorities) :
    ((∃ sa, sourceAuthoritiesTryFrom read parseX509Pem fromDer rawSourceAuthorities = .ok sa) ↔
      ∀ entry ∈ rawSourceAuthorities.entries, ∀ a ∈ entry.2, ∃ bytes,
        (a = .data ⟨bytes⟩ ∨ ∃ path, a = .path path ∧ read path = .ok bytes) ∧
          (parseX509Pem bytes ∨ fromDer bytes)) ∧
    ∀ sa, sourceAuthoritiesTryFrom read parseX509Pem fromDer rawSourceAuthorities = .ok sa →
      (∀ host, (sa.get host).isSome ↔ host ∈ rawSourceAuthorities.entries.map Prod.fst) ∧
      ∀ entry ∈ rawSourceAuthorities.entries, ∃ certs, sa.get entry.1 = some certs ∧
        List.Forall₂ (fun a c => ∃ bytes,
          (a = .data ⟨bytes⟩ ∨ ∃ path, a = .path path ∧ read path = .ok bytes) ∧
            c = if parseX509Pem bytes then .pem bytes else .der bytes) entry.2 certs := by
  refine ⟨by simp only [sourceAuthoritiesTryFrom, hostsLoop_ok_iff, exists_converts_iff,
    rawCertificateTryFrom_ok], fun sa h => ?_⟩
  have hentry := hostsLoop_ok_entry read parseX509Pem fromDer _ _ rawSourceAuthorities.nodup h
  refine ⟨fun host => ⟨fun hs => ?_, fun hm => ?_⟩, fun entry he => ?_⟩
  · by_contra hn
    simp [hostsLoop_ok_frame read parseX509Pem fromDer host _ _ h hn] at hs
  · obtain ⟨entry, he, rfl⟩ := List.mem_map.1 hm
    obtain ⟨certs, hc, -⟩ := hentry entry he
    simp [hc]
  · obtain ⟨certs, hc, hf⟩ := hentry entry he
    refine ⟨certs, hc, hf.imp fun a c h => ?_⟩
    obtain ⟨bytes, hb, -, hc⟩ := (converts_iff read parseX509Pem fromDer a c).1 h
    exact ⟨bytes, hb, hc⟩

/-! ### The first authority that does not convert -/

/-- Authority `a` fails with `e`: reading its bytes fails with `e`, or they are read
and `Certificate::try_from` fails with `e`. -/
def FailsWith (a : RawSourceAuthority) (e : SourceError) : Prop :=
  rawCertificateTryFrom read a = .error e ∨
    ∃ rawCert, rawCertificateTryFrom read a = .ok rawCert ∧
      certificateTryFrom parseX509Pem fromDer rawCert = .error e

/-- What an authority can fail with: a `Path` whose file cannot be read, with the
read's error, or bytes that parse neither as PEM nor as DER. -/
theorem failsWith_iff (a : RawSourceAuthority) (e : SourceError) :
    FailsWith read parseX509Pem fromDer a e ↔
      (∃ path msg, a = .path path ∧ read path = .error msg ∧ e = .cannotReadCertificateError msg) ∨
      (∃ bytes, rawCertificateTryFrom read a = .ok ⟨bytes⟩ ∧ parseX509Pem bytes = false ∧
        fromDer bytes = false ∧
        e = .invalidCertificateError "Raw certificate is not in PEM nor in DER encoding") := by
  unfold FailsWith
  cases a with
  | data d => cases d; simp [rawCertificateTryFrom, certificateTryFrom_error]
  | path p =>
    rcases h : read p with msg | bytes
    · simpa [rawCertificateTryFrom, h] using eq_comm
    · simp [rawCertificateTryFrom, h, certificateTryFrom_error]

theorem certsLoop_cons_of_converts {a : RawSourceAuthority} {c : Certificate}
    (h : Converts read parseX509Pem fromDer a c) (certs : List Certificate)
    (rest : List RawSourceAuthority) :
    certsLoop read parseX509Pem fromDer certs (a :: rest) =
      certsLoop read parseX509Pem fromDer (certs ++ [c]) rest := by
  obtain ⟨rawCert, hr, hc⟩ := h
  simp [certsLoop, hr, hc, bind, Except.bind]

theorem certsLoop_cons_of_failsWith {a : RawSourceAuthority} {e : SourceError}
    (h : FailsWith read parseX509Pem fromDer a e) (certs : List Certificate)
    (rest : List RawSourceAuthority) :
    certsLoop read parseX509Pem fromDer certs (a :: rest) = .error e := by
  rcases h with hr | ⟨rawCert, hr, hc⟩
  · simp [certsLoop, hr, bind, Except.bind]
  · simp [certsLoop, hr, hc, bind, Except.bind]

/-- When the authorities before `a` convert and `a` fails, the inner loop fails
with `a`'s error. -/
theorem certsLoop_first_error {a : RawSourceAuthority} {e : SourceError}
    (ha : FailsWith read parseX509Pem fromDer a e) (after : List RawSourceAuthority) :
    ∀ (certs : List Certificate) (before : List RawSourceAuthority),
      (∀ b ∈ before, ∃ c, Converts read parseX509Pem fromDer b c) →
      certsLoop read parseX509Pem fromDer certs (before ++ a :: after) = .error e
  | certs, [], _ => certsLoop_cons_of_failsWith read parseX509Pem fromDer ha certs after
  | certs, b :: before, hb => by
    obtain ⟨c, hc⟩ := hb b (List.mem_cons_self _ _)
    rw [List.cons_append, certsLoop_cons_of_converts read parseX509Pem fromDer hc]
    exact certsLoop_first_error ha after _ before fun b' h' => hb b' (List.mem_cons_of_mem _ h')

/-- When the hosts before `host` convert and `host`'s list fails, the outer loop
fails with that error. -/
theorem hostsLoop_first_error {host : String} {authorities : List RawSourceAuthority}
    {e : SourceError} (h : certsLoop read parseX509Pem fromDer [] authorities = .error e)
    (post : List (String × List RawSourceAuthority)) :
    ∀ (sa : SourceAuthorities) (pre : List (String × List RawSourceAuthority)),
      (∀ entry ∈ pre, ∀ b ∈ entry.2, ∃ c, Converts read parseX509Pem fromDer b c) →
      hostsLoop read parseX509Pem fromDer sa (pre ++ (host, authorities) :: post) = .error e
  | sa, [], _ => by simp [hostsLoop, h, bind, Except.bind]
  | sa, (h0, authorities0) :: pre, hpre => by
    obtain ⟨certs, hc⟩ :=
      (certsLoop_isOk read parseX509Pem fromDer [] authorities0).2 (hpre _ (List.mem_cons_self _ _))
    simp only [List.cons_append, hostsLoop, hc, bind, Except.bind]
    exact hostsLoop_first_error h post _ pre fun entry he => hpre entry (List.mem_cons_of_mem _ he)

/-- **The first authority that does not convert is the error.** For every raw
map, in its iteration order: when every authority before `a` converts (those of
the hosts before `a`'s, and those before `a` in its host's list) and `a` fails,
`SourceAuthorities::try_from` fails with `a`'s error; that error is
`CannotReadCertificateError` with the read's error for a `Path` whose file
cannot be read, and `InvalidCertificateError` for bytes that parse neither as
PEM nor as DER. -/
theorem source_authorities_first_error (rawSourceAuthorities : RawSourceAuthorities)
    (pre post : List (String × List RawSourceAuthority)) (host : String)
    (before after : List RawSourceAuthority) (a : RawSourceAuthority) (e : SourceError)
    (hentries : rawSourceAuthorities.entries = pre ++ (host, before ++ a :: after) :: post)
    (hpre : ∀ entry ∈ pre, ∀ b ∈ entry.2, ∃ c, Converts read parseX509Pem fromDer b c)
    (hbefore : ∀ b ∈ before, ∃ c, Converts read parseX509Pem fromDer b c)
    (ha : FailsWith read parseX509Pem fromDer a e) :
    sourceAuthoritiesTryFrom read parseX509Pem fromDer rawSourceAuthorities = .error e ∧
    ((∃ path msg, a = .path path ∧ read path = .error msg ∧ e = .cannotReadCertificateError msg) ∨
      (∃ bytes, rawCertificateTryFrom read a = .ok ⟨bytes⟩ ∧ parseX509Pem bytes = false ∧
        fromDer bytes = false ∧
        e = .invalidCertificateError "Raw certificate is not in PEM nor in DER encoding")) := by
  refine ⟨?_, (failsWith_iff read parseX509Pem fromDer a e).1 ha⟩
  rw [sourceAuthoritiesTryFrom, hentries]
  exact hostsLoop_first_error read parseX509Pem fromDer
    (certsLoop_first_error read parseX509Pem fromDer ha after [] before hbefore) post _ pre hpre

end TryFrom

/-- A file system without files. -/
def noFiles (_ : String) : Except String (List UInt8) :=
  .error "No such file or directory (os error 2)"

/-- Parsers for the runs below: bytes starting with `-` (as `-----BEGIN`) are
PEM, bytes starting with `0x30` (a DER `SEQUENCE`) are DER. -/
def pemIfDash (bytes : List UInt8) : Bool := bytes.head? = some 45

/-- See `pemIfDash`. -/
def derIfSequence (bytes : List UInt8) : Bool := bytes.head? = some 48

theorem source_authorities_first_error_unreadable :
    let raw : RawSourceAuthorities :=
      ⟨[("ghcr.io", [.data ⟨[45]⟩, .path "/ca.pem"])], List.pairwise_singleton _ _⟩
    raw.entries = [] ++ ("ghcr.io", [.data ⟨[45]⟩] ++ .path "/ca.pem" :: []) :: [] ∧
    (∀ b ∈ [RawSourceAuthority.data ⟨[45]⟩], ∃ c, Converts noFiles pemIfDash derIfSequence b c) ∧
    FailsWith noFiles pemIfDash derIfSequence (.path "/ca.pem")
      (.cannotReadCertificateError "No such file or directory (os error 2)") ∧
    (sourceAuthoritiesTryFrom noFiles pemIfDash derIfSequence raw =
        .error (.cannotReadCertificateError "No such file or directory (os error 2)") ∧
      ((∃ path msg, RawSourceAuthority.path "/ca.pem" = .path path ∧ noFiles path = .error msg ∧
          SourceError.cannotReadCertificateError "No such file or directory (os error 2)" =
            .cannotReadCertificateError msg) ∨
        (∃ bytes, rawCertificateTryFrom noFiles (.path "/ca.pem") = .ok ⟨bytes⟩ ∧
          pemIfDash bytes = false ∧ derIfSequence bytes = false ∧
          SourceError.cannotReadCertificateError "No such file or directory (os error 2)" =
            .invalidCertificateError "Raw certificate is not in PEM nor in DER encoding"))) := by
  have hdata : ∀ b ∈ [RawSourceAuthority.data ⟨[45]⟩],
      ∃ c, Converts noFiles pemIfDash derIfSequence b c := by
    simp only [List.mem_singleton, forall_eq]
    exact ⟨.pem [45], ⟨[45]⟩, rfl, rfl⟩
  have hpath : FailsWith noFiles pemIfDash derIfSequence (.path "/ca.pem")
      (.cannotReadCertificateError "No such file or directory (os error 2)") := .inl rfl
  exact ⟨rfl, hdata, hpath, source_authorities_first_error noFiles pemIfDash derIfSequence _ [] []
    "ghcr.io" [.data ⟨[45]⟩] [] (.path "/ca.pem") _ rfl (by simp) hdata hpath⟩

end Fetcher
end Kubewarden
