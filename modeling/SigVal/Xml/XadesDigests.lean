import SigVal.Commons.DigestNaming
import SigVal.Xml.ElementValidator
import Mathlib.Data.Set.Finite.List

/-!
# XAdES certificate digests and the registry

A XAdES signature binds its certificate by digests under algorithms that are named by
URI. `isXadesVerified` recomputes them with the algorithm the registry has for the URI,
which is the named one except where SHA-384 and SHA3-384 clash.
-/

namespace SigVal.Xml

open SigVal.Java SigVal.Commons DigestAlgorithmRegistry XAdESObjectParser

variable {Cert Algo : Type} {naming : DigestNaming Algo} {calls : List (String × String)}

/-- The algorithm whose digest is computed for the URI of a declared one. -/
def served : DigestName → DigestName
  | .SHA3_384 => .SHA384
  | name => name

/-- The URI is in the registry: only the one of SHA-384 has to be registered first. -/
def Known (calls : List (String × String)) (name : DigestName) : Prop :=
  name = .SHA384 → ∃ p ∈ calls, p.1 = DigestName.SHA384.uri

section Declared

variable {reg : DigestRegistry}

theorem exists_get_declared_iff (hreg : reg.Perm (registered calls)) (name : DigestName) :
    (∃ a, get reg (some name.uri) = .ok a) ↔ Known calls name := by
  have hget : (∃ a, get reg (some name.uri) = .ok a) ↔
      ∃ pair ∈ initialised ++ calls, pair.1 = name.uri := by
    rw [← exists_firstOfUri_iff]
    constructor
    · rintro ⟨a, ha⟩
      exact ⟨a.oid, ((get_ok_iff hreg).mp ha).2⟩
    · rintro ⟨oid, hfirst⟩
      exact ⟨⟨name.uri, oid⟩, (get_ok_iff hreg).mpr ⟨rfl, hfirst⟩⟩
  rw [hget]
  by_cases hname : name = .SHA384
  · subst hname
    have hnew : ∀ pair ∈ initialised, pair.1 ≠ DigestName.SHA384.uri := by decide
    constructor
    · rintro ⟨pair, hpair, huri⟩ -
      rcases List.mem_append.mp hpair with hinit | hcall
      · exact absurd huri (hnew pair hinit)
      · exact ⟨pair, hcall, huri⟩
    · intro h
      obtain ⟨pair, hcall, huri⟩ := h rfl
      exact ⟨pair, List.mem_append_right _ hcall, huri⟩
  · refine ⟨fun _ h => absurd h hname, fun _ => ?_⟩
    have hinit : ∀ n : DigestName, n ≠ .SHA384 → ∃ pair ∈ initialised, pair.1 = n.uri := by
      intro n
      cases n <;> decide
    obtain ⟨pair, hpair, huri⟩ := hinit name hname
    exact ⟨pair, List.mem_append_left _ hpair, huri⟩

theorem get_declared_oid (hcalls : ∀ p ∈ calls, naming.SameAlgorithm p)
    (hreg : reg.Perm (registered calls)) {name : DigestName} {a : DigestAlgorithm}
    (hget : get reg (some name.uri) = .ok a) :
    naming.oid a.oid = some (naming.declared (served name)) := by
  obtain ⟨-, hfirst⟩ := (get_ok_iff hreg).mp hget
  by_cases hname : name = .SHA3_384
  · subst hname
    have hoid : a.oid = DigestName.SHA384.oid :=
      congrArg Prod.snd (firstOfUri_unique hfirst (firstOfUri_sha3384 calls) rfl)
    rw [hoid]
    exact naming.oid_declared .SHA384
  · have huri : name.uri ≠ DigestName.SHA3_384.uri := by
      cases name <;> first | decide | exact absurd rfl hname
    obtain ⟨algo, halgo, hoid⟩ := firstOfUri_sameAlgorithm hcalls hfirst huri
    rw [naming.uri_declared] at halgo
    have hserved : served name = name := by
      cases name <;> first | rfl | exact absurd rfl hname
    rw [hserved, hoid, halgo]

end Declared

/-! ## Certificate digests -/

variable {env : XmlEnv Cert}

theorem matchesCert_iff {cert : Cert} {ref : DigestAlgAndValue} :
    matchesCert env (some cert) ref = true ↔
      ∃ a encoded, get env.ts.registry ref.algorithm = .ok a ∧ env.getEncoded cert = .ok encoded ∧
        env.ts.digest a encoded = .ok ref.digestValue := by
  unfold matchesCert
  cases hget : get env.ts.registry ref.algorithm with
  | error ex => simp [bind, Except.bind]
  | ok a =>
      cases hencoded : env.getEncoded cert with
      | error ex => simp [bind, Except.bind, deref, hencoded]
      | ok encoded =>
          cases hdigest : env.ts.digest a encoded with
          | error ex => simp [bind, Except.bind, deref, hencoded, hdigest]
          | ok value => simp [bind, Except.bind, deref, hencoded, hdigest, pure, Except.pure]

/-- One certificate digest under a declared algorithm. -/
theorem matchesCert_declared_iff (himplements : naming.Implements env.ts.digest)
    (hcalls : ∀ p ∈ calls, naming.SameAlgorithm p)
    (hreg : env.ts.registry.Perm (registered calls)) {cert : Cert} {name : DigestName}
    {value : Bytes} :
    matchesCert env (some cert) ⟨some name.uri, value⟩ = true ↔
      Known calls name ∧ ∃ encoded, env.getEncoded cert = .ok encoded ∧
        value = naming.function (naming.declared (served name)) encoded := by
  rw [matchesCert_iff, ← exists_get_declared_iff hreg]
  constructor
  · rintro ⟨a, encoded, hget, hencoded, hdigest⟩
    have hcomputed := himplements a _ (get_declared_oid hcalls hreg hget) encoded
    rw [hdigest] at hcomputed
    exact ⟨⟨a, hget⟩, encoded, hencoded, Except.ok.inj hcomputed⟩
  · rintro ⟨⟨a, hget⟩, encoded, hencoded, rfl⟩
    exact ⟨a, encoded, hget, hencoded, himplements a _ (get_declared_oid hcalls hreg hget) encoded⟩

/-- The value is the digest of the certificate under the algorithm the URI names. -/
def NamedDigest (naming : DigestNaming Algo) (env : XmlEnv Cert) (cert : Cert)
    (ref : DigestAlgAndValue) : Prop :=
  ∃ uri algo encoded, ref.algorithm = some uri ∧ naming.uri uri = some algo ∧
    env.getEncoded cert = .ok encoded ∧ ref.digestValue = naming.function algo encoded

theorem namedDigest_declared_iff {cert : Cert} {name : DigestName} {value : Bytes} :
    NamedDigest naming env cert ⟨some name.uri, value⟩ ↔
      ∃ encoded, env.getEncoded cert = .ok encoded ∧
        value = naming.function (naming.declared name) encoded := by
  constructor
  · rintro ⟨uri, algo, encoded, huri, halgo, hencoded, hvalue⟩
    cases huri
    rw [naming.uri_declared] at halgo
    cases halgo
    exact ⟨encoded, hencoded, hvalue⟩
  · rintro ⟨encoded, hencoded, hvalue⟩
    exact ⟨name.uri, _, encoded, rfl, naming.uri_declared name, hencoded, hvalue⟩

/-- For every certificate and all digests under these algorithms, the certificate is
verified when one of them is its digest under the algorithm that is named. -/
def BoundByName (naming : DigestNaming Algo) (env : XmlEnv Cert) (names : List DigestName) :
    Prop :=
  ∀ cert (xades : XAdESObjectParser),
    (xades.certHashList.getD []).map (·.algorithm) = names.map (fun name => some name.uri) →
    (isXadesVerified env xades (some cert) = true ↔
      ∃ ref ∈ xades.certHashList.getD [], NamedDigest naming env cert ref)

def declaredNames : List DigestName :=
  [.SHA1, .SHA224, .SHA256, .SHA384, .SHA512, .SHA3_224, .SHA3_256, .SHA3_384, .SHA3_512]

/-- Some byte string is no digest of these bytes under a declared algorithm. -/
theorem exists_no_digest (naming : DigestNaming Algo) (encoded : Bytes) :
    ∃ value, ∀ name, value ≠ naming.function (naming.declared name) encoded := by
  let digests := declaredNames.map fun name => naming.function (naming.declared name) encoded
  obtain ⟨value, hvalue⟩ := Infinite.exists_notMem_finset digests.toFinset
  refine ⟨value, fun name heq => hvalue ?_⟩
  rw [List.mem_toFinset]
  refine List.mem_map.mpr ⟨name, ?_, heq.symm⟩
  cases name <;> decide

/-- Every list without the two algorithms in question is compared as named. -/
theorem boundByName_of_known (himplements : naming.Implements env.ts.digest)
    (hcalls : ∀ p ∈ calls, naming.SameAlgorithm p)
    (hreg : env.ts.registry.Perm (registered calls)) {names : List DigestName}
    (hnames : ∀ name ∈ names, name ≠ .SHA3_384 ∧ Known calls name) :
    BoundByName naming env names := by
  intro cert xades halgorithms
  have hmatches : ∀ ref ∈ xades.certHashList.getD [],
      (matchesCert env (some cert) ref = true ↔ NamedDigest naming env cert ref) := by
    rintro ⟨algorithm, value⟩ href
    have hlisted : algorithm ∈ names.map (fun name => some name.uri) := by
      rw [← halgorithms]
      exact List.mem_map_of_mem href
    obtain ⟨name, hname, rfl⟩ := List.mem_map.mp hlisted
    obtain ⟨hne, hknown⟩ := hnames name hname
    have hserved : served name = name := by
      cases name <;> first | rfl | exact absurd rfl hne
    rw [matchesCert_declared_iff himplements hcalls hreg, namedDigest_declared_iff, hserved]
    exact and_iff_right hknown
  unfold isXadesVerified
  rw [List.any_eq_true]
  exact exists_congr fun ref => and_congr_right fun href => hmatches ref href

/-- One of the two makes a certificate that is bound by name go unverified. -/
theorem known_of_boundByName (himplements : naming.Implements env.ts.digest)
    (hdiffer : ∃ cert encoded, env.getEncoded cert = .ok encoded ∧
      naming.function (naming.declared .SHA384) encoded ≠
        naming.function (naming.declared .SHA3_384) encoded)
    (hcalls : ∀ p ∈ calls, naming.SameAlgorithm p)
    (hreg : env.ts.registry.Perm (registered calls)) {names : List DigestName}
    (hbound : BoundByName naming env names) :
    ∀ name ∈ names, name ≠ .SHA3_384 ∧ Known calls name := by
  intro bad hbad
  by_contra hnot
  obtain ⟨cert, encoded, hencoded, hdiffer⟩ := hdiffer
  obtain ⟨noDigest, hnoDigest⟩ := exists_no_digest naming encoded
  -- the right digest under the bad URI, and no digest under the others
  let value : DigestName → Bytes := fun name =>
    if name = bad then naming.function (naming.declared bad) encoded else noDigest
  let refs := names.map fun name => (⟨some name.uri, value name⟩ : DigestAlgAndValue)
  let xades : XAdESObjectParser := ⟨some ⟨some ⟨none, none, some refs, none⟩, []⟩⟩
  have hrefs : xades.certHashList.getD [] = refs := rfl
  have hverified := hbound cert xades (by simp [hrefs, refs])
  rw [hrefs] at hverified
  have hnamed : ∃ ref ∈ refs, NamedDigest naming env cert ref := by
    refine ⟨_, List.mem_map_of_mem hbad, ?_⟩
    rw [namedDigest_declared_iff]
    exact ⟨encoded, hencoded, if_pos rfl⟩
  have hmatch := hverified.mpr hnamed
  unfold isXadesVerified at hmatch
  rw [hrefs, List.any_eq_true] at hmatch
  obtain ⟨ref, href, hmatch⟩ := hmatch
  obtain ⟨name, hname, rfl⟩ := List.mem_map.mp href
  obtain ⟨hknown, encoded', hencoded', hvalue⟩ :=
    (matchesCert_declared_iff himplements hcalls hreg).mp hmatch
  rw [hencoded] at hencoded'
  cases hencoded'
  by_cases heq : name = bad
  · subst heq
    have hdigest : naming.function (naming.declared name) encoded =
        naming.function (naming.declared (served name)) encoded := by
      simpa [value] using hvalue
    by_cases hsha3 : name = .SHA3_384
    · subst hsha3
      exact hdiffer hdigest.symm
    · exact hnot ⟨hsha3, hknown⟩
  · have hnone : noDigest = naming.function (naming.declared (served name)) encoded := by
      simpa [value, heq] using hvalue
    exact hnoDigest _ hnone

/-! ## The registry as a whole -/

/-- Both identifiers of the pair find an algorithm, and each computes the digest it
denotes. -/
def RetrievableByBoth (naming : DigestNaming Algo)
    (digest : DigestAlgorithm → Bytes → Outcome Bytes) (reg : DigestRegistry)
    (pair : String × String) : Prop :=
  ∃ a b, get reg (some pair.1) = .ok a ∧ getByOid reg (some pair.2) = .ok b ∧
    naming.Computes digest a (naming.uri pair.1) ∧ naming.Computes digest b (naming.oid pair.2)

/-- **When identifiers denote what they name.** After every sequence of registrations of
pairs that name one algorithm: a URI stands for the digest it denotes, and for the same
one as an object identifier of the algorithm, exactly when it is not the URI of
SHA3-384; an object identifier always does; a pair is found by both when its URI is not
that one and its object identifier came first under some URI; and certificate digests
are compared as named exactly when none is under SHA3-384, or under SHA-384 before that
was registered. -/
theorem digests_as_named_iff (himplements : naming.Implements env.ts.digest)
    (hdiffer : ∃ cert encoded, env.getEncoded cert = .ok encoded ∧
      naming.function (naming.declared .SHA384) encoded ≠
        naming.function (naming.declared .SHA3_384) encoded)
    (hcalls : ∀ p ∈ calls, naming.SameAlgorithm p)
    (hreg : env.ts.registry.Perm (registered calls)) :
    (∀ uri a, get env.ts.registry (some uri) = .ok a →
      (naming.Computes env.ts.digest a (naming.uri uri) ↔ uri ≠ DigestName.SHA3_384.uri)) ∧
    (∀ oid a, getByOid env.ts.registry (some oid) = .ok a →
      naming.Computes env.ts.digest a (naming.oid oid)) ∧
    (∀ uri oid a b, get env.ts.registry (some uri) = .ok a →
      getByOid env.ts.registry (some oid) = .ok b → naming.uri uri = naming.oid oid →
      (env.ts.digest a = env.ts.digest b ↔ uri ≠ DigestName.SHA3_384.uri)) ∧
    (∀ pair ∈ initialised ++ calls,
      (RetrievableByBoth naming env.ts.digest env.ts.registry pair ↔
        pair.1 ≠ DigestName.SHA3_384.uri ∧
          ∃ uri, FirstOfUri (initialised ++ calls) (uri, pair.2))) ∧
    ∀ names, BoundByName naming env names ↔
      ∀ name ∈ names, name ≠ .SHA3_384 ∧ Known calls name := by
  have hfunctions : naming.function (naming.declared .SHA384) ≠
      naming.function (naming.declared .SHA3_384) := by
    obtain ⟨-, encoded, -, hne⟩ := hdiffer
    exact fun heq => hne (congrFun heq encoded)
  have huri : ∀ uri a, get env.ts.registry (some uri) = .ok a →
      (naming.Computes env.ts.digest a (naming.uri uri) ↔ uri ≠ DigestName.SHA3_384.uri) :=
    fun uri a hget => get_computes_iff himplements hfunctions hcalls hreg hget
  have hoid : ∀ oid a, getByOid env.ts.registry (some oid) = .ok a →
      naming.Computes env.ts.digest a (naming.oid oid) :=
    fun oid a hget => getByOid_computes himplements hcalls hreg hget
  refine ⟨huri, hoid, ?_, ?_, ?_⟩
  · intro uri oid a b ha hb hsame
    obtain ⟨algo, halgo, hcomputes⟩ := hoid oid b hb
    rw [← huri uri a ha, hsame, halgo]
    constructor
    · intro hdigest
      exact ⟨algo, rfl, fun bytes => by rw [hdigest, hcomputes]⟩
    · rintro ⟨algo', halgo', hcomputes'⟩
      cases halgo'
      ext bytes
      rw [hcomputes, hcomputes']
  · intro pair hpair
    rw [← exists_getByOid_iff hreg]
    constructor
    · rintro ⟨a, b, ha, hb, hcomputes, -⟩
      exact ⟨(huri _ a ha).mp hcomputes, b, hb⟩
    · rintro ⟨hne, b, hb⟩
      obtain ⟨oid, hfirst⟩ := exists_firstOfUri_iff.mpr ⟨pair, hpair, rfl⟩
      have ha : get env.ts.registry (some pair.1) = .ok ⟨pair.1, oid⟩ :=
        (get_ok_iff hreg).mpr ⟨rfl, hfirst⟩
      exact ⟨_, b, ha, hb, (huri _ _ ha).mpr hne, hoid _ b hb⟩
  · intro names
    exact ⟨known_of_boundByName himplements hdiffer hcalls hreg,
      boundByName_of_known himplements hcalls hreg⟩

/-! The declared algorithms and no others. A digest shows its algorithm and its input. -/

def declaredNaming : DigestNaming DigestName where
  uri := fun uri => declaredNames.find? fun name => name.uri == uri
  oid := fun oid => declaredNames.find? fun name => name.oid == oid
  function := fun name bytes => name.oid.toUTF8.toList ++ bytes
  declared := id
  declared_injective := Function.injective_id
  uri_declared := by intro name; cases name <;> decide
  oid_declared := by intro name; cases name <;> decide

/-- Certificates are their encoding. -/
def declaredEnv (registry : DigestRegistry) : XmlEnv Bytes where
  newXMLSignature := fun _ => .error ⟨.xmlSignature, "no signature"⟩
  getPublicKey := .rsa
  getEncoded := .ok
  getPkParams := fun _ => .ok ()
  unmarshal := fun _ => .ok ⟨none, []⟩
  getTimestampedBytes := fun _ _ => none
  ts :=
    { extractCertificates := fun _ _ => .error ⟨.runtime, "no token"⟩
      getCmsSigTSTInfo := fun _ => .ok none
      verifyTsSignature := fun _ _ => .ok ()
      registry := registry
      digest := fun algorithm bytes => .ok (algorithm.oid.toUTF8.toList ++ bytes)
      getSubject := fun _ => "CN=Signer" }
  svt :=
    { getUri := .ok
      getCertificate := fun _ => .error ⟨.runtime, "no certificate"⟩
      getPkParams := fun _ => .ok ()
      getOrderedCertList := fun _ _ => [] }

theorem declaredEnv_implements (registry : DigestRegistry) :
    declaredNaming.Implements (declaredEnv registry).ts.digest := by
  intro algorithm name hoid bytes
  have hname : name.oid = algorithm.oid := by simpa using List.find?_some hoid
  show Except.ok _ = Except.ok (name.oid.toUTF8.toList ++ bytes)
  rw [hname]

/-- After SHA-384 was registered under its own URI. -/
theorem digests_as_named_sha384 :
    BoundByName declaredNaming
      (declaredEnv (registered [(DigestName.SHA384.uri, DigestName.SHA384.oid)]))
      [.SHA256, .SHA384] := by
  refine (digests_as_named_iff (declaredEnv_implements _) ⟨[48], [48], rfl, by decide +kernel⟩
    ?_ (List.Perm.refl _)).2.2.2.2 _ |>.mpr ?_
  · intro p hp
    cases List.mem_singleton.mp hp
    exact ⟨.SHA384, by decide, by decide⟩
  · intro name hname
    refine ⟨by rintro rfl; exact absurd hname (by decide), fun _ => ?_⟩
    exact ⟨_, List.mem_singleton_self _, rfl⟩

/-- One certificate digest in the signature. -/
def oneDigest (name : DigestName) (value : Bytes) : XAdESObjectParser :=
  ⟨some ⟨some ⟨none, none, some [⟨some name.uri, value⟩], none⟩, []⟩⟩

/-- At first the URI of SHA3-384 finds SHA-384 and the object identifier of SHA3-384
nothing. A certificate whose SHA-384 or SHA3-384 digest was signed is not verified. -/
theorem sha384_clash :
    get (registered []) (some DigestName.SHA3_384.uri) =
        .ok ⟨DigestName.SHA3_384.uri, DigestName.SHA384.oid⟩ ∧
      ¬ declaredNaming.Computes (declaredEnv (registered [])).ts.digest
        ⟨DigestName.SHA3_384.uri, DigestName.SHA384.oid⟩
        (declaredNaming.uri DigestName.SHA3_384.uri) ∧
      (¬ ∃ a, getByOid (registered []) (some DigestName.SHA3_384.oid) = .ok a) ∧
      ¬ BoundByName declaredNaming (declaredEnv (registered [])) [.SHA384] ∧
      ¬ BoundByName declaredNaming (declaredEnv (registered [])) [.SHA3_384] := by
  have hunverified : ∀ name, isXadesVerified (declaredEnv (registered []))
      (oneDigest name (declaredNaming.function name [48])) (some [48]) = false →
      ¬ BoundByName declaredNaming (declaredEnv (registered [])) [name] := by
    intro name hfalse hbound
    have hverified := (hbound [48] (oneDigest name (declaredNaming.function name [48])) rfl).mpr
      ⟨_, List.mem_singleton_self _, namedDigest_declared_iff.mpr ⟨[48], rfl, rfl⟩⟩
    rw [hfalse] at hverified
    cases hverified
  refine ⟨rfl, ?_, ?_, hunverified _ (by decide +kernel), hunverified _ (by decide +kernel)⟩
  · rintro ⟨name, hname, hcomputes⟩
    have hsha3 : name = .SHA3_384 := by
      rw [declaredNaming.uri_declared] at hname
      exact (Option.some.inj hname).symm
    subst hsha3
    exact absurd (hcomputes []) (by decide +kernel)
  · rintro ⟨a, ha⟩
    cases ha

end SigVal.Xml
