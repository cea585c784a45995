import SigVal.Commons.Algorithms
import Mathlib.Data.List.Induction

/-!
# What digest identifiers denote

The standards give each digest algorithm a URI and an object identifier. The registry
serves the first algorithm that was registered under a URI, and the URI that
`DigestAlgorithm` declares for SHA-384 is the one of SHA3-384. Every registry that can be
reached is described by the pairs that came first under their URI; what a lookup finds
is read off from that.
-/

namespace SigVal.Commons

open SigVal.Java DigestAlgorithm

/-- The algorithms `DigestAlgorithm` declares. -/
inductive DigestName where
  | SHA1 | SHA224 | SHA256 | SHA384 | SHA512 | SHA3_224 | SHA3_256 | SHA3_384 | SHA3_512
deriving DecidableEq, Repr

namespace DigestName

/-- The URI of XML Signature and RFC 6931. -/
def uri : DigestName → String
  | SHA1 => "http://www.w3.org/2000/09/xmldsig#sha1"
  | SHA224 => "http://www.w3.org/2001/04/xmldsig-more#sha224"
  | SHA256 => "http://www.w3.org/2001/04/xmlenc#sha256"
  | SHA384 => "http://www.w3.org/2001/04/xmldsig-more#sha384"
  | SHA512 => "http://www.w3.org/2001/04/xmlenc#sha512"
  | SHA3_224 => "http://www.w3.org/2007/05/xmldsig-more#sha3-224"
  | SHA3_256 => "http://www.w3.org/2007/05/xmldsig-more#sha3-256"
  | SHA3_384 => "http://www.w3.org/2007/05/xmldsig-more#sha3-384"
  | SHA3_512 => "http://www.w3.org/2007/05/xmldsig-more#sha3-512"

/-- The object identifier of OIW and NIST. -/
def oid : DigestName → String
  | SHA1 => "1.3.14.3.2.26"
  | SHA224 => "2.16.840.1.101.3.4.2.4"
  | SHA256 => "2.16.840.1.101.3.4.2.1"
  | SHA384 => "2.16.840.1.101.3.4.2.2"
  | SHA512 => "2.16.840.1.101.3.4.2.3"
  | SHA3_224 => "2.16.840.1.101.3.4.2.7"
  | SHA3_256 => "2.16.840.1.101.3.4.2.8"
  | SHA3_384 => "2.16.840.1.101.3.4.2.9"
  | SHA3_512 => "2.16.840.1.101.3.4.2.10"

end DigestName

/-- Which digest algorithm an identifier denotes. There may be more algorithms than the
declared ones, and more than one identifier for each. -/
structure DigestNaming (Algo : Type) where
  uri : String → Option Algo
  oid : String → Option Algo
  function : Algo → Bytes → Bytes
  declared : DigestName → Algo
  declared_injective : Function.Injective declared
  uri_declared : ∀ name, uri name.uri = some (declared name)
  oid_declared : ∀ name, oid name.oid = some (declared name)

namespace DigestNaming

variable {Algo : Type}

/-- The URI and the object identifier name the same algorithm. -/
def SameAlgorithm (naming : DigestNaming Algo) (pair : String × String) : Prop :=
  ∃ algo, naming.uri pair.1 = some algo ∧ naming.oid pair.2 = some algo

/-- The name finder and `MessageDigest` implement the object identifier. -/
def Implements (naming : DigestNaming Algo) (digest : DigestAlgorithm → Bytes → Outcome Bytes) :
    Prop :=
  ∀ algorithm algo, naming.oid algorithm.oid = some algo →
    ∀ bytes, digest algorithm bytes = .ok (naming.function algo bytes)

/-- What the algorithm computes is the digest with this name. -/
def Computes (naming : DigestNaming Algo) (digest : DigestAlgorithm → Bytes → Outcome Bytes)
    (algorithm : DigestAlgorithm) (algo : Option Algo) : Prop :=
  ∃ a, algo = some a ∧ ∀ bytes, digest algorithm bytes = .ok (naming.function a bytes)

end DigestNaming

namespace DigestAlgorithmRegistry

/-! ## Every reachable registry -/

/-- The pairs of the static initializer. -/
def initialised : List (String × String) :=
  [(idSHA1, oidSHA1), (idSHA224, oidSHA224), (idSHA256, oidSHA256), (idSHA384, oidSHA384),
    (idSHA512, oidSHA512), (idSHA3224, oidSHA3224), (idSHA3256, oidSHA3256),
    (idSHA3384, oidSHA3384), (idSHA3512, oidSHA3512)]

/-- The registry after these pairs, from the empty map on. -/
def registerAll (pairs : List (String × String)) : DigestRegistry :=
  pairs.foldl (fun reg p => registerDigestAlgorithm reg p.1 p.2) []

/-- The registry after some calls. -/
def registered (calls : List (String × String)) : DigestRegistry :=
  calls.foldl (fun reg p => registerDigestAlgorithm reg p.1 p.2) initial

theorem registered_eq (calls : List (String × String)) :
    registered calls = registerAll (initialised ++ calls) := by
  unfold registered registerAll
  rw [List.foldl_append]
  rfl

/-- The pair is the first of its URI. -/
def FirstOfUri (pairs : List (String × String)) (pair : String × String) : Prop :=
  ∃ earlier later, pairs = earlier ++ pair :: later ∧ ∀ e ∈ earlier, e.1 ≠ pair.1

theorem firstOfUri_mem {pairs : List (String × String)} {pair : String × String}
    (h : FirstOfUri pairs pair) : pair ∈ pairs := by
  obtain ⟨earlier, later, rfl, -⟩ := h
  simp

theorem firstOfUri_unique {pairs : List (String × String)} {p q : String × String}
    (hp : FirstOfUri pairs p) (hq : FirstOfUri pairs q) (huri : p.1 = q.1) : p = q := by
  obtain ⟨earlier, later, rfl, hearlier⟩ := hp
  obtain ⟨earlier', later', hsplit, hearlier'⟩ := hq
  rcases List.append_eq_append_iff.mp hsplit with ⟨between, rfl, hrest⟩ | ⟨between, rfl, hrest⟩
  · cases between with
    | nil =>
        cases hrest
        rfl
    | cons b rest =>
        cases hrest
        exact absurd huri (hearlier' p (by simp))
  · cases between with
    | nil =>
        cases hrest
        rfl
    | cons b rest =>
        cases hrest
        exact absurd huri.symm (hearlier q (by simp))

theorem firstOfUri_append {pairs more : List (String × String)} {pair : String × String}
    (h : FirstOfUri pairs pair) : FirstOfUri (pairs ++ more) pair := by
  obtain ⟨earlier, later, rfl, hearlier⟩ := h
  exact ⟨earlier, later ++ more, by simp, hearlier⟩

theorem firstOfUri_snoc_iff {pairs : List (String × String)} {new pair : String × String} :
    FirstOfUri (pairs ++ [new]) pair ↔
      FirstOfUri pairs pair ∨ (pair = new ∧ ∀ e ∈ pairs, e.1 ≠ new.1) := by
  constructor
  · rintro ⟨earlier, later, hsplit, hearlier⟩
    rcases List.eq_nil_or_concat later with rfl | ⟨rest, last, rfl⟩
    · obtain ⟨rfl, hlast⟩ := List.append_inj' hsplit rfl
      cases hlast
      exact .inr ⟨rfl, hearlier⟩
    · have hsplit' : pairs ++ [new] = (earlier ++ pair :: rest) ++ [last] := by
        rw [hsplit]
        simp
      obtain ⟨rfl, -⟩ := List.append_inj' hsplit' rfl
      exact .inl ⟨earlier, rest, rfl, hearlier⟩
  · rintro (hfirst | ⟨rfl, hnew⟩)
    · exact firstOfUri_append hfirst
    · exact ⟨pairs, [], rfl, hnew⟩

/-- A URI that occurs has a first pair. -/
theorem exists_firstOfUri_iff {pairs : List (String × String)} {uri : String} :
    (∃ oid, FirstOfUri pairs (uri, oid)) ↔ ∃ pair ∈ pairs, pair.1 = uri := by
  constructor
  · rintro ⟨oid, h⟩
    exact ⟨_, firstOfUri_mem h, rfl⟩
  · induction pairs using List.reverseRecOn with
    | nil => simp
    | append_singleton pairs new ih =>
        intro h
        by_cases hpairs : ∃ pair ∈ pairs, pair.1 = uri
        · obtain ⟨oid, hoid⟩ := ih hpairs
          exact ⟨oid, firstOfUri_append hoid⟩
        · push Not at hpairs
          obtain ⟨pair, hmem, rfl⟩ := h
          have hnew : pair = new := by
            rcases List.mem_append.mp hmem with hold | hnew
            · exact absurd rfl (hpairs pair hold)
            · exact List.mem_singleton.mp hnew
          subst hnew
          exact ⟨pair.2, firstOfUri_snoc_iff.mpr (.inr ⟨rfl, hpairs⟩)⟩

/-- **The registry.** An algorithm is in it exactly when its pair came first under its
URI. -/
theorem mem_registerAll_iff (pairs : List (String × String)) (a : DigestAlgorithm) :
    a ∈ registerAll pairs ↔ FirstOfUri pairs (a.uri, a.oid) := by
  induction pairs using List.reverseRecOn generalizing a with
  | nil =>
      constructor
      · intro h
        cases h
      · intro h
        cases firstOfUri_mem h
  | append_singleton pairs new ih =>
      have hstep : registerAll (pairs ++ [new]) =
          registerDigestAlgorithm (registerAll pairs) new.1 new.2 := by
        unfold registerAll
        rw [List.foldl_append]
        rfl
      -- the URI is taken when a pair with it came before
      have htaken : (registerAll pairs).any (fun b => b.uri == new.1) = true ↔
          ∃ pair ∈ pairs, pair.1 = new.1 := by
        rw [← exists_firstOfUri_iff, List.any_eq_true]
        constructor
        · rintro ⟨b, hb, huri⟩
          rw [beq_iff_eq] at huri
          exact ⟨b.oid, huri ▸ (ih b).mp hb⟩
        · rintro ⟨oid, hfirst⟩
          exact ⟨⟨new.1, oid⟩, (ih _).mpr hfirst, beq_self_eq_true _⟩
      rw [hstep, firstOfUri_snoc_iff, ← ih a]
      unfold registerDigestAlgorithm
      split
      · rename_i hany
        obtain ⟨pair, hpair, huri⟩ := htaken.mp hany
        constructor
        · exact .inl
        · rintro (hold | ⟨-, hnew⟩)
          · exact hold
          · exact absurd huri (hnew pair hpair)
      · rename_i hany
        rw [htaken] at hany
        push Not at hany
        rw [List.mem_append, List.mem_singleton]
        have hpair : a = ⟨new.1, new.2⟩ ↔ (a.uri, a.oid) = new := by
          constructor
          · rintro rfl
            rfl
          · rintro rfl
            rfl
        rw [hpair]
        exact or_congr_right (and_iff_left hany).symm

/-! ## What lookups find -/

section Lookups

variable {calls : List (String × String)} {reg : DigestRegistry}

/-- The map may be walked through in any order. -/
theorem mem_registry_iff (hreg : reg.Perm (registered calls)) (a : DigestAlgorithm) :
    a ∈ reg ↔ FirstOfUri (initialised ++ calls) (a.uri, a.oid) := by
  rw [hreg.mem_iff, registered_eq, mem_registerAll_iff]

theorem get_ok_iff (hreg : reg.Perm (registered calls)) {uri : String} {a : DigestAlgorithm} :
    get reg (some uri) = .ok a ↔ a.uri = uri ∧ FirstOfUri (initialised ++ calls) (uri, a.oid) := by
  have hget : get reg (some uri) = .ok a ↔ reg.find? (fun b => b.uri == uri) = some a := by
    unfold get
    cases hfind : reg.find? (fun b => b.uri == uri) with
    | none => simp [hfind]
    | some b => simp [hfind]
  rw [hget]
  constructor
  · intro hfind
    have huri : a.uri = uri := by simpa using List.find?_some hfind
    exact ⟨huri, huri ▸ (mem_registry_iff hreg a).mp (List.mem_of_find?_eq_some hfind)⟩
  · rintro ⟨rfl, hfirst⟩
    have hmem := (mem_registry_iff hreg a).mpr hfirst
    cases hfind : reg.find? (fun b => b.uri == a.uri) with
    | none =>
        rw [List.find?_eq_none] at hfind
        exact absurd (beq_self_eq_true a.uri) (hfind a hmem)
    | some b =>
        have huri : b.uri = a.uri := by simpa using List.find?_some hfind
        have hb := (mem_registry_iff hreg b).mp (List.mem_of_find?_eq_some hfind)
        have hsame := firstOfUri_unique hb hfirst huri
        obtain ⟨uri, oid⟩ := a
        obtain ⟨uri', oid'⟩ := b
        cases hsame
        rfl

theorem getByOid_ok (hreg : reg.Perm (registered calls)) {oid : String} {a : DigestAlgorithm}
    (h : getByOid reg (some oid) = .ok a) :
    a.oid = oid ∧ FirstOfUri (initialised ++ calls) (a.uri, oid) := by
  have hfind : reg.find? (fun b => b.oid == oid) = some a := by
    unfold getByOid at h
    cases hfind : reg.find? (fun b => b.oid == oid) with
    | none => simp [hfind] at h
    | some b => simpa [hfind] using h
  have hoid : a.oid = oid := by simpa using List.find?_some hfind
  exact ⟨hoid, hoid ▸ (mem_registry_iff hreg a).mp (List.mem_of_find?_eq_some hfind)⟩

theorem exists_getByOid_iff (hreg : reg.Perm (registered calls)) {oid : String} :
    (∃ a, getByOid reg (some oid) = .ok a) ↔
      ∃ uri, FirstOfUri (initialised ++ calls) (uri, oid) := by
  constructor
  · rintro ⟨a, h⟩
    exact ⟨a.uri, (getByOid_ok hreg h).2⟩
  · rintro ⟨uri, hfirst⟩
    have hmem : ⟨uri, oid⟩ ∈ reg := (mem_registry_iff hreg ⟨uri, oid⟩).mpr hfirst
    cases hfind : reg.find? (fun b => b.oid == oid) with
    | none =>
        rw [List.find?_eq_none] at hfind
        exact absurd (beq_self_eq_true oid) (hfind _ hmem)
    | some a => exact ⟨a, by unfold getByOid; simp only [hfind]⟩

/-! ## The clash of SHA-384 and SHA3-384 -/

theorem firstOfUri_sha3384 (calls : List (String × String)) :
    FirstOfUri (initialised ++ calls) (DigestName.SHA3_384.uri, DigestName.SHA384.oid) := by
  refine firstOfUri_append ⟨initialised.take 3, initialised.drop 4, rfl, ?_⟩
  decide

variable {Algo : Type} {naming : DigestNaming Algo}

/-- Everywhere else the initializer names one algorithm by both identifiers. -/
theorem initialised_sameAlgorithm {pair : String × String} (hpair : pair ∈ initialised)
    (huri : pair.1 ≠ DigestName.SHA3_384.uri) : naming.SameAlgorithm pair := by
  have hdeclared : ∃ name : DigestName, pair = (name.uri, name.oid) := by
    simp only [initialised, List.mem_cons, List.not_mem_nil, or_false] at hpair
    rcases hpair with rfl | rfl | rfl | rfl | rfl | rfl | rfl | rfl | rfl
    · exact ⟨.SHA1, rfl⟩
    · exact ⟨.SHA224, rfl⟩
    · exact ⟨.SHA256, rfl⟩
    · exact absurd rfl huri
    · exact ⟨.SHA512, rfl⟩
    · exact ⟨.SHA3_224, rfl⟩
    · exact ⟨.SHA3_256, rfl⟩
    · exact absurd rfl huri
    · exact ⟨.SHA3_512, rfl⟩
  obtain ⟨name, rfl⟩ := hdeclared
  exact ⟨_, naming.uri_declared name, naming.oid_declared name⟩

theorem firstOfUri_sameAlgorithm (hcalls : ∀ p ∈ calls, naming.SameAlgorithm p)
    {pair : String × String} (hfirst : FirstOfUri (initialised ++ calls) pair)
    (huri : pair.1 ≠ DigestName.SHA3_384.uri) : naming.SameAlgorithm pair := by
  rcases List.mem_append.mp (firstOfUri_mem hfirst) with hinit | hcall
  · exact initialised_sameAlgorithm hinit huri
  · exact hcalls pair hcall

/-- Every object identifier in the registry names an algorithm. -/
theorem firstOfUri_oid (hcalls : ∀ p ∈ calls, naming.SameAlgorithm p)
    {pair : String × String} (hfirst : FirstOfUri (initialised ++ calls) pair) :
    ∃ algo, naming.oid pair.2 = some algo := by
  by_cases huri : pair.1 = DigestName.SHA3_384.uri
  · rw [firstOfUri_unique hfirst (firstOfUri_sha3384 calls) huri]
    exact ⟨_, naming.oid_declared .SHA384⟩
  · obtain ⟨algo, -, hoid⟩ := firstOfUri_sameAlgorithm hcalls hfirst huri
    exact ⟨algo, hoid⟩

variable {digest : DigestAlgorithm → Bytes → Outcome Bytes}

/-- Which digest a URI stands for in the registry. -/
theorem get_computes_iff (himplements : naming.Implements digest)
    (hdiffer : naming.function (naming.declared .SHA384) ≠
      naming.function (naming.declared .SHA3_384))
    (hcalls : ∀ p ∈ calls, naming.SameAlgorithm p) (hreg : reg.Perm (registered calls))
    {uri : String} {a : DigestAlgorithm} (hget : get reg (some uri) = .ok a) :
    naming.Computes digest a (naming.uri uri) ↔ uri ≠ DigestName.SHA3_384.uri := by
  obtain ⟨-, hfirst⟩ := (get_ok_iff hreg).mp hget
  constructor
  · rintro ⟨algo, halgo, hcomputes⟩ rfl
    rw [naming.uri_declared] at halgo
    cases halgo
    have hoid : a.oid = DigestName.SHA384.oid :=
      congrArg Prod.snd (firstOfUri_unique hfirst (firstOfUri_sha3384 calls) rfl)
    refine hdiffer (funext fun bytes => ?_)
    have hsha384 := himplements a _ (hoid ▸ naming.oid_declared .SHA384) bytes
    exact Except.ok.inj (hsha384.symm.trans (hcomputes bytes))
  · intro huri
    obtain ⟨algo, halgo, hoid⟩ := firstOfUri_sameAlgorithm hcalls hfirst huri
    exact ⟨algo, halgo, himplements a algo hoid⟩

/-- An object identifier stands for what it denotes. -/
theorem getByOid_computes (himplements : naming.Implements digest)
    (hcalls : ∀ p ∈ calls, naming.SameAlgorithm p) (hreg : reg.Perm (registered calls))
    {oid : String} {a : DigestAlgorithm} (hget : getByOid reg (some oid) = .ok a) :
    naming.Computes digest a (naming.oid oid) := by
  obtain ⟨rfl, hfirst⟩ := getByOid_ok hreg hget
  obtain ⟨algo, halgo⟩ := firstOfUri_oid hcalls hfirst
  exact ⟨algo, halgo, himplements a algo halgo⟩

end Lookups

end DigestAlgorithmRegistry

end SigVal.Commons
