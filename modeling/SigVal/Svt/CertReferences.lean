import SigVal.Lib.Base64Url
import SigVal.Svt.ClaimsIssuer

/-!
# The certificate path of a token

`getCertRef` puts the validated path into the claims: as hashes when the signature has all of
its certificates, and as certificates otherwise. Whoever has the token and the signature can
tell the path from it. A signature without validated path refers to the certificate of its
signer.
-/

namespace SigVal.Svt.AbstractSVTSigValClaimsIssuer

open SigVal.Java SigVal.Cert SigVal.Commons

variable {Cert TS : Type}

/-! ## Reading the references -/

/-- What a reader of the claims works with, beside the digest of the token. -/
structure CertReader (Cert : Type) where
  decodeBase64 : String → Option Bytes
  generateCertificate : Bytes → Option Cert

/-- The text that stands for a certificate in a list of hashes. -/
def certHash (env : ClaimsIssuerEnv Cert TS) (md : Bytes → Bytes) (cert : Cert) : Option String :=
  match env.getEncoded cert with
  | .ok encoded => some (env.encodeBase64String (md encoded))
  | .error _ => none

/-- The certificates that are referred to. A certificate is decoded, and a hash is looked up
among the certificates of the signature. -/
def resolve (env : ClaimsIssuerEnv Cert TS) (reader : CertReader Cert) (md : Bytes → Bytes)
    (signatureCertificateChain : List Cert) (claims : CertReferenceClaims) : Option (List Cert) :=
  match claims.type with
  | .chain => claims.ref.mapM fun text =>
      (reader.decodeBase64 text).bind reader.generateCertificate
  | .chain_hash => claims.ref.mapM fun text =>
      signatureCertificateChain.find? fun cert => certHash env md cert == some text

/-- What is documented of base64 and of certificates: decoding undoes encoding. -/
structure ReadsBack (env : ClaimsIssuerEnv Cert TS) (reader : CertReader Cert) : Prop where
  base64 : ∀ bytes, reader.decodeBase64 (env.encodeBase64String bytes) = some bytes
  certificate : ∀ cert encoded, env.getEncoded cert = .ok encoded →
    reader.generateCertificate encoded = some cert

/-- The digest tells the certificates apart. -/
def TellsApart (env : ClaimsIssuerEnv Cert TS) (md : Bytes → Bytes) (certs : List Cert) : Prop :=
  ∀ cert ∈ certs, ∀ cert' ∈ certs, ∀ encoded encoded', env.getEncoded cert = .ok encoded →
    env.getEncoded cert' = .ok encoded' → md encoded = md encoded' → cert = cert'

section RoundTrip

variable {env : ClaimsIssuerEnv Cert TS} {reader : CertReader Cert} {md : Bytes → Bytes}
  {chain : List Cert}

theorem find?_certHash (hreads : ReadsBack env reader) (hapart : TellsApart env md chain)
    {cert : Cert} (hcert : cert ∈ chain) {encoded : Bytes}
    (hencoded : env.getEncoded cert = .ok encoded) :
    (chain.find? fun c => certHash env md c == some (env.encodeBase64String (md encoded))) =
      some cert := by
  have hself : certHash env md cert = some (env.encodeBase64String (md encoded)) := by
    unfold certHash
    rw [hencoded]
  cases hfound : chain.find? fun c =>
      certHash env md c == some (env.encodeBase64String (md encoded)) with
  | none =>
      have hnot := List.find?_eq_none.mp hfound cert hcert
      rw [hself] at hnot
      exact absurd (beq_self_eq_true _) hnot
  | some found =>
      have hhash : certHash env md found = some (env.encodeBase64String (md encoded)) := by
        have hbeq := List.find?_some hfound
        exact eq_of_beq hbeq
      unfold certHash at hhash
      cases hencoded' : env.getEncoded found with
      | error ex =>
          rw [hencoded'] at hhash
          cases hhash
      | ok encoded' =>
          rw [hencoded'] at hhash
          have htext : env.encodeBase64String (md encoded') = env.encodeBase64String (md encoded) :=
            Option.some.inj hhash
          have hdigest : md encoded' = md encoded := by
            have hdecode := congrArg reader.decodeBase64 htext
            rw [hreads.base64, hreads.base64] at hdecode
            exact Option.some.inj hdecode
          rw [hapart found (List.mem_of_find?_eq_some hfound) cert hcert encoded' encoded
            hencoded' hencoded hdigest]

theorem resolve_chain_hash (hreads : ReadsBack env reader) (hapart : TellsApart env md chain)
    {path : List Cert} (hsub : ∀ cert ∈ path, cert ∈ chain) {texts : List String}
    (htexts : List.Forall₂ (fun cert text => ∃ encoded, env.getEncoded cert = .ok encoded ∧
      text = env.encodeBase64String (md encoded)) path texts) :
    resolve env reader md chain ⟨.chain_hash, texts⟩ = some path := by
  apply mapM_of_forall₂
  refine (List.forall₂_and_left _ _).mpr ⟨hsub, htexts⟩ |>.imp ?_
  rintro cert text ⟨hcert, encoded, hencoded, rfl⟩
  exact find?_certHash hreads hapart hcert hencoded

theorem resolve_chain (hreads : ReadsBack env reader) {path : List Cert} {texts : List String}
    (htexts : List.Forall₂ (fun cert text => ∃ encoded, env.getEncoded cert = .ok encoded ∧
      text = env.encodeBase64String encoded) path texts) :
    resolve env reader md chain ⟨.chain, texts⟩ = some path := by
  refine mapM_of_forall₂ (htexts.imp ?_)
  rintro cert text ⟨encoded, hencoded, rfl⟩
  rw [hreads.base64]
  exact hreads.certificate cert encoded hencoded

end RoundTrip

/-! ## What the issuer writes -/

section Issued

variable [DecidableEq Cert] {env : ClaimsIssuerEnv Cert TS}
  {sigResult : ExtendedSigValResult Cert TS} {hashAlgoUri : String} {md : Bytes → Bytes}
  {result : CertificateValidationResult Cert}

/-- Without a validated path. -/
theorem getCertRef_no_path (hmd : env.getMessageDigestInstance hashAlgoUri = .ok md)
    (hresult : sigResult.certificateValidationResult = some result)
    (hpath : result.getValidatedCertificatePath.getD [] = []) {signer : Cert}
    (hsigner : sigResult.signerCertificate = some signer) {encoded : Bytes}
    (hencoded : env.getEncoded signer = .ok encoded) :
    getCertRef env sigResult hashAlgoUri =
      .ok ⟨.chain_hash, [env.encodeBase64String (md encoded)]⟩ := by
  unfold getCertRef
  simp only [hresult, hpath, hsigner, hmd, hencoded, deref, rethrowAs, isCertPathMatch, bind,
    Except.bind, pure, Except.pure]

/-- With one: the texts stand for its certificates in their order. -/
theorem getCertRef_path (hmd : env.getMessageDigestInstance hashAlgoUri = .ok md)
    (hresult : sigResult.certificateValidationResult = some result) {chain : List Cert}
    (hchain : sigResult.signatureCertificateChain = some chain) {cert : Cert} {rest : List Cert}
    (hpath : result.getValidatedCertificatePath.getD [] = cert :: rest)
    (hencode : ∀ c ∈ cert :: rest, ∃ encoded, env.getEncoded c = .ok encoded) {isMatch : Bool}
    (hmatch : ((cert :: rest).all fun c => chain.contains c) = isMatch) :
    ∃ texts, getCertRef env sigResult hashAlgoUri =
        .ok ⟨if isMatch then .chain_hash else .chain, texts⟩ ∧
      List.Forall₂ (fun c text => ∃ encoded, env.getEncoded c = .ok encoded ∧
        text = env.encodeBase64String (if isMatch then md encoded else encoded))
        (cert :: rest) texts := by
  obtain ⟨texts, htexts⟩ : ∃ texts, ((cert :: rest).mapM fun chainCert => do
      let encoded ← env.getEncoded chainCert
      pure (env.encodeBase64String (if isMatch then md encoded else encoded))) = .ok texts := by
    apply exists_mapM_ok_iff.mpr
    intro c hc
    obtain ⟨encoded, hencoded⟩ := hencode c hc
    exact exists_bind_ok_iff.mpr ⟨encoded, hencoded, exists_pure_ok _⟩
  refine ⟨texts, ?_, ?_⟩
  · have hcompared : isCertPathMatch (cert :: rest) sigResult.signatureCertificateChain =
        .ok isMatch := by
      rw [hchain, ← hmatch]
      rfl
    unfold getCertRef
    rw [hresult]
    simp only [rethrowAs, deref, bind, Except.bind, hpath, hcompared, hmd]
    simp only [bind, Except.bind] at htexts
    rw [htexts]
    rfl
  · apply (forall₂_of_mapM_ok htexts).imp
    intro c text htext
    obtain ⟨encoded, hencoded, htext⟩ := bind_ok_iff.mp htext
    exact ⟨encoded, hencoded, (Except.ok.inj htext).symm⟩

/-- **The path can be told from the token.** With the certificates of the signature at hand
the references give the validated path in its order, or the certificate of the signer when
there is no path. They are hashes exactly when the signature has every certificate of the
path. -/
theorem getCertRef_determines_path {reader : CertReader Cert} {chain : List Cert} {signer : Cert}
    (hresult : sigResult.certificateValidationResult = some result)
    (hchain : sigResult.signatureCertificateChain = some chain)
    (hsigner : sigResult.signerCertificate = some signer) (hmem : signer ∈ chain)
    (hmd : env.getMessageDigestInstance hashAlgoUri = .ok md)
    (hencode : ∀ cert ∈ chain ++ result.getValidatedCertificatePath.getD [],
      ∃ encoded, env.getEncoded cert = .ok encoded)
    (hreads : ReadsBack env reader) (hapart : TellsApart env md chain) :
    ∃ claims, getCertRef env sigResult hashAlgoUri = .ok claims ∧
      (claims.type = .chain_hash ↔ result.getValidatedCertificatePath.getD [] = [] ∨
        ∀ cert ∈ result.getValidatedCertificatePath.getD [], cert ∈ chain) ∧
      resolve env reader md chain claims =
        some (match result.getValidatedCertificatePath.getD [] with
          | [] => [signer]
          | path => path) := by
  cases hpath : result.getValidatedCertificatePath.getD [] with
  | nil =>
      obtain ⟨encoded, hencoded⟩ := hencode signer (List.mem_append_left _ hmem)
      refine ⟨_, getCertRef_no_path hmd hresult hpath hsigner hencoded, by simp, ?_⟩
      apply resolve_chain_hash hreads hapart
      · intro cert hcert
        rw [List.mem_singleton.mp hcert]
        exact hmem
      · exact .cons ⟨encoded, hencoded, rfl⟩ .nil
  | cons cert rest =>
      have hencodePath : ∀ c ∈ cert :: rest, ∃ encoded, env.getEncoded c = .ok encoded := by
        intro c hc
        refine hencode c (List.mem_append_right _ ?_)
        rw [hpath]
        exact hc
      cases hmatch : (cert :: rest).all fun c => chain.contains c with
      | true =>
          have hsub : ∀ c ∈ cert :: rest, c ∈ chain := by simpa using hmatch
          obtain ⟨texts, hclaims, htexts⟩ :=
            getCertRef_path hmd hresult hchain hpath hencodePath hmatch
          refine ⟨_, hclaims, ?_, ?_⟩
          · exact iff_of_true rfl (.inr hsub)
          · exact resolve_chain_hash hreads hapart hsub htexts
      | false =>
          obtain ⟨texts, hclaims, htexts⟩ :=
            getCertRef_path hmd hresult hchain hpath hencodePath hmatch
          refine ⟨_, hclaims, ?_, ?_⟩
          · apply iff_of_false (by simp)
            rintro (hnil | hsub)
            · cases hnil
            · have hall : ((cert :: rest).all fun c => chain.contains c) = true := by
                simpa using hsub
              rw [hmatch] at hall
              cases hall
          · exact resolve_chain hreads htexts

/-! A signature with three certificates. A certificate is its encoding, and a digest the data
itself. -/

def plainIssuerEnv : ClaimsIssuerEnv Bytes Unit where
  getMessageDigestInstance := fun _ => .ok id
  encodeBase64String := Base64Url.encode
  getEncoded := .ok
  registry := DigestAlgorithmRegistry.initial
  getInstance := fun _ => .ok id
  getTimeStampSigBytes := fun _ => none

def plainReader : CertReader Bytes where
  decodeBase64 := fun text => some (Base64Url.decode text)
  generateCertificate := some

theorem plainReader_readsBack : ReadsBack plainIssuerEnv plainReader where
  base64 := fun bytes => congrArg some (Base64Url.decode_encode bytes)
  certificate := by
    intro cert encoded hencoded
    cases hencoded
    rfl

/-- The result for a signer, with the path. -/
def validatedAs (path : List Bytes) : ExtendedSigValResult Bytes Unit where
  signerCertificate := some [1, 1, 1]
  signatureCertificateChain := some [[2, 2, 2], [1, 1, 1], [3, 3, 3]]
  certificateValidationResult := some (.default path)

/-- A path of two of them is told from its hashes, in the order of the path. -/
theorem getCertRef_determines_path_hashes :
    ∃ claims, getCertRef plainIssuerEnv (validatedAs [[1, 1, 1], [2, 2, 2]])
        DigestAlgorithm.idSHA256 = .ok claims ∧ claims.type = .chain_hash ∧
      resolve plainIssuerEnv plainReader id [[2, 2, 2], [1, 1, 1], [3, 3, 3]] claims =
        some [[1, 1, 1], [2, 2, 2]] := by
  have hapart : TellsApart plainIssuerEnv id [[2, 2, 2], [1, 1, 1], [3, 3, 3]] := by
    intro cert _ cert' _ encoded encoded' hencoded hencoded' heq
    cases hencoded
    cases hencoded'
    exact heq
  obtain ⟨claims, hclaims, htype, hresolve⟩ := @getCertRef_determines_path Bytes Unit _
    plainIssuerEnv (validatedAs [[1, 1, 1], [2, 2, 2]]) DigestAlgorithm.idSHA256 id _ _ _ _
    rfl rfl rfl (by decide) rfl (fun cert _ => ⟨cert, rfl⟩) plainReader_readsBack hapart
  exact ⟨claims, hclaims, htype.mpr (.inr (by decide)), hresolve⟩

end Issued

end SigVal.Svt.AbstractSVTSigValClaimsIssuer
