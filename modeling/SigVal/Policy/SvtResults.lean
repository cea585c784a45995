import SigVal.Policy.FailClosed

/-!
# Results compiled from a token

When a token settles the matter, the XML validator builds the result a complete
validation would have given from the signature data and the token. The properties of the
signature are filled in by one method in another order than by the other.
-/

namespace SigVal.Policy

open SigVal.Java SigVal.Dom SigVal.Cert SigVal.Commons SigVal.Xml
open XMLSignatureElementValidator

variable {Cert TS : Type}

/-- The two results report the same properties of the signature. -/
structure SameProperties (a b : ExtendedSigValResult Cert TS) : Prop where
  etsiAdes : a.etsiAdes = b.etsiAdes
  invalidSignCert : a.invalidSignCert = b.invalidSignCert
  claimedSigningTime : a.claimedSigningTime = b.claimedSigningTime
  coversDocument : a.coversDocument = b.coversDocument
  signedDocument : a.signedDocument = b.signedDocument
  signerCertificate : a.signerCertificate = b.signerCertificate
  signatureCertificateChain : a.signatureCertificateChain = b.signatureCertificateChain

namespace SameProperties

variable {a b c : ExtendedSigValResult Cert TS}

theorem refl (a : ExtendedSigValResult Cert TS) : SameProperties a a :=
  ⟨rfl, rfl, rfl, rfl, rfl, rfl, rfl⟩

theorem symm (h : SameProperties a b) : SameProperties b a where
  etsiAdes := h.etsiAdes.symm
  invalidSignCert := h.invalidSignCert.symm
  claimedSigningTime := h.claimedSigningTime.symm
  coversDocument := h.coversDocument.symm
  signedDocument := h.signedDocument.symm
  signerCertificate := h.signerCertificate.symm
  signatureCertificateChain := h.signatureCertificateChain.symm

theorem trans (h : SameProperties a b) (h' : SameProperties b c) : SameProperties a c where
  etsiAdes := h.etsiAdes.trans h'.etsiAdes
  invalidSignCert := h.invalidSignCert.trans h'.invalidSignCert
  claimedSigningTime := h.claimedSigningTime.trans h'.claimedSigningTime
  coversDocument := h.coversDocument.trans h'.coversDocument
  signedDocument := h.signedDocument.trans h'.signedDocument
  signerCertificate := h.signerCertificate.trans h'.signerCertificate
  signatureCertificateChain := h.signatureCertificateChain.trans h'.signatureCertificateChain

end SameProperties

/-! ## Steps that leave the properties alone -/

theorem takePolicyResult_sameProperties (verdict : PolicyValidationResult)
    (result : ExtendedSigValResult Cert TS) :
    SameProperties (result.takePolicyResult verdict) result := by
  unfold ExtendedSigValResult.takePolicyResult
  dsimp only
  split
  · exact ⟨rfl, rfl, rfl, rfl, rfl, rfl, rfl⟩
  · exact ⟨rfl, rfl, rfl, rfl, rfl, rfl, rfl⟩

theorem validatePath_sameProperties (certificateValidator : Option (CertificateValidator Cert))
    (result : ExtendedSigValResult Cert TS) (h : (result.validatePath certificateValidator).status =
      .SUCCESS) : SameProperties (result.validatePath certificateValidator) result := by
  unfold ExtendedSigValResult.validatePath at h ⊢
  split at h
  · split at h
    · rename_i hsuccess
      rw [if_pos hsuccess]
      obtain ⟨-, c, hc⟩ := ExtendedSigValResult.takePathOutcome_of_success h
      rw [hc]
      exact ⟨rfl, rfl, rfl, rfl, rfl, rfl, rfl⟩
    · rename_i hfailed
      rw [if_neg hfailed]
      exact .refl _
  · exact .refl _

/-- The last step of the validators changes no property of a success. -/
theorem concluded_sameProperties (checks : AbstractBasicSignaturePolicyChecks Cert)
    {before final : ExtendedSigValResult Cert (TimeStamp Cert)}
    (hfinal : final = match checks.validatePolicy before with
      | .ok verdict => before.takePolicyResult verdict
      | .error ex => before.setError .ERROR_INVALID_SIGNATURE "Failed to parse signature data"
          (some ex))
    (h : final.status = .SUCCESS) : SameProperties final before := by
  cases hverdict : checks.validatePolicy before with
  | error ex =>
      rw [hfinal, hverdict] at h
      cases h
  | ok verdict =>
      rw [hverdict] at hfinal
      rw [hfinal]
      exact takePolicyResult_sameProperties verdict before

/-- The token brings the certificates that came with the signature, and no other property. -/
theorem takeSvtValidation_sameProperties (env : SvtResultEnv Cert)
    (svtValResult : SignatureSVTValidationResult) (signerCertificate : Option Cert)
    (chain : List Cert) (result : ExtendedSigValResult Cert TS) :
    Mutating.wp (takeSvtValidation env svtValResult (.ok (signerCertificate, chain)))
      (fun _ after => SameProperties after
        { result with
          signerCertificate := signerCertificate
          signatureCertificateChain := some chain })
      (fun _ _ => True) result := by
  unfold takeSvtValidation
  simp only [Mutating.wp_bind, Mutating.wp_call, implies_true, and_true, Mutating.wp_modify]
  rintro uri _ cert _ _ _ _ ⟨⟩
  -- the status differs, and nothing else
  split
  · simp only [Mutating.wp_bind, Mutating.wp_call, implies_true, and_true, Mutating.wp_modify]
    intro claimsSet _ issueTime _ timeVal _
    exact ⟨rfl, rfl, rfl, rfl, rfl, rfl, rfl⟩
  · simp only [Mutating.wp_bind, Mutating.wp_call, implies_true, and_true, Mutating.wp_modify]
    intro claimsSet _ issueTime _ timeVal _
    exact ⟨rfl, rfl, rfl, rfl, rfl, rfl, rfl⟩

/-! ## The two ways -/

section Xml

variable {env : XmlEnv Cert} {signature : Node} {signatureData : Xml.SignatureData Cert}

/-- No qualifying properties of the element are those of the signature. -/
def IsPlain (env : XmlEnv Cert) (signature : Node) (signatureData : Xml.SignatureData Cert) :
    Prop :=
  ∀ node ∈ signature.getElementsByTagNameNS XAdESObjectParser.xadesNamespace
      "QualifyingProperties", ∀ qp, env.unmarshal node = .ok qp →
    parserRefers signatureData qp = false

/-- The properties of a signature, with a verdict on its certificate references. -/
def propertiesOf (signatureData : Xml.SignatureData Cert) (xades : XAdESObjectParser)
    (invalidSignCert : Bool) : Xml.XmlResult Cert where
  coversDocument := signatureData.coversWholeDoc
  signedDocument := signatureData.signedDocument
  etsiAdes := xades.qualifyingProperties.isSome
  invalidSignCert := invalidSignCert
  claimedSigningTime := xades.claimedSigningTime
  signerCertificate := signatureData.signerCertificate
  signatureCertificateChain := some signatureData.signatureCertChain

/-- Without a certificate no reference matches. -/
theorem isXadesVerified_none (xades : XAdESObjectParser) :
    xades.isXadesVerified env none = false := by
  unfold XAdESObjectParser.isXadesVerified
  apply List.any_eq_false.mpr
  intro ref _
  unfold XAdESObjectParser.matchesCert
  cases DigestAlgorithmRegistry.get env.ts.registry ref.algorithm with
  | error ex => exact Bool.false_ne_true
  | ok algorithm => exact Bool.false_ne_true

theorem isPlain_iff {xades : XAdESObjectParser}
    (hparse : XAdESObjectParser.parse env signature signatureData = .ok xades) :
    IsPlain env signature signatureData ↔ xades.qualifyingProperties = none := by
  unfold XAdESObjectParser.parse at hparse
  obtain ⟨found, hfind, hparse⟩ := bind_ok_iff.mp hparse
  cases hparse
  have hfirst := findQualifyingProperties_first hfind
  cases found with
  | none => exact iff_of_true hfirst rfl
  | some qp =>
      obtain ⟨pre, node, post, hnodes, hqp, hrefers, -⟩ := hfirst
      refine iff_of_false (fun hplain => ?_) (fun h => by cases h)
      have hmem : node ∈ signature.getElementsByTagNameNS XAdESObjectParser.xadesNamespace
          "QualifyingProperties" := by
        rw [hnodes]
        exact List.mem_append_right _ List.mem_cons_self
      rw [hplain node hmem qp hqp] at hrefers
      cases hrefers

/-- The certificate references are compared while there is no certificate yet. -/
theorem compiled_sameProperties {svtValResult : SignatureSVTValidationResult}
    (h : (compileXMLSigValResultsFromSvtValidation env svtValResult signature
      signatureData).status = .SUCCESS) :
    ∃ xades, XAdESObjectParser.parse env signature signatureData = .ok xades ∧
      SameProperties
        (compileXMLSigValResultsFromSvtValidation env svtValResult signature signatureData)
        (propertiesOf signatureData xades true) := by
  revert h
  unfold compileXMLSigValResultsFromSvtValidation
  refine Mutating.tryCatch_of_wp (P := fun result => result.status = .SUCCESS → ∃ xades,
    XAdESObjectParser.parse env signature signatureData = .ok xades ∧
      SameProperties result (propertiesOf signatureData xades true)) ?_
  rw [Mutating.wp_bind, Mutating.wp_call]
  refine ⟨?_, fun ex _ h => by cases h⟩
  intro xades hparse
  rw [Mutating.wp_bind, Mutating.wp_modify]
  refine Mutating.wp_mono (takeSvtValidation_sameProperties _ _ _ _ _) ?_ ?_
  · intro _ after hafter _
    refine ⟨xades, hparse, hafter.trans ?_⟩
    refine ⟨rfl, ?_, rfl, rfl, rfl, rfl, rfl⟩
    exact congrArg not (isXadesVerified_none xades)
  · intro ex after _ h
    cases h

theorem takeXades_sameProperties {xades : XAdESObjectParser} {result : Xml.XmlResult Cert}
    (hsigner : result.signerCertificate = signatureData.signerCertificate)
    (hchain : result.signatureCertificateChain = some signatureData.signatureCertChain) :
    SameProperties (takeXades env signatureData xades result)
      (propertiesOf signatureData xades
        (!xades.isXadesVerified env signatureData.signerCertificate)) := by
  unfold takeXades
  dsimp only
  rw [hsigner]
  split
  · exact ⟨rfl, rfl, rfl, rfl, rfl, rfl, hchain⟩
  · exact ⟨rfl, rfl, rfl, rfl, rfl, rfl, hchain⟩

section Direct

variable (checks : AbstractBasicSignaturePolicyChecks Cert)
  (certificateValidator : Option (CertificateValidator Cert))
  (verifier : TimeStampPolicyVerifier Cert)

/-- A complete validation that succeeds compares the references with the signer. -/
theorem direct_sameProperties
    {svt : Option (Node → Xml.SignatureData Cert →
      Outcome (Option (List SignatureSVTValidationResult)))}
    (h : (validateDirectly env (basicChecksXmlValidator checks certificateValidator verifier svt)
      signature signatureData).status = .SUCCESS) :
    ∃ xades, XAdESObjectParser.parse env signature signatureData = .ok xades ∧
      (xades.qualifyingProperties.isSome = true →
        xades.isXadesVerified env signatureData.signerCertificate = true) ∧
      SameProperties
        (validateDirectly env (basicChecksXmlValidator checks certificateValidator verifier svt)
          signature signatureData)
        (propertiesOf signatureData xades
          (!xades.isXadesVerified env signatureData.signerCertificate)) := by
  obtain ⟨signer, xades, hver, hparse, hnamed, -⟩ :=
    xml_direct_established checks certificateValidator verifier svt h
  rw [hver.signerCertificate]
  refine ⟨xades, hparse, hnamed, ?_⟩
  unfold validateDirectly at h ⊢
  rw [hparse] at h ⊢
  dsimp only at h ⊢
  unfold conclude at h ⊢
  dsimp only at h ⊢
  obtain ⟨hstatus, -⟩ := concluded_established checks rfl h
  obtain ⟨uri, hbase⟩ := validateSignatureElement_of_verifies hver
  have hpath := validatePath_sameProperties certificateValidator
    (validateSignatureElement env signature signatureData) (takeXades_status_iff.mp hstatus).1
  refine (concluded_sameProperties checks rfl h).trans (.trans ?_ (hver.signerCertificate ▸
    takeXades_sameProperties (hpath.signerCertificate.trans ?_)
      (hpath.signatureCertificateChain.trans ?_)))
  · exact ⟨rfl, rfl, rfl, rfl, rfl, rfl, rfl⟩
  · rw [hbase, hver.signerCertificate]
    rfl
  · rw [hbase]
    rfl

/-- **Results from a token.** They are those of a complete validation exactly for the
signatures without properties of their own. -/
theorem svt_properties_agree_iff
    {svtValidate : Node → Xml.SignatureData Cert →
      Outcome (Option (List SignatureSVTValidationResult))}
    {results : Option (List SignatureSVTValidationResult)}
    (hresults : svtValidate signature signatureData = .ok results)
    (hvalid : (firstValidSvt results).isSome = true)
    (hsvt : (validateSignature env
      (basicChecksXmlValidator checks certificateValidator verifier (some svtValidate)) signature
      signatureData).status = .SUCCESS)
    (hcomplete : (validateSignature env
      (basicChecksXmlValidator checks certificateValidator verifier none) signature
      signatureData).status = .SUCCESS) :
    SameProperties
        (validateSignature env
          (basicChecksXmlValidator checks certificateValidator verifier (some svtValidate))
          signature signatureData)
        (validateSignature env
          (basicChecksXmlValidator checks certificateValidator verifier none) signature
          signatureData) ↔
      IsPlain env signature signatureData := by
  obtain ⟨svtValResult, hfirst⟩ := Option.isSome_iff_exists.mp hvalid
  have hfromToken : validateSignature env
      (basicChecksXmlValidator checks certificateValidator verifier (some svtValidate)) signature
      signatureData =
        compileXMLSigValResultsFromSvtValidation env svtValResult signature signatureData := by
    unfold validateSignature basicChecksXmlValidator
    dsimp only
    rw [hresults]
    dsimp only
    rw [hfirst]
  rw [hfromToken] at hsvt ⊢
  obtain ⟨xades, hparse, hcompiled⟩ := compiled_sameProperties hsvt
  obtain ⟨xades', hparse', hnamed, hdirect⟩ :=
    direct_sameProperties checks certificateValidator verifier hcomplete
  rw [hparse] at hparse'
  cases hparse'
  rw [isPlain_iff hparse]
  constructor
  · intro hsame
    have hinvalid : true = !xades.isXadesVerified env signatureData.signerCertificate :=
      hcompiled.invalidSignCert.symm.trans (hsame.invalidSignCert.trans hdirect.invalidSignCert)
    by_contra hsome
    rw [hnamed (Option.isSome_iff_ne_none.mpr hsome)] at hinvalid
    cases hinvalid
  · intro hnone
    have hunverified : xades.isXadesVerified env signatureData.signerCertificate = false := by
      unfold XAdESObjectParser.isXadesVerified XAdESObjectParser.certHashList
        XAdESObjectParser.signedProperties
      rw [hnone]
      rfl
    rw [hunverified] at hdirect
    exact hcompiled.trans hdirect.symm

end Direct

end Xml

/-! A token over the signature of certificate 1. -/

section Token

def tokenOfSignature : SignatureSVTValidationResult where
  signedJWT :=
    { header := ⟨"RS256", none, some [[1]]⟩
      claimsSet := some
        { issuer := some "issuer"
          jwtID := some "jti"
          issueTime := some 7000
          expirationTime := none
          sigValClaims := none }
      signingInput := []
      signature := [] }
  signatureClaims :=
    { sigRef := ⟨none, "s", "b"⟩
      sigDataRef := []
      sigVal := some [⟨sigValidationPolicyBasicValidation, .PASSED, none⟩]
      timeVal := some [] }
  signerCertificate := [1]
  certificateChain := [[1]]
  svtValidationSuccess := true

/-- The validator with the token, or without. -/
def validatorWith (svt : Option (Node → Xml.SignatureData Nat →
    Outcome (Option (List SignatureSVTValidationResult)))) : XMLSignatureElementValidator Nat :=
  basicChecksXmlValidator basicSignaturePolicyValidator (some anchoredPath) noTimestamps svt

/-- The properties name the signer, and only the complete validation says so. -/
theorem named_signer_reported_invalid :
    ∃ fromToken complete : Xml.XmlResult Nat,
      fromToken = validateSignature propertiesEnv
        (validatorWith (some fun _ _ => .ok (some [tokenOfSignature])))
        (signatureWith [propertiesElement [("Target", "#s")]]) (referringData ["", "#sp"]) ∧
      complete = validateSignature propertiesEnv (validatorWith none)
        (signatureWith [propertiesElement [("Target", "#s")]]) (referringData ["", "#sp"]) ∧
      fromToken.status = .SUCCESS ∧ complete.status = .SUCCESS ∧
      complete.invalidSignCert = false ∧ ¬ SameProperties fromToken complete := by
  refine ⟨_, _, rfl, rfl, rfl, rfl, rfl, ?_⟩
  intro hsame
  cases hsame.invalidSignCert

/-- Without properties both ways agree. -/
theorem plain_signature_agrees :
    SameProperties
      (validateSignature propertiesEnv
        (validatorWith (some fun _ _ => .ok (some [tokenOfSignature])))
        (signatureWith []) (referringData [""]))
      (validateSignature propertiesEnv (validatorWith none) (signatureWith [])
        (referringData [""])) := by
  refine (@svt_properties_agree_iff Nat propertiesEnv _ _ basicSignaturePolicyValidator
    (some anchoredPath) noTimestamps (fun _ _ => .ok (some [tokenOfSignature])) _ rfl rfl rfl
    rfl).mpr ?_
  intro node hnode
  cases hnode

end Token

end SigVal.Policy
