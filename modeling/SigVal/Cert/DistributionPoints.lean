import SigVal.Cert.CrlProvenance

/-!
# Lists by the distribution points of a certificate

`getCRL(CRLDistPoint)` of both caches. The points without reasons and without a
`crlIssuer` are accepted, and their URIs are collected. Of these the first one with an
HTTP scheme is tried, and when that fails the first one with an LDAP scheme. Other URIs
of either scheme are not tried.
-/

namespace SigVal.Cert

open SigVal.Java

variable {σ Crl : Type}

/-! ## The extension -/

/-- A general name, with its tag when it is not a URI. -/
inductive GeneralName where
  | uniformResourceIdentifier (uri : String)
  | other (tagNo : Nat)
deriving DecidableEq, Repr

inductive DistributionPointName where
  | fullName (names : List GeneralName)
  | nameRelativeToCRLIssuer
deriving DecidableEq, Repr

/-- `DistributionPoint`; the reason flags are a bit string. -/
structure DistributionPoint where
  distributionPoint : Option DistributionPointName
  reasons : Option Nat := none
  cRLIssuer : Option (List GeneralName) := none
deriving DecidableEq, Repr

def GeneralName.uri? : GeneralName → Option String
  | uniformResourceIdentifier uri => some uri
  | other _ => none

/-- `GeneralNames.getInstance(dp.getDistributionPoint().getName())`: a point need not
have a name, and one that is relative to the issuer is a set, not a sequence. -/
def DistributionPoint.generalNames (dp : DistributionPoint) : Outcome (List GeneralName) :=
  match dp.distributionPoint with
  | none => .error Exn.nullPointer
  | some .nameRelativeToCRLIssuer =>
      .error ⟨.illegalArgument, "unknown object in getInstance: org.bouncycastle.asn1.DLSet"⟩
  | some (.fullName names) => .ok names

/-- The schemes of a source. -/
inductive Scheme where
  | http
  | ldap
deriving DecidableEq, Repr

def Scheme.text : Scheme → String
  | http => "http"
  | ldap => "ldap"

/-- `s.toLowerCase().startsWith(…)`. -/
def Scheme.accepts (table : CaseTable) (scheme : Scheme) (uri : String) : Bool :=
  scheme.text.toList.isPrefixOf (uri.toList.map table.toLowerCase)

/-! ## `getCRL(CRLDistPoint)` -/

/-- What the loop over the points collects. -/
structure Approved where
  approvedUriList : List String := []
  crlIssuerPresent : Bool := false
  reasonsPresent : Bool := false
deriving DecidableEq, Repr

/-- One point of the extension. -/
def approvePoint (approved : Approved) (dp : DistributionPoint) : Outcome Approved := do
  let dpGeneralNames ← dp.generalNames
  let uriNameList := dpGeneralNames.filterMap GeneralName.uri?
  return uriNameList.foldl
    (fun approved uri =>
      if dp.cRLIssuer.isNone && dp.reasons.isNone then
        { approved with approvedUriList := approved.approvedUriList ++ [uri] }
      else
        { approved with
          crlIssuerPresent := dp.cRLIssuer.isSome || approved.crlIssuerPresent
          reasonsPresent := dp.reasons.isSome || approved.reasonsPresent })
    approved

def approvePoints (distributionPoints : List DistributionPoint) : Outcome Approved :=
  distributionPoints.foldlM approvePoint {}

def noCrl : Exn :=
  ⟨.io, "No valid CRL could be obtained from the provided CRL distribution point"⟩

/-- The attempt for an LDAP source, and the end of the method. -/
def getLdapCrl (getCRL : Scheme → String → Mutating σ (CRLInfo Crl)) (ldapUrl : Option String) :
    Mutating σ (CRLInfo Crl) :=
  match ldapUrl with
  | some url => Mutating.catching (getCRL .ldap url) fun _ => throw noCrl
  | none => throw noCrl

/-- The attempt for an HTTP source, and what follows it. -/
def getHttpCrl (getCRL : Scheme → String → Mutating σ (CRLInfo Crl))
    (httpUrl ldapUrl : Option String) : Mutating σ (CRLInfo Crl) :=
  match httpUrl with
  | some url => Mutating.catching (getCRL .http url) fun _ => getLdapCrl getCRL ldapUrl
  | none => getLdapCrl getCRL ldapUrl

/-- `getCRL(crlDistributionPointExt)`, over the `getCRL(url)` of a cache. -/
def getCRLDistPoint (table : CaseTable) (getCRL : Scheme → String → Mutating σ (CRLInfo Crl))
    (distributionPoints : List DistributionPoint) : Mutating σ (CRLInfo Crl) := do
  let approved ← Mutating.call (approvePoints distributionPoints)
  if approved.approvedUriList.isEmpty && approved.crlIssuerPresent then
    throw ⟨.io,
      "No acceptable CRL distribution point found. Declaration of crlIssuer is not allowed"⟩
  else if approved.approvedUriList.isEmpty && approved.reasonsPresent then
    throw ⟨.io, "No acceptable CRL distribution point found. Declaration of reason is not allowed"⟩
  else
    getHttpCrl getCRL (approved.approvedUriList.find? (Scheme.http.accepts table))
      (approved.approvedUriList.find? (Scheme.ldap.accepts table))

/-- `getCRL(url)` in a search: each attempt reads the clock for itself. -/
def CRLCacheImpl.getCRLFor (env : CRLCacheImpl.Env Crl) (clock : Scheme → ClockReadings)
    (loader : CRLDataLoader) (scheme : Scheme) (url : String) :
    Mutating CRLCacheImpl.State (CRLInfo Crl) :=
  CRLCacheImpl.getCRL env (clock scheme) loader url

def CRLCacheImpl.getCRLDistPoint (env : CRLCacheImpl.Env Crl) (clock : Scheme → ClockReadings)
    (loader : CRLDataLoader) (distributionPoints : List DistributionPoint) :
    Mutating CRLCacheImpl.State (CRLInfo Crl) :=
  Cert.getCRLDistPoint env.jvm.toCaseTable (CRLCacheImpl.getCRLFor env clock loader)
    distributionPoints

/-- The same in memory. -/
def InMemoryCRLCache.getCRLFor (env : CRLCacheEnv Crl) (clock : Scheme → ClockReadings)
    (downloadCrl : String → Outcome (Option Bytes)) (scheme : Scheme) (url : String) :
    Mutating InMemoryCRLCache.State (CRLInfo Crl) :=
  InMemoryCRLCache.getCRL env (clock scheme) downloadCrl url

def InMemoryCRLCache.getCRLDistPoint (env : CRLCacheEnv Crl) (clock : Scheme → ClockReadings)
    (downloadCrl : String → Outcome (Option Bytes)) (distributionPoints : List DistributionPoint) :
    Mutating InMemoryCRLCache.State (CRLInfo Crl) :=
  Cert.getCRLDistPoint env.jvm.toCaseTable (InMemoryCRLCache.getCRLFor env clock downloadCrl)
    distributionPoints

/-! ## The sources an extension offers -/

/-- The point has a name of its own. -/
def DistributionPoint.Named (dp : DistributionPoint) : Prop :=
  ∃ names, dp.distributionPoint = some (.fullName names)

/-- The URIs of a point without reasons and without a `crlIssuer`. -/
def DistributionPoint.acceptableUris (dp : DistributionPoint) : List String :=
  match dp.distributionPoint, dp.reasons, dp.cRLIssuer with
  | some (.fullName names), none, none => names.filterMap GeneralName.uri?
  | _, _, _ => []

def acceptableUris (distributionPoints : List DistributionPoint) : List String :=
  distributionPoints.flatMap DistributionPoint.acceptableUris

theorem mem_acceptableUris_iff {distributionPoints : List DistributionPoint} {uri : String} :
    uri ∈ acceptableUris distributionPoints ↔
      ∃ dp ∈ distributionPoints, dp.reasons = none ∧ dp.cRLIssuer = none ∧
        ∃ names, dp.distributionPoint = some (.fullName names) ∧
          GeneralName.uniformResourceIdentifier uri ∈ names := by
  have hname : ∀ name : GeneralName,
      name.uri? = some uri ↔ name = .uniformResourceIdentifier uri := by
    intro name
    cases name with
    | uniformResourceIdentifier uri' => simp [GeneralName.uri?]
    | other tagNo => simp [GeneralName.uri?]
  unfold acceptableUris
  rw [List.mem_flatMap]
  refine exists_congr fun dp => and_congr_right fun _ => ?_
  unfold DistributionPoint.acceptableUris
  split
  · rename_i names hpoint hreasons hissuer
    rw [hpoint, hreasons, hissuer, List.mem_filterMap]
    constructor
    · rintro ⟨name, hmem, huri⟩
      rw [hname] at huri
      subst huri
      exact ⟨rfl, rfl, names, rfl, hmem⟩
    · rintro ⟨-, -, names', hsame, hmem⟩
      cases hsame
      exact ⟨_, hmem, (hname _).mpr rfl⟩
  · rename_i hother
    apply iff_of_false (by simp)
    rintro ⟨hreasons, hissuer, names, hpoint, -⟩
    exact hother names hpoint hreasons hissuer

theorem acceptableUris_of_named {dp : DistributionPoint} {names : List GeneralName}
    (hpoint : dp.distributionPoint = some (.fullName names)) :
    dp.acceptableUris =
      if dp.cRLIssuer.isNone && dp.reasons.isNone then names.filterMap GeneralName.uri?
      else [] := by
  unfold DistributionPoint.acceptableUris
  rw [hpoint]
  cases dp.reasons with
  | some reasons => cases dp.cRLIssuer <;> rfl
  | none => cases dp.cRLIssuer <;> rfl

/-- The loop over the URIs of a point adds the acceptable ones. -/
theorem approvePoint_ok (approved : Approved) {dp : DistributionPoint} (hnamed : dp.Named) :
    ∃ approved', approvePoint approved dp = .ok approved' ∧
      approved'.approvedUriList = approved.approvedUriList ++ dp.acceptableUris := by
  obtain ⟨names, hpoint⟩ := hnamed
  refine ⟨_, by simp only [approvePoint, DistributionPoint.generalNames, hpoint]; rfl, ?_⟩
  rw [acceptableUris_of_named hpoint]
  generalize names.filterMap GeneralName.uri? = uris
  cases haccepted : dp.cRLIssuer.isNone && dp.reasons.isNone with
  | true =>
      simp only [if_true]
      induction uris generalizing approved with
      | nil => exact (List.append_nil _).symm
      | cons uri rest ih =>
          rw [List.foldl_cons, ih, List.append_assoc]
          rfl
  | false =>
      simp only [Bool.false_eq_true, if_false, List.append_nil]
      induction uris generalizing approved with
      | nil => rfl
      | cons uri rest ih => rw [List.foldl_cons, ih]

/-- A point without a name of its own is an exception, and not an `IOException`. -/
theorem approvePoint_error (approved : Approved) {dp : DistributionPoint} (hnamed : ¬ dp.Named) :
    ∃ ex, approvePoint approved dp = .error ex ∧ ex.cls ≠ .io := by
  cases hpoint : dp.distributionPoint with
  | none =>
      refine ⟨Exn.nullPointer, ?_, by decide⟩
      simp [approvePoint, DistributionPoint.generalNames, hpoint, bind, Except.bind]
  | some name =>
      cases name with
      | fullName names => exact absurd ⟨names, hpoint⟩ hnamed
      | nameRelativeToCRLIssuer =>
          refine ⟨_, by simp only [approvePoint, DistributionPoint.generalNames, hpoint]; rfl, ?_⟩
          decide

/-- **What the loop over the points collects.** -/
theorem approvePoints_ok {distributionPoints : List DistributionPoint}
    (hnamed : ∀ dp ∈ distributionPoints, dp.Named) :
    ∃ approved, approvePoints distributionPoints = .ok approved ∧
      approved.approvedUriList = acceptableUris distributionPoints := by
  suffices h : ∀ start : Approved, ∃ approved,
      distributionPoints.foldlM approvePoint start = .ok approved ∧
        approved.approvedUriList =
          start.approvedUriList ++ acceptableUris distributionPoints by
    exact h {}
  induction distributionPoints with
  | nil => exact fun start => ⟨start, rfl, (List.append_nil _).symm⟩
  | cons dp rest ih =>
      intro start
      obtain ⟨next, hnext, hadded⟩ := approvePoint_ok start (hnamed dp List.mem_cons_self)
      obtain ⟨approved, happroved, hall⟩ :=
        ih (fun d hd => hnamed d (List.mem_cons_of_mem dp hd)) next
      refine ⟨approved, ?_, ?_⟩
      · rw [List.foldlM_cons, hnext]
        exact happroved
      · rw [hall, hadded, List.append_assoc]
        rfl

theorem approvePoints_error {distributionPoints : List DistributionPoint}
    (hnamed : ¬ ∀ dp ∈ distributionPoints, dp.Named) :
    ∃ ex, approvePoints distributionPoints = .error ex ∧ ex.cls ≠ .io := by
  suffices h : ∀ start : Approved, ∃ ex,
      distributionPoints.foldlM approvePoint start = .error ex ∧ ex.cls ≠ .io by
    exact h {}
  induction distributionPoints with
  | nil => exact absurd (fun _ h => (by cases h)) hnamed
  | cons dp rest ih =>
      intro start
      rw [List.foldlM_cons]
      by_cases hdp : dp.Named
      · obtain ⟨next, hnext, -⟩ := approvePoint_ok start hdp
        rw [hnext]
        refine ih ?_ next
        intro hrest
        apply hnamed
        intro d hd
        rcases List.mem_cons.mp hd with rfl | hd
        · exact hdp
        · exact hrest d hd
      · obtain ⟨ex, hex, hcls⟩ := approvePoint_error start hdp
        rw [hex]
        exact ⟨ex, rfl, hcls⟩

/-! ## What the search is for -/

/-- A URI with the scheme, at a point without reasons and without a `crlIssuer`. -/
def Source (table : CaseTable) (distributionPoints : List DistributionPoint) (scheme : Scheme)
    (uri : String) : Prop :=
  (∃ dp ∈ distributionPoints, dp.reasons = none ∧ dp.cRLIssuer = none ∧
    ∃ names, dp.distributionPoint = some (.fullName names) ∧
      GeneralName.uniformResourceIdentifier uri ∈ names) ∧
  scheme.accepts table uri = true

/-- `getCRL(uri)` returns a list. -/
def Obtainable (getCRL : Scheme → String → Mutating σ (CRLInfo Crl)) (scheme : Scheme)
    (uri : String) (s : σ) : Prop :=
  ∃ crlInfo t, (getCRL scheme uri).run s = (.ok crlInfo, t)

/-- A cache that notes what it is asked for. -/
def noting (getCRL : Scheme → String → Mutating σ (CRLInfo Crl)) (scheme : Scheme)
    (uri : String) : Mutating (σ × List (Scheme × String)) (CRLInfo Crl) := do
  modify fun s => (s.1, s.2 ++ [(scheme, uri)])
  Mutating.zoom Prod.fst (fun s t => (t, s.2)) (getCRL scheme uri)

/-- The attempts of a search, in their order. -/
def attempts (table : CaseTable) (getCRL : Scheme → String → Mutating σ (CRLInfo Crl))
    (distributionPoints : List DistributionPoint) (s : σ) : List (Scheme × String) :=
  ((getCRLDistPoint table (noting getCRL) distributionPoints).run (s, [])).2.2

/-- **The policy of the search.** A list is returned when some source has one, no LDAP
source is tried when an HTTP source has one, what is returned comes from a source, and
a failure is an `IOException`. -/
structure FallsBack (table : CaseTable) (getCRL : Scheme → String → Mutating σ (CRLInfo Crl))
    (distributionPoints : List DistributionPoint) (s : σ)
    (search : Mutating σ (CRLInfo Crl)) : Prop where
  returns : (∃ scheme uri, Source table distributionPoints scheme uri ∧
      Obtainable getCRL scheme uri s) → ∃ crlInfo t, search.run s = (.ok crlInfo, t)
  http_first : (∃ uri, Source table distributionPoints .http uri ∧
      Obtainable getCRL .http uri s) →
    ∀ uri, (Scheme.ldap, uri) ∉ attempts table getCRL distributionPoints s
  source : ∀ crlInfo t, search.run s = (.ok crlInfo, t) →
    ∃ scheme uri u, Source table distributionPoints scheme uri ∧
      (getCRL scheme uri).run u = (.ok crlInfo, t)
  fails : ∀ ex t, search.run s = (.error ex, t) → ex.cls = .io

/-- The source of a scheme that is tried. -/
def firstSource (table : CaseTable) (distributionPoints : List DistributionPoint)
    (scheme : Scheme) : Option String :=
  (acceptableUris distributionPoints).find? (scheme.accepts table)

theorem source_of_first {table : CaseTable} {distributionPoints : List DistributionPoint}
    {scheme : Scheme} {uri : String}
    (h : firstSource table distributionPoints scheme = some uri) :
    Source table distributionPoints scheme uri :=
  ⟨mem_acceptableUris_iff.mp (List.mem_of_find?_eq_some h), List.find?_some h⟩

/-! ## What the search does -/

/-- The HTTP attempt was not made, or failed. -/
inductive HttpFailed (getCRL : Scheme → String → Mutating σ (CRLInfo Crl))
    (httpUrl : Option String) (s : σ) : σ → List (Scheme × String) → Prop
  | absent : httpUrl = none → HttpFailed getCRL httpUrl s s []
  | failed {uri : String} {ex : Exn} {u : σ} : httpUrl = some uri →
      (getCRL .http uri).run s = (.error ex, u) → HttpFailed getCRL httpUrl s u [(.http, uri)]

/-- How a search ends, with the attempts it made. -/
inductive Searched (getCRL : Scheme → String → Mutating σ (CRLInfo Crl))
    (httpUrl ldapUrl : Option String) (s : σ) :
    Outcome (CRLInfo Crl) × σ → List (Scheme × String) → Prop
  | fromHttp {uri : String} {crlInfo : CRLInfo Crl} {t : σ} : httpUrl = some uri →
      (getCRL .http uri).run s = (.ok crlInfo, t) →
      Searched getCRL httpUrl ldapUrl s (.ok crlInfo, t) [(.http, uri)]
  | fromLdap {u t : σ} {log : List (Scheme × String)} {uri : String} {crlInfo : CRLInfo Crl} :
      HttpFailed getCRL httpUrl s u log → ldapUrl = some uri →
      (getCRL .ldap uri).run u = (.ok crlInfo, t) →
      Searched getCRL httpUrl ldapUrl s (.ok crlInfo, t) (log ++ [(.ldap, uri)])
  | ldapFailed {u t : σ} {log : List (Scheme × String)} {uri : String} {ex ex' : Exn} :
      HttpFailed getCRL httpUrl s u log → ldapUrl = some uri →
      (getCRL .ldap uri).run u = (.error ex, t) → ex'.cls = .io →
      Searched getCRL httpUrl ldapUrl s (.error ex', t) (log ++ [(.ldap, uri)])
  | noLdap {u : σ} {log : List (Scheme × String)} {ex : Exn} :
      HttpFailed getCRL httpUrl s u log → ldapUrl = none → ex.cls = .io →
      Searched getCRL httpUrl ldapUrl s (.error ex, u) log

section Search

variable {table : CaseTable} {getCRL : Scheme → String → Mutating σ (CRLInfo Crl)}
  {distributionPoints : List DistributionPoint} {httpUrl ldapUrl : Option String} {s u : σ}
  {log : List (Scheme × String)}

theorem noting_run (scheme : Scheme) (uri : String) :
    (noting getCRL scheme uri).run (s, log) =
      (((getCRL scheme uri).run s).1, ((getCRL scheme uri).run s).2, log ++ [(scheme, uri)]) := rfl

theorem getLdapCrl_searched (hfailed : HttpFailed getCRL httpUrl s u log) :
    Searched getCRL httpUrl ldapUrl s ((getLdapCrl getCRL ldapUrl).run u)
      ((getLdapCrl (noting getCRL) ldapUrl).run (u, log)).2.2 := by
  cases ldapUrl with
  | none => exact .noLdap hfailed rfl rfl
  | some uri =>
      simp only [getLdapCrl, Mutating.run_catching, noting_run]
      rcases hrun : (getCRL .ldap uri).run u with ⟨ex | crlInfo, t⟩
      · exact .ldapFailed hfailed rfl hrun rfl
      · exact .fromLdap hfailed rfl hrun

theorem getHttpCrl_searched :
    Searched getCRL httpUrl ldapUrl s ((getHttpCrl getCRL httpUrl ldapUrl).run s)
      ((getHttpCrl (noting getCRL) httpUrl ldapUrl).run (s, [])).2.2 := by
  cases httpUrl with
  | none => exact getLdapCrl_searched (.absent rfl)
  | some uri =>
      simp only [getHttpCrl, Mutating.run_catching, noting_run]
      rcases hrun : (getCRL .http uri).run s with ⟨ex | crlInfo, t⟩
      · exact getLdapCrl_searched (.failed rfl hrun)
      · exact .fromHttp rfl hrun

/-- **What the search does** when every point has a name of its own. -/
theorem getCRLDistPoint_searched (hnamed : ∀ dp ∈ distributionPoints, dp.Named) :
    Searched getCRL (firstSource table distributionPoints .http)
      (firstSource table distributionPoints .ldap) s
      ((getCRLDistPoint table getCRL distributionPoints).run s)
      (attempts table getCRL distributionPoints s) := by
  obtain ⟨approved, happroved, huris⟩ := approvePoints_ok hnamed
  unfold attempts getCRLDistPoint firstSource
  rw [← huris]
  simp only [Mutating.run_bind, Mutating.run_call, happroved]
  cases hempty : approved.approvedUriList with
  | nil =>
      -- nothing is tried, whatever the reason that is given
      have hfailed : HttpFailed getCRL none s s [] := .absent rfl
      cases approved.crlIssuerPresent with
      | true => exact .noLdap hfailed rfl rfl
      | false =>
          cases approved.reasonsPresent with
          | true => exact .noLdap hfailed rfl rfl
          | false => exact .noLdap hfailed rfl rfl
  | cons uri rest => exact getHttpCrl_searched

/-- A point without a name ends the search with another exception. -/
theorem getCRLDistPoint_unnamed (hnamed : ¬ ∀ dp ∈ distributionPoints, dp.Named) :
    ∃ ex, (getCRLDistPoint table getCRL distributionPoints).run s = (.error ex, s) ∧
      ex.cls ≠ .io := by
  obtain ⟨ex, hex, hcls⟩ := approvePoints_error hnamed
  refine ⟨ex, ?_, hcls⟩
  simp only [getCRLDistPoint, Mutating.run_bind, Mutating.run_call, hex]

/-! ## When the search follows the policy -/

/-- The cache after the HTTP attempt. -/
def afterHttp (getCRL : Scheme → String → Mutating σ (CRLInfo Crl)) (httpUrl : Option String)
    (s : σ) : σ :=
  match httpUrl with
  | none => s
  | some uri => ((getCRL .http uri).run s).2

/-- The first source of the scheme has a list. -/
def FirstServes (table : CaseTable) (getCRL : Scheme → String → Mutating σ (CRLInfo Crl))
    (distributionPoints : List DistributionPoint) (scheme : Scheme) (s : σ) : Prop :=
  ∃ uri, firstSource table distributionPoints scheme = some uri ∧ Obtainable getCRL scheme uri s

/-- Every point has a name of its own, and when any source has a list, it need not be
looked for behind the first one. -/
structure FirstsSuffice (table : CaseTable) (getCRL : Scheme → String → Mutating σ (CRLInfo Crl))
    (distributionPoints : List DistributionPoint) (s : σ) : Prop where
  named : ∀ dp ∈ distributionPoints, dp.Named
  http : (∃ uri, Source table distributionPoints .http uri ∧ Obtainable getCRL .http uri s) →
    FirstServes table getCRL distributionPoints .http s
  ldap : (∃ uri, Source table distributionPoints .ldap uri ∧ Obtainable getCRL .ldap uri s) →
    FirstServes table getCRL distributionPoints .http s ∨
      FirstServes table getCRL distributionPoints .ldap
        (afterHttp getCRL (firstSource table distributionPoints .http) s)

theorem HttpFailed.after (h : HttpFailed getCRL httpUrl s u log) :
    afterHttp getCRL httpUrl s = u := by
  cases h with
  | absent hnone =>
      rw [hnone]
      rfl
  | failed hsome hrun =>
      rw [hsome, afterHttp, hrun]

theorem HttpFailed.not_serves
    (h : HttpFailed getCRL (firstSource table distributionPoints .http) s u log) :
    ¬ FirstServes table getCRL distributionPoints .http s := by
  rintro ⟨uri, hfirst, crlInfo, t, hrun⟩
  cases h with
  | absent hnone =>
      rw [hnone] at hfirst
      cases hfirst
  | failed hsome hfailed =>
      cases hsome.symm.trans hfirst
      rw [hfailed] at hrun
      cases hrun

/-- A list that is returned is that of the HTTP attempt, or of the LDAP attempt after it. -/
theorem Searched.of_ok {crlInfo : CRLInfo Crl} {t : σ}
    (h : Searched getCRL httpUrl ldapUrl s (.ok crlInfo, t) log) :
    (∃ uri, httpUrl = some uri ∧ (getCRL .http uri).run s = (.ok crlInfo, t)) ∨
      ∃ u tried uri, HttpFailed getCRL httpUrl s u tried ∧ ldapUrl = some uri ∧
        (getCRL .ldap uri).run u = (.ok crlInfo, t) ∧ (Scheme.ldap, uri) ∈ log := by
  cases h with
  | fromHttp hhttp hok => exact .inl ⟨_, hhttp, hok⟩
  | fromLdap hfailed hldap hok => exact .inr ⟨_, _, _, hfailed, hldap, hok, by simp⟩

theorem Searched.of_error {ex : Exn} {t : σ}
    (h : Searched getCRL httpUrl ldapUrl s (.error ex, t) log) : ex.cls = .io := by
  cases h with
  | ldapFailed _ _ _ hcls => exact hcls
  | noLdap _ _ hcls => exact hcls

section FirstSources

variable {result : Outcome (CRLInfo Crl) × σ}

/-- No LDAP source is tried when the first HTTP source serves. -/
theorem Searched.http_only
    (h : Searched getCRL (firstSource table distributionPoints .http) ldapUrl s result log)
    (hfirst : FirstServes table getCRL distributionPoints .http s) :
    ∀ uri, (Scheme.ldap, uri) ∉ log := by
  intro uri
  cases h with
  | fromHttp _ _ => simp
  | fromLdap hfailed _ _ => exact absurd hfirst hfailed.not_serves
  | ldapFailed hfailed _ _ _ => exact absurd hfirst hfailed.not_serves
  | noLdap hfailed _ _ => exact absurd hfirst hfailed.not_serves

/-- A list is returned when the first HTTP source serves, or the first LDAP source after
that attempt. -/
theorem Searched.returns
    (h : Searched getCRL (firstSource table distributionPoints .http)
      (firstSource table distributionPoints .ldap) s result log)
    (hfirst : FirstServes table getCRL distributionPoints .http s ∨
      FirstServes table getCRL distributionPoints .ldap
        (afterHttp getCRL (firstSource table distributionPoints .http) s)) :
    ∃ crlInfo t, result = (.ok crlInfo, t) := by
  cases h with
  | fromHttp _ _ => exact ⟨_, _, rfl⟩
  | fromLdap _ _ _ => exact ⟨_, _, rfl⟩
  | ldapFailed hfailed hldap hrun _ =>
      rcases hfirst with hhttp | ⟨uri, huri, crlInfo, t, hok⟩
      · exact absurd hhttp hfailed.not_serves
      · -- the source that serves is the one that was asked
        rw [hfailed.after] at hok
        cases hldap.symm.trans huri
        rw [hrun] at hok
        cases hok
  | noLdap hfailed hnone _ =>
      rcases hfirst with hhttp | ⟨uri, huri, -⟩
      · exact absurd hhttp hfailed.not_serves
      · rw [hnone] at huri
        cases huri

end FirstSources

theorem firstsSuffice_of_fallsBack
    (h : FallsBack table getCRL distributionPoints s
      (getCRLDistPoint table getCRL distributionPoints)) :
    FirstsSuffice table getCRL distributionPoints s := by
  have hnamed : ∀ dp ∈ distributionPoints, dp.Named := by
    by_contra hunnamed
    obtain ⟨ex, hrun, hcls⟩ := getCRLDistPoint_unnamed hunnamed
    exact hcls (h.fails ex s hrun)
  have hsearched : Searched getCRL (firstSource table distributionPoints .http)
      (firstSource table distributionPoints .ldap) s _ _ := getCRLDistPoint_searched hnamed
  refine ⟨hnamed, ?_, ?_⟩
  · rintro ⟨uri, hsource, hobtainable⟩
    obtain ⟨crlInfo, t, hrun⟩ := h.returns ⟨.http, uri, hsource, hobtainable⟩
    have hquiet := h.http_first ⟨uri, hsource, hobtainable⟩
    rw [hrun] at hsearched
    rcases hsearched.of_ok with ⟨uri', hfirst, hok⟩ | ⟨_, _, uri', -, -, -, htried⟩
    · exact ⟨uri', hfirst, crlInfo, t, hok⟩
    · exact absurd htried (hquiet uri')
  · rintro ⟨uri, hsource, hobtainable⟩
    obtain ⟨crlInfo, t, hrun⟩ := h.returns ⟨.ldap, uri, hsource, hobtainable⟩
    rw [hrun] at hsearched
    rcases hsearched.of_ok with ⟨uri', hfirst, hok⟩ | ⟨u, _, uri', hfailed, hfirst, hok, -⟩
    · exact .inl ⟨uri', hfirst, crlInfo, t, hok⟩
    · rw [hfailed.after]
      exact .inr ⟨uri', hfirst, crlInfo, t, hok⟩

theorem fallsBack_of_firstsSuffice (h : FirstsSuffice table getCRL distributionPoints s) :
    FallsBack table getCRL distributionPoints s
      (getCRLDistPoint table getCRL distributionPoints) := by
  have hsearched : Searched getCRL (firstSource table distributionPoints .http)
      (firstSource table distributionPoints .ldap) s _ _ := getCRLDistPoint_searched h.named
  constructor
  · rintro ⟨scheme, uri, hsource, hobtainable⟩
    cases scheme with
    | http => exact hsearched.returns (.inl (h.http ⟨uri, hsource, hobtainable⟩))
    | ldap => exact hsearched.returns (h.ldap ⟨uri, hsource, hobtainable⟩)
  · intro hhttp
    exact hsearched.http_only (h.http hhttp)
  · intro crlInfo t hrun
    rw [hrun] at hsearched
    rcases hsearched.of_ok with ⟨uri, hfirst, hok⟩ | ⟨u, _, uri, -, hfirst, hok, -⟩
    · exact ⟨.http, uri, s, source_of_first hfirst, hok⟩
    · exact ⟨.ldap, uri, u, source_of_first hfirst, hok⟩
  · intro ex t hrun
    rw [hrun] at hsearched
    exact hsearched.of_error

/-- A search that fails although a source has a list does not follow the policy. -/
theorem not_fallsBack_of_hidden {search : Mutating σ (CRLInfo Crl)} {scheme : Scheme}
    {uri : String} {crlInfo : CRLInfo Crl} {ex : Exn}
    (hsource : Source table distributionPoints scheme uri)
    (hobtained : ((getCRL scheme uri).run s).1 = .ok crlInfo)
    (hfailed : (search.run s).1 = .error ex) :
    ¬ FallsBack table getCRL distributionPoints s search := by
  intro h
  obtain ⟨crlInfo', t, hrun⟩ :=
    h.returns ⟨scheme, uri, hsource, crlInfo, _, Prod.ext hobtained rfl⟩
  rw [hrun] at hfailed
  cases hfailed

end Search

/-- **When the search follows the policy**, over either cache: exactly when every point
has a name of its own, some HTTP source having a list means that the first one has, and
some LDAP source having a list means that the first HTTP source has, or the first LDAP
source after that attempt. -/
theorem getCRLDistPoint_fallsBack_iff (env : CRLCacheImpl.Env Crl)
    (clock : Scheme → ClockReadings) (distributionPoints : List DistributionPoint) :
    (∀ (loader : CRLDataLoader) (s : CRLCacheImpl.State),
        FallsBack env.jvm.toCaseTable (CRLCacheImpl.getCRLFor env clock loader)
            distributionPoints s
            (CRLCacheImpl.getCRLDistPoint env clock loader distributionPoints) ↔
          FirstsSuffice env.jvm.toCaseTable (CRLCacheImpl.getCRLFor env clock loader)
            distributionPoints s) ∧
      ∀ (downloadCrl : String → Outcome (Option Bytes)) (s : InMemoryCRLCache.State),
        FallsBack env.jvm.toCaseTable
            (InMemoryCRLCache.getCRLFor env.toCRLCacheEnv clock downloadCrl) distributionPoints s
            (InMemoryCRLCache.getCRLDistPoint env.toCRLCacheEnv clock downloadCrl
              distributionPoints) ↔
          FirstsSuffice env.jvm.toCaseTable
            (InMemoryCRLCache.getCRLFor env.toCRLCacheEnv clock downloadCrl) distributionPoints s :=
  ⟨fun _ _ => ⟨firstsSuffice_of_fallsBack, fallsBack_of_firstsSuffice⟩,
    fun _ _ => ⟨firstsSuffice_of_fallsBack, fallsBack_of_firstsSuffice⟩⟩

/-! A list at two places, the first of which is down. -/

def mirrored : List DistributionPoint :=
  [{ distributionPoint := some (.fullName
      [.uniformResourceIdentifier "http://crl.example.com/ca.crl"]) },
    { distributionPoint := some (.fullName
      [.other 4, .uniformResourceIdentifier "http://mirror.example.com/ca.crl"]) }]

/-- What the network answers when the first place is down. -/
def mirrorOnly : String → Outcome (Option Bytes) := fun url =>
  if url = "http://mirror.example.com/ca.crl" then .ok (some [0x30, 50])
  else .error ⟨.io, "connect timed out"⟩

theorem mirror_source :
    Source plainJvm.toCaseTable mirrored .http "http://mirror.example.com/ca.crl" := by
  refine ⟨mem_acceptableUris_iff.mp ?_, by decide +kernel⟩
  decide +kernel

/-- The list is at the mirror, from which either cache can get it, and neither does. -/
theorem mirror_is_hidden :
    let env := CRLCacheImpl.demoEnv
    let clock : Scheme → ClockReadings := fun _ => InMemoryCRLCache.readingsAt 30
    ¬ FallsBack env.jvm.toCaseTable (CRLCacheImpl.getCRLFor env clock fun _ => mirrorOnly) mirrored
        CRLCacheImpl.State.initial
        (CRLCacheImpl.getCRLDistPoint env clock (fun _ => mirrorOnly) mirrored) ∧
      ¬ FallsBack env.jvm.toCaseTable
        (InMemoryCRLCache.getCRLFor env.toCRLCacheEnv clock mirrorOnly) mirrored
        InMemoryCRLCache.State.empty
        (InMemoryCRLCache.getCRLDistPoint env.toCRLCacheEnv clock mirrorOnly mirrored) := by
  intro env clock
  constructor
  · have hobtained : ((CRLCacheImpl.getCRLFor env clock (fun _ => mirrorOnly) .http
        "http://mirror.example.com/ca.crl").run CRLCacheImpl.State.initial).1 =
          .ok ⟨"http://mirror.example.com/ca.crl", 50⟩ := by
      decide +kernel
    have hfailed : ((CRLCacheImpl.getCRLDistPoint env clock (fun _ => mirrorOnly) mirrored).run
        CRLCacheImpl.State.initial).1 = .error noCrl := by
      decide +kernel
    exact not_fallsBack_of_hidden mirror_source hobtained hfailed
  · have hobtained : ((InMemoryCRLCache.getCRLFor env.toCRLCacheEnv clock mirrorOnly .http
        "http://mirror.example.com/ca.crl").run InMemoryCRLCache.State.empty).1 =
          .ok ⟨"http://mirror.example.com/ca.crl", 50⟩ := by
      decide +kernel
    have hfailed : ((InMemoryCRLCache.getCRLDistPoint env.toCRLCacheEnv clock mirrorOnly
        mirrored).run InMemoryCRLCache.State.empty).1 = .error noCrl := by
      decide +kernel
    exact not_fallsBack_of_hidden mirror_source hobtained hfailed

end SigVal.Cert
