import SigVal.Cert.CrlProvenance
import SigVal.Cert.DistributionPoints
import SigVal.Cert.Evidence

/-!
# The lifetime of the cache on disk

The data folder of `CRLCacheImpl` outlives the object. The constructor knows nothing but the
files and re-caches what they name, so that starting anew is no different from a re-cache. What
is served for the distribution points of a certificate is therefore in date, and was downloaded
for one of them, however often the cache was started anew in between. This is what a list must
be that counts as evidence for a certificate.
-/

namespace SigVal.Cert

open SigVal.Java
open InMemoryCRLCache (readingsAt)

variable {Crl : Type}

/-! ## Searches -/

/-- What every request of a cache keeps, a search keeps, and what it returns is what one of the
sources returned. -/
theorem Searched.keeps {σ : Type} {getCRL : Scheme → String → Mutating σ (CRLInfo Crl)}
    {httpUrl ldapUrl : Option String} {s : σ} {result : Outcome (CRLInfo Crl) × σ}
    {log : List (Scheme × String)} {I : σ → Prop} {P : String → CRLInfo Crl → σ → Prop}
    (hsearched : Searched getCRL httpUrl ldapUrl s result log)
    (hrequest : ∀ scheme uri s, I s → Mutating.wp (getCRL scheme uri)
      (fun crlInfo t => P uri crlInfo t ∧ I t) (fun _ t => I t) s) (hs : I s) :
    I result.2 ∧ ∀ crlInfo, result.1 = .ok crlInfo →
      ∃ uri, (httpUrl = some uri ∨ ldapUrl = some uri) ∧ P uri crlInfo result.2 := by
  have hfailed : ∀ {u tried}, HttpFailed getCRL httpUrl s u tried → I u := by
    intro u tried h
    cases h with
    | absent _ => exact hs
    | failed _ hrun => exact Mutating.of_run_error (hrequest _ _ _ hs) hrun
  cases hsearched with
  | fromHttp hhttp hrun =>
      obtain ⟨hserved, ht⟩ := Mutating.of_run_ok (hrequest _ _ _ hs) hrun
      refine ⟨ht, fun crlInfo hok => ?_⟩
      cases hok
      exact ⟨_, .inl hhttp, hserved⟩
  | fromLdap hhttp hldap hrun =>
      obtain ⟨hserved, ht⟩ := Mutating.of_run_ok (hrequest _ _ _ (hfailed hhttp)) hrun
      refine ⟨ht, fun crlInfo hok => ?_⟩
      cases hok
      exact ⟨_, .inr hldap, hserved⟩
  | ldapFailed hhttp _ hrun _ =>
      exact ⟨Mutating.of_run_error (hrequest _ _ _ (hfailed hhttp)) hrun, fun _ h => by cases h⟩
  | noLdap hhttp _ _ => exact ⟨hfailed hhttp, fun _ h => by cases h⟩

namespace CRLCacheImpl

/-! ## Starting anew -/

/-- The constructor, for an object that knows nothing yet. -/
def construct (env : Env Crl) (clock : Nat → ClockReadings) (loader : CRLDataLoader) :
    Mutating State Unit := do
  modify (·.setRecords [])
  recache env clock loader

variable {env : Env Crl} {loader : CRLDataLoader} {s : State} {past now : Date}

/-- The constructor does what a re-cache does: both begin with the saved records. -/
theorem construct_run (clock : Nat → ClockReadings) :
    (construct env clock loader).run s = (recache env clock loader).run s := by
  have hreload : (s.setRecords []).reloadCrlCacheData = s.reloadCrlCacheData := by
    unfold State.reloadCrlCacheData
    cases hfile : s.crlCacheFile with
    | none => simp [State.setRecords, State.save, hfile]
    | some records => simp [State.setRecords, hfile]
  unfold construct recache
  simp only [Mutating.run_bind, Mutating.run_modify, hreload]

theorem construct_emptyFolder (clock : Nat → ClockReadings) :
    (construct env clock loader).run State.emptyFolder = (.ok (), State.initial) := by
  rw [construct_run, recache_emptyFolder]

/-- A search keeps the cache in order, and serves for an acceptable URI of the extension. -/
theorem getCRLDistPoint_inOrder (hnames : Function.Injective env.getFileName)
    (h : InOrder env now s) (distributionPoints : List DistributionPoint) :
    Mutating.wp (getCRLDistPoint env (fun _ => readingsAt now) loader distributionPoints)
      (fun crlInfo t => (∃ scheme uri, Source env.jvm.toCaseTable distributionPoints scheme uri ∧
        Served env.toCRLCacheEnv now uri crlInfo t.downloads) ∧ InOrder env now t)
      (fun _ t => InOrder env now t) s := by
  unfold getCRLDistPoint
  by_cases hnamed : ∀ dp ∈ distributionPoints, dp.Named
  · have hsearched : Searched (getCRLFor env (fun _ => readingsAt now) loader)
        (firstSource env.jvm.toCaseTable distributionPoints .http)
        (firstSource env.jvm.toCaseTable distributionPoints .ldap) s
        ((Cert.getCRLDistPoint env.jvm.toCaseTable
          (getCRLFor env (fun _ => readingsAt now) loader) distributionPoints).run s) _ :=
      getCRLDistPoint_searched hnamed
    obtain ⟨hkept, hserved⟩ := hsearched.keeps (I := InOrder env now)
      (P := fun uri crlInfo t => Served env.toCRLCacheEnv now uri crlInfo t.downloads)
      (fun _ uri _ h => getCRL_inOrder hnames h uri) h
    unfold Mutating.wp
    rcases hrun : (Cert.getCRLDistPoint env.jvm.toCaseTable
        (getCRLFor env (fun _ => readingsAt now) loader) distributionPoints).run s with
      ⟨ex | crlInfo, t⟩
    · rw [hrun] at hkept
      exact hkept
    · rw [hrun] at hkept hserved
      refine ⟨?_, hkept⟩
      obtain ⟨uri, hfirst | hfirst, hlist⟩ := hserved crlInfo rfl
      · exact ⟨.http, uri, source_of_first hfirst, hlist⟩
      · exact ⟨.ldap, uri, source_of_first hfirst, hlist⟩
  · obtain ⟨ex, hrun, -⟩ : ∃ ex, (Cert.getCRLDistPoint env.jvm.toCaseTable
        (getCRLFor env (fun _ => readingsAt now) loader) distributionPoints).run s =
          (.error ex, s) ∧ ex.cls ≠ .io := getCRLDistPoint_unnamed hnamed
    exact (Mutating.wp_iff_of_run_error hrun).mpr h

/-! ## Lifetimes -/

/-- The states of a data folder and the cache over it, with the time of the last call. The cache
is started in an empty folder, serves requests for URLs and for extensions, is re-cached, and is
started anew, in any order. -/
inductive Lived (env : Env Crl) : Date → State → Prop
  | constructed {now : Date} (loader : CRLDataLoader) :
      Lived env now ((construct env (fun _ => readingsAt now) loader).run State.emptyFolder).2
  | getCRL {past now : Date} {s : State} (loader : CRLDataLoader) (url : String) :
      Lived env past s → past ≤ now →
        Lived env now ((CRLCacheImpl.getCRL env (readingsAt now) loader url).run s).2
  | getCRLDistPoint {past now : Date} {s : State} (loader : CRLDataLoader)
      (distributionPoints : List DistributionPoint) : Lived env past s → past ≤ now →
        Lived env now ((CRLCacheImpl.getCRLDistPoint env (fun _ => readingsAt now) loader
          distributionPoints).run s).2
  | recache {past now : Date} {s : State} (loader : CRLDataLoader) :
      Lived env past s → past ≤ now →
        Lived env now ((CRLCacheImpl.recache env (fun _ => readingsAt now) loader).run s).2
  | restarted {past now : Date} {s : State} (loader : CRLDataLoader) :
      Lived env past s → past ≤ now →
        Lived env now ((construct env (fun _ => readingsAt now) loader).run s).2

theorem lived_inOrder (hnames : Function.Injective env.getFileName) (hlived : Lived env now s) :
    InOrder env now s := by
  have hrecached : ∀ {past now : Date} {s : State} (loader : CRLDataLoader), InOrder env past s →
      past ≤ now →
        InOrder env now ((recache env (fun _ => readingsAt now) loader).run s).2 := by
    intro past now s loader h hle
    exact Mutating.final_of_wp (Mutating.wp_mono (recache_inOrder (h.later hle)) (fun _ _ h => h)
      fun _ _ h => h.elim)
  induction hlived with
  | constructed loader =>
      rw [construct_emptyFolder]
      exact ⟨Sourced.empty, fun _ h => (by cases h), rfl⟩
  | getCRL loader url _ hle ih =>
      exact Mutating.final_of_wp (Mutating.wp_mono
        (getCRL_inOrder hnames (ih.later hle) url) (fun _ _ h => h.2) fun _ _ h => h)
  | getCRLDistPoint loader distributionPoints _ hle ih =>
      exact Mutating.final_of_wp (Mutating.wp_mono
        (getCRLDistPoint_inOrder hnames (ih.later hle) distributionPoints) (fun _ _ h => h.2)
        fun _ _ h => h)
  | recache loader _ hle ih => exact hrecached loader ih hle
  | restarted loader _ hle ih =>
      rw [construct_run]
      exact hrecached loader ih hle

/-- **Lists for a certificate.** At every point of the life of a data folder the records are
saved, starting the cache anew leaves what a re-cache would, and a list that is served for an
extension is in date and was downloaded, at some time, for a URI that the extension offers. -/
theorem lists_through_lifetime (env : Env Crl) (hnames : Function.Injective env.getFileName)
    {past now : Date} {s : State} (hlived : Lived env past s) (hle : past ≤ now)
    (loader : CRLDataLoader) :
    s.crlCacheFile = some s.crlCacheRecordList ∧
      (∀ clock, (construct env clock loader).run s = (recache env clock loader).run s) ∧
      ∀ (distributionPoints : List DistributionPoint) (crlInfo : CRLInfo Crl) (t : State),
        (getCRLDistPoint env (fun _ => readingsAt now) loader distributionPoints).run s =
            (.ok crlInfo, t) →
          ∃ scheme uri, Source env.jvm.toCaseTable distributionPoints scheme uri ∧
            Served env.toCRLCacheEnv now uri crlInfo t.downloads := by
  have hinOrder := lived_inOrder hnames hlived
  refine ⟨hinOrder.saved, construct_run, ?_⟩
  intro distributionPoints crlInfo t hrun
  exact (Mutating.of_run_ok (getCRLDistPoint_inOrder hnames (hinOrder.later hle)
    distributionPoints) hrun).1

/-! A list is downloaded at time 10 for the first place of an extension, and the cache is started
anew at time 12, where it downloads the list again. -/

def restartedUrl : String := "http://crl.example.com/ca.crl"

def listTo20 : CRLDataLoader := fun _ _ => .ok (some [0x30, 20])

/-- The folder after the cache was started anew. -/
def restartedFolder : State :=
  ((construct demoEnv (fun _ => readingsAt 12) listTo20).run
    ((getCRL demoEnv (readingsAt 10) listTo20 restartedUrl).run
      ((construct demoEnv (fun _ => readingsAt 10) listTo20).run State.emptyFolder).2).2).2

theorem lists_through_lifetime_restarted :
    ∃ scheme uri, Source demoEnv.jvm.toCaseTable mirrored scheme uri ∧
      Served demoEnv.toCRLCacheEnv 15 uri ⟨restartedUrl, 20⟩
        ((getCRLDistPoint demoEnv (fun _ => readingsAt 15) (fun _ _ => .ok none) mirrored).run
          restartedFolder).2.downloads := by
  have hlived : Lived demoEnv 12 restartedFolder :=
    .restarted listTo20 (.getCRL listTo20 restartedUrl (.constructed listTo20) (Int.le_refl 10))
      (by decide)
  have hserved : ((getCRLDistPoint demoEnv (fun _ => readingsAt 15) (fun _ _ => .ok none)
      mirrored).run restartedFolder).1 = .ok ⟨restartedUrl, 20⟩ := by
    decide +kernel
  exact (lists_through_lifetime demoEnv demoFileName_injective hlived
    (show (12 : Int) ≤ 15 by decide) (fun _ _ => .ok none)).2.2 mirrored _ _ (Prod.ext hserved rfl)

end CRLCacheImpl

/-! ## Lists as evidence -/

section FoundLists

variable {Cert : Type}

/-- The lists that status checking finds come from a cache on disk, by the distribution points
of the certificate. -/
structure UsesCache (cacheEnv : CRLCacheImpl.Env Crl)
    (getCrlDistPoint : Cert → Outcome (List DistributionPoint)) (env : StatusEnv Cert Crl) :
    Prop where
  lookup : ∀ certificate crlInfo, env.getCRL certificate = .ok crlInfo →
    ∃ past s loader distributionPoints t, CRLCacheImpl.Lived cacheEnv past s ∧ past ≤ env.now ∧
      getCrlDistPoint certificate = .ok distributionPoints ∧
      (CRLCacheImpl.getCRLDistPoint cacheEnv (fun _ => readingsAt env.now) loader
        distributionPoints).run s = (.ok crlInfo, t)

/-- A list that counts as evidence is in date and comes from where the certificate says. -/
theorem FoundList.provenance {cacheEnv : CRLCacheImpl.Env Crl}
    (hnames : Function.Injective cacheEnv.getFileName)
    {getCrlDistPoint : Cert → Outcome (List DistributionPoint)} {env : StatusEnv Cert Crl}
    (huses : UsesCache cacheEnv getCrlDistPoint env) {certificate issuer : Cert}
    (list : FoundList env certificate issuer) :
    ∃ distributionPoints scheme uri downloads,
      getCrlDistPoint certificate = .ok distributionPoints ∧
      Source cacheEnv.jvm.toCaseTable distributionPoints scheme uri ∧
      Served cacheEnv.toCRLCacheEnv env.now uri list.crlInfo downloads := by
  obtain ⟨past, s, loader, distributionPoints, t, hlived, hle, hpoints, hrun⟩ :=
    huses.lookup certificate list.crlInfo list.found
  have hinOrder := (CRLCacheImpl.lived_inOrder hnames hlived).later hle
  obtain ⟨⟨scheme, uri, hsource, hserved⟩, -⟩ := Mutating.of_run_ok
    (CRLCacheImpl.getCRLDistPoint_inOrder hnames hinOrder distributionPoints) hrun
  exact ⟨distributionPoints, scheme, uri, _, hpoints, hsource, hserved⟩

end FoundLists

end SigVal.Cert
