import SigVal.Cert.CrlCacheImpl

/-!
# Where a served revocation list comes from

A cache serves lists it downloaded at some time for some URL. Whatever the network
answers, and however requests and re-caches follow each other, a list that is served
is in date and was downloaded for the URL it is served for, up to case.

Two things carry this over a run. Each stored list is the content of a download for
the URL its file is named after. And a download that is skipped because the clock
still reads less than the grace period cannot bring up an old list, because nothing
was stored before.
-/

namespace SigVal.Cert

open SigVal.Java
open InMemoryCRLCache (recentlyCached newRecord readingsAt parsed_eq_some_iff)

variable {Crl : Type}

/-- **What a served list must be**: in date, and the content of a download for the
URL. -/
def Served (env : CRLCacheEnv Crl) (now : Date) (url : String) (crlInfo : CRLInfo Crl)
    (downloads : List Download) : Prop :=
  (∃ nextUpdate, env.getNextUpdate crlInfo.crl = some nextUpdate ∧ ¬ nextUpdate < now) ∧
    ∃ download ∈ downloads, env.jvm.equalsIgnoreCase url download.url = true ∧
      ∃ bytes, download.answer = .ok (some bytes) ∧ env.generateCRL bytes = .ok crlInfo.crl

/-! ## What both caches keep -/

/-- Until this time a new record is taken for a recent one. -/
def graceEnd (env : CRLCacheEnv Crl) : Date := toLong (0 + env.recacheGracePeriod)

/-- Each stored list was downloaded for the URL its file is named after, and not
before the grace period was over. -/
structure Sourced (env : CRLCacheEnv Crl) (stored : String → Option Bytes)
    (downloads : List Download) (now : Date) : Prop where
  downloaded : ∀ fileName bytes, stored fileName = some bytes →
    ∃ download ∈ downloads, download.answer = .ok (some bytes) ∧
      env.getFileName download.url = fileName
  past_grace : ∀ fileName bytes, stored fileName = some bytes → graceEnd env ≤ now

/-- A record names the file of its URL, and was not cached before the grace period was
over. -/
structure Filed (env : CRLCacheEnv Crl) (now : Date) (record : CRLCacheRecord) : Prop where
  fileName : record.fileName = env.getFileName record.url
  past_grace : record.lastCache ≠ 0 → graceEnd env ≤ now

section Shared

variable {env : CRLCacheEnv Crl} {stored : String → Option Bytes} {downloads : List Download}
  {past now : Date} {record : CRLCacheRecord}

theorem Sourced.later (h : Sourced env stored downloads past) (hle : past ≤ now)
    (more : List Download) : Sourced env stored (downloads ++ more) now where
  downloaded fileName bytes hstored := by
    obtain ⟨download, hmem, hrest⟩ := h.downloaded fileName bytes hstored
    exact ⟨download, List.mem_append_left _ hmem, hrest⟩
  past_grace fileName bytes hstored := Int.le_trans (h.past_grace fileName bytes hstored) hle

/-- Lists may be deleted. -/
theorem Sourced.of_subset (h : Sourced env stored downloads now) {stored' : String → Option Bytes}
    (hsub : ∀ fileName bytes, stored' fileName = some bytes → stored fileName = some bytes) :
    Sourced env stored' downloads now where
  downloaded fileName bytes hstored := h.downloaded fileName bytes (hsub fileName bytes hstored)
  past_grace fileName bytes hstored := h.past_grace fileName bytes (hsub fileName bytes hstored)

/-- A download may be stored where it belongs. -/
theorem Sourced.store (h : Sourced env stored downloads now) (hgrace : graceEnd env ≤ now)
    {download : Download} {data : Option Bytes} (hmem : download ∈ downloads)
    (hanswer : download.answer = .ok data) :
    Sourced env (Function.update stored (env.getFileName download.url) data) downloads now where
  downloaded fileName bytes hstored := by
    by_cases hname : fileName = env.getFileName download.url
    · subst hname
      rw [Function.update_self] at hstored
      exact ⟨download, hmem, by rw [hanswer, hstored], rfl⟩
    · rw [Function.update_of_ne hname] at hstored
      exact h.downloaded fileName bytes hstored
  past_grace _ _ _ := hgrace

theorem Sourced.empty : Sourced env (fun _ => none) downloads now :=
  ⟨fun _ _ h => (by cases h), fun _ _ h => (by cases h)⟩

theorem Filed.later (h : Filed env past record) (hle : past ≤ now) : Filed env now record :=
  ⟨h.fileName, fun hcached => Int.le_trans (h.past_grace hcached) hle⟩

theorem filed_newRecord (url : String) : Filed env now (newRecord env url) :=
  ⟨rfl, fun h => absurd rfl h⟩

/-- A record that is not taken for a recent one shows that the grace period is over. -/
theorem Filed.graceEnd_le (h : Filed env now record)
    (hrecent : recentlyCached env (readingsAt now) record = false) : graceEnd env ≤ now := by
  by_cases hcached : record.lastCache = 0
  · simp only [recentlyCached, hcached, decide_eq_false_iff_not] at hrecent
    exact Int.not_lt.mp hrecent
  · exact h.past_grace hcached

theorem Filed.recached (h : Filed env now record) (hgrace : graceEnd env ≤ now)
    (nextUpdate : Int) :
    Filed env now { record with nextUpdate := nextUpdate, lastCache := now } :=
  ⟨h.fileName, fun _ => hgrace⟩

/-- A new record taken for a recent one: nothing can have been stored. -/
theorem Sourced.stored_none (h : Sourced env stored downloads now) {url : String}
    (hrecent : recentlyCached env (readingsAt now) (newRecord env url) = true)
    (fileName : String) : stored fileName = none := by
  cases hstored : stored fileName with
  | none => rfl
  | some bytes =>
      have hgrace : graceEnd env ≤ now := h.past_grace fileName bytes hstored
      have hbefore : now < graceEnd env := of_decide_eq_true hrecent
      exact absurd hgrace (Int.not_le.mpr hbefore)

/-- A list found through a record was downloaded for the URL. -/
theorem Sourced.served (h : Sourced env stored downloads now)
    (hnames : Function.Injective env.getFileName) (hfiled : Filed env now record)
    {url location : String} (hurl : env.jvm.equalsIgnoreCase url record.url = true)
    {bytes : Bytes} (hstored : stored record.fileName = some bytes) {crl : Crl}
    (hgenerate : env.generateCRL bytes = .ok crl) {nextUpdate : Date}
    (hnext : env.getNextUpdate crl = some nextUpdate) (hdate : ¬ nextUpdate < now) :
    Served env now url ⟨location, crl⟩ downloads := by
  refine ⟨⟨nextUpdate, hnext, hdate⟩, ?_⟩
  obtain ⟨download, hmem, hanswer, hname⟩ := h.downloaded _ _ hstored
  have hsame : download.url = record.url := hnames (hname.trans hfiled.fileName)
  exact ⟨download, hmem, by rw [hsame]; exact hurl, bytes, hanswer, hgenerate⟩

end Shared

/-! ## The cache on disk -/

namespace CRLCacheImpl

/-- What every call keeps: the lists and the records are in order, and the records are
saved. -/
structure InOrder (env : Env Crl) (now : Date) (s : State) : Prop where
  sourced : Sourced env.toCRLCacheEnv s.cacheDir s.downloads now
  filed : ∀ record ∈ s.crlCacheRecordList, Filed env.toCRLCacheEnv now record
  saved : s.crlCacheFile = some s.crlCacheRecordList

section Steps

variable {env : Env Crl} {loader : CRLDataLoader} {s : State} {past now : Date}
  {record : CRLCacheRecord}

theorem InOrder.later (h : InOrder env past s) (hle : past ≤ now) : InOrder env now s where
  sourced := by simpa using h.sourced.later hle []
  filed record hmem := (h.filed record hmem).later hle
  saved := h.saved

theorem readCrl_ok_iff {dir : String → Option Bytes} {fileName : String} {crl : Crl} :
    readCrl env dir fileName = .ok crl ↔
      ∃ bytes, dir fileName = some bytes ∧ env.generateCRL bytes = .ok crl := by
  unfold readCrl
  cases dir fileName with
  | none => simp
  | some bytes =>
      cases hgenerate : env.generateCRL bytes with
      | error text => simp [hgenerate]
      | ok crl' => simp [hgenerate]

theorem getCachedCrl_ok_iff {fileName : String} {crl : Crl} :
    getCachedCrl env s fileName = .ok crl ↔
      ∃ bytes, s.cacheDir fileName = some bytes ∧ env.generateCRL bytes = .ok crl := by
  rw [← readCrl_ok_iff]
  unfold getCachedCrl
  cases readCrl env s.cacheDir fileName <;> simp

/-- What caching a record does to the lists, and that it leaves the rest alone. -/
theorem cacheCrlRecord_sourced (hfiled : Filed env.toCRLCacheEnv now record)
    (hsourced : Sourced env.toCRLCacheEnv s.cacheDir s.downloads now) :
    Mutating.wp (cacheCrlRecord env (readingsAt now) loader record)
      (fun cached t => Filed env.toCRLCacheEnv now cached ∧
        Sourced env.toCRLCacheEnv t.cacheDir t.downloads now ∧
        t.crlCacheRecordList = s.crlCacheRecordList ∧ t.crlCacheFile = s.crlCacheFile)
      (fun _ t => Sourced env.toCRLCacheEnv t.cacheDir t.downloads now ∧
        t.crlCacheRecordList = s.crlCacheRecordList ∧ t.crlCacheFile = s.crlCacheFile) s := by
  unfold Mutating.wp
  cases hrecent : recentlyCached env.toCRLCacheEnv (readingsAt now) record with
  | true =>
      rw [cacheCrlRecord_recent hrecent]
      exact ⟨hfiled, hsourced, rfl, rfl⟩
  | false =>
      have hgrace := hfiled.graceEnd_le hrecent
      by_cases haccepted : Accepted env (readingsAt now) (loader s.downloads record.url)
      · obtain ⟨download, hanswer, crl, nextUpdate, hparsed, hdate⟩ := haccepted
        obtain ⟨bytes, rfl, -, -⟩ := parsed_eq_some_iff.mp hparsed
        rw [cacheCrlRecord_accepted hrecent hanswer hparsed hdate]
        refine ⟨hfiled.recached hgrace nextUpdate, ?_, rfl, rfl⟩
        have hstore :=
          (hsourced.later (Int.le_refl now) [⟨record.url, .ok (some bytes)⟩]).store hgrace
          (List.mem_append_right _ (List.mem_singleton_self _)) rfl
        simpa [State.stored, State.copyFile, State.writeTemp, State.logDownload,
          hfiled.fileName] using hstore
      · obtain ⟨ex, tempDir, hrejected⟩ := cacheCrlRecord_rejected hrecent haccepted
        rw [hrejected]
        exact ⟨hsourced.later (Int.le_refl now) _, rfl, rfl⟩

/-- What the lookup serves is in order. -/
theorem findCached_served (hnames : Function.Injective env.getFileName) (h : InOrder env now s)
    {url : String} {crlInfo : CRLInfo Crl}
    (hcached : findCached env (readingsAt now) s url = .ok (some crlInfo)) :
    Served env.toCRLCacheEnv now url crlInfo s.downloads := by
  cases hrecord : findRecord env s url with
  | none => simp [findCached, hrecord] at hcached
  | some record =>
      have hmem : record ∈ s.crlCacheRecordList := List.mem_of_find?_eq_some hrecord
      have hurl : env.jvm.equalsIgnoreCase url record.url = true := by
        unfold findRecord at hrecord
        simpa using List.find?_some hrecord
      simp only [findCached, hrecord] at hcached
      obtain ⟨crl, hcrl, hcached⟩ := bind_ok_iff.mp hcached
      obtain ⟨nextUpdate, hnext, hcached⟩ := bind_ok_iff.mp hcached
      obtain ⟨bytes, hstored, hgenerate⟩ := getCachedCrl_ok_iff.mp hcrl
      split at hcached
      · rename_i hdate
        cases hcached
        exact h.sourced.served hnames (h.filed record hmem) hurl hstored hgenerate
          (deref_ok_iff.mp hnext) (Int.not_lt.mpr (Int.le_of_lt hdate))
      · cases hcached

theorem InOrder.addRecord {t : State} (h : InOrder env now s)
    (hfiled : Filed env.toCRLCacheEnv now record)
    (hsourced : Sourced env.toCRLCacheEnv t.cacheDir t.downloads now)
    (hrecords : t.crlCacheRecordList = s.crlCacheRecordList) :
    InOrder env now (t.addRecord record).save where
  sourced := hsourced
  filed r hr := by
    have hr' : r ∈ t.crlCacheRecordList ++ [record] := hr
    rw [hrecords] at hr'
    rcases List.mem_append.mp hr' with hold | hnew
    · exact h.filed r hold
    · rw [List.mem_singleton.mp hnew]
      exact hfiled
  saved := rfl

/-- The download path. A skipped download finds nothing stored, and so serves nothing. -/
theorem cacheAndGet_inOrder (hnames : Function.Injective env.getFileName)
    (h : InOrder env now s) (url : String) :
    Mutating.wp (cacheAndGet env (readingsAt now) loader url)
      (fun crlInfo t => Served env.toCRLCacheEnv now url crlInfo t.downloads ∧ InOrder env now t)
      (fun _ t => InOrder env now t) s := by
  have hfiled : Filed env.toCRLCacheEnv now (newRecord env.toCRLCacheEnv url) :=
    filed_newRecord url
  have hsteps : Mutating.wp (cacheCrlRecord env (readingsAt now) loader
      (newRecord env.toCRLCacheEnv url)) _ _ s := cacheCrlRecord_sourced hfiled h.sourced
  unfold cacheAndGet
  rw [Mutating.wp_bind]
  unfold Mutating.wp at hsteps ⊢
  cases hrecent : recentlyCached env.toCRLCacheEnv (readingsAt now)
      (newRecord env.toCRLCacheEnv url) with
  | true =>
      rw [cacheCrlRecord_recent hrecent]
      have hadded := h.addRecord hfiled h.sourced rfl
      have hempty := h.sourced.stored_none hrecent (env.getFileName url)
      have hread : getCachedCrl env (s.addRecord (newRecord env.toCRLCacheEnv url)).save
          (newRecord env.toCRLCacheEnv url).fileName =
            .error ⟨.io, env.fileNotFound (env.getFileName url)⟩ := by
        simp only [getCachedCrl, readCrl, State.save, State.addRecord, newRecord, hempty]
      simp only [Mutating.run_bind, Mutating.run_modify, Mutating.run_get, Mutating.run_call, hread]
      exact hadded
  | false =>
      by_cases haccepted : Accepted env (readingsAt now) (loader s.downloads url)
      · obtain ⟨download, hanswer, crl, nextUpdate, hparsed, hdate⟩ := haccepted
        obtain ⟨bytes, rfl, hgenerate, hnext⟩ := parsed_eq_some_iff.mp hparsed
        rw [cacheCrlRecord_accepted hrecent hanswer hparsed hdate] at hsteps ⊢
        obtain ⟨hcached, hsourced, hrecords, -⟩ := hsteps
        have hadded := h.addRecord hcached hsourced hrecords
        have hfile : (s.stored (newRecord env.toCRLCacheEnv url).fileName
            ⟨(newRecord env.toCRLCacheEnv url).url, .ok (some bytes)⟩ bytes).cacheDir
              (newRecord env.toCRLCacheEnv url).fileName = some bytes := by
          simp [State.stored, State.copyFile, State.writeTemp]
        have hread : ∀ r, getCachedCrl env ((s.stored (newRecord env.toCRLCacheEnv url).fileName
            ⟨(newRecord env.toCRLCacheEnv url).url, .ok (some bytes)⟩ bytes).addRecord r).save
              (newRecord env.toCRLCacheEnv url).fileName = .ok crl :=
          fun r => getCachedCrl_ok_iff.mpr ⟨bytes, hfile, hgenerate⟩
        simp only [Mutating.run_bind, Mutating.run_modify, Mutating.run_get, Mutating.run_call,
          hread, Mutating.run_pure]
        refine ⟨?_, hadded⟩
        exact hsourced.served hnames hfiled (env.jvm.equalsIgnoreCase_self url) hfile hgenerate
          hnext hdate
      · obtain ⟨ex, tempDir, hrejected⟩ := cacheCrlRecord_rejected hrecent haccepted
        rw [hrejected] at hsteps ⊢
        obtain ⟨hsourced, hrecords, hfile⟩ := hsteps
        exact ⟨hsourced, fun r hr => h.filed r (hrecords ▸ hr), by
          rw [hfile, h.saved, hrecords]⟩

theorem getCRL_inOrder (hnames : Function.Injective env.getFileName) (h : InOrder env now s)
    (url : String) :
    Mutating.wp (getCRL env (readingsAt now) loader url)
      (fun crlInfo t => Served env.toCRLCacheEnv now url crlInfo t.downloads ∧ InOrder env now t)
      (fun _ t => InOrder env now t) s := by
  cases huri : env.isURI url with
  | false =>
      simp only [getCRL, huri, Bool.not_false, if_true, Mutating.wp_throw]
      exact h
  | true =>
      simp only [getCRL, huri, Bool.not_true, Bool.false_eq_true, if_false, Mutating.wp_bind,
        Mutating.wp_get]
      rw [Mutating.wp_call]
      refine ⟨?_, fun _ _ => h⟩
      intro found hcached
      cases found with
      | some crlInfo => exact ⟨findCached_served hnames h hcached, h⟩
      | none =>
          show Mutating.wp (Mutating.catching _ _) _ _ s
          rw [Mutating.wp_catching]
          exact cacheAndGet_inOrder hnames h url

theorem State.settle_downloads (results : List (CRLCacheRecord × Bool)) :
    (s.settle results).downloads = s.downloads := by
  unfold State.settle
  dsimp only
  split
  · rfl
  · rfl

/-- The end of a re-cache only deletes lists. -/
theorem State.settle_cacheDir {results : List (CRLCacheRecord × Bool)} {fileName : String}
    {bytes : Bytes} (hstored : (s.settle results).cacheDir fileName = some bytes) :
    s.cacheDir fileName = some bytes := by
  unfold State.settle at hstored
  dsimp only at hstored
  split at hstored
  · exact hstored
  · simp only [State.save, State.removeBad] at hstored
    split at hstored
    · cases hstored
    · exact hstored

theorem recache_inOrder (h : InOrder env now s) :
    Mutating.wp (recache env (fun _ => readingsAt now) loader) (fun _ t => InOrder env now t)
      (fun _ _ => False) s := by
  have hreload : s.reloadCrlCacheData = s := by
    unfold State.reloadCrlCacheData
    rw [h.saved]
    rfl
  unfold recache
  rw [Mutating.wp_bind, Mutating.wp_modify, hreload, Mutating.wp_bind, Mutating.wp_get,
    Mutating.wp_bind]
  refine Mutating.wp_mono (Mutating.wp_mapM (R := fun _ r => Filed env.toCRLCacheEnv now r.1)
    (I := fun t => Sourced env.toCRLCacheEnv t.cacheDir t.downloads now) ?_ h.sourced) ?_
    (fun _ _ h => h)
  · rintro ⟨record, i⟩ he t hsourced
    have hrecord := h.filed record (List.fst_mem_of_mem_zipIdx he)
    unfold recacheRecord
    rw [Mutating.wp_catching, Mutating.wp_bind]
    refine Mutating.wp_mono (cacheCrlRecord_sourced hrecord hsourced) ?_ ?_
    · rintro cached u ⟨hcached, hsourced', -, -⟩
      exact ⟨hcached, hsourced'⟩
    · rintro ex u ⟨hsourced', -, -⟩
      exact ⟨hrecord, hsourced'⟩
  · rintro results t ⟨hfiled, hsourced⟩
    refine ⟨?_, ?_, rfl⟩
    · show Sourced _ (t.settle results).cacheDir (t.settle results).downloads now
      rw [State.settle_downloads]
      exact hsourced.of_subset fun _ _ => State.settle_cacheDir
    · intro record hmem
      have hturn := (State.settle_records results).subset hmem
      obtain ⟨result, hresult, rfl⟩ := List.mem_map.mp hturn
      obtain ⟨e, -, he⟩ := forall₂_left hfiled.flip result hresult
      exact he

end Steps

end CRLCacheImpl

/-! ## The cache in memory -/

namespace InMemoryCRLCache

/-- `crlCacheMap.remove` and `crlDataMap.remove` for each of the records. -/
def State.evictAll (s : State) (records : List CRLCacheRecord) : State :=
  records.foldl (fun s record => s.evict record.url record.fileName) s

/-- One record of a re-cache, with the record when it could not be cached. -/
def recacheRecord (env : CRLCacheEnv Crl) (clock : ClockReadings)
    (downloadCrl : String → Outcome (Option Bytes)) (crlCacheRecord : CRLCacheRecord) :
    Mutating State (Option CRLCacheRecord) :=
  Mutating.catching
    (do
      let cached ← cacheCrlRecord env clock downloadCrl crlCacheRecord
      modify (·.putRecord cached)
      return none)
    fun _ => return some crlCacheRecord

/-- The records in the order they are visited. -/
def recordsInOrder (env : CRLCacheEnv Crl) (s : State) : List CRLCacheRecord :=
  (env.jvm.entriesInOrder s.crlCacheMap).map Prod.snd

/-- `recache()`. A record that is removed during the visit makes the stream throw at
its end (`ConcurrentModificationException`), and then nothing else is removed. -/
def recache (env : CRLCacheEnv Crl) (clock : Nat → ClockReadings)
    (downloadCrl : String → Outcome (Option Bytes)) : Mutating State Unit :=
  Mutating.catching
    (do
      let s ← get
      let badUrlList ← (recordsInOrder env s).zipIdx.mapM fun e =>
        recacheRecord env (clock e.2) downloadCrl e.1
      let t ← get
      if t.crlCacheMap.length ≠ s.crlCacheMap.length then throw ⟨.runtime, "null"⟩
      else modify (·.evictAll (badUrlList.filterMap id)))
    fun _ => pure ()

/-- The constructor re-caches an empty cache. -/
theorem recache_empty (env : CRLCacheEnv Crl) (clock : Nat → ClockReadings)
    (downloadCrl : String → Outcome (Option Bytes)) :
    (recache env clock downloadCrl).run State.empty = (.ok (), State.empty) := by
  have hnone : recordsInOrder env State.empty = [] := by
    have hkeys : env.jvm.keySetOrder [] = [] := (env.jvm.keySetOrder_perm []).eq_nil
    simp [recordsInOrder, Jvm.entriesInOrder, State.empty, hkeys]
  simp [recache, Mutating.run_catching, Mutating.run_bind, hnone, State.evictAll]

/-! The downloads a call makes: a record is asked for when it is not a recent one. -/

def downloadsFor (env : CRLCacheEnv Crl) (clock : ClockReadings)
    (downloadCrl : String → Outcome (Option Bytes)) (record : CRLCacheRecord) : List Download :=
  if recentlyCached env clock record then [] else [⟨record.url, downloadCrl record.url⟩]

def getCRLDownloads (env : CRLCacheEnv Crl) (clock : ClockReadings)
    (downloadCrl : String → Outcome (Option Bytes)) (s : State) (url : String) : List Download :=
  match env.isURI url, findCached env clock s url with
  | true, .ok none => downloadsFor env clock downloadCrl (newRecord env url)
  | _, _ => []

def recacheDownloads (env : CRLCacheEnv Crl) (clock : Nat → ClockReadings)
    (downloadCrl : String → Outcome (Option Bytes)) (s : State) : List Download :=
  (recordsInOrder env s).zipIdx.flatMap fun e => downloadsFor env (clock e.2) downloadCrl e.1

/-- What every call keeps. -/
structure InOrder (env : CRLCacheEnv Crl) (now : Date) (downloads : List Download) (s : State) :
    Prop where
  sourced : Sourced env s.crlDataMap downloads now
  filed : ∀ e ∈ s.crlCacheMap, Filed env now e.2

section Steps

variable {env : CRLCacheEnv Crl} {downloadCrl : String → Outcome (Option Bytes)} {s : State}
  {past now : Date} {record : CRLCacheRecord} {downloads : List Download}

theorem InOrder.later (h : InOrder env past downloads s) (hle : past ≤ now)
    (more : List Download) : InOrder env now (downloads ++ more) s where
  sourced := h.sourced.later hle more
  filed e he := (h.filed e he).later hle

theorem InOrder.putRecord (h : InOrder env now downloads s) (hfiled : Filed env now record) :
    InOrder env now downloads (s.putRecord record) where
  sourced := h.sourced
  filed e he := by
    rcases mem_putEntry he with rfl | hold
    · exact hfiled
    · exact h.filed e hold

theorem InOrder.evict (h : InOrder env now downloads s) (url fileName : String) :
    InOrder env now downloads (s.evict url fileName) where
  sourced := by
    apply h.sourced.of_subset
    intro name bytes hstored
    by_cases hname : name = fileName
    · subst hname
      simp [State.evict] at hstored
    · simpa [State.evict, Function.update_of_ne hname] using hstored
  filed e he := h.filed e (List.mem_of_mem_filter he)

theorem InOrder.evictAll (records : List CRLCacheRecord) :
    ∀ {s : State}, InOrder env now downloads s →
      InOrder env now downloads (s.evictAll records) := by
  induction records with
  | nil => exact fun h => h
  | cons record rest ih => exact fun h => ih (h.evict _ _)

/-- Storing what was downloaded for a record. -/
theorem InOrder.putData (h : InOrder env now downloads s) (hfiled : Filed env now record)
    (hgrace : graceEnd env ≤ now) {data : Option Bytes}
    (hmem : (⟨record.url, .ok data⟩ : Download) ∈ downloads) :
    InOrder env now downloads (s.putData record.fileName data) where
  sourced := by
    have hstore := h.sourced.store hgrace hmem rfl
    rw [← hfiled.fileName] at hstore
    exact hstore
  filed := h.filed

theorem getCachedCrl_ok_iff {fileName : String} {crl : Crl} :
    getCachedCrl env s fileName = .ok crl ↔
      ∃ bytes, s.crlDataMap fileName = some bytes ∧ env.generateCRL bytes = .ok crl := by
  unfold getCachedCrl
  cases s.crlDataMap fileName with
  | none => simp
  | some bytes =>
      cases hgenerate : env.generateCRL bytes with
      | error text => simp [hgenerate]
      | ok crl' => simp [hgenerate]

/-- What caching a record keeps, when the downloads count its own. -/
theorem cacheCrlRecord_inOrder (hfiled : Filed env now record) (h : InOrder env now downloads s)
    (hmade : ∀ d ∈ downloadsFor env (readingsAt now) downloadCrl record, d ∈ downloads) :
    Mutating.wp (cacheCrlRecord env (readingsAt now) downloadCrl record)
      (fun cached t => Filed env now cached ∧ InOrder env now downloads t)
      (fun _ t => InOrder env now downloads t) s := by
  cases hrecent : recentlyCached env (readingsAt now) record with
  | true =>
      simp only [cacheCrlRecord, hrecent, if_true, Mutating.wp_pure]
      exact ⟨hfiled, h⟩
  | false =>
      have hgrace := hfiled.graceEnd_le hrecent
      have hlogged : (⟨record.url, downloadCrl record.url⟩ : Download) ∈ downloads :=
        hmade _ (by simp [downloadsFor, hrecent])
      cases hanswer : downloadCrl record.url with
      | error ex =>
          simp only [cacheCrlRecord, hrecent, Bool.false_eq_true, if_false, Mutating.wp_bind,
            hanswer]
          exact h
      | ok data =>
          rw [hanswer] at hlogged
          have hput := h.putData hfiled hgrace hlogged
          unfold Mutating.wp
          cases hparsed : parsed env data with
          | none =>
              obtain ⟨ex, hrun⟩ := cacheCrlRecord_unreadable (s := s) hrecent hanswer hparsed
              rw [hrun]
              exact hput
          | some p =>
              obtain ⟨crl, nextUpdate⟩ := p
              by_cases hdate : nextUpdate < (readingsAt now).downloaded
              · obtain ⟨ex, hrun⟩ := cacheCrlRecord_expired (s := s) hrecent hanswer hparsed hdate
                rw [hrun]
                exact hput.evict _ _
              · rw [cacheCrlRecord_usable (s := s) hrecent hanswer hparsed hdate]
                exact ⟨hfiled.recached hgrace nextUpdate, hput⟩

/-- Caching a record ends well when it is a recent one, or the download is a list in
date. -/
theorem cacheCrlRecord_ok {cached : CRLCacheRecord} {t : State}
    (hrun : (cacheCrlRecord env (readingsAt now) downloadCrl record).run s = (.ok cached, t)) :
    recentlyCached env (readingsAt now) record = true ∧ cached = record ∧ t = s ∨
      ∃ bytes crl nextUpdate, env.generateCRL bytes = .ok crl ∧
        env.getNextUpdate crl = some nextUpdate ∧ ¬ nextUpdate < now ∧
        cached = { record with nextUpdate := nextUpdate, lastCache := now } ∧
        t = s.putData record.fileName (some bytes) := by
  cases hrecent : recentlyCached env (readingsAt now) record with
  | true =>
      simp only [cacheCrlRecord, hrecent, if_true, Mutating.run_pure] at hrun
      cases hrun
      exact .inl ⟨rfl, rfl, rfl⟩
  | false =>
      right
      cases hanswer : downloadCrl record.url with
      | error ex =>
          simp [cacheCrlRecord, hrecent, Mutating.run_bind, hanswer] at hrun
          cases hrun
      | ok data =>
          cases hparsed : parsed env data with
          | none =>
              obtain ⟨ex, hfail⟩ := cacheCrlRecord_unreadable (s := s) hrecent hanswer hparsed
              rw [hfail] at hrun
              cases hrun
          | some p =>
              obtain ⟨crl, nextUpdate⟩ := p
              by_cases hdate : nextUpdate < (readingsAt now).downloaded
              · obtain ⟨ex, hfail⟩ := cacheCrlRecord_expired (s := s) hrecent hanswer hparsed hdate
                rw [hfail] at hrun
                cases hrun
              · rw [cacheCrlRecord_usable (s := s) hrecent hanswer hparsed hdate] at hrun
                cases hrun
                obtain ⟨bytes, rfl, hgenerate, hnext⟩ := parsed_eq_some_iff.mp hparsed
                exact ⟨bytes, crl, nextUpdate, hgenerate, hnext, hdate, rfl, rfl⟩

/-- What the lookup serves is in order. -/
theorem findCached_served (hnames : Function.Injective env.getFileName)
    (h : InOrder env now downloads s) {url : String} {crlInfo : CRLInfo Crl}
    (hcached : findCached env (readingsAt now) s url = .ok (some crlInfo)) :
    Served env now url crlInfo downloads := by
  cases hrecord : findRecord env s url with
  | none => simp [findCached, hrecord] at hcached
  | some record =>
      have hmem := List.mem_of_find?_eq_some hrecord
      obtain ⟨e, he, rfl⟩ := List.mem_map.mp hmem
      have hentry : e ∈ s.crlCacheMap := mem_of_lookup ((env.jvm.mem_entriesInOrder).mp he)
      have hurl : env.jvm.equalsIgnoreCase url e.2.url = true := by
        unfold findRecord at hrecord
        simpa using List.find?_some hrecord
      simp only [findCached, hrecord] at hcached
      obtain ⟨crl, hcrl, hcached⟩ := bind_ok_iff.mp hcached
      obtain ⟨nextUpdate, hnext, hcached⟩ := bind_ok_iff.mp hcached
      obtain ⟨bytes, hstored, hgenerate⟩ := getCachedCrl_ok_iff.mp hcrl
      split at hcached
      · rename_i hdate
        cases hcached
        exact h.sourced.served hnames (h.filed e hentry) hurl hstored hgenerate
          (deref_ok_iff.mp hnext) (Int.not_lt.mpr (Int.le_of_lt hdate))
      · cases hcached

/-- The download path. -/
theorem cacheAndGet_inOrder (hnames : Function.Injective env.getFileName)
    (h : InOrder env now downloads s) {url : String}
    (hmade : ∀ d ∈ downloadsFor env (readingsAt now) downloadCrl (newRecord env url),
      d ∈ downloads) :
    Mutating.wp (cacheAndGet env (readingsAt now) downloadCrl url)
      (fun crlInfo t => Served env now url crlInfo downloads ∧ InOrder env now downloads t)
      (fun _ t => InOrder env now downloads t) s := by
  have hfiled : Filed env now (newRecord env url) := filed_newRecord url
  have hsteps := cacheCrlRecord_inOrder hfiled h hmade
  unfold cacheAndGet
  rw [Mutating.wp_bind]
  unfold Mutating.wp at hsteps ⊢
  rcases hrun : (cacheCrlRecord env (readingsAt now) downloadCrl (newRecord env url)).run s
    with ⟨ex | cached, t⟩
  · rw [hrun] at hsteps
    exact hsteps
  · rw [hrun] at hsteps
    obtain ⟨hcached, hkept⟩ := hsteps
    have hput := hkept.putRecord hcached
    simp only [Mutating.run_bind, Mutating.run_modify, Mutating.run_get, Mutating.run_call]
    cases hread : getCachedCrl env (t.putRecord cached) cached.fileName with
    | error ex => exact hput
    | ok crl =>
        refine ⟨?_, hput⟩
        obtain ⟨bytes, hstored, hgenerate⟩ := getCachedCrl_ok_iff.mp hread
        rcases cacheCrlRecord_ok hrun with
          ⟨hrecent, rfl, rfl⟩ | ⟨bytes', crl', nextUpdate, hgenerate', hnext, hdate, rfl, rfl⟩
        · -- a skipped download finds nothing stored
          have hnone := h.sourced.stored_none hrecent (newRecord env url).fileName
          exact absurd (hstored.symm.trans hnone) (by simp)
        · have hsame : some bytes' = some bytes := by
            rw [← hstored]
            exact (State.putData_same _ _).symm
          cases hsame
          rw [hgenerate'] at hgenerate
          cases hgenerate
          exact hkept.sourced.served hnames hfiled (env.jvm.equalsIgnoreCase_self url) hstored
            hgenerate' hnext hdate

theorem getCRL_inOrder (hnames : Function.Injective env.getFileName)
    (h : InOrder env now downloads s) {url : String}
    (hmade : ∀ d ∈ getCRLDownloads env (readingsAt now) downloadCrl s url, d ∈ downloads) :
    Mutating.wp (getCRL env (readingsAt now) downloadCrl url)
      (fun crlInfo t => Served env now url crlInfo downloads ∧ InOrder env now downloads t)
      (fun _ t => InOrder env now downloads t) s := by
  cases huri : env.isURI url with
  | false =>
      simp only [getCRL, huri, Bool.not_false, if_true, Mutating.wp_throw]
      exact h
  | true =>
      simp only [getCRL, huri, Bool.not_true, Bool.false_eq_true, if_false, Mutating.wp_bind,
        Mutating.wp_get]
      rw [Mutating.wp_call]
      refine ⟨?_, fun _ _ => h⟩
      intro found hcached
      cases found with
      | some crlInfo => exact ⟨findCached_served hnames h hcached, h⟩
      | none =>
          simp only [getCRLDownloads, huri, hcached] at hmade
          show Mutating.wp (Mutating.catching _ _) _ _ s
          rw [Mutating.wp_catching]
          exact cacheAndGet_inOrder hnames h hmade

theorem recache_inOrder (h : InOrder env now downloads s)
    (hmade : ∀ d ∈ recacheDownloads env (fun _ => readingsAt now) downloadCrl s,
      d ∈ downloads) :
    Mutating.wp (recache env (fun _ => readingsAt now) downloadCrl)
      (fun _ t => InOrder env now downloads t) (fun _ _ => False) s := by
  unfold recache
  rw [Mutating.wp_catching, Mutating.wp_bind, Mutating.wp_get, Mutating.wp_bind]
  refine Mutating.wp_mono (Mutating.wp_mapM (R := fun _ _ => True)
    (I := InOrder env now downloads) ?_ h) ?_ (fun _ _ h => h)
  · rintro ⟨record, i⟩ he t hkept
    have hvisited : record ∈ recordsInOrder env s := List.fst_mem_of_mem_zipIdx he
    obtain ⟨e, hentry, rfl⟩ := List.mem_map.mp hvisited
    have hfiled := h.filed e (mem_of_lookup ((env.jvm.mem_entriesInOrder).mp hentry))
    have hmade' : ∀ d ∈ downloadsFor env (readingsAt now) downloadCrl e.2, d ∈ downloads :=
      fun d hd => hmade d (List.mem_flatMap.mpr ⟨(e.2, i), he, hd⟩)
    unfold recacheRecord
    rw [Mutating.wp_catching, Mutating.wp_bind]
    refine Mutating.wp_mono (cacheCrlRecord_inOrder hfiled hkept hmade') ?_ ?_
    · rintro cached u ⟨hcached, hkept'⟩
      exact ⟨trivial, hkept'.putRecord hcached⟩
    · intro ex u hkept'
      exact ⟨trivial, hkept'⟩
  · rintro bad t ⟨-, hkept⟩
    rw [Mutating.wp_bind, Mutating.wp_get]
    split
    · exact hkept
    · exact hkept.evictAll _

end Steps

end InMemoryCRLCache

/-! ## Runs -/

/-- The states of the cache on disk, with the time of the last call. Calls follow each
other with a clock that does not run backwards and stands still during a call. -/
inductive CRLCacheImpl.Reached (env : CRLCacheImpl.Env Crl) : Date → CRLCacheImpl.State → Prop
  | initial (now : Date) : Reached env now CRLCacheImpl.State.initial
  | getCRL {past now : Date} {s : CRLCacheImpl.State} (loader : CRLDataLoader) (url : String) :
      Reached env past s → past ≤ now →
        Reached env now ((CRLCacheImpl.getCRL env (readingsAt now) loader url).run s).2
  | recache {past now : Date} {s : CRLCacheImpl.State} (loader : CRLDataLoader) :
      Reached env past s → past ≤ now →
        Reached env now ((CRLCacheImpl.recache env (fun _ => readingsAt now) loader).run s).2

/-- The states of the cache in memory, with the time of the last call and the downloads
made. -/
inductive InMemoryCRLCache.Reached (env : CRLCacheEnv Crl) :
    Date → InMemoryCRLCache.State → List Download → Prop
  | initial (now : Date) : Reached env now InMemoryCRLCache.State.empty []
  | getCRL {past now : Date} {s : InMemoryCRLCache.State} {downloads : List Download}
      (downloadCrl : String → Outcome (Option Bytes)) (url : String) :
      Reached env past s downloads → past ≤ now →
        Reached env now ((InMemoryCRLCache.getCRL env (readingsAt now) downloadCrl url).run s).2
          (downloads ++ InMemoryCRLCache.getCRLDownloads env (readingsAt now) downloadCrl s url)
  | recache {past now : Date} {s : InMemoryCRLCache.State} {downloads : List Download}
      (downloadCrl : String → Outcome (Option Bytes)) :
      Reached env past s downloads → past ≤ now →
        Reached env now
          ((InMemoryCRLCache.recache env (fun _ => readingsAt now) downloadCrl).run s).2
          (downloads ++
            InMemoryCRLCache.recacheDownloads env (fun _ => readingsAt now) downloadCrl s)

section Runs

variable {now : Date}

theorem CRLCacheImpl.reached_inOrder {env : CRLCacheImpl.Env Crl} {s : CRLCacheImpl.State}
    (hnames : Function.Injective env.getFileName) (hreached : CRLCacheImpl.Reached env now s) :
    CRLCacheImpl.InOrder env now s := by
  induction hreached with
  | initial now => exact ⟨Sourced.empty, fun _ h => (by cases h), rfl⟩
  | getCRL loader url _ hle ih =>
      exact Mutating.final_of_wp (Mutating.wp_mono
        (CRLCacheImpl.getCRL_inOrder hnames (ih.later hle) url) (fun _ _ h => h.2) fun _ _ h => h)
  | recache loader _ hle ih =>
      exact Mutating.final_of_wp (Mutating.wp_mono
        (CRLCacheImpl.recache_inOrder (ih.later hle)) (fun _ _ h => h) fun _ _ h => h.elim)

theorem InMemoryCRLCache.reached_inOrder {env : CRLCacheEnv Crl} {s : InMemoryCRLCache.State}
    {downloads : List Download} (hnames : Function.Injective env.getFileName)
    (hreached : InMemoryCRLCache.Reached env now s downloads) :
    InMemoryCRLCache.InOrder env now downloads s := by
  induction hreached with
  | initial now => exact ⟨Sourced.empty, fun _ h => (by cases h)⟩
  | getCRL downloadCrl url _ hle ih =>
      exact Mutating.final_of_wp (Mutating.wp_mono
        (InMemoryCRLCache.getCRL_inOrder hnames (ih.later hle _)
          fun _ hd => List.mem_append_right _ hd)
        (fun _ _ h => h.2) fun _ _ h => h)
  | recache downloadCrl _ hle ih =>
      exact Mutating.final_of_wp (Mutating.wp_mono
        (InMemoryCRLCache.recache_inOrder (ih.later hle _) fun _ hd => List.mem_append_right _ hd)
        (fun _ _ h => h) fun _ _ h => h.elim)

end Runs

/-- **What is served is in date and was downloaded for its URL.** On either cache, after
any run of requests and re-caches and whatever the network answered, a request that
returns serves a list whose next update is not past, and which is the content of a
download made in the run, up to this call, for the URL up to case. -/
theorem served_crl_fresh_and_downloaded (env : CRLCacheImpl.Env Crl)
    (hnames : Function.Injective env.getFileName) {past now : Date} (hle : past ≤ now)
    (url : String) :
    (∀ (s t : CRLCacheImpl.State) (loader : CRLDataLoader) (crlInfo : CRLInfo Crl),
        CRLCacheImpl.Reached env past s →
        (CRLCacheImpl.getCRL env (readingsAt now) loader url).run s = (.ok crlInfo, t) →
          Served env.toCRLCacheEnv now url crlInfo t.downloads) ∧
      ∀ (s t : InMemoryCRLCache.State) (downloads : List Download)
        (downloadCrl : String → Outcome (Option Bytes)) (crlInfo : CRLInfo Crl),
        InMemoryCRLCache.Reached env.toCRLCacheEnv past s downloads →
        (InMemoryCRLCache.getCRL env.toCRLCacheEnv (readingsAt now) downloadCrl url).run s =
            (.ok crlInfo, t) →
          Served env.toCRLCacheEnv now url crlInfo (downloads ++
            InMemoryCRLCache.getCRLDownloads env.toCRLCacheEnv (readingsAt now) downloadCrl s
              url) := by
  constructor
  · intro s t loader crlInfo hreached hrun
    have hkept := (CRLCacheImpl.reached_inOrder hnames hreached).later hle
    have hserved : Mutating.wp (CRLCacheImpl.getCRL env (readingsAt now) loader url) _ _ s :=
      CRLCacheImpl.getCRL_inOrder hnames hkept url
    unfold Mutating.wp at hserved
    rw [hrun] at hserved
    exact hserved.1
  · intro s t downloads downloadCrl crlInfo hreached hrun
    have hkept := (InMemoryCRLCache.reached_inOrder hnames hreached).later hle
      (InMemoryCRLCache.getCRLDownloads env.toCRLCacheEnv (readingsAt now) downloadCrl s url)
    have hserved := InMemoryCRLCache.getCRL_inOrder hnames hkept
      fun _ hd => List.mem_append_right _ hd
    unfold Mutating.wp at hserved
    rw [hrun] at hserved
    exact hserved.1

theorem demoFileName_injective : Function.Injective CRLCacheImpl.demoFileName :=
  (Equiv.injective _).comp (Equiv.injective _)

/-- A list downloaded at time 10, which lasts until 20, is served from either cache at
time 15. -/
theorem served_crl_fresh_and_downloaded_cached :
    let env := CRLCacheImpl.demoEnv
    let url := "http://crl.example.com/ca.crl"
    let answer : Outcome (Option Bytes) := .ok (some [0x30, 20])
    let onDisk := ((CRLCacheImpl.getCRL env (readingsAt 10) (fun _ _ => answer) url).run
      CRLCacheImpl.State.initial).2
    let inMemory := ((InMemoryCRLCache.getCRL env.toCRLCacheEnv (readingsAt 10) (fun _ => answer)
      url).run InMemoryCRLCache.State.empty).2
    Served env.toCRLCacheEnv 15 url ⟨url, 20⟩
        ((CRLCacheImpl.getCRL env (readingsAt 15) (fun _ _ => .ok none) url).run
          onDisk).2.downloads ∧
      Served env.toCRLCacheEnv 15 url ⟨url, 20⟩
        (([] ++ InMemoryCRLCache.getCRLDownloads env.toCRLCacheEnv (readingsAt 10)
            (fun _ => answer) InMemoryCRLCache.State.empty url) ++
          InMemoryCRLCache.getCRLDownloads env.toCRLCacheEnv (readingsAt 15) (fun _ => .ok none)
            inMemory url) := by
  intro env url answer onDisk inMemory
  have hserved := served_crl_fresh_and_downloaded env demoFileName_injective
    (show (10 : Int) ≤ 15 by decide) url
  have hdisk : ((CRLCacheImpl.getCRL env (readingsAt 15) (fun _ _ => .ok none) url).run
      onDisk).1 = .ok ⟨url, 20⟩ := by
    decide +kernel
  have hmemory : ((InMemoryCRLCache.getCRL env.toCRLCacheEnv (readingsAt 15) (fun _ => .ok none)
      url).run inMemory).1 = .ok ⟨url, 20⟩ := by
    decide +kernel
  exact ⟨hserved.1 onDisk _ _ _
      (.getCRL _ url (.initial 10) (Int.le_refl 10)) (Prod.ext hdisk rfl),
    hserved.2 inMemory _ _ _ _
      (.getCRL _ url (.initial 10) (Int.le_refl 10)) (Prod.ext hmemory rfl)⟩

end SigVal.Cert
