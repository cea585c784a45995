import SigVal.Cert.CrlCache
import Mathlib.Data.List.Infix
import Mathlib.Logic.Equiv.Basic

/-!
# The revocation list cache on disk

`CRLCacheImpl` keeps its records in a list, which is also saved in a file of its own,
and the lists themselves in one file each. A list that is missing or expired is
downloaded to a temporary file, checked there and copied. A request looks for the
first record of its URL; what it downloads comes with a new record at the end of the
list, also when there was a record already.

The loader answers each download as it likes. The downloads made so far are part of
the state, and its answer may depend on them. File operations succeed, and a saved
list of records is read back as it was.
-/

namespace SigVal.Cert

open SigVal.Java

/-- A call of `CRLDataLoader.downloadCrl`: what was asked for, and what came of it. -/
structure Download where
  url : String
  answer : Outcome (Option Bytes)

/-- The loader, which may answer the same question differently as time goes by. -/
abbrev CRLDataLoader := List Download → String → Outcome (Option Bytes)

namespace CRLCacheImpl

open InMemoryCRLCache (recentlyCached newRecord)

variable {Crl : Type}

/-- The platform of the cache, with the text for a file that is not there. -/
structure Env (Crl : Type) extends CRLCacheEnv Crl where
  fileNotFound : String → String

/-- The records, the file they are saved in, the two directories by file name, and the
downloads made so far. -/
structure State where
  crlCacheRecordList : List CRLCacheRecord
  crlCacheFile : Option (List CRLCacheRecord)
  cacheDir : String → Option Bytes
  tempDir : String → Option Bytes
  downloads : List Download

namespace State

/-- A data folder with nothing in it. -/
def emptyFolder : State := ⟨[], none, fun _ => none, fun _ => none, []⟩

/-- The cache as the constructor leaves it in an empty folder. -/
def initial : State := ⟨[], some [], fun _ => none, fun _ => none, []⟩

def logDownload (s : State) (download : Download) : State :=
  { s with downloads := s.downloads ++ [download] }

def writeTemp (s : State) (fileName : String) (data : Option Bytes) : State :=
  { s with tempDir := Function.update s.tempDir fileName data }

/-- The checked file is copied and the temporary one deleted. -/
def copyFile (s : State) (fileName : String) : State :=
  { s with
    cacheDir := Function.update s.cacheDir fileName (s.tempDir fileName)
    tempDir := Function.update s.tempDir fileName none }

def addRecord (s : State) (record : CRLCacheRecord) : State :=
  { s with crlCacheRecordList := s.crlCacheRecordList ++ [record] }

def setRecords (s : State) (records : List CRLCacheRecord) : State :=
  { s with crlCacheRecordList := records }

/-- `FileUtils.writeByteArrayToFile(crlCacheFile, …)`. -/
def save (s : State) : State := { s with crlCacheFile := some s.crlCacheRecordList }

/-- The records whose URL is listed go, with their files. -/
def removeBad (s : State) (badUrlList : List String) : State :=
  { s with
    crlCacheRecordList :=
      s.crlCacheRecordList.filter fun record => !badUrlList.contains record.url
    cacheDir := fun fileName =>
      if (s.crlCacheRecordList.any fun record =>
          badUrlList.contains record.url && record.fileName == fileName) then none
      else s.cacheDir fileName }

def reloadCrlCacheData (s : State) : State :=
  match s.crlCacheFile with
  | none => (s.setRecords []).save
  | some records => s.setRecords records

end State

/-- `getCachedCrl(crlFile)`, for a file of either directory. -/
def readCrl (env : Env Crl) (dir : String → Option Bytes) (fileName : String) : Outcome Crl :=
  match dir fileName with
  | none => .error ⟨.io, env.fileNotFound fileName⟩
  | some bytes =>
      match env.generateCRL bytes with
      | .ok crl => .ok crl
      | .error text => .error ⟨.security, text⟩

/-- `getCachedCrl(fileName)`. -/
def getCachedCrl (env : Env Crl) (s : State) (fileName : String) : Outcome Crl :=
  match readCrl env s.cacheDir fileName with
  | .ok crl => .ok crl
  | .error ex => .error ⟨.io, ex.msg⟩

def downloadCrl (loader : CRLDataLoader) (url : String) : Mutating State (Option Bytes) := do
  let s ← get
  modify (·.logDownload ⟨url, loader s.downloads url⟩)
  Mutating.call (loader s.downloads url)

/-- `cacheCrlRecord`, with the record as it is left. A `null` download cannot be
written. -/
def cacheCrlRecord (env : Env Crl) (clock : ClockReadings) (loader : CRLDataLoader)
    (crlCacheRecord : CRLCacheRecord) : Mutating State CRLCacheRecord := do
  if recentlyCached env.toCRLCacheEnv clock crlCacheRecord then return crlCacheRecord
  else
    let downloadedCrlBytes ← downloadCrl loader crlCacheRecord.url
    let bytes ← Mutating.call (deref downloadedCrlBytes)
    modify (·.writeTemp crlCacheRecord.fileName (some bytes))
    let s ← get
    let crl ← Mutating.call (readCrl env s.tempDir crlCacheRecord.fileName)
    let nextUpdate ← Mutating.call (deref (env.getNextUpdate crl))
    if nextUpdate < clock.downloaded then
      modify (·.writeTemp crlCacheRecord.fileName none)
      throw ⟨.io, "Downloaded CRL expired " ++ env.dateToString nextUpdate⟩
    else
      modify (·.copyFile crlCacheRecord.fileName)
      return { crlCacheRecord with nextUpdate := nextUpdate, lastCache := clock.stored }

/-- The first record for the URL, without regard to case. -/
def findRecord (env : Env Crl) (s : State) (url : String) : Option CRLCacheRecord :=
  s.crlCacheRecordList.find? fun record => env.jvm.equalsIgnoreCase url record.url

/-- The cached list for the URL when it is still valid. -/
def findCached (env : Env Crl) (clock : ClockReadings) (s : State) (url : String) :
    Outcome (Option (CRLInfo Crl)) :=
  match findRecord env s url with
  | none => .ok none
  | some record => do
      let cachedCrl ← getCachedCrl env s record.fileName
      let nextUpdate ← deref (env.getNextUpdate cachedCrl)
      if clock.lookup < nextUpdate then .ok (some ⟨record.url, cachedCrl⟩) else .ok none

/-- The download of a list that is missing or expired. The new record is added
whether or not there is one for the URL. -/
def cacheAndGet (env : Env Crl) (clock : ClockReadings) (loader : CRLDataLoader) (url : String) :
    Mutating State (CRLInfo Crl) := do
  let crlCacheRecord ← cacheCrlRecord env clock loader (newRecord env.toCRLCacheEnv url)
  modify (·.addRecord crlCacheRecord)
  modify State.save
  let s ← get
  let crl ← Mutating.call (getCachedCrl env s crlCacheRecord.fileName)
  return ⟨crlCacheRecord.url, crl⟩

/-- `getCRL(url)`. What goes wrong in the lookup is thrown as it is. -/
def getCRL (env : Env Crl) (clock : ClockReadings) (loader : CRLDataLoader) (url : String) :
    Mutating State (CRLInfo Crl) := do
  if !env.isURI url then throw ⟨.io, "Malformed url in requested CRL: " ++ url⟩
  else
    let s ← get
    match ← Mutating.call (findCached env clock s url) with
    | some crlInfo => return crlInfo
    | none =>
        Mutating.catching (cacheAndGet env clock loader url) fun ex => throw ⟨.io, ex.msg⟩

/-- One record of a re-cache: as it is left, and whether it could be cached. -/
def recacheRecord (env : Env Crl) (clock : ClockReadings) (loader : CRLDataLoader)
    (crlCacheRecord : CRLCacheRecord) : Mutating State (CRLCacheRecord × Bool) :=
  Mutating.catching
    (do
      let cached ← cacheCrlRecord env clock loader crlCacheRecord
      return (cached, true))
    fun _ => return (crlCacheRecord, false)

/-- What follows the records' turns: those that failed are removed by their URL, and
the list is saved. -/
def State.settle (s : State) (results : List (CRLCacheRecord × Bool)) : State :=
  let badUrlList := (results.filter fun r => !r.2).map fun r => r.1.url
  let recached := s.setRecords (results.map Prod.fst)
  (if badUrlList.isEmpty then recached else recached.removeBad badUrlList).save

/-- `recache()`. The clock is read anew for each record. -/
def recache (env : Env Crl) (clock : Nat → ClockReadings) (loader : CRLDataLoader) :
    Mutating State Unit := do
  modify State.reloadCrlCacheData
  let s ← get
  let results ← s.crlCacheRecordList.zipIdx.mapM fun e =>
    recacheRecord env (clock e.2) loader e.1
  modify (·.settle results)

/-! ## What a call of `cacheCrlRecord` can do -/

open InMemoryCRLCache (parsed Usable parsed_eq_some_iff)

/-- The answer is a list that parses and is in date. -/
def Accepted (env : Env Crl) (clock : ClockReadings) (answer : Outcome (Option Bytes)) : Prop :=
  ∃ download, answer = .ok download ∧ Usable env.toCRLCacheEnv clock download

/-- The cache after an accepted download. -/
def State.stored (s : State) (fileName : String) (download : Download) (bytes : Bytes) : State :=
  (((s.logDownload download).writeTemp fileName (some bytes)).copyFile fileName)

/-- The cache after a download that came to nothing. -/
def State.rejected (s : State) (download : Download) (tempDir : String → Option Bytes) : State :=
  { s.logDownload download with tempDir := tempDir }

section Downloads

variable {env : Env Crl} {clock : ClockReadings} {loader : CRLDataLoader}
  {record : CRLCacheRecord} {s : State}

theorem downloadCrl_run (url : String) :
    (downloadCrl loader url).run s =
      (loader s.downloads url, s.logDownload ⟨url, loader s.downloads url⟩) := rfl

theorem readCrl_of_some {dir : String → Option Bytes} {fileName : String} {bytes : Bytes}
    (hfile : dir fileName = some bytes) {crl : Crl} (hgenerate : env.generateCRL bytes = .ok crl) :
    readCrl env dir fileName = .ok crl := by
  simp [readCrl, hfile, hgenerate]

theorem cacheCrlRecord_recent (hrecent : recentlyCached env.toCRLCacheEnv clock record = true) :
    (cacheCrlRecord env clock loader record).run s = (.ok record, s) := by
  simp [cacheCrlRecord, hrecent]

variable (hgrace : recentlyCached env.toCRLCacheEnv clock record = false)

include hgrace

/-- A list in date takes the place of the one before. -/
theorem cacheCrlRecord_accepted {bytes : Bytes} {crl : Crl} {nextUpdate : Date}
    (hanswer : loader s.downloads record.url = .ok (some bytes))
    (hparsed : parsed env.toCRLCacheEnv (some bytes) = some (crl, nextUpdate))
    (hdate : ¬ nextUpdate < clock.downloaded) :
    (cacheCrlRecord env clock loader record).run s =
      (.ok { record with nextUpdate := nextUpdate, lastCache := clock.stored },
        s.stored record.fileName ⟨record.url, .ok (some bytes)⟩ bytes) := by
  obtain ⟨bytes', hbytes, hgenerate, hnext⟩ := parsed_eq_some_iff.mp hparsed
  cases hbytes
  have hread : readCrl env (Function.update s.tempDir record.fileName (some bytes))
      record.fileName = .ok crl := readCrl_of_some (Function.update_self ..) hgenerate
  simp only [cacheCrlRecord, hgrace, Bool.false_eq_true, if_false, Mutating.run_bind,
    downloadCrl_run, hanswer, Mutating.run_call, deref, Mutating.run_modify, Mutating.run_get,
    State.logDownload, State.writeTemp, hread, hnext, if_neg hdate, Mutating.run_pure]
  rfl

/-- Whatever else comes leaves the records and the cached lists alone. -/
theorem cacheCrlRecord_rejected
    (hbad : ¬ Accepted env clock (loader s.downloads record.url)) :
    ∃ ex tempDir, (cacheCrlRecord env clock loader record).run s =
      (.error ex, s.rejected ⟨record.url, loader s.downloads record.url⟩ tempDir) := by
  cases hanswer : loader s.downloads record.url with
  | error ex =>
      refine ⟨ex, s.tempDir, ?_⟩
      simp [cacheCrlRecord, hgrace, Mutating.run_bind, downloadCrl_run, hanswer, State.rejected,
        State.logDownload]
  | ok download =>
      cases download with
      | none =>
          refine ⟨Exn.nullPointer, s.tempDir, ?_⟩
          simp [cacheCrlRecord, hgrace, Mutating.run_bind, downloadCrl_run, hanswer, deref,
            State.rejected, State.logDownload]
      | some bytes =>
          -- the bytes are written, and then fail one of the three checks
          have hread : readCrl env (Function.update s.tempDir record.fileName (some bytes))
              record.fileName =
                match env.generateCRL bytes with
                | .ok crl => .ok crl
                | .error text => .error ⟨.security, text⟩ := by
            simp [readCrl]
          cases hgenerate : env.generateCRL bytes with
          | error text =>
              rw [hgenerate] at hread
              refine ⟨⟨.security, text⟩,
                Function.update s.tempDir record.fileName (some bytes), ?_⟩
              simp [cacheCrlRecord, hgrace, Mutating.run_bind, downloadCrl_run, hanswer, deref,
                State.rejected, State.logDownload, State.writeTemp, hread]
          | ok crl =>
              rw [hgenerate] at hread
              cases hnext : env.getNextUpdate crl with
              | none =>
                  refine ⟨Exn.nullPointer,
                    Function.update s.tempDir record.fileName (some bytes), ?_⟩
                  simp [cacheCrlRecord, hgrace, Mutating.run_bind, downloadCrl_run, hanswer,
                    deref, State.rejected, State.logDownload, State.writeTemp, hread, hnext]
              | some nextUpdate =>
                  have hdate : nextUpdate < clock.downloaded := by
                    by_contra hdate
                    exact hbad ⟨some bytes, hanswer, crl, nextUpdate,
                      parsed_eq_some_iff.mpr ⟨bytes, rfl, hgenerate, hnext⟩, hdate⟩
                  refine ⟨⟨.io, "Downloaded CRL expired " ++ env.dateToString nextUpdate⟩,
                    Function.update (Function.update s.tempDir record.fileName (some bytes))
                      record.fileName none, ?_⟩
                  simp [cacheCrlRecord, hgrace, Mutating.run_bind, downloadCrl_run, hanswer,
                    deref, State.rejected, State.logDownload, State.writeTemp, hread, hnext,
                    hdate]

end Downloads

/-! ## What a request can do -/

/-- The request gets as far as adding a record: the cache has no valid list, and the
download is accepted or skipped. -/
def Adds (env : Env Crl) (clock : ClockReadings) (loader : CRLDataLoader) (s : State)
    (url : String) : Prop :=
  env.isURI url = true ∧ findCached env clock s url = .ok none ∧
    (recentlyCached env.toCRLCacheEnv clock (newRecord env.toCRLCacheEnv url) = true ∨
      Accepted env clock (loader s.downloads url))

section Requests

variable {env : Env Crl} {clock : ClockReadings} {loader : CRLDataLoader} {s : State}
  {url : String}

theorem getCRL_run (huri : env.isURI url = true) (hcached : findCached env clock s url = .ok none) :
    (getCRL env clock loader url).run s =
      (Mutating.catching (cacheAndGet env clock loader url)
        fun ex => throw ⟨.io, ex.msg⟩).run s := by
  simp [getCRL, huri, Mutating.run_bind, hcached]

/-- A valid list is served as it is. -/
theorem getCRL_cached {crlInfo : CRLInfo Crl} (huri : env.isURI url = true)
    (hcached : findCached env clock s url = .ok (some crlInfo)) :
    (getCRL env clock loader url).run s = (.ok crlInfo, s) := by
  simp [getCRL, huri, Mutating.run_bind, hcached]

/-- The record is cached before it is added, and keeps its URL and its file. -/
theorem cacheCrlRecord_of_adds (hadds : Adds env clock loader s url) :
    ∃ record t, (cacheCrlRecord env clock loader (newRecord env.toCRLCacheEnv url)).run s =
        (.ok record, t) ∧ record.url = url ∧ record.fileName = env.getFileName url ∧
      t.crlCacheRecordList = s.crlCacheRecordList := by
  obtain ⟨-, -, hrecent | haccepted⟩ := hadds
  · exact ⟨_, s, cacheCrlRecord_recent hrecent, rfl, rfl, rfl⟩
  · by_cases hrecent : recentlyCached env.toCRLCacheEnv clock (newRecord env.toCRLCacheEnv url)
    · exact ⟨_, s, cacheCrlRecord_recent hrecent, rfl, rfl, rfl⟩
    · obtain ⟨download, hanswer, crl, nextUpdate, hparsed, hdate⟩ := haccepted
      obtain ⟨bytes, rfl, -, -⟩ := parsed_eq_some_iff.mp hparsed
      exact ⟨_, _, cacheCrlRecord_accepted (Bool.not_eq_true _ ▸ hrecent) hanswer hparsed hdate,
        rfl, rfl, rfl⟩

/-- A request that adds its record adds it at the end, saves the list and answers with
what the file of the URL then holds. -/
theorem getCRL_adds (hadds : Adds env clock loader s url) :
    ∃ record result t, (getCRL env clock loader url).run s = (result, t) ∧
      record.url = url ∧ record.fileName = env.getFileName url ∧
      t.crlCacheRecordList = s.crlCacheRecordList ++ [record] ∧
      t.crlCacheFile = some t.crlCacheRecordList ∧
      ∀ crlInfo, result = .ok crlInfo →
        crlInfo.location = url ∧ getCachedCrl env t record.fileName = .ok crlInfo.crl := by
  obtain ⟨record, t, hrecord, hurl, hfile, hrecords⟩ := cacheCrlRecord_of_adds hadds
  rw [getCRL_run hadds.1 hadds.2.1, Mutating.run_catching]
  simp only [cacheAndGet, Mutating.run_bind, hrecord, Mutating.run_modify, Mutating.run_get,
    Mutating.run_call]
  cases hcached : getCachedCrl env (t.addRecord record).save record.fileName with
  | error ex =>
      refine ⟨record, _, _, rfl, hurl, hfile, ?_, rfl, ?_⟩
      · simp [State.save, State.addRecord, hrecords]
      · intro crlInfo hok
        cases hok
  | ok crl =>
      refine ⟨record, _, _, rfl, hurl, hfile, ?_, rfl, ?_⟩
      · simp [State.save, State.addRecord, hrecords]
      · intro crlInfo hok
        cases hok
        exact ⟨hurl, hcached⟩

/-- A request that adds no record leaves the records as they are, and answers from the
cache if it answers at all. -/
theorem getCRL_not_adds (hadds : ¬ Adds env clock loader s url) :
    ∃ result t, (getCRL env clock loader url).run s = (result, t) ∧
      t.crlCacheRecordList = s.crlCacheRecordList ∧ t.crlCacheFile = s.crlCacheFile ∧
      ∀ crlInfo, result = .ok crlInfo →
        env.isURI url = true ∧ findCached env clock s url = .ok (some crlInfo) ∧ t = s := by
  cases huri : env.isURI url with
  | false =>
      refine ⟨_, s, by simp [getCRL, huri]; rfl, rfl, rfl, ?_⟩
      intro crlInfo hok
      cases hok
  | true =>
      cases hcached : findCached env clock s url with
      | error ex =>
          refine ⟨.error ex, s, by simp [getCRL, huri, Mutating.run_bind, hcached], rfl, rfl, ?_⟩
          intro crlInfo hok
          cases hok
      | ok found =>
          cases found with
          | some crlInfo =>
              refine ⟨_, s, getCRL_cached huri hcached, rfl, rfl, ?_⟩
              intro crlInfo' hok
              cases hok
              exact ⟨rfl, rfl, rfl⟩
          | none =>
              -- neither skipped nor accepted, so the download was rejected
              have hrecent : recentlyCached env.toCRLCacheEnv clock
                  (newRecord env.toCRLCacheEnv url) = false := by
                refine Bool.eq_false_iff.mpr fun h => hadds ⟨huri, hcached, .inl h⟩
              have hbad : ¬ Accepted env clock (loader s.downloads url) :=
                fun h => hadds ⟨huri, hcached, .inr h⟩
              obtain ⟨ex, tempDir, hrejected⟩ := cacheCrlRecord_rejected hrecent hbad
              refine ⟨.error ⟨.io, ex.msg⟩,
                s.rejected ⟨url, loader s.downloads url⟩ tempDir, ?_, rfl, rfl, ?_⟩
              · rw [getCRL_run huri hcached, Mutating.run_catching]
                simp only [cacheAndGet, Mutating.run_bind, hrejected, Mutating.run_throw]
                rfl
              · intro crlInfo hok
                cases hok

end Requests

/-! ## What a re-cache keeps -/

section Recache

variable {env : Env Crl} {loader : CRLDataLoader} {s : State}

/-- Caching a record changes neither the list, nor the saved list, nor the record's
URL. -/
theorem recacheRecord_keeps (clock : ClockReadings) (record : CRLCacheRecord) :
    Mutating.wp (recacheRecord env clock loader record)
      (fun result t => result.1.url = record.url ∧
        t.crlCacheRecordList = s.crlCacheRecordList ∧ t.crlCacheFile = s.crlCacheFile)
      (fun _ _ => False) s := by
  unfold recacheRecord
  rw [Mutating.wp_catching, Mutating.wp_bind]
  unfold Mutating.wp
  cases hrecent : recentlyCached env.toCRLCacheEnv clock record with
  | true =>
      rw [cacheCrlRecord_recent hrecent]
      exact ⟨rfl, rfl, rfl⟩
  | false =>
      by_cases haccepted : Accepted env clock (loader s.downloads record.url)
      · obtain ⟨download, hanswer, crl, nextUpdate, hparsed, hdate⟩ := haccepted
        obtain ⟨bytes, rfl, -, -⟩ := parsed_eq_some_iff.mp hparsed
        rw [cacheCrlRecord_accepted hrecent hanswer hparsed hdate]
        exact ⟨rfl, rfl, rfl⟩
      · obtain ⟨ex, tempDir, hrejected⟩ := cacheCrlRecord_rejected hrecent haccepted
        rw [hrejected]
        exact ⟨rfl, rfl, rfl⟩

/-- The records that stay are some of those that had their turn. -/
theorem State.settle_records (results : List (CRLCacheRecord × Bool)) :
    (s.settle results).crlCacheRecordList.Sublist (results.map Prod.fst) := by
  unfold State.settle
  dsimp only
  split
  · exact List.Sublist.refl _
  · exact List.filter_sublist

/-- After a re-cache of a saved list, the URLs are some of those before, in their
order, and the list is saved. -/
theorem recache_keeps (clock : Nat → ClockReadings)
    (hsaved : s.crlCacheFile = some s.crlCacheRecordList) :
    Mutating.wp (recache env clock loader)
      (fun _ t => t.crlCacheFile = some t.crlCacheRecordList ∧
        (t.crlCacheRecordList.map (·.url)).Sublist (s.crlCacheRecordList.map (·.url)))
      (fun _ _ => False) s := by
  have hreload : s.reloadCrlCacheData = s := by
    unfold State.reloadCrlCacheData
    rw [hsaved]
    rfl
  unfold recache
  rw [Mutating.wp_bind, Mutating.wp_modify, hreload, Mutating.wp_bind, Mutating.wp_get,
    Mutating.wp_bind]
  refine Mutating.wp_mono (Mutating.wp_mapM (R := fun e r => e.1.url = r.1.url)
    (I := fun t => t.crlCacheRecordList = s.crlCacheRecordList ∧
      t.crlCacheFile = s.crlCacheFile) ?_ ⟨rfl, rfl⟩) ?_ (fun _ _ h => h)
  · rintro ⟨record, i⟩ - t ⟨hrecords, hfile⟩
    refine Mutating.wp_mono (recacheRecord_keeps (clock i) record) ?_ (fun _ _ h => h)
    rintro result u ⟨hurl, hrecords', hfile'⟩
    exact ⟨hurl.symm, hrecords'.trans hrecords, hfile'.trans hfile⟩
  · rintro results t ⟨hurls, -, -⟩
    have hsame : s.crlCacheRecordList.map (·.url) = (results.map Prod.fst).map (·.url) := by
      have hmap : List.Forall₂ (· = ·) (s.crlCacheRecordList.zipIdx.map fun e => e.1.url)
          (results.map fun r => r.1.url) := by
        rw [List.forall₂_map_left_iff, List.forall₂_map_right_iff]
        exact hurls
      have heq := List.forall₂_eq_eq_eq ▸ hmap
      rw [List.map_map]
      calc s.crlCacheRecordList.map (·.url)
          = (s.crlCacheRecordList.zipIdx.map Prod.fst).map (·.url) := by
            rw [List.zipIdx_map_fst]
        _ = s.crlCacheRecordList.zipIdx.map fun e => e.1.url := List.map_map
        _ = results.map fun r => r.1.url := heq
    refine ⟨rfl, ?_⟩
    rw [hsame]
    exact (State.settle_records results).map _

/-- What the constructor leaves in an empty folder. -/
theorem recache_emptyFolder (clock : Nat → ClockReadings) :
    (recache env clock loader).run State.emptyFolder = (.ok (), State.initial) := rfl

end Recache

/-! ## One record for each URL -/

/-- A call on the cache, with what the clock and the network do during it. -/
inductive Call where
  | getCRL (clock : ClockReadings) (loader : CRLDataLoader) (url : String)
  | recache (clock : Nat → ClockReadings) (loader : CRLDataLoader)

/-- The cache after a call, however the call ends. -/
def after (env : Env Crl) (s : State) : Call → State
  | .getCRL clock loader url => ((getCRL env clock loader url).run s).2
  | .recache clock loader => ((recache env clock loader).run s).2

/-- The cache after a sequence of calls. -/
def runs (env : Env Crl) (calls : List Call) : State := calls.foldl (after env) State.initial

theorem runs_snoc (env : Env Crl) (calls : List Call) (call : Call) :
    runs env (calls ++ [call]) = after env (runs env calls) call := by
  unfold runs
  rw [List.foldl_append]
  rfl

/-- No two records are for the same URL, as the lookup compares URLs. -/
def Unique (env : Env Crl) (s : State) : Prop :=
  (s.crlCacheRecordList.map (·.url)).Pairwise fun a b => env.jvm.equalsIgnoreCase a b = false

/-- A successful request can be repeated for as long as its list is valid: the answer
is the same, the cache is as it was, and nothing is downloaded. -/
def Repeatable (env : Env Crl) (s : State) : Call → Prop
  | .getCRL clock loader url =>
      ∀ crlInfo t, (getCRL env clock loader url).run s = (.ok crlInfo, t) →
        ∀ (clock' : ClockReadings) (loader' : CRLDataLoader) (nextUpdate : Date),
          env.getNextUpdate crlInfo.crl = some nextUpdate → clock'.lookup < nextUpdate →
            (getCRL env clock' loader' url).run t = (.ok crlInfo, t)
  | .recache _ _ => True

/-- The cache has a list for the URL, and it is no longer valid. -/
def RunOut (env : Env Crl) (clock : ClockReadings) (s : State) (url : String) : Prop :=
  ∃ record crl nextUpdate, findRecord env s url = some record ∧
    getCachedCrl env s record.fileName = .ok crl ∧ env.getNextUpdate crl = some nextUpdate ∧
    ¬ clock.lookup < nextUpdate

/-- The call is a request for a list that has run out, and its download is accepted, or
skipped because the clock reads less than the grace period. -/
def Renews (env : Env Crl) (s : State) : Call → Prop
  | .getCRL clock loader url =>
      env.isURI url = true ∧ RunOut env clock s url ∧
        (recentlyCached env.toCRLCacheEnv clock (newRecord env.toCRLCacheEnv url) = true ∨
          Accepted env clock (loader s.downloads url))
  | .recache _ _ => False

section Uniqueness

variable {env : Env Crl} {clock : ClockReadings} {loader : CRLDataLoader} {s : State}
  {url : String}

theorem findCached_of_runOut (hrunOut : RunOut env clock s url) :
    findCached env clock s url = .ok none := by
  obtain ⟨record, crl, nextUpdate, hrecord, hcrl, hnext, hdate⟩ := hrunOut
  simp [findCached, hrecord, hcrl, hnext, deref, bind, Except.bind, hdate]

/-- A lookup that finds no valid list found no record, or a list that has run out. -/
theorem runOut_of_findCached (hcached : findCached env clock s url = .ok none)
    {record : CRLCacheRecord} (hrecord : findRecord env s url = some record) :
    RunOut env clock s url := by
  simp only [findCached, hrecord] at hcached
  obtain ⟨crl, hcrl, hcached⟩ := bind_ok_iff.mp hcached
  obtain ⟨nextUpdate, hnext, hcached⟩ := bind_ok_iff.mp hcached
  refine ⟨record, crl, nextUpdate, hrecord, hcrl, deref_ok_iff.mp hnext, ?_⟩
  intro hdate
  rw [if_pos hdate] at hcached
  cases hcached

/-- A request that adds a record without renewing one is the first for its URL. -/
theorem findRecord_of_adds (hadds : Adds env clock loader s url)
    (hnot : ¬ Renews env s (.getCRL clock loader url)) : findRecord env s url = none := by
  obtain ⟨huri, hcached, hdownload⟩ := hadds
  cases hrecord : findRecord env s url with
  | none => rfl
  | some record => exact absurd ⟨huri, runOut_of_findCached hcached hrecord, hdownload⟩ hnot

/-- A record for a URL that had none keeps the records unique. -/
theorem unique_snoc {t : State} {record : CRLCacheRecord} (hunique : Unique env s)
    (hnone : findRecord env s record.url = none)
    (hrecords : t.crlCacheRecordList = s.crlCacheRecordList ++ [record]) : Unique env t := by
  unfold Unique at hunique ⊢
  rw [hrecords, List.map_append, List.pairwise_append]
  refine ⟨hunique, List.pairwise_singleton _ _, ?_⟩
  intro a ha b hb
  obtain ⟨old, hold, rfl⟩ := List.mem_map.mp ha
  obtain rfl : b = record.url := by simpa using hb
  have hne := List.find?_eq_none.mp hnone old hold
  rw [env.jvm.equalsIgnoreCase_comm]
  exact Bool.eq_false_iff.mpr hne

/-- **What one call keeps.** Records that were unique and saved are so after a call
that renews no list. -/
theorem after_unique (call : Call) (hunique : Unique env s)
    (hsaved : s.crlCacheFile = some s.crlCacheRecordList) (hnot : ¬ Renews env s call) :
    Unique env (after env s call) ∧
      (after env s call).crlCacheFile = some (after env s call).crlCacheRecordList := by
  cases call with
  | getCRL clock loader url =>
      by_cases hadds : Adds env clock loader s url
      · obtain ⟨record, result, t, hrun, hurl, -, hrecords, hfile, -⟩ := getCRL_adds hadds
        have hnone := findRecord_of_adds hadds hnot
        simp only [after, hrun]
        exact ⟨unique_snoc hunique (hurl.symm ▸ hnone) hrecords, hfile⟩
      · obtain ⟨result, t, hrun, hrecords, hfile, -⟩ := getCRL_not_adds hadds
        simp only [after, hrun]
        refine ⟨?_, by rw [hfile, hsaved, hrecords]⟩
        unfold Unique at hunique ⊢
        rwa [hrecords]
  | recache clock loader =>
      have hkeeps : Mutating.wp (recache env clock loader) _ _ s := recache_keeps clock hsaved
      unfold Mutating.wp at hkeeps
      rcases hrun : (recache env clock loader).run s with ⟨ex | u, t⟩
      · rw [hrun] at hkeeps
        exact hkeeps.elim
      · rw [hrun] at hkeeps
        simp only [after, hrun]
        exact ⟨hunique.sublist hkeeps.2, hkeeps.1⟩

/-- A call that renews a list leaves two records for its URL. -/
theorem not_unique_of_renews {call : Call} (hrenews : Renews env s call) :
    ¬ Unique env (after env s call) := by
  cases call with
  | recache clock loader => exact hrenews.elim
  | getCRL clock loader url =>
      obtain ⟨huri, hrunOut, hdownload⟩ := hrenews
      have hadds : Adds env clock loader s url :=
        ⟨huri, findCached_of_runOut hrunOut, hdownload⟩
      obtain ⟨record, result, t, hrun, hurl, -, hrecords, -, -⟩ := getCRL_adds hadds
      obtain ⟨old, -, -, hold, -⟩ := hrunOut
      intro hunique
      simp only [after, hrun, Unique, hrecords, List.map_append] at hunique
      have hdistinct := (List.pairwise_append.mp hunique).2.2 old.url
        (List.mem_map_of_mem (List.mem_of_find?_eq_some hold)) record.url (by simp)
      have hsame : env.jvm.equalsIgnoreCase url old.url = true := by
        unfold findRecord at hold
        simpa using List.find?_some hold
      rw [env.jvm.equalsIgnoreCase_comm, hurl] at hdistinct
      rw [hdistinct] at hsame
      cases hsame

/-- A valid list is found again. -/
theorem getCRL_of_findRecord {record : CRLCacheRecord} {crl : Crl} {nextUpdate : Date}
    (huri : env.isURI url = true) (hrecord : findRecord env s url = some record)
    (hcrl : getCachedCrl env s record.fileName = .ok crl)
    (hnext : env.getNextUpdate crl = some nextUpdate) (hdate : clock.lookup < nextUpdate) :
    (getCRL env clock loader url).run s = (.ok ⟨record.url, crl⟩, s) := by
  apply getCRL_cached huri
  simp [findCached, hrecord, hcrl, hnext, deref, bind, Except.bind, hdate]

/-- Repeating a repeatable request downloads nothing. -/
theorem downloads_of_repeatable (hrepeatable : Repeatable env s (.getCRL clock loader url))
    {crlInfo : CRLInfo Crl} (hserved : ((getCRL env clock loader url).run s).1 = .ok crlInfo)
    {nextUpdate : Date} (hnext : env.getNextUpdate crlInfo.crl = some nextUpdate)
    (hdate : clock.lookup < nextUpdate) :
    (after env (after env s (.getCRL clock loader url)) (.getCRL clock loader url)).downloads =
      (after env s (.getCRL clock loader url)).downloads := by
  have hrun : (getCRL env clock loader url).run s =
      (.ok crlInfo, after env s (.getCRL clock loader url)) := Prod.ext hserved rfl
  have hagain := hrepeatable crlInfo _ hrun clock loader nextUpdate hnext hdate
  simp only [after] at hagain ⊢
  rw [hagain]

theorem repeatable_of_not_renews (call : Call) (hnot : ¬ Renews env s call) :
    Repeatable env s call := by
  cases call with
  | recache clock loader => trivial
  | getCRL clock loader url =>
      intro crlInfo t hrun clock' loader' nextUpdate hnext hdate
      by_cases hadds : Adds env clock loader s url
      · obtain ⟨record, result, t', hrun', hurl, hfile, hrecords, -, hanswer⟩ := getCRL_adds hadds
        rw [hrun] at hrun'
        cases hrun'
        obtain ⟨hlocation, hcrl⟩ := hanswer crlInfo rfl
        have hnone := findRecord_of_adds hadds hnot
        -- the new record comes last, and no record before it is for the URL
        have hfound : findRecord env t url = some record := by
          unfold findRecord at hnone ⊢
          rw [hrecords, List.find?_append, hnone, Option.none_or]
          simp [hurl]
        rw [getCRL_of_findRecord hadds.1 hfound hcrl hnext hdate, hurl, ← hlocation]
      · obtain ⟨result, t', hrun', -, -, hanswer⟩ := getCRL_not_adds hadds
        rw [hrun] at hrun'
        cases hrun'
        obtain ⟨huri, hcached, rfl⟩ := hanswer crlInfo rfl
        cases hrecord : findRecord env t url with
        | none => simp [findCached, hrecord] at hcached
        | some record =>
            simp only [findCached, hrecord] at hcached
            obtain ⟨crl, hcrl, hcached⟩ := bind_ok_iff.mp hcached
            obtain ⟨date, -, hcached⟩ := bind_ok_iff.mp hcached
            split at hcached
            · cases hcached
              exact getCRL_of_findRecord huri hrecord hcrl hnext hdate
            · cases hcached

end Uniqueness

/-- Every state of the run has one record for each URL, and every request in it can be
repeated. -/
def OneRecordEach (env : Env Crl) (calls : List Call) : Prop :=
  (∀ earlier, earlier <+: calls → Unique env (runs env earlier)) ∧
    ∀ earlier call, earlier ++ [call] <+: calls → Repeatable env (runs env earlier) call

/-- No call of the run is a request for a list that has run out and gets a new one. -/
def NeverRenews (env : Env Crl) (calls : List Call) : Prop :=
  ∀ earlier call, earlier ++ [call] <+: calls → ¬ Renews env (runs env earlier) call

theorem runs_unique {env : Env Crl} {calls : List Call} (hnever : NeverRenews env calls)
    (earlier : List Call) ( hprefix : earlier <+: calls) :
    Unique env (runs env earlier) ∧
      (runs env earlier).crlCacheFile = some (runs env earlier).crlCacheRecordList := by
  induction earlier using List.reverseRecOn with
  | nil => exact ⟨List.Pairwise.nil, rfl⟩
  | append_singleton earlier call ih =>
      obtain ⟨hunique, hsaved⟩ := ih ((List.prefix_append _ _).trans hprefix)
      rw [runs_snoc]
      exact after_unique call hunique hsaved (hnever earlier call hprefix)

/-- **When the cache keeps one record for each URL.** Over a run of any calls, the
records stay unique and the requests repeatable exactly when no request finds its list
run out and gets a new one. -/
theorem oneRecordEach_iff_neverRenews (env : Env Crl) (calls : List Call) :
    OneRecordEach env calls ↔ NeverRenews env calls := by
  constructor
  · rintro ⟨hunique, -⟩ earlier call hprefix hrenews
    have hafter := hunique (earlier ++ [call]) hprefix
    rw [runs_snoc] at hafter
    exact not_unique_of_renews hrenews hafter
  · intro hnever
    refine ⟨fun earlier hprefix => (runs_unique hnever earlier hprefix).1, ?_⟩
    intro earlier call hprefix
    exact repeatable_of_not_renews call (hnever earlier call hprefix)

/-! A list that runs out and is asked for again, in the same and in another spelling. -/

/-- The names of the files for two spellings of one URL; other names do not matter. -/
def demoFileName : String → String :=
  Equiv.swap "http://crl.example.com/ca.crl" "19qfodidpbncqh0i1p99gp62umshtrj3.crl" ∘
    Equiv.swap "HTTP://crl.example.com/ca.crl" "6hkbasucvrtfma0mh03322qqr7kdsec2.crl"

/-- Lists are two bytes, the second one being the next update. -/
def demoEnv : Env Nat where
  toCRLCacheEnv := { InMemoryCRLCache.demoEnv with getFileName := demoFileName }
  fileNotFound := fun fileName => fileName ++ " (No such file or directory)"

/-- A request at a time when the network has a list that lasts until `nextUpdate`. -/
def demoRequest (now : Date) (nextUpdate : UInt8) (url : String) : Call :=
  .getCRL (InMemoryCRLCache.readingsAt now) (fun _ _ => .ok (some [0x30, nextUpdate])) url

/-- The second request, at time 30, finds the list of the first run out at 20. After it
there are two records for one URL; and when it spells the URL differently, the old
record hides the new one, so that the same request again means another download. -/
theorem renewal_duplicates_record :
    ¬ Unique demoEnv (runs demoEnv
        [demoRequest 10 20 "http://crl.example.com/ca.crl",
          demoRequest 30 50 "http://crl.example.com/ca.crl"]) ∧
      ¬ Repeatable demoEnv (runs demoEnv [demoRequest 10 20 "http://crl.example.com/ca.crl"])
        (demoRequest 30 50 "HTTP://crl.example.com/ca.crl") := by
  constructor
  · unfold Unique
    decide
  · intro hrepeatable
    have hserved : ((getCRL demoEnv (InMemoryCRLCache.readingsAt 30)
        (fun _ _ => .ok (some [0x30, 50])) "HTTP://crl.example.com/ca.crl").run (runs demoEnv
          [demoRequest 10 20 "http://crl.example.com/ca.crl"])).1 =
        .ok ⟨"HTTP://crl.example.com/ca.crl", 50⟩ := by
      decide +kernel
    have hquiet := downloads_of_repeatable hrepeatable hserved rfl (by decide)
    exact absurd (congrArg List.length hquiet) (by decide +kernel)

end CRLCacheImpl

end SigVal.Cert
