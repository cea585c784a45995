import SigVal.Lib.HashMap
import SigVal.Cert.ValidationStatus
import Mathlib.Logic.Function.Basic

/-!
# The revocation list cache in memory

`InMemoryCRLCache` of the `cert-validation` module: records of the lists it knows,
by URL, and the bytes of the lists, by file name. A list that is missing or expired
is downloaded. The bytes are stored before they are parsed, so a failed download
leaves them behind.
-/

namespace SigVal.Cert

open SigVal.Java

/-- `CRLCacheRecord`. -/
structure CRLCacheRecord where
  lastCache : Int := 0
  nextUpdate : Int := 0
  url : String
  fileName : String
deriving DecidableEq, Repr

/-- What the cache asks of the platform, and its configuration. -/
structure CRLCacheEnv (Crl : Type) where
  jvm : Jvm
  recacheGracePeriod : Int
  /-- `new URI(url)` does not throw. -/
  isURI : String → Bool
  /-- The digest of the URL in base 32, with the extension of the file. -/
  getFileName : String → String
  /-- `CertificateFactory.generateCRL`, with the text of its exception. -/
  generateCRL : Bytes → Except String Crl
  getNextUpdate : Crl → Option Date
  dateToString : Date → String

/-- The readings of the clock during one call, in their order: at the lookup, before
the download, after it and when the record is completed. -/
structure ClockReadings where
  lookup : Date
  grace : Date
  downloaded : Date
  stored : Date

namespace InMemoryCRLCache

variable {Crl : Type}

/-- The two maps. The bytes are read with `get` only, for which a `null` value is an
absent one. -/
structure State where
  crlCacheMap : List (String × CRLCacheRecord)
  crlDataMap : String → Option Bytes

namespace State

def empty : State := ⟨[], fun _ => none⟩

def putRecord (s : State) (record : CRLCacheRecord) : State :=
  { s with crlCacheMap := putEntry s.crlCacheMap record.url record }

def putData (s : State) (fileName : String) (data : Option Bytes) : State :=
  { s with crlDataMap := Function.update s.crlDataMap fileName data }

/-- `crlCacheMap.remove(url)` and `crlDataMap.remove(fileName)`. -/
def evict (s : State) (url fileName : String) : State :=
  ⟨removeEntry s.crlCacheMap url, Function.update s.crlDataMap fileName none⟩

end State

def getCachedCrl (env : CRLCacheEnv Crl) (s : State) (crlFile : String) : Outcome Crl :=
  match s.crlDataMap crlFile with
  | none => .error Exn.nullPointer
  | some bytes =>
      match env.generateCRL bytes with
      | .ok crl => .ok crl
      | .error text => .error ⟨.runtime, text⟩

/-- The first record for the URL, without regard to case, as the map is visited. -/
def findRecord (env : CRLCacheEnv Crl) (s : State) (url : String) : Option CRLCacheRecord :=
  ((env.jvm.entriesInOrder s.crlCacheMap).map Prod.snd).find? fun record =>
    env.jvm.equalsIgnoreCase url record.url

/-- The cached list for the URL when it is still valid. A cached list that cannot be
read, or has no next update, throws. -/
def findCached (env : CRLCacheEnv Crl) (clock : ClockReadings) (s : State) (url : String) :
    Outcome (Option (CRLInfo Crl)) :=
  match findRecord env s url with
  | none => .ok none
  | some record => do
      let cachedCrl ← getCachedCrl env s record.fileName
      let nextUpdate ← deref (env.getNextUpdate cachedCrl)
      if clock.lookup < nextUpdate then .ok (some ⟨record.url, cachedCrl⟩) else .ok none

/-- The test that skips a download. -/
def recentlyCached (env : CRLCacheEnv Crl) (clock : ClockReadings) (record : CRLCacheRecord) :
    Bool :=
  decide (clock.grace < toLong (record.lastCache + env.recacheGracePeriod))

/-- `cacheCrlRecord`, with the record as it is left. -/
def cacheCrlRecord (env : CRLCacheEnv Crl) (clock : ClockReadings)
    (downloadCrl : String → Outcome (Option Bytes)) (crlCacheRecord : CRLCacheRecord) :
    Mutating State CRLCacheRecord := do
  if recentlyCached env clock crlCacheRecord then return crlCacheRecord
  else
    let downloadedCrlBytes ← Mutating.call (downloadCrl crlCacheRecord.url)
    modify (·.putData crlCacheRecord.fileName downloadedCrlBytes)
    let s ← get
    let crl ← Mutating.call (getCachedCrl env s crlCacheRecord.fileName)
    let nextUpdate ← Mutating.call (deref (env.getNextUpdate crl))
    if nextUpdate < clock.downloaded then
      modify (·.evict crlCacheRecord.url crlCacheRecord.fileName)
      throw ⟨.io, "Downloaded CRL expired " ++ env.dateToString nextUpdate⟩
    else
      return { crlCacheRecord with nextUpdate := nextUpdate, lastCache := clock.stored }

/-- The record a request starts with. -/
def newRecord (env : CRLCacheEnv Crl) (url : String) : CRLCacheRecord where
  url := url
  fileName := env.getFileName url

/-- The download of a list that is missing or expired. -/
def cacheAndGet (env : CRLCacheEnv Crl) (clock : ClockReadings)
    (downloadCrl : String → Outcome (Option Bytes)) (url : String) :
    Mutating State (CRLInfo Crl) := do
  let crlCacheRecord ← cacheCrlRecord env clock downloadCrl (newRecord env url)
  modify (·.putRecord crlCacheRecord)
  let s ← get
  let crl ← Mutating.call (getCachedCrl env s crlCacheRecord.fileName)
  return ⟨crlCacheRecord.url, crl⟩

/-- `getCRL(url)`. What goes wrong in the lookup is thrown as it is. -/
def getCRL (env : CRLCacheEnv Crl) (clock : ClockReadings)
    (downloadCrl : String → Outcome (Option Bytes)) (url : String) :
    Mutating State (CRLInfo Crl) := do
  if !env.isURI url then throw ⟨.io, "Malformed url in requested CRL: " ++ url⟩
  else
    let s ← get
    match ← Mutating.call (findCached env clock s url) with
    | some crlInfo => return crlInfo
    | none =>
        Mutating.catching (cacheAndGet env clock downloadCrl url) fun ex => throw ⟨.io, ex.msg⟩

/-! ## What a download is worth -/

/-- The list a download delivers, with its next update. -/
def parsed (env : CRLCacheEnv Crl) (download : Option Bytes) : Option (Crl × Date) :=
  download.bind fun bytes =>
    match env.generateCRL bytes with
    | .error _ => none
    | .ok crl => (env.getNextUpdate crl).map (Prod.mk crl)

/-- A list that parses and was out of date when it came. -/
def Expired (env : CRLCacheEnv Crl) (clock : ClockReadings) (download : Option Bytes) : Prop :=
  ∃ crl nextUpdate, parsed env download = some (crl, nextUpdate) ∧ nextUpdate < clock.downloaded

/-- A list that parses and is in date. -/
def Usable (env : CRLCacheEnv Crl) (clock : ClockReadings) (download : Option Bytes) : Prop :=
  ∃ crl nextUpdate, parsed env download = some (crl, nextUpdate) ∧ ¬ nextUpdate < clock.downloaded

theorem parsed_eq_some_iff {env : CRLCacheEnv Crl} {download : Option Bytes} {crl : Crl}
    {nextUpdate : Date} :
    parsed env download = some (crl, nextUpdate) ↔
      ∃ bytes, download = some bytes ∧ env.generateCRL bytes = .ok crl ∧
        env.getNextUpdate crl = some nextUpdate := by
  unfold parsed
  rw [Option.bind_eq_some_iff]
  refine exists_congr fun bytes => and_congr_right fun _ => ?_
  cases env.generateCRL bytes with
  | error text => simp
  | ok crl' =>
      simp only [Option.map_eq_some_iff, Prod.mk.injEq, Except.ok.injEq]
      constructor
      · rintro ⟨date, hdate, rfl, rfl⟩
        exact ⟨rfl, hdate⟩
      · rintro ⟨rfl, hdate⟩
        exact ⟨nextUpdate, hdate, rfl, rfl⟩

section Downloads

variable {env : CRLCacheEnv Crl} {clock : ClockReadings}
  {downloadCrl : String → Outcome (Option Bytes)} {record : CRLCacheRecord} {s : State}
  {download : Option Bytes} {crl : Crl} {nextUpdate : Date}

@[simp] theorem State.putData_same (fileName : String) (data : Option Bytes) :
    (s.putData fileName data).crlDataMap fileName = data := by
  simp [State.putData]

/-- A list that parses is read back from where it was put. -/
theorem getCachedCrl_of_parsed {fileName : String}
    (hstored : s.crlDataMap fileName = download)
    (hparsed : parsed env download = some (crl, nextUpdate)) :
    getCachedCrl env s fileName = .ok crl ∧ env.getNextUpdate crl = some nextUpdate := by
  obtain ⟨bytes, rfl, hgenerate, hnext⟩ := parsed_eq_some_iff.mp hparsed
  refine ⟨?_, hnext⟩
  simp [getCachedCrl, hstored, hgenerate]

/-- One that does not parse, or has no next update, ends in an exception. -/
theorem getCachedCrl_of_not_parsed {fileName : String}
    (hstored : s.crlDataMap fileName = download) (hparsed : parsed env download = none) :
    ∃ ex, (getCachedCrl env s fileName >>= fun crl => deref (env.getNextUpdate crl)) =
      .error ex := by
  cases download with
  | none => exact ⟨Exn.nullPointer, by simp [getCachedCrl, hstored, bind, Except.bind]⟩
  | some bytes =>
      cases hgenerate : env.generateCRL bytes with
      | error text =>
          exact ⟨⟨.runtime, text⟩, by simp [getCachedCrl, hstored, hgenerate, bind, Except.bind]⟩
      | ok crl =>
          cases hnext : env.getNextUpdate crl with
          | some date =>
              rw [parsed_eq_some_iff.mpr ⟨bytes, rfl, hgenerate, hnext⟩] at hparsed
              cases hparsed
          | none =>
              refine ⟨Exn.nullPointer, ?_⟩
              simp [getCachedCrl, hstored, hgenerate, hnext, deref, bind, Except.bind]

/-! ## `cacheCrlRecord` -/

variable (hgrace : recentlyCached env clock record = false)
  (hdownload : downloadCrl record.url = .ok download)

include hgrace hdownload

/-- A list in date is kept. -/
theorem cacheCrlRecord_usable (hparsed : parsed env download = some (crl, nextUpdate))
    (hdate : ¬ nextUpdate < clock.downloaded) :
    (cacheCrlRecord env clock downloadCrl record).run s =
      (.ok { record with nextUpdate := nextUpdate, lastCache := clock.stored },
        s.putData record.fileName download) := by
  obtain ⟨hcached, hnext⟩ := getCachedCrl_of_parsed
    (State.putData_same (s := s) record.fileName download) hparsed
  simp [cacheCrlRecord, hgrace, hdownload, Mutating.run_bind, hcached, hnext, deref, hdate]

/-- A list out of date takes the record along. -/
theorem cacheCrlRecord_expired (hparsed : parsed env download = some (crl, nextUpdate))
    (hdate : nextUpdate < clock.downloaded) :
    ∃ ex, (cacheCrlRecord env clock downloadCrl record).run s =
      (.error ex, (s.putData record.fileName download).evict record.url record.fileName) := by
  obtain ⟨hcached, hnext⟩ := getCachedCrl_of_parsed
    (State.putData_same (s := s) record.fileName download) hparsed
  refine ⟨⟨.io, "Downloaded CRL expired " ++ env.dateToString nextUpdate⟩, ?_⟩
  simp [cacheCrlRecord, hgrace, hdownload, Mutating.run_bind, hcached, hnext, deref, hdate]

/-- What is no list stays where the list was. -/
theorem cacheCrlRecord_unreadable (hparsed : parsed env download = none) :
    ∃ ex, (cacheCrlRecord env clock downloadCrl record).run s =
      (.error ex, s.putData record.fileName download) := by
  obtain ⟨ex, hread⟩ := getCachedCrl_of_not_parsed
    (State.putData_same (s := s) record.fileName download) hparsed
  refine ⟨ex, ?_⟩
  cases hcached : getCachedCrl env (s.putData record.fileName download) record.fileName with
  | error ex' =>
      rw [hcached] at hread
      cases hread
      simp [cacheCrlRecord, hgrace, hdownload, Mutating.run_bind, hcached]
  | ok crl =>
      rw [hcached] at hread
      have hnext : deref (env.getNextUpdate crl) = .error ex := hread
      simp [cacheCrlRecord, hgrace, hdownload, Mutating.run_bind, hcached, hnext]

end Downloads

/-! ## A request that comes to its download -/

/-- The request finds no valid list in the cache and turns to the network. -/
def Requests (env : CRLCacheEnv Crl) (clock : ClockReadings) (s : State) (url : String) : Prop :=
  env.isURI url = true ∧ findCached env clock s url = .ok none ∧
    recentlyCached env clock (newRecord env url) = false

section Requests

variable {env : CRLCacheEnv Crl} {clock : ClockReadings}
  {downloadCrl : String → Outcome (Option Bytes)} {url : String} {s : State}
  {download : Option Bytes} {crl : Crl} {nextUpdate : Date}

theorem getCRL_run (hrequests : Requests env clock s url) :
    (getCRL env clock downloadCrl url).run s =
      (Mutating.catching (cacheAndGet env clock downloadCrl url)
        fun ex => throw ⟨.io, ex.msg⟩).run s := by
  obtain ⟨huri, hcached, -⟩ := hrequests
  simp [getCRL, huri, Mutating.run_bind, hcached]

/-- A usable download is returned. -/
theorem getCRL_usable (hrequests : Requests env clock s url)
    (hdownload : downloadCrl url = .ok download) (husable : Usable env clock download) :
    ∃ crlInfo t, (getCRL env clock downloadCrl url).run s = (.ok crlInfo, t) := by
  obtain ⟨crl, nextUpdate, hparsed, hdate⟩ := husable
  have hrecord := cacheCrlRecord_usable (s := s) hrequests.2.2 hdownload hparsed hdate
  rw [getCRL_run hrequests, Mutating.run_catching]
  simp only [cacheAndGet, Mutating.run_bind, hrecord, Mutating.run_modify, Mutating.run_get,
    Mutating.run_call]
  -- the record says where the list is, and putting it does not touch the bytes
  have hcached : ∀ record : CRLCacheRecord,
      getCachedCrl env ((s.putData (newRecord env url).fileName download).putRecord record)
        (newRecord env url).fileName = .ok crl := fun record =>
    (getCachedCrl_of_parsed (State.putData_same (s := s) _ download) hparsed).1
  simp only [hcached]
  exact ⟨_, _, rfl⟩

/-- What a failed download leaves in the cache. -/
def leftBehind (env : CRLCacheEnv Crl) (s : State) (url : String) (download : Option Bytes) :
    State :=
  let t := s.putData (env.getFileName url) download
  if (parsed env download).isSome then t.evict url (env.getFileName url) else t

theorem getCRL_unusable (hrequests : Requests env clock s url)
    (hdownload : downloadCrl url = .ok download) (hbad : ¬ Usable env clock download) :
    ∃ ex, (getCRL env clock downloadCrl url).run s =
      (.error ex, leftBehind env s url download) := by
  have hfailed : ∃ ex, (cacheCrlRecord env clock downloadCrl (newRecord env url)).run s =
      (.error ex, leftBehind env s url download) := by
    cases hparsed : parsed env download with
    | none =>
        have h := cacheCrlRecord_unreadable (s := s) hrequests.2.2 hdownload hparsed
        simpa [leftBehind, hparsed, newRecord] using h
    | some p =>
        obtain ⟨crl, nextUpdate⟩ := p
        have hdate : nextUpdate < clock.downloaded := by
          by_contra hdate
          exact hbad ⟨crl, nextUpdate, hparsed, hdate⟩
        have h := cacheCrlRecord_expired (s := s) hrequests.2.2 hdownload hparsed hdate
        simpa [leftBehind, hparsed, newRecord] using h
  obtain ⟨ex, hrecord⟩ := hfailed
  refine ⟨⟨.io, ex.msg⟩, ?_⟩
  rw [getCRL_run hrequests, Mutating.run_catching]
  simp [cacheAndGet, Mutating.run_bind, hrecord]

/-- A lookup that did not throw does not throw at another time. -/
theorem findCached_total (clock' : ClockReadings) {found : Option (CRLInfo Crl)}
    (h : findCached env clock s url = .ok found) :
    ∃ found', findCached env clock' s url = .ok found' := by
  unfold findCached at h ⊢
  cases hrecord : findRecord env s url with
  | none => exact ⟨none, rfl⟩
  | some record =>
      simp only [hrecord] at h
      obtain ⟨crl, hcrl, h⟩ := bind_ok_iff.mp h
      obtain ⟨date, hdate, -⟩ := bind_ok_iff.mp h
      simp only [hcrl, hdate, bind, Except.bind]
      split
      · exact ⟨_, rfl⟩
      · exact ⟨_, rfl⟩

end Requests

/-! ## What a failed renewal does to the cache -/

/-- The records and the stored lists are the same for every URL. -/
def AsBefore (s t : State) : Prop :=
  (∀ url, t.crlCacheMap.lookup url = s.crlCacheMap.lookup url) ∧
    ∀ fileName, t.crlDataMap fileName = s.crlDataMap fileName

/-- Every later request whose download is usable succeeds. -/
def Recovers (env : CRLCacheEnv Crl) (clock : ClockReadings) (url : String) (t : State) : Prop :=
  ∀ (clock' : ClockReadings) (downloadCrl : String → Outcome (Option Bytes))
    (download : Option Bytes), clock.grace ≤ clock'.grace → downloadCrl url = .ok download →
    Usable env clock' download →
      ∃ crlInfo u, (getCRL env clock' downloadCrl url).run t = (.ok crlInfo, u)

section Renewal

variable {env : CRLCacheEnv Crl} {clock : ClockReadings}
  {downloadCrl : String → Outcome (Option Bytes)} {url : String} {s : State}
  {download : Option Bytes}

/-- A cache that once let a request through to its download lets later ones succeed. -/
theorem recovers_of_requests (hrequests : Requests env clock s url) :
    Recovers env clock url s := by
  intro clock' downloadCrl download hlater hdownload husable
  obtain ⟨huri, hcached, hgrace⟩ := hrequests
  have hgrace' : recentlyCached env clock' (newRecord env url) = false := by
    simp only [recentlyCached, decide_eq_false_iff_not] at hgrace ⊢
    exact fun h => hgrace (Int.lt_of_le_of_lt hlater h)
  obtain ⟨found, hfound⟩ := findCached_total clock' hcached
  cases found with
  | some crlInfo =>
      refine ⟨crlInfo, s, ?_⟩
      simp [getCRL, huri, Mutating.run_bind, hfound]
  | none => exact getCRL_usable ⟨huri, hfound, hgrace'⟩ hdownload husable

/-- Nothing is left behind when nothing was there to be lost, or the very same bytes. -/
def Untouched (env : CRLCacheEnv Crl) (s : State) (url : String) (download : Option Bytes) :
    Prop :=
  if (parsed env download).isSome then
    s.crlCacheMap.lookup url = none ∧ s.crlDataMap (env.getFileName url) = none
  else s.crlDataMap (env.getFileName url) = download

theorem leftBehind_of_untouched (h : Untouched env s url download) :
    leftBehind env s url download = s := by
  obtain ⟨records, data⟩ := s
  unfold Untouched at h
  unfold leftBehind
  split at h
  · rename_i hparsed
    rw [if_pos hparsed]
    obtain ⟨hrecord, hfile⟩ := h
    have hupdate := Function.update_eq_self (env.getFileName url) data
    simp only at hrecord hfile
    rw [hfile] at hupdate
    simp [State.evict, State.putData, removeEntry_of_lookup_none hrecord, hupdate]
  · rename_i hparsed
    rw [if_neg hparsed]
    subst h
    simp [State.putData]

theorem untouched_of_asBefore (h : AsBefore s (leftBehind env s url download)) :
    Untouched env s url download := by
  obtain ⟨hrecords, hdata⟩ := h
  have hrecord := hrecords url
  have hfile := hdata (env.getFileName url)
  unfold leftBehind at hrecord hfile
  unfold Untouched
  split
  · rename_i hparsed
    simp only [if_pos hparsed, State.evict, lookup_removeEntry_self, Function.update_self]
      at hrecord hfile
    exact ⟨hrecord.symm, hfile.symm⟩
  · rename_i hparsed
    simp only [if_neg hparsed, State.putData_same] at hfile
    exact hfile.symm

/-- **When a failed renewal is harmless.** The maps are as before, and later requests
can succeed, exactly when the cache held nothing that the failed download took the
place of. -/
theorem failed_renewal_harmless_iff (hrequests : Requests env clock s url)
    (hdownload : downloadCrl url = .ok download) (hbad : ¬ Usable env clock download) :
    (∃ ex t, (getCRL env clock downloadCrl url).run s = (.error ex, t) ∧ AsBefore s t ∧
        Recovers env clock url t) ↔
      Untouched env s url download := by
  obtain ⟨ex, hrun⟩ := getCRL_unusable hrequests hdownload hbad
  constructor
  · rintro ⟨ex', t, hrun', hbefore, -⟩
    rw [hrun] at hrun'
    cases hrun'
    exact untouched_of_asBefore hbefore
  · intro huntouched
    rw [leftBehind_of_untouched huntouched] at hrun
    exact ⟨ex, s, hrun, ⟨fun _ => rfl, fun _ => rfl⟩, recovers_of_requests hrequests⟩

/-- Bytes that are no list, stored for a known URL, make every later request for it
throw, whatever its download would be. -/
theorem unreadable_renewal_blocks (hparsed : parsed env download = none)
    (huri : env.isURI url = true) {record : CRLCacheRecord}
    (hrecord : findRecord env s url = some record)
    (hfile : record.fileName = env.getFileName url) (clock' : ClockReadings)
    (downloadCrl' : String → Outcome (Option Bytes)) :
    ∃ ex, (getCRL env clock' downloadCrl' url).run (leftBehind env s url download) =
      (.error ex, leftBehind env s url download) := by
  have hleft : leftBehind env s url download = s.putData (env.getFileName url) download := by
    simp [leftBehind, hparsed]
  have hfound : findRecord env (leftBehind env s url download) url = some record := by
    rw [hleft]
    exact hrecord
  obtain ⟨ex, hread⟩ := getCachedCrl_of_not_parsed
    (State.putData_same (s := s) (env.getFileName url) download) hparsed
  have hcached : findCached env clock' (leftBehind env s url download) url = .error ex := by
    simp only [findCached, hfound, hfile]
    rw [hleft]
    cases hc : getCachedCrl env (s.putData (env.getFileName url) download)
        (env.getFileName url) with
    | error ex0 =>
        rw [hc] at hread
        cases hread
        rfl
    | ok crl =>
        rw [hc] at hread
        have hnext : deref (env.getNextUpdate crl) = .error ex := hread
        simp [bind, Except.bind, hnext]
  refine ⟨ex, ?_⟩
  simp [getCRL, huri, Mutating.run_bind, hcached]

end Renewal

/-! A cache with one list, whose renewal brings an error page. -/

/-- Lists are two bytes, the second one being the next update. -/
def demoEnv : CRLCacheEnv Nat where
  jvm := plainJvm
  recacheGracePeriod := 5
  isURI := fun _ => true
  getFileName := fun url =>
    if url = "http://crl.example.com/ca.crl" then "19qfodidpbncqh0i1p99gp62umshtrj3.crl" else url
  generateCRL := fun bytes =>
    match bytes with
    | [0x30, n] => .ok n.toNat
    | _ => .error "java.security.cert.CRLException: Parsing error"
  getNextUpdate := fun crl => some crl
  dateToString := fun _ => "Thu Jan 01 00:00:00 UTC 1970"

def readingsAt (now : Date) : ClockReadings := ⟨now, now, now, now⟩

/-- The cache at time 10, with a list that lasts until 20. -/
def demoState : State :=
  ((getCRL demoEnv (readingsAt 10) (fun _ => .ok (some [0x30, 20]))
    "http://crl.example.com/ca.crl").run State.empty).2

theorem demoState_record :
    findRecord demoEnv demoState "http://crl.example.com/ca.crl" =
      some ⟨10, 20, "http://crl.example.com/ca.crl", "19qfodidpbncqh0i1p99gp62umshtrj3.crl"⟩ :=
  rfl

theorem demoState_requests :
    Requests demoEnv (readingsAt 30) demoState "http://crl.example.com/ca.crl" := by
  have hcrl : getCachedCrl demoEnv demoState "19qfodidpbncqh0i1p99gp62umshtrj3.crl" = .ok 20 := rfl
  refine ⟨rfl, ?_, by decide⟩
  simp only [findCached, demoState_record, hcrl, bind, Except.bind]
  rfl

theorem error_page_unusable (now : Date) :
    ¬ Usable demoEnv (readingsAt now) (some [0x3c, 0x68]) := by
  rintro ⟨crl, nextUpdate, hparsed, -⟩
  cases hparsed

theorem failed_renewal_harmless_iff_error_page :
    ¬ ∃ ex t, (getCRL demoEnv (readingsAt 30) (fun _ => .ok (some [0x3c, 0x68]))
        "http://crl.example.com/ca.crl").run demoState = (.error ex, t) ∧ AsBefore demoState t ∧
      Recovers demoEnv (readingsAt 30) "http://crl.example.com/ca.crl" t := by
  rw [failed_renewal_harmless_iff demoState_requests rfl (error_page_unusable 30)]
  intro huntouched
  have hfile : demoState.crlDataMap "19qfodidpbncqh0i1p99gp62umshtrj3.crl" = some [0x3c, 0x68] :=
    huntouched
  exact absurd hfile (by decide)

/-- The error page takes the place of the list, and no later list is accepted. -/
theorem error_page_blocks_renewal :
    let url := "http://crl.example.com/ca.crl"
    let page : Option Bytes := some [0x3c, 0x68]
    let t := ((getCRL demoEnv (readingsAt 30) (fun _ => .ok page) url).run demoState).2
    Requests demoEnv (readingsAt 30) demoState url ∧ ¬ Usable demoEnv (readingsAt 30) page ∧
      ¬ AsBefore demoState t ∧ ¬ Recovers demoEnv (readingsAt 30) url t := by
  intro url page t
  have hfails : ∃ ex, (getCRL demoEnv (readingsAt 30) (fun _ => .ok page) url).run demoState =
      (.error ex, leftBehind demoEnv demoState url page) :=
    getCRL_unusable demoState_requests rfl (error_page_unusable 30)
  obtain ⟨ex, hrun⟩ := hfails
  have ht : t = leftBehind demoEnv demoState url page := congrArg Prod.snd hrun
  refine ⟨demoState_requests, error_page_unusable 30, ?_, ?_⟩
  · rintro ⟨-, hdata⟩
    have hfile := hdata "19qfodidpbncqh0i1p99gp62umshtrj3.crl"
    rw [ht] at hfile
    exact absurd hfile (by decide)
  · intro hrecovers
    obtain ⟨crlInfo, u, hgood⟩ := hrecovers (readingsAt 40) (fun _ => .ok (some [0x30, 50]))
      (some [0x30, 50]) (by decide) rfl ⟨50, 50, rfl, by decide⟩
    have hpage : parsed demoEnv page = none := rfl
    obtain ⟨ex', hblocked⟩ := unreadable_renewal_blocks hpage rfl demoState_record rfl
      (readingsAt 40) (fun _ => .ok (some [0x30, 50]))
    rw [ht, hblocked] at hgood
    cases hgood

end InMemoryCRLCache

end SigVal.Cert
