import SigVal.Cert.CrlProvenance
import Mathlib.Data.List.Nodup
import Mathlib.Data.List.Perm.Subperm

/-!
# What a re-cache of the lists in memory leaves

`recache` asks again for every list that is not a recent one. A record whose list does
not come back is removed with its data: at once when the new list was already out of
date, and after the visit of all records otherwise. The removal at once is a change of
the very map that is being visited, so the visit ends with an exception, and the
removals that should follow it do not happen.
-/

namespace SigVal.Cert

open SigVal.Java

namespace InMemoryCRLCache

variable {Crl : Type}

/-- The maps as the cache builds them: a record stands under its URL, and no two
records share a file. -/
structure WellKept (s : State) : Prop where
  nodup : (s.crlCacheMap.map Prod.fst).Nodup
  url : ∀ e ∈ s.crlCacheMap, e.2.url = e.1
  files : ∀ e ∈ s.crlCacheMap, ∀ e' ∈ s.crlCacheMap, e.2.fileName = e'.2.fileName → e = e'

/-- The records with their places in the visit. -/
def visits (env : CRLCacheEnv Crl) (s : State) : List (CRLCacheRecord × Nat) :=
  (recordsInOrder env s).zipIdx

/-- The record lies within the grace period, or its URL is refreshed. -/
def Good (env : CRLCacheEnv Crl) (clock : ClockReadings)
    (downloadCrl : String → Outcome (Option Bytes)) (record : CRLCacheRecord) : Prop :=
  recentlyCached env clock record = true ∨
    ∃ download, downloadCrl record.url = .ok download ∧ Usable env clock download

/-- The list is asked for, and the one that comes is out of date. -/
def ComesExpired (env : CRLCacheEnv Crl) (clock : ClockReadings)
    (downloadCrl : String → Outcome (Option Bytes)) (record : CRLCacheRecord) : Prop :=
  recentlyCached env clock record = false ∧
    ∃ download, downloadCrl record.url = .ok download ∧ Expired env clock download

/-- **What a re-cache is for.** The records that remain are the good ones, each with a
list that can be read, and nothing is stored for the ones that are gone. -/
structure EvictsBad (env : CRLCacheEnv Crl) (clock : Nat → ClockReadings)
    (downloadCrl : String → Outcome (Option Bytes)) (s t : State) : Prop where
  remaining : ∀ url, (∃ record, t.crlCacheMap.lookup url = some record) ↔
    ∃ visit ∈ visits env s, visit.1.url = url ∧ Good env (clock visit.2) downloadCrl visit.1
  readable : ∀ url record, t.crlCacheMap.lookup url = some record →
    ∃ crl, getCachedCrl env t record.fileName = .ok crl
  no_data : ∀ visit ∈ visits env s, t.crlCacheMap.lookup visit.1.url = none →
    t.crlDataMap visit.1.fileName = none

/-! ## The part of the cache that belongs to a record -/

/-- What stands under the URL and in the file of a record. -/
def slot (record : CRLCacheRecord) (s : State) : Option CRLCacheRecord × Option Bytes :=
  (s.crlCacheMap.lookup record.url, s.crlDataMap record.fileName)

/-- The keys in the order they were put. -/
def keys (s : State) : List String := s.crlCacheMap.map Prod.fst

theorem mem_keys_of_lookup {s : State} {url : String} {record : CRLCacheRecord}
    (h : s.crlCacheMap.lookup url = some record) : url ∈ keys s :=
  List.mem_map.mpr ⟨(url, record), mem_of_lookup h, rfl⟩

/-- A change that adds no key and leaves the slots of other records alone. -/
structure OnlyTouches (record : CRLCacheRecord) (s t : State) : Prop where
  keys : (keys t).Sublist (keys s)
  others : ∀ other : CRLCacheRecord, other.url ≠ record.url →
    other.fileName ≠ record.fileName → slot other t = slot other s

section Operations

variable {record : CRLCacheRecord} {s t u : State}

theorem OnlyTouches.refl : OnlyTouches record s s := ⟨List.Sublist.refl _, fun _ _ _ => rfl⟩

theorem OnlyTouches.trans (h : OnlyTouches record s t) (h' : OnlyTouches record t u) :
    OnlyTouches record s u where
  keys := h'.keys.trans h.keys
  others other hurl hfile := (h'.others other hurl hfile).trans (h.others other hurl hfile)

theorem onlyTouches_putData (data : Option Bytes) :
    OnlyTouches record s (s.putData record.fileName data) where
  keys := List.Sublist.refl _
  others other _ hfile := by
    show (_, Function.update _ _ _ other.fileName) = _
    rw [Function.update_of_ne hfile]
    rfl

theorem onlyTouches_evict : OnlyTouches record s (s.evict record.url record.fileName) where
  keys := keys_removeEntry_sublist _ _
  others other hurl hfile := by
    show ((removeEntry _ _).lookup other.url, Function.update _ _ _ other.fileName) = _
    rw [Function.update_of_ne hfile, lookup_removeEntry_of_ne hurl]
    rfl

/-- The record of a known URL is replaced in its place. -/
theorem onlyTouches_putRecord {cached : CRLCacheRecord} (hurl : cached.url = record.url)
    (hknown : (s.crlCacheMap.lookup record.url).isSome) :
    OnlyTouches record s (s.putRecord cached) where
  keys := by
    show ((putEntry s.crlCacheMap cached.url cached).map Prod.fst).Sublist _
    rw [keys_putEntry_of_known _ (hurl ▸ hknown)]
    exact List.Sublist.refl _
  others other hother _ := by
    show ((putEntry _ _ _).lookup other.url, _) = _
    rw [lookup_putEntry_of_ne (hurl ▸ hother)]
    rfl

@[simp] theorem slot_evict_self :
    slot record (s.evict record.url record.fileName) = (none, none) := by
  simp [slot, State.evict]

theorem slot_putRecord_self {cached : CRLCacheRecord} (hurl : cached.url = record.url) :
    slot record (s.putRecord cached) = (some cached, s.crlDataMap record.fileName) := by
  rw [slot, ← hurl, State.putRecord]
  simp

end Operations

/-! ## The turn of a record -/

/-- What the turn of a record makes of its slot, and what goes on the list of bad
records. -/
inductive Turned (env : CRLCacheEnv Crl) (clock : ClockReadings)
    (downloadCrl : String → Outcome (Option Bytes)) (record : CRLCacheRecord)
    (stored : Option Bytes) :
    Option CRLCacheRecord → Option CRLCacheRecord × Option Bytes → Prop
  | recent : recentlyCached env clock record = true →
      Turned env clock downloadCrl record stored none (some record, stored)
  | refreshed {download : Option Bytes} {crl : Crl} {nextUpdate : Date} :
      recentlyCached env clock record = false → downloadCrl record.url = .ok download →
      parsed env download = some (crl, nextUpdate) → ¬ nextUpdate < clock.downloaded →
      Turned env clock downloadCrl record stored none
        (some { record with nextUpdate := nextUpdate, lastCache := clock.stored }, download)
  | expired : ComesExpired env clock downloadCrl record →
      Turned env clock downloadCrl record stored (some record) (none, none)
  | failed (data : Option Bytes) : ¬ Good env clock downloadCrl record →
      ¬ ComesExpired env clock downloadCrl record →
      Turned env clock downloadCrl record stored (some record) (some record, data)

section Turns

variable {env : CRLCacheEnv Crl} {clock : ClockReadings}
  {downloadCrl : String → Outcome (Option Bytes)} {record : CRLCacheRecord} {s : State}

/-- A record whose download throws, or brings nothing that parses, is neither good nor
out of date. -/
theorem failed_of_unreadable (hgrace : recentlyCached env clock record = false)
    (hbad : ∀ download, downloadCrl record.url = .ok download → parsed env download = none) :
    ¬ Good env clock downloadCrl record ∧ ¬ ComesExpired env clock downloadCrl record := by
  constructor
  · rintro (hrecent | ⟨download, hanswer, crl, nextUpdate, hparsed, -⟩)
    · rw [hgrace] at hrecent
      cases hrecent
    · rw [hbad download hanswer] at hparsed
      cases hparsed
  · rintro ⟨-, download, hanswer, crl, nextUpdate, hparsed, -⟩
    rw [hbad download hanswer] at hparsed
    cases hparsed

theorem ComesExpired.not_good (h : ComesExpired env clock downloadCrl record) :
    ¬ Good env clock downloadCrl record := by
  obtain ⟨hgrace, download, hanswer, crl, nextUpdate, hparsed, hdate⟩ := h
  rintro (hrecent | ⟨download', hanswer', crl', nextUpdate', hparsed', hdate'⟩)
  · rw [hgrace] at hrecent
    cases hrecent
  · cases hanswer.symm.trans hanswer'
    cases hparsed.symm.trans hparsed'
    exact hdate' hdate

/-- During the visit a record is lost exactly when its list came out of date. -/
theorem Turned.lost_iff {stored : Option Bytes} {bad : Option CRLCacheRecord}
    {found : Option CRLCacheRecord × Option Bytes}
    (h : Turned env clock downloadCrl record stored bad found) :
    found.1 = none ↔ ComesExpired env clock downloadCrl record := by
  cases h with
  | recent hrecent =>
      apply iff_of_false (by simp)
      rintro hexpired
      exact hexpired.not_good (.inl hrecent)
  | refreshed hgrace hanswer hparsed hdate =>
      apply iff_of_false (by simp)
      intro hexpired
      exact hexpired.not_good (.inr ⟨_, hanswer, _, _, hparsed, hdate⟩)
  | expired hexpired => exact iff_of_true rfl hexpired
  | failed data hgood hexpired => exact iff_of_false (by simp) hexpired

/-- **The turn of a record** that is in the map. It never throws, and works on the slot
of the record only. -/
theorem recacheRecord_turned (hknown : s.crlCacheMap.lookup record.url = some record) :
    Mutating.wp (recacheRecord env clock downloadCrl record)
      (fun bad t => Turned env clock downloadCrl record (s.crlDataMap record.fileName) bad
        (slot record t) ∧ OnlyTouches record s t) (fun _ _ => False) s := by
  have hisSome : (s.crlCacheMap.lookup record.url).isSome := by
    rw [hknown]
    rfl
  have hput : ∀ data : Option Bytes,
      ((s.putData record.fileName data).crlCacheMap.lookup record.url).isSome := fun _ => hisSome
  unfold recacheRecord
  rw [Mutating.wp_catching, Mutating.wp_bind]
  cases hgrace : recentlyCached env clock record with
  | true =>
      simp only [cacheCrlRecord, hgrace, if_true, Mutating.wp_pure, Mutating.wp_bind,
        Mutating.wp_modify]
      refine ⟨?_, onlyTouches_putRecord rfl hisSome⟩
      rw [slot_putRecord_self rfl]
      exact .recent hgrace
  | false =>
      cases hanswer : downloadCrl record.url with
      | error ex =>
          have hbad : ∀ download, downloadCrl record.url = .ok download →
              parsed env download = none := by
            intro download h
            rw [hanswer] at h
            cases h
          obtain ⟨hgood, hexpired⟩ := failed_of_unreadable hgrace hbad
          simp only [cacheCrlRecord, hgrace, Bool.false_eq_true, if_false, Mutating.wp_bind,
            hanswer]
          refine ⟨?_, OnlyTouches.refl⟩
          rw [slot, hknown]
          exact .failed _ hgood hexpired
      | ok download =>
          have htouched : OnlyTouches record s (s.putData record.fileName download) :=
            onlyTouches_putData download
          cases hparsed : parsed env download with
          | none =>
              obtain ⟨ex, hrun⟩ := cacheCrlRecord_unreadable (s := s) hgrace hanswer hparsed
              have hbad : ∀ download', downloadCrl record.url = .ok download' →
                  parsed env download' = none := by
                intro download' h
                cases hanswer.symm.trans h
                exact hparsed
              obtain ⟨hgood, hexpired⟩ := failed_of_unreadable hgrace hbad
              rw [Mutating.wp_iff_of_run_error hrun, Mutating.wp_pure]
              refine ⟨?_, htouched⟩
              rw [slot]
              have hrecord : (s.putData record.fileName download).crlCacheMap.lookup record.url =
                  some record := hknown
              rw [hrecord]
              exact .failed _ hgood hexpired
          | some p =>
              obtain ⟨crl, nextUpdate⟩ := p
              by_cases hdate : nextUpdate < clock.downloaded
              · obtain ⟨ex, hrun⟩ := cacheCrlRecord_expired (s := s) hgrace hanswer hparsed hdate
                rw [Mutating.wp_iff_of_run_error hrun, Mutating.wp_pure]
                refine ⟨?_, htouched.trans onlyTouches_evict⟩
                rw [slot_evict_self]
                exact .expired ⟨hgrace, download, hanswer, crl, nextUpdate, hparsed, hdate⟩
              · have hrun := cacheCrlRecord_usable (s := s) hgrace hanswer hparsed hdate
                rw [Mutating.wp_iff_of_run_ok hrun]
                simp only [Mutating.wp_bind, Mutating.wp_modify, Mutating.wp_pure]
                refine ⟨?_, htouched.trans (onlyTouches_putRecord rfl (hput download))⟩
                rw [slot_putRecord_self (by rfl), State.putData_same]
                exact .refreshed hgrace hanswer hparsed hdate

end Turns

/-! ## The visit -/

section Visit

variable {env : CRLCacheEnv Crl} {clock : Nat → ClockReadings}
  {downloadCrl : String → Outcome (Option Bytes)} {s : State}

theorem mem_recordsInOrder (hkept : WellKept s) {record : CRLCacheRecord} :
    record ∈ recordsInOrder env s ↔ s.crlCacheMap.lookup record.url = some record := by
  unfold recordsInOrder
  rw [List.mem_map]
  constructor
  · rintro ⟨⟨url, _⟩, he, rfl⟩
    rw [env.jvm.mem_entriesInOrder] at he
    have hurl := hkept.url _ (mem_of_lookup he)
    dsimp only at hurl
    rw [hurl]
    exact he
  · intro h
    exact ⟨(record.url, record), env.jvm.mem_entriesInOrder.mpr h, rfl⟩

theorem nodup_urls (hkept : WellKept s) : ((recordsInOrder env s).map (·.url)).Nodup := by
  have hkeys : (recordsInOrder env s).map (·.url) =
      (env.jvm.entriesInOrder s.crlCacheMap).map Prod.fst := by
    unfold recordsInOrder
    rw [List.map_map]
    apply List.map_congr_left
    intro e he
    exact hkept.url e (mem_of_lookup (env.jvm.mem_entriesInOrder.mp he))
  rw [hkeys]
  exact env.jvm.nodup_entriesInOrder hkept.nodup

theorem nodup_visit_urls (hkept : WellKept s) :
    ((visits env s).map fun visit => visit.1.url).Nodup := by
  have hurls : (visits env s).map (fun visit => visit.1.url) =
      (recordsInOrder env s).map (·.url) := by
    unfold visits
    rw [← List.zipIdx_map_fst 0 (recordsInOrder env s), List.map_map, List.zipIdx_map_fst]
    rfl
  rw [hurls]
  exact nodup_urls hkept

theorem lookup_of_visit (hkept : WellKept s) {visit : CRLCacheRecord × Nat}
    (hvisit : visit ∈ visits env s) : s.crlCacheMap.lookup visit.1.url = some visit.1 :=
  (mem_recordsInOrder hkept).mp (List.fst_mem_of_mem_zipIdx hvisit)

/-- Every key is that of a visited record. -/
theorem exists_visit (hkept : WellKept s) {url : String} (hurl : url ∈ keys s) :
    ∃ visit ∈ visits env s, visit.1.url = url := by
  obtain ⟨e, he, rfl⟩ := List.mem_map.mp hurl
  have hlookup := lookup_of_mem hkept.nodup he
  rw [← hkept.url e he] at hlookup
  have hmem : e.2 ∈ (visits env s).map Prod.fst := by
    unfold visits
    rw [List.zipIdx_map_fst]
    exact (mem_recordsInOrder hkept).mpr hlookup
  obtain ⟨visit, hvisit, hrecord⟩ := List.mem_map.mp hmem
  refine ⟨visit, hvisit, ?_⟩
  rw [hrecord, hkept.url e he]

/-- Each record has one visit, and a slot of its own. -/
theorem visit_unique (hkept : WellKept s) {visit other : CRLCacheRecord × Nat}
    (hvisit : visit ∈ visits env s) (hother : other ∈ visits env s) (hne : other ≠ visit) :
    other.1.url ≠ visit.1.url ∧ other.1.fileName ≠ visit.1.fileName := by
  have hurl : other.1.url ≠ visit.1.url := fun h =>
    hne (List.inj_on_of_nodup_map (nodup_visit_urls hkept) hother hvisit h)
  refine ⟨hurl, ?_⟩
  intro hfile
  have hentry := mem_of_lookup (lookup_of_visit hkept hvisit)
  have hentry' := mem_of_lookup (lookup_of_visit hkept hother)
  exact hurl (congrArg Prod.fst (hkept.files _ hentry' _ hentry hfile))

/-- **The visit.** At its end each slot is as its own turn made it, and no key is new. -/
theorem visits_turned (hkept : WellKept s) :
    Mutating.wp ((visits env s).mapM fun e => recacheRecord env (clock e.2) downloadCrl e.1)
      (fun badUrlList t => List.Forall₂
          (fun visit bad => Turned env (clock visit.2) downloadCrl visit.1
            (s.crlDataMap visit.1.fileName) bad (slot visit.1 t)) (visits env s) badUrlList ∧
        (keys t).Sublist (keys s)) (fun _ _ => False) s := by
  have hnodup : (visits env s).Nodup := List.Nodup.of_map _ (nodup_visit_urls hkept)
  refine @Mutating.wp_mapM_separate _ _ _ _ _ _ _ (fun visit t => slot visit.1 t)
    (fun visit bad slot => Turned env (clock visit.2) downloadCrl visit.1
      (s.crlDataMap visit.1.fileName) bad slot)
    (fun t => (keys t).Sublist (keys s)) _ hnodup ?_ (List.Sublist.refl _)
  intro visit hvisit t hkeys huntouched
  obtain ⟨hlookup, hdata⟩ := Prod.mk.inj huntouched
  rw [lookup_of_visit hkept hvisit] at hlookup
  refine Mutating.wp_mono (recacheRecord_turned hlookup) ?_ fun _ _ he => he
  rintro bad u ⟨hturned, htouches⟩
  rw [hdata] at hturned
  refine ⟨hturned, htouches.keys.trans hkeys, ?_⟩
  intro other hother hne
  obtain ⟨hurl, hfile⟩ := visit_unique hkept hvisit hother hne
  exact htouches.others other.1 hurl hfile

end Visit

/-! ## The clean-up -/

theorem keys_evictAll (records : List CRLCacheRecord) :
    ∀ s : State, (keys (s.evictAll records)).Sublist (keys s) := by
  induction records with
  | nil => exact fun s => List.Sublist.refl _
  | cons record rest ih =>
      intro s
      exact (ih (s.evict record.url record.fileName)).trans (keys_removeEntry_sublist _ _)

/-- The slots of other records stay as they are. -/
theorem slot_evictAll_of_other {record : CRLCacheRecord} {records : List CRLCacheRecord}
    (hother : ∀ bad ∈ records, record.url ≠ bad.url ∧ record.fileName ≠ bad.fileName) :
    ∀ s : State, slot record (s.evictAll records) = slot record s := by
  induction records with
  | nil => exact fun s => rfl
  | cons bad rest ih =>
      intro s
      obtain ⟨hurl, hfile⟩ := hother bad List.mem_cons_self
      have hrest := ih (fun b hb => hother b (List.mem_cons_of_mem bad hb))
        (s.evict bad.url bad.fileName)
      exact hrest.trans (onlyTouches_evict.others record hurl hfile)

/-- An empty slot stays empty. -/
theorem slot_evictAll_of_empty {record : CRLCacheRecord} (records : List CRLCacheRecord) :
    ∀ s : State, slot record s = (none, none) →
      slot record (s.evictAll records) = (none, none) := by
  induction records with
  | nil => exact fun s h => h
  | cons bad rest ih =>
      intro s hempty
      apply ih (s.evict bad.url bad.fileName)
      obtain ⟨hlookup, hdata⟩ := Prod.mk.inj hempty
      have hlookup' : (removeEntry s.crlCacheMap bad.url).lookup record.url = none := by
        by_cases hurl : record.url = bad.url
        · rw [hurl, lookup_removeEntry_self]
        · rw [lookup_removeEntry_of_ne hurl, hlookup]
      have hdata' : Function.update s.crlDataMap bad.fileName none record.fileName = none := by
        by_cases hfile : record.fileName = bad.fileName
        · rw [hfile, Function.update_self]
        · rw [Function.update_of_ne hfile, hdata]
      exact Prod.ext hlookup' hdata'

theorem slot_evictAll_of_mem {record : CRLCacheRecord} {records : List CRLCacheRecord}
    (hmem : record ∈ records) : ∀ s : State, slot record (s.evictAll records) = (none, none) := by
  induction records with
  | nil => cases hmem
  | cons bad rest ih =>
      intro s
      rcases List.mem_cons.mp hmem with rfl | hrest
      · exact slot_evictAll_of_empty rest _ slot_evict_self
      · exact ih hrest (s.evict bad.url bad.fileName)

/-! ## The whole re-cache -/

/-- A list that came out of date was removed during the visit. -/
def CleanUpSkipped (env : CRLCacheEnv Crl) (clock : Nat → ClockReadings)
    (downloadCrl : String → Outcome (Option Bytes)) (s : State) : Prop :=
  ∃ visit ∈ visits env s, ComesExpired env (clock visit.2) downloadCrl visit.1

/-- What a re-cache makes of the slot of a record. -/
inductive Settled (env : CRLCacheEnv Crl) (clock : Nat → ClockReadings)
    (downloadCrl : String → Outcome (Option Bytes)) (s : State) (visit : CRLCacheRecord × Nat) :
    Option CRLCacheRecord × Option Bytes → Prop
  | recent : recentlyCached env (clock visit.2) visit.1 = true →
      Settled env clock downloadCrl s visit (some visit.1, s.crlDataMap visit.1.fileName)
  | refreshed {download : Option Bytes} {crl : Crl} {nextUpdate : Date} :
      recentlyCached env (clock visit.2) visit.1 = false →
      downloadCrl visit.1.url = .ok download → parsed env download = some (crl, nextUpdate) →
      ¬ nextUpdate < (clock visit.2).downloaded →
      Settled env clock downloadCrl s visit
        (some { visit.1 with nextUpdate := nextUpdate, lastCache := (clock visit.2).stored },
          download)
  | expired : ComesExpired env (clock visit.2) downloadCrl visit.1 →
      Settled env clock downloadCrl s visit (none, none)
  | removed : ¬ Good env (clock visit.2) downloadCrl visit.1 →
      ¬ CleanUpSkipped env clock downloadCrl s → Settled env clock downloadCrl s visit (none, none)
  | left (data : Option Bytes) : ¬ Good env (clock visit.2) downloadCrl visit.1 →
      ¬ ComesExpired env (clock visit.2) downloadCrl visit.1 →
      CleanUpSkipped env clock downloadCrl s →
      Settled env clock downloadCrl s visit (some visit.1, data)

section Recache

variable {env : CRLCacheEnv Crl} {clock : Nat → ClockReadings}
  {downloadCrl : String → Outcome (Option Bytes)} {s t : State}
  {badUrlList : List (Option CRLCacheRecord)}

/-- The visits of a re-cache, with what they put on the list. -/
abbrev VisitsTurned (env : CRLCacheEnv Crl) (clock : Nat → ClockReadings)
    (downloadCrl : String → Outcome (Option Bytes)) (s t : State)
    (badUrlList : List (Option CRLCacheRecord)) : Prop :=
  List.Forall₂ (fun visit bad => Turned env (clock visit.2) downloadCrl visit.1
    (s.crlDataMap visit.1.fileName) bad (slot visit.1 t)) (visits env s) badUrlList

/-- A key is lost during the visit exactly when a list came out of date. -/
theorem lost_iff_expired (hkept : WellKept s)
    (hturned : VisitsTurned env clock downloadCrl s t badUrlList)
    (hkeys : (keys t).Sublist (keys s)) :
    t.crlCacheMap.length ≠ s.crlCacheMap.length ↔ CleanUpSkipped env clock downloadCrl s := by
  have hlength : (keys t).length = t.crlCacheMap.length := List.length_map _
  have hlength' : (keys s).length = s.crlCacheMap.length := List.length_map _
  rw [← hlength, ← hlength']
  constructor
  · intro hlost
    by_contra hnone
    apply hlost
    -- every key of the old map is still looked up
    have hsub : keys s ⊆ keys t := by
      intro url hurl
      obtain ⟨visit, hvisit, rfl⟩ : ∃ visit ∈ visits env s, visit.1.url = url :=
        exists_visit hkept hurl
      obtain ⟨bad, -, hturn⟩ := forall₂_left hturned visit hvisit
      have hfound : (slot visit.1 t).1 ≠ none := fun hnone' =>
        hnone ⟨visit, hvisit, hturn.lost_iff.mp hnone'⟩
      obtain ⟨record, hrecord⟩ := Option.ne_none_iff_exists'.mp hfound
      exact mem_keys_of_lookup hrecord
    exact Nat.le_antisymm hkeys.length_le (List.subperm_of_subset hkept.nodup hsub).length_le
  · rintro ⟨visit, hvisit, hexpired⟩ hsame
    obtain ⟨bad, -, hturn⟩ := forall₂_left hturned visit hvisit
    have hgone : t.crlCacheMap.lookup visit.1.url = none := hturn.lost_iff.mpr hexpired
    have hmem : visit.1.url ∈ keys t := by
      rw [hkeys.eq_of_length hsame]
      exact mem_keys_of_lookup (lookup_of_visit hkept hvisit)
    obtain ⟨e, he, hurl⟩ := List.mem_map.mp hmem
    have hne : visit.1.url ≠ e.1 := bne_iff_ne.mp (List.lookup_eq_none_iff.mp hgone e he)
    exact hne hurl.symm

/-- The records on the list are bad ones. -/
theorem Turned.of_mem_bad {clock : ClockReadings} {record : CRLCacheRecord}
    {stored : Option Bytes} {bad : CRLCacheRecord} {found : Option CRLCacheRecord × Option Bytes}
    (h : Turned env clock downloadCrl record stored (some bad) found) :
    bad = record ∧ ¬ Good env clock downloadCrl record := by
  cases h with
  | expired hexpired => exact ⟨rfl, hexpired.not_good⟩
  | failed _ hgood _ => exact ⟨rfl, hgood⟩

/-- A record on the list is the one of a bad visit. -/
theorem visit_of_bad (hturned : VisitsTurned env clock downloadCrl s t badUrlList)
    {record : CRLCacheRecord} (hmem : record ∈ badUrlList.filterMap id) :
    ∃ visit ∈ visits env s, visit.1 = record ∧
      ¬ Good env (clock visit.2) downloadCrl visit.1 := by
  obtain ⟨bad, hbad, rfl⟩ := List.mem_filterMap.mp hmem
  obtain ⟨visit, hvisit, hturn⟩ := forall₂_left hturned.flip (some record) hbad
  obtain ⟨heq, hgood⟩ := hturn.of_mem_bad
  exact ⟨visit, hvisit, heq.symm, hgood⟩

/-- The turn of a good record settles its slot. -/
theorem Turned.settled_of_good {visit : CRLCacheRecord × Nat} {bad : Option CRLCacheRecord}
    {found : Option CRLCacheRecord × Option Bytes}
    (h : Turned env (clock visit.2) downloadCrl visit.1 (s.crlDataMap visit.1.fileName) bad found)
    (hgood : Good env (clock visit.2) downloadCrl visit.1) :
    Settled env clock downloadCrl s visit found := by
  cases h with
  | recent hrecent => exact .recent hrecent
  | refreshed hgrace hanswer hparsed hdate => exact .refreshed hgrace hanswer hparsed hdate
  | expired hexpired => exact absurd hgood hexpired.not_good
  | failed _ hbad _ => exact absurd hgood hbad

/-- Every turn settles its slot when the clean-up is skipped. -/
theorem Turned.settled_of_skipped {visit : CRLCacheRecord × Nat} {bad : Option CRLCacheRecord}
    {found : Option CRLCacheRecord × Option Bytes}
    (h : Turned env (clock visit.2) downloadCrl visit.1 (s.crlDataMap visit.1.fileName) bad found)
    (hskipped : CleanUpSkipped env clock downloadCrl s) :
    Settled env clock downloadCrl s visit found := by
  cases h with
  | recent hrecent => exact .recent hrecent
  | refreshed hgrace hanswer hparsed hdate => exact .refreshed hgrace hanswer hparsed hdate
  | expired hexpired => exact .expired hexpired
  | failed data hgood hexpired => exact .left data hgood hexpired hskipped

/-- A bad record is put on the list. -/
theorem Turned.listed {clock : ClockReadings} {record : CRLCacheRecord} {stored : Option Bytes}
    {bad : Option CRLCacheRecord} {found : Option CRLCacheRecord × Option Bytes}
    (h : Turned env clock downloadCrl record stored bad found)
    (hgood : ¬ Good env clock downloadCrl record) : bad = some record := by
  cases h with
  | recent hrecent => exact absurd (.inl hrecent) hgood
  | refreshed hgrace hanswer hparsed hdate =>
      exact absurd (.inr ⟨_, hanswer, _, _, hparsed, hdate⟩) hgood
  | expired _ => rfl
  | failed _ _ _ => rfl

/-- The end of the visit is the end of the re-cache when the clean-up is skipped. -/
theorem settled_of_skipped (hturned : VisitsTurned env clock downloadCrl s t badUrlList)
    (hskipped : CleanUpSkipped env clock downloadCrl s) :
    ∀ visit ∈ visits env s, Settled env clock downloadCrl s visit (slot visit.1 t) := by
  intro visit hvisit
  obtain ⟨bad, -, hturn⟩ := forall₂_left hturned visit hvisit
  exact hturn.settled_of_skipped hskipped

/-- Otherwise the slots of the bad records are emptied, and no others. -/
theorem settled_of_cleaned (hkept : WellKept s)
    (hturned : VisitsTurned env clock downloadCrl s t badUrlList)
    (hcleaned : ¬ CleanUpSkipped env clock downloadCrl s) :
    ∀ visit ∈ visits env s, Settled env clock downloadCrl s visit
      (slot visit.1 (t.evictAll (badUrlList.filterMap id))) := by
  intro visit hvisit
  obtain ⟨bad, hbad, hturn⟩ := forall₂_left hturned visit hvisit
  by_cases hgood : Good env (clock visit.2) downloadCrl visit.1
  · -- a bad record is that of another visit
    have hother : ∀ bad ∈ badUrlList.filterMap id,
        visit.1.url ≠ bad.url ∧ visit.1.fileName ≠ bad.fileName := by
      intro bad hmem
      obtain ⟨visit', hvisit', rfl, hgood'⟩ := visit_of_bad hturned hmem
      have hne : visit ≠ visit' := by
        rintro rfl
        exact hgood' hgood
      exact visit_unique hkept hvisit' hvisit hne
    rw [slot_evictAll_of_other hother]
    exact hturn.settled_of_good hgood
  · have hlisted : visit.1 ∈ badUrlList.filterMap id :=
      List.mem_filterMap.mpr ⟨bad, hbad, hturn.listed hgood⟩
    rw [slot_evictAll_of_mem hlisted]
    exact .removed hgood hcleaned

/-- **What a re-cache does.** It returns, adds no key, and settles the slot of every
record. -/
theorem recache_settled (hkept : WellKept s) :
    Mutating.wp (recache env clock downloadCrl)
      (fun _ t => (keys t).Sublist (keys s) ∧
        ∀ visit ∈ visits env s, Settled env clock downloadCrl s visit (slot visit.1 t))
      (fun _ _ => False) s := by
  unfold recache
  rw [Mutating.wp_catching, Mutating.wp_bind, Mutating.wp_get, Mutating.wp_bind]
  refine Mutating.wp_mono (visits_turned hkept) ?_ fun _ _ he => he.elim
  rintro badUrlList t ⟨hturned, hkeys⟩
  rw [Mutating.wp_bind, Mutating.wp_get]
  have hlost := lost_iff_expired hkept hturned hkeys
  split
  · rename_i hlength
    exact ⟨hkeys, settled_of_skipped hturned (hlost.mp hlength)⟩
  · rename_i hlength
    refine ⟨(keys_evictAll _ t).trans hkeys, ?_⟩
    exact settled_of_cleaned hkept hturned fun h => hlength (hlost.mpr h)

/-! ## When a re-cache does what it is for -/

/-- A record outlives the re-cache when it is good, or left over. -/
theorem Settled.found_iff {visit : CRLCacheRecord × Nat}
    {found : Option CRLCacheRecord × Option Bytes}
    (h : Settled env clock downloadCrl s visit found) :
    (∃ record, found.1 = some record) ↔ Good env (clock visit.2) downloadCrl visit.1 ∨
      ¬ ComesExpired env (clock visit.2) downloadCrl visit.1 ∧
        CleanUpSkipped env clock downloadCrl s := by
  cases h with
  | recent hrecent => exact iff_of_true ⟨_, rfl⟩ (.inl (.inl hrecent))
  | refreshed hgrace hanswer hparsed hdate =>
      exact iff_of_true ⟨_, rfl⟩ (.inl (.inr ⟨_, hanswer, _, _, hparsed, hdate⟩))
  | expired hexpired =>
      apply iff_of_false (by simp)
      rintro (hgood | ⟨hexpired', -⟩)
      · exact hexpired.not_good hgood
      · exact hexpired' hexpired
  | removed hgood hcleaned =>
      apply iff_of_false (by simp)
      rintro (hgood' | ⟨-, hskipped⟩)
      · exact hgood hgood'
      · exact hcleaned hskipped
  | left data _ hexpired hskipped => exact iff_of_true ⟨_, rfl⟩ (.inr ⟨hexpired, hskipped⟩)

/-- A slot without a record is empty. -/
theorem Settled.no_data {visit : CRLCacheRecord × Nat}
    {found : Option CRLCacheRecord × Option Bytes}
    (h : Settled env clock downloadCrl s visit found) (hnone : found.1 = none) :
    found.2 = none := by
  cases h with
  | recent _ => cases hnone
  | refreshed _ _ _ _ => cases hnone
  | expired _ => rfl
  | removed _ _ => rfl
  | left _ _ _ _ => cases hnone

/-- A recent record and its list stay as they were. -/
theorem Settled.of_recent {visit : CRLCacheRecord × Nat}
    {found : Option CRLCacheRecord × Option Bytes}
    (h : Settled env clock downloadCrl s visit found)
    (hrecent : recentlyCached env (clock visit.2) visit.1 = true) :
    found = (some visit.1, s.crlDataMap visit.1.fileName) := by
  cases h with
  | recent _ => rfl
  | refreshed hgrace _ _ _ =>
      rw [hrecent] at hgrace
      cases hgrace
  | expired hexpired => exact absurd (.inl hrecent) hexpired.not_good
  | removed hgood _ => exact absurd (.inl hrecent) hgood
  | left _ hgood _ _ => exact absurd (.inl hrecent) hgood

/-- Reading a list asks for its bytes only. -/
theorem getCachedCrl_congr {fileName : String} (h : s.crlDataMap fileName = t.crlDataMap fileName) :
    getCachedCrl env s fileName = getCachedCrl env t fileName := by
  unfold getCachedCrl
  rw [h]

/-- The list of a good record can be read when that of a recent one could be. -/
theorem Settled.readable {visit : CRLCacheRecord × Nat}
    (h : Settled env clock downloadCrl s visit (slot visit.1 t))
    (hgood : Good env (clock visit.2) downloadCrl visit.1)
    (hrecent : recentlyCached env (clock visit.2) visit.1 = true →
      ∃ crl, getCachedCrl env s visit.1.fileName = .ok crl) :
    ∃ record, t.crlCacheMap.lookup visit.1.url = some record ∧
      ∃ crl, getCachedCrl env t record.fileName = .ok crl := by
  cases hslot : slot visit.1 t with
  | mk found data =>
      obtain ⟨hlookup, hdata⟩ := Prod.mk.inj hslot
      rw [hslot] at h
      cases h with
      | recent hgrace =>
          refine ⟨visit.1, hlookup, ?_⟩
          rw [getCachedCrl_congr hdata]
          exact hrecent hgrace
      | refreshed hgrace hanswer hparsed hdate =>
          exact ⟨_, hlookup, _, (getCachedCrl_of_parsed hdata hparsed).1⟩
      | expired hexpired => exact absurd hgood hexpired.not_good
      | removed hgood' _ => exact absurd hgood hgood'
      | left _ hgood' _ _ => exact absurd hgood hgood'

/-- A key that is left is that of a visited record. -/
theorem visit_of_found (hkept : WellKept s) (hkeys : (keys t).Sublist (keys s)) {url : String}
    {record : CRLCacheRecord} (hfound : t.crlCacheMap.lookup url = some record) :
    ∃ visit ∈ visits env s, visit.1.url = url :=
  exists_visit hkept (hkeys.subset (mem_keys_of_lookup hfound))

end Recache

/-! ## The maps of a cache in use -/

/-- Each record stands under its URL. -/
structure Keyed (s : State) : Prop where
  nodup : (s.crlCacheMap.map Prod.fst).Nodup
  url : ∀ e ∈ s.crlCacheMap, e.2.url = e.1

section Keyed

variable {env : CRLCacheEnv Crl} {downloadCrl : String → Outcome (Option Bytes)} {s : State}

theorem Keyed.putRecord (h : Keyed s) (record : CRLCacheRecord) : Keyed (s.putRecord record) where
  nodup := nodup_putEntry h.nodup _ _
  url e he := by
    rcases mem_putEntry he with rfl | hold
    · rfl
    · exact h.url e hold

theorem Keyed.evict (h : Keyed s) (url fileName : String) : Keyed (s.evict url fileName) where
  nodup := h.nodup.sublist (keys_removeEntry_sublist _ _)
  url e he := h.url e (List.mem_of_mem_filter he)

theorem Keyed.evictAll (records : List CRLCacheRecord) :
    ∀ {s : State}, Keyed s → Keyed (s.evictAll records) := by
  induction records with
  | nil => exact fun h => h
  | cons record rest ih => exact fun h => ih (h.evict _ _)

theorem cacheCrlRecord_keyed (clock : ClockReadings) (record : CRLCacheRecord) (h : Keyed s) :
    Mutating.wp (cacheCrlRecord env clock downloadCrl record) (fun _ t => Keyed t)
      (fun _ t => Keyed t) s := by
  unfold cacheCrlRecord
  split
  · exact h
  · have hput : ∀ data, Keyed (s.putData record.fileName data) := fun _ => ⟨h.nodup, h.url⟩
    rw [Mutating.wp_bind, Mutating.wp_call]
    refine ⟨fun data _ => ?_, fun _ _ => h⟩
    rw [Mutating.wp_bind, Mutating.wp_modify, Mutating.wp_bind, Mutating.wp_get, Mutating.wp_bind,
      Mutating.wp_call]
    refine ⟨fun crl _ => ?_, fun _ _ => hput data⟩
    rw [Mutating.wp_bind, Mutating.wp_call]
    refine ⟨fun nextUpdate _ => ?_, fun _ _ => hput data⟩
    split
    · exact (hput data).evict _ _
    · exact hput data

theorem cacheAndGet_keyed (clock : ClockReadings) (url : String) (h : Keyed s) :
    Mutating.wp (cacheAndGet env clock downloadCrl url) (fun _ t => Keyed t)
      (fun _ t => Keyed t) s := by
  unfold cacheAndGet
  rw [Mutating.wp_bind]
  refine Mutating.wp_mono (cacheCrlRecord_keyed clock _ h) ?_ fun _ _ h => h
  intro cached t hcached
  rw [Mutating.wp_bind, Mutating.wp_modify, Mutating.wp_bind, Mutating.wp_get, Mutating.wp_bind,
    Mutating.wp_call]
  exact ⟨fun _ _ => hcached.putRecord cached, fun _ _ => hcached.putRecord cached⟩

theorem getCRL_keyed (clock : ClockReadings) (url : String) (h : Keyed s) :
    Mutating.wp (getCRL env clock downloadCrl url) (fun _ t => Keyed t) (fun _ t => Keyed t) s := by
  unfold getCRL
  split
  · exact h
  · rw [Mutating.wp_bind, Mutating.wp_get, Mutating.wp_bind, Mutating.wp_call]
    refine ⟨fun found _ => ?_, fun _ _ => h⟩
    cases found with
    | some crlInfo => exact h
    | none =>
        rw [Mutating.wp_catching]
        exact cacheAndGet_keyed clock url h

theorem recache_keyed (clock : Nat → ClockReadings) (h : Keyed s) :
    Mutating.wp (recache env clock downloadCrl) (fun _ t => Keyed t) (fun _ t => Keyed t) s := by
  unfold recache
  rw [Mutating.wp_catching, Mutating.wp_bind, Mutating.wp_get, Mutating.wp_bind]
  refine Mutating.wp_mono (Mutating.wp_mapM (R := fun _ _ => True) (I := Keyed) ?_ h) ?_
    (fun _ _ h => h)
  · intro visit _ t hkeyed
    unfold recacheRecord
    rw [Mutating.wp_catching, Mutating.wp_bind]
    refine Mutating.wp_mono (cacheCrlRecord_keyed _ _ hkeyed) ?_ ?_
    · exact fun cached u hcached => ⟨trivial, hcached.putRecord cached⟩
    · exact fun ex u hkept => ⟨trivial, hkept⟩
  · rintro bad t ⟨-, hkeyed⟩
    rw [Mutating.wp_bind, Mutating.wp_get]
    split
    · exact hkeyed
    · exact hkeyed.evictAll _

end Keyed

/-- **The maps are well kept** in every state that requests and re-caches lead to. -/
theorem reached_wellKept {env : CRLCacheEnv Crl} {now : Date} {s : State}
    {downloads : List Download} (hnames : Function.Injective env.getFileName)
    (hreached : Reached env now s downloads) : WellKept s := by
  have hkeyed : Keyed s := by
    induction hreached with
    | initial now => exact ⟨List.nodup_nil, fun _ h => (by cases h)⟩
    | getCRL downloadCrl url _ _ ih => exact Mutating.final_of_wp (getCRL_keyed _ url ih)
    | recache downloadCrl _ _ ih => exact Mutating.final_of_wp (recache_keyed _ ih)
  refine ⟨hkeyed.nodup, hkeyed.url, ?_⟩
  intro e he e' he' hfile
  have horder := reached_inOrder hnames hreached
  rw [(horder.filed e he).fileName, (horder.filed e' he').fileName] at hfile
  have hurl : e.1 = e'.1 := by
    rw [← hkeyed.url e he, ← hkeyed.url e' he']
    exact hnames hfile
  have hlookup := lookup_of_mem hkeyed.nodup he
  rw [hurl, lookup_of_mem hkeyed.nodup he'] at hlookup
  exact Prod.ext hurl (Option.some.inj hlookup).symm

/-- **When a re-cache evicts the bad records.** It does exactly when the list of each
record within the grace period could be read before, and a list that comes out of date
is the only kind of failure if there is one. -/
theorem recache_evictsBad_iff (env : CRLCacheEnv Crl) (clock : Nat → ClockReadings)
    (downloadCrl : String → Outcome (Option Bytes)) (s : State) (hkept : WellKept s) :
    EvictsBad env clock downloadCrl s ((recache env clock downloadCrl).run s).2 ↔
      (∀ visit ∈ visits env s, recentlyCached env (clock visit.2) visit.1 = true →
          ∃ crl, getCachedCrl env s visit.1.fileName = .ok crl) ∧
        (CleanUpSkipped env clock downloadCrl s → ∀ visit ∈ visits env s,
          Good env (clock visit.2) downloadCrl visit.1 ∨
            ComesExpired env (clock visit.2) downloadCrl visit.1) := by
  have hwp : Mutating.wp (recache env clock downloadCrl) _ _ s := recache_settled hkept
  obtain ⟨_, t, hrun, hkeys, hsettled⟩ := Mutating.run_of_wp_total hwp
  rw [hrun]
  constructor
  · intro h
    constructor
    · intro visit hvisit hrecent
      obtain ⟨hlookup, hdata⟩ := Prod.mk.inj ((hsettled visit hvisit).of_recent hrecent)
      rw [← getCachedCrl_congr hdata]
      exact h.readable visit.1.url visit.1 hlookup
    · intro hskipped visit hvisit
      by_contra hneither
      obtain ⟨hgood, hexpired⟩ := not_or.mp hneither
      obtain ⟨visit', hvisit', hurl, hgood'⟩ := (h.remaining visit.1.url).mp
        ((hsettled visit hvisit).found_iff.mpr (.inr ⟨hexpired, hskipped⟩))
      have hsame : visit' = visit := by
        by_contra hne
        exact (visit_unique hkept hvisit hvisit' hne).1 hurl
      exact hgood (hsame ▸ hgood')
  · rintro ⟨hread, honly⟩
    have hfound : ∀ visit ∈ visits env s, (∃ record, (slot visit.1 t).1 = some record) →
        Good env (clock visit.2) downloadCrl visit.1 := by
      intro visit hvisit hrecord
      rcases (hsettled visit hvisit).found_iff.mp hrecord with hgood | ⟨hexpired, hskipped⟩
      · exact hgood
      · exact (honly hskipped visit hvisit).resolve_right hexpired
    constructor
    · intro url
      constructor
      · rintro ⟨record, hrecord⟩
        obtain ⟨visit, hvisit, rfl⟩ : ∃ visit ∈ visits env s, visit.1.url = url :=
          visit_of_found hkept hkeys hrecord
        exact ⟨visit, hvisit, rfl, hfound visit hvisit ⟨record, hrecord⟩⟩
      · rintro ⟨visit, hvisit, rfl, hgood⟩
        exact (hsettled visit hvisit).found_iff.mpr (.inl hgood)
    · intro url record hrecord
      obtain ⟨visit, hvisit, rfl⟩ : ∃ visit ∈ visits env s, visit.1.url = url :=
        visit_of_found hkept hkeys hrecord
      obtain ⟨record', hrecord', hreadable⟩ := (hsettled visit hvisit).readable
        (hfound visit hvisit ⟨record, hrecord⟩) (hread visit hvisit)
      cases hrecord.symm.trans hrecord'
      exact hreadable
    · intro visit hvisit hnone
      exact (hsettled visit hvisit).no_data hnone

/-! Two lists, cached at time 10 and valid until 20, and a re-cache at time 30. -/

def twoListsEnv : CRLCacheEnv Nat := CRLCacheImpl.demoEnv.toCRLCacheEnv

def twoLists : State :=
  let request := fun url =>
    getCRL twoListsEnv (readingsAt 10) (fun _ => .ok (some [0x30, 20])) url
  ((request "http://crl.example.com/sub.crl").run
    ((request "http://crl.example.com/ca.crl").run State.empty).2).2

theorem twoLists_reached : ∃ downloads, Reached twoListsEnv 10 twoLists downloads :=
  ⟨_, .getCRL _ "http://crl.example.com/sub.crl"
    (.getCRL _ "http://crl.example.com/ca.crl" (.initial 10) (Int.le_refl 10)) (Int.le_refl 10)⟩

theorem twoLists_wellKept : WellKept twoLists := by
  obtain ⟨downloads, hreached⟩ := twoLists_reached
  exact reached_wellKept demoFileName_injective hreached

theorem twoLists_visits : visits twoListsEnv twoLists =
    [(⟨10, 20, "http://crl.example.com/ca.crl", "19qfodidpbncqh0i1p99gp62umshtrj3.crl"⟩, 0),
      (⟨10, 20, "http://crl.example.com/sub.crl", "http://crl.example.com/sub.crl"⟩, 1)] := by
  decide +kernel

theorem twoLists_not_recent : ∀ visit ∈ visits twoListsEnv twoLists,
    recentlyCached twoListsEnv (readingsAt 30) visit.1 = false := by
  rw [twoLists_visits]
  decide

/-- What the network answers when one list is there and the other host is down. -/
def oneHostDown (nextUpdate : UInt8) : String → Outcome (Option Bytes) := fun url =>
  if url = "http://crl.example.com/ca.crl" then .ok (some [0x30, nextUpdate])
  else .error ⟨.io, "connect timed out"⟩

theorem oneHostDown_other {nextUpdate : UInt8} {url : String} {download : Option Bytes}
    (h : oneHostDown nextUpdate url = .ok download) :
    url = "http://crl.example.com/ca.crl" ∧ download = some [0x30, nextUpdate] := by
  unfold oneHostDown at h
  split at h
  · rename_i hurl
    cases h
    exact ⟨hurl, rfl⟩
  · cases h

/-- A list that lasts until 50 stays, and the one that does not come is removed. -/
theorem recache_evictsBad_iff_one_host_down :
    EvictsBad twoListsEnv (fun _ => readingsAt 30) (oneHostDown 50) twoLists
      ((recache twoListsEnv (fun _ => readingsAt 30) (oneHostDown 50)).run twoLists).2 := by
  refine (recache_evictsBad_iff _ _ _ _ twoLists_wellKept).mpr ⟨?_, ?_⟩
  · intro visit hvisit hrecent
    rw [twoLists_not_recent visit hvisit] at hrecent
    cases hrecent
  · rintro ⟨visit, hvisit, -, download, hanswer, crl, nextUpdate, hparsed, hdate⟩
    obtain ⟨-, rfl⟩ := oneHostDown_other hanswer
    cases hparsed
    have hafter : ¬ (50 : Int) < 30 := by decide
    exact absurd hdate hafter

/-- A list that was out of date at 25 is removed, and because it is, the record whose
list did not come is left in the cache. -/
theorem expired_list_saves_failed :
    (∃ downloads, Reached twoListsEnv 10 twoLists downloads) ∧
      ¬ EvictsBad twoListsEnv (fun _ => readingsAt 30) (oneHostDown 25) twoLists
        ((recache twoListsEnv (fun _ => readingsAt 30) (oneHostDown 25)).run twoLists).2 := by
  refine ⟨twoLists_reached, ?_⟩
  intro h
  have hleft : (((recache twoListsEnv (fun _ => readingsAt 30) (oneHostDown 25)).run
      twoLists).2.crlCacheMap.lookup "http://crl.example.com/sub.crl").isSome = true := by
    decide +kernel
  obtain ⟨visit, hvisit, hurl, hgood⟩ :=
    (h.remaining _).mp (Option.isSome_iff_exists.mp hleft)
  rcases hgood with hrecent | ⟨download, hanswer, -⟩
  · rw [twoLists_not_recent visit hvisit] at hrecent
    cases hrecent
  · obtain ⟨hother, -⟩ := oneHostDown_other hanswer
    rw [hurl] at hother
    exact absurd hother (by decide)

end InMemoryCRLCache

end SigVal.Cert
