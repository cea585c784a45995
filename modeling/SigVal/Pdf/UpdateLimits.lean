import SigVal.Pdf.RevisionScan

/-!
# What a safe update may leave out and add

`getXrefUpdates` goes through the cross references and the catalog of the new revision and
looks each of them up in the one before. What the old revision had and the new one lacks
is never met on the way. New catalog entries are met and listed, but the list counts only
for DSS stores, not for safe updates.
-/

namespace SigVal.Pdf

open SigVal.Java DefaultPDFSignatureContext

variable {jvm : Jvm} {provider : GeneralSafeObjects} {last rev : PDFDocRevision}

/-! ## Objects of the revision before -/

/-- The number of the root, or one that was collected as safe. -/
def MayChange (jvm : Jvm) (provider : GeneralSafeObjects) (last rev : PDFDocRevision)
    (number : Nat) : Prop :=
  number = rev.rootObjectId ∨
    number ∈ (getXrefUpdates jvm provider rev (some last)).safeObjects

/-- **Objects under a safe update.** The cross references of the revision before are all
kept, those that may change apart, exactly when none of them is missing. -/
theorem safeUpdate_objects_kept_iff
    (hsafe : (getXrefUpdates jvm provider rev (some last)).safeUpdate = true) :
    (∀ key offset, last.xrefTable.lookup key = some offset →
      MayChange jvm provider last rev key.number ∨ rev.xrefTable.lookup key = some offset) ↔
    ∀ key ∈ last.xrefTable, MayChange jvm provider last rev key.number ∨ key ∈ rev.xrefTable := by
  constructor
  · intro hkept key hkey
    obtain ⟨offset, hoffset⟩ := Option.isSome_iff_exists.mp (AList.lookup_isSome.mpr hkey)
    rcases hkept key offset hoffset with hmay | hnew
    · exact .inl hmay
    · exact .inr (AList.lookup_isSome.mp (Option.isSome_iff_exists.mpr ⟨offset, hnew⟩))
  · intro hpresent key offset hoffset
    have hkey : key ∈ last.xrefTable :=
      AList.lookup_isSome.mp (Option.isSome_iff_exists.mpr ⟨offset, hoffset⟩)
    rcases hpresent key hkey with hmay | hnew
    · exact .inl hmay
    · obtain ⟨newOffset, hnewOffset⟩ := Option.isSome_iff_exists.mp (AList.lookup_isSome.mpr hnew)
      by_cases hsame : offset = newOffset
      · exact .inr (hsame ▸ hnewOffset)
      · -- a reference that moved was let through by its number
        have hmoved : Changed last rev key := ⟨offset, newOffset, hoffset, hnewOffset, hsame⟩
        rcases (safeUpdate_iff.mp hsafe).2.2 key hmoved with hroot | hcollected | hgeneral
        · exact .inl (.inl hroot)
        · exact .inl (.inr (List.mem_append_left _ hcollected))
        · exact .inl (.inr (List.mem_append_right _ hgeneral))

/-- The table of the update is complete. -/
theorem safeUpdate_objects_kept_switched :
    (getXrefUpdates plainJvm strictGeneralSafeObjects switchedRevision
      (some signedRevision)).safeUpdate = true ∧
    ∀ key offset, signedRevision.xrefTable.lookup key = some offset →
      MayChange plainJvm strictGeneralSafeObjects signedRevision switchedRevision key.number ∨
        switchedRevision.xrefTable.lookup key = some offset := by
  have hsafe : (getXrefUpdates plainJvm strictGeneralSafeObjects switchedRevision
      (some signedRevision)).safeUpdate = true := rfl
  refine ⟨hsafe, (safeUpdate_objects_kept_iff hsafe).mpr ?_⟩
  intro key hkey
  right
  revert key
  decide

/-- A table that starts anew, without the pages. -/
def bareDocument : COSDocument where
  xrefTable := [⟨⟨1, 0⟩, 10⟩].toAList
  objects := pageObjects.toAList
  trailer := [("Root", .object ⟨1, 0⟩)]
  objects_wf := pageObjects_wf

def bareRevision : PDFDocRevision := .ofDocument 900 false false bareDocument ⟨1, 0⟩ rfl

/-- The pages are gone, and the update is safe. -/
theorem pages_missing_unnoticed :
    (getXrefUpdates plainJvm strictGeneralSafeObjects bareRevision
      (some signedRevision)).safeUpdate = true ∧
    ¬ ∀ key offset, signedRevision.xrefTable.lookup key = some offset →
      MayChange plainJvm strictGeneralSafeObjects signedRevision bareRevision key.number ∨
        bareRevision.xrefTable.lookup key = some offset := by
  refine ⟨rfl, ?_⟩
  intro hkept
  rcases hkept ⟨2, 0⟩ 20 rfl with (hroot | hsafe) | hnew
  · exact absurd hroot (by decide)
  · exact absurd hsafe (by decide)
  · exact absurd hnew (by decide)

/-! ## Catalogs along the revisions -/

/-- The name stands in the catalog of the revision. -/
def InCatalog (rev : PDFDocRevision) (name : String) : Prop :=
  ∃ rootDic, rev.catalog = some rootDic ∧ ∃ value, (name, value) ∈ rootDic

/-- The catalog has the name, and did not have it before. -/
def Gained (last rev : PDFDocRevision) (name : String) : Prop :=
  InCatalog rev name ∧ ¬ InCatalog last name

/-- The names a later revision may add to the catalog. -/
def MayGain (last rev : PDFDocRevision) (name : String) : Prop :=
  name = "DSS" ∨ name = "AcroForm" ∨ name = "Extensions" ∧ Gained last rev "DSS"

/-- What is documented for the catalog of a later revision: no entry goes, and only
listed ones come. -/
structure WithinLimits (last rev : PDFDocRevision) : Prop where
  kept : ∀ name, InCatalog last name → InCatalog rev name
  gained : ∀ name, Gained last rev name → MayGain last rev name

/-- The catalog is another one or was written again, and an entry is gone or one came
that is not listed. -/
structure Oversteps (last rev : PDFDocRevision) : Prop where
  touched : ¬ RootUntouched last rev
  altered : (∃ name, InCatalog last name ∧ ¬ InCatalog rev name) ∨
    ∃ name, Gained last rev name ∧ ¬ MayGain last rev name

/-- A root that was left alone has the same catalog, so that nothing comes or goes. -/
theorem withinLimits_iff (hfile : ReadFromOneFile last rev) :
    WithinLimits last rev ↔ ¬ Oversteps last rev := by
  constructor
  · rintro hlimits ⟨-, ⟨name, hlast, hrev⟩ | ⟨name, hgained, hother⟩⟩
    · exact hrev (hlimits.kept name hlast)
    · exact hother (hlimits.gained name hgained)
  · intro hwithin
    by_cases huntouched : RootUntouched last rev
    · have hsame : ∀ name, InCatalog last name ↔ InCatalog rev name := by
        intro name
        unfold InCatalog
        rw [catalog_of_untouched hfile huntouched]
      refine ⟨fun name => (hsame name).mp, ?_⟩
      rintro name ⟨hrev, hlast⟩
      exact absurd ((hsame name).mpr hrev) hlast
    · refine ⟨?_, ?_⟩
      · intro name hlast
        by_contra hrev
        exact hwithin ⟨huntouched, .inl ⟨name, hlast, hrev⟩⟩
      · intro name hgained
        by_contra hother
        exact hwithin ⟨huntouched, .inr ⟨name, hgained, hother⟩⟩

/-! ### What the marks ask for instead -/

/-- An entry of the new catalog, where the old one has a value for it: of a known kind,
and the same one, the form apart. -/
def EntryPasses (jvm : Jvm) (lastRoot : Option (List (String × COSBase)))
    (entry : String × COSBase) : Prop :=
  ∃ lastDic, lastRoot = some lastDic ∧ ∀ lastValue, lastDic.lookup entry.1 = some lastValue →
    ObjectValue.ofBase lastValue ≠ .other ∧
      (entry.1 = "AcroForm" ∨
        (ObjectValue.ofBase entry.2).valueMatches jvm (ObjectValue.ofBase lastValue) = true)

/-- The update passes: a catalog that is compared passes entry by entry, and every
reference that moved is the root's, exempted by the catalog or by the provider. -/
structure Passes (jvm : Jvm) (provider : GeneralSafeObjects) (last rev : PDFDocRevision) :
    Prop where
  catalog : RootCompared last rev → ∃ rootDic, rev.catalog = some rootDic ∧
    ∀ entry ∈ rootDic, EntryPasses jvm last.catalog entry
  references : ∀ key, Changed last rev key → key.number = rev.rootObjectId ∨
    (RootCompared last rev ∧ ∃ rootDic lastDic, rev.catalog = some rootDic ∧
      last.catalog = some lastDic ∧ CatalogExempt jvm rev.cosDocument rootDic key.number) ∨
    key.number ∈ provider (collectUpdates jvm rev (some last))

/-- Nothing wrong was found so far. -/
def RootScan.Clean (scan : RootScan) : Prop :=
  scan.legalRootObject = true ∧ ∀ name ∈ scan.changedRootItems, name = "AcroForm"

theorem scanRootEntry_clean_iff (doc : COSDocument) (lastRoot : Option (List (String × COSBase)))
    (acc : RootScan) (entry : String × COSBase) :
    (scanRootEntry jvm doc lastRoot acc entry).Clean ↔
      acc.Clean ∧ EntryPasses jvm lastRoot entry := by
  cases lastRoot with
  | none => simp [scanRootEntry, RootScan.Clean, EntryPasses]
  | some lastDic =>
      cases hlast : lastDic.lookup entry.1 with
      | none =>
          simp [scanRootEntry, compareRootItem, RootScan.Clean, EntryPasses, hlast,
            ObjectValue.ofCOS]
      | some lastValue =>
          have hnull := ObjectValue.ofBase_ne_null lastValue
          simp only [scanRootEntry, compareRootItem, RootScan.Clean, EntryPasses, hlast,
            ObjectValue.ofCOS, Option.some.injEq, exists_eq_left', forall_eq']
          split
          · rename_i hvalue
            exact absurd hvalue hnull
          · rename_i hvalue
            simp [hvalue]
          · rename_i hother
            split
            · rename_i hmatch
              have hknown : ObjectValue.ofBase lastValue ≠ .other := hother
              simp [hknown, hmatch]
            · rename_i hdiffers
              simp only [List.mem_append, List.mem_singleton]
              constructor
              · rintro ⟨hlegal, hnames⟩
                exact ⟨⟨hlegal, fun name hname => hnames name (.inl hname)⟩, hother,
                  .inl (hnames _ (.inr rfl))⟩
              · rintro ⟨⟨hlegal, hnames⟩, -, hform | hmatch⟩
                · refine ⟨hlegal, ?_⟩
                  rintro name (hname | rfl)
                  · exact hnames name hname
                  · exact hform
                · exact absurd hmatch hdiffers

theorem scan_clean_iff (doc : COSDocument) (lastRoot : Option (List (String × COSBase)))
    (entries : List (String × COSBase)) (acc : RootScan) :
    (entries.foldl (scanRootEntry jvm doc lastRoot) acc).Clean ↔
      acc.Clean ∧ ∀ entry ∈ entries, EntryPasses jvm lastRoot entry := by
  induction entries generalizing acc with
  | nil => simp
  | cons entry rest ih =>
      rw [List.foldl_cons, ih, scanRootEntry_clean_iff, List.forall_mem_cons, and_assoc]

theorem scanRoot_clean_iff :
    (scanRoot jvm rev last.catalog).Clean ↔ ∃ rootDic, rev.catalog = some rootDic ∧
      ∀ entry ∈ rootDic, EntryPasses jvm last.catalog entry := by
  unfold scanRoot
  cases hcatalog : rev.catalog with
  | none => simp [RootScan.Clean]
  | some rootDic =>
      have hstart : RootScan.start.Clean := ⟨rfl, by simp [RootScan.start]⟩
      simp [scan_clean_iff, hstart]

/-- The mark, in terms of the two revisions alone. -/
theorem passes_iff_safeUpdate :
    Passes jvm provider last rev ↔
      (getXrefUpdates jvm provider rev (some last)).safeUpdate = true := by
  rw [safeUpdate_iff, ← and_assoc]
  by_cases hroot : RootCompared last rev
  · obtain ⟨hlegal, hchanged, hsafe⟩ := collectUpdates_scan jvm hroot
    have hclean : (scanRoot jvm rev last.catalog).Clean ↔
        (collectUpdates jvm rev (some last)).legalRootObject = true ∧
          ∀ name ∈ (collectUpdates jvm rev (some last)).changedRootItems, name = "AcroForm" := by
      rw [hlegal, hchanged]
      rfl
    rw [← hclean, scanRoot_clean_iff, hsafe]
    constructor
    · rintro ⟨hcatalog, hrefs⟩
      refine ⟨hcatalog hroot, ?_⟩
      intro key hkey
      rcases hrefs key hkey with hnumber | ⟨-, hexempt⟩ | hgeneral
      · exact .inl hnumber
      · exact .inr (.inl (mem_scanRoot_safeObjects.mpr hexempt))
      · exact .inr (.inr hgeneral)
    · rintro ⟨hcatalog, hrefs⟩
      refine ⟨fun _ => hcatalog, ?_⟩
      intro key hkey
      rcases hrefs key hkey with hnumber | hexempt | hgeneral
      · exact .inl hnumber
      · exact .inr (.inl ⟨hroot, mem_scanRoot_safeObjects.mp hexempt⟩)
      · exact .inr (.inr hgeneral)
  · have hstart := collectUpdates_not_compared jvm hroot
    constructor
    · rintro ⟨-, hrefs⟩
      refine ⟨⟨hstart.1, by simp [hstart.2.1]⟩, ?_⟩
      intro key hkey
      rcases hrefs key hkey with hnumber | ⟨hcompared, -⟩ | hgeneral
      · exact .inl hnumber
      · exact absurd hcompared hroot
      · exact .inr (.inr hgeneral)
    · rintro ⟨-, hrefs⟩
      refine ⟨fun hcompared => absurd hcompared hroot, ?_⟩
      intro key hkey
      rcases hrefs key hkey with hnumber | hexempt | hgeneral
      · exact .inl hnumber
      · rw [hstart.2.2] at hexempt
        cases hexempt
      · exact .inr (.inr hgeneral)

/-! ### All revisions after a signature -/

theorem getXrefUpdates_congr {before before' : Option PDFDocRevision}
    (h : Option.Rel SameFile before before') :
    getXrefUpdates jvm provider rev before = getXrefUpdates jvm provider rev before' := by
  unfold getXrefUpdates
  rw [collectUpdates_congr h]

/-- A mark rests on the revision before as it was loaded. -/
theorem markRevisions_succ (jvm : Jvm) (provider : GeneralSafeObjects)
    (loaded : List PDFDocRevision) :
    ∀ (before : Option PDFDocRevision) (i : Nat) (last rev : PDFDocRevision),
      loaded[i]? = some last → loaded[i + 1]? = some rev →
      (markRevisions jvm provider before loaded)[i + 1]? =
        some (getXrefUpdates jvm provider rev (some last)) := by
  induction loaded with
  | nil =>
      intro before i last rev hlast _
      cases hlast
  | cons first rest ih =>
      intro before i last rev hlast hrev
      rw [markRevisions, List.getElem?_cons_succ]
      cases i with
      | zero =>
          rw [List.getElem?_cons_zero] at hlast
          cases hlast
          cases rest with
          | nil => cases hrev
          | cons second later =>
              cases hrev
              rw [markRevisions, List.getElem?_cons_zero]
              exact congrArg some (getXrefUpdates_congr (.some ⟨rfl, rfl⟩))
      | succ j => exact ih _ j last rev hlast hrev

/-- `rev` directly follows `last`, which is the revision at the index or a later one. -/
def FollowsAfter (loaded : List PDFDocRevision) (idx : Nat) (last rev : PDFDocRevision) : Prop :=
  ∃ i, idx ≤ i ∧ loaded[i]? = some last ∧ loaded[i + 1]? = some rev

/-- The verdict in terms of the revisions as they were loaded. -/
theorem covers_iff_passes {pdfBytes : Bytes} {loaded : List PDFDocRevision}
    {signature : PDSignature} {idx : Nat}
    (hfound : (ofRevisions jvm provider pdfBytes loaded).getSignatureRevisionIndex signature =
      .ok (some idx)) :
    (ofRevisions jvm provider pdfBytes loaded).isCoversWholeDocument signature = .ok true ↔
      ∀ last rev, FollowsAfter loaded idx last rev → Passes jvm provider last rev := by
  have hlength : (markRevisions jvm provider none loaded).length = loaded.length := by
    simpa using congrArg List.length (markRevisions_length jvm provider loaded none)
  rw [isCoversWholeDocument_iff]
  constructor
  · rintro ⟨idx', hfound', hall⟩ last rev ⟨i, hi, hlast, hrev⟩
    rw [hfound] at hfound'
    cases hfound'
    rw [List.all_eq_true] at hall
    refine passes_iff_safeUpdate.mpr (hall _ ?_)
    have hmark := markRevisions_succ jvm provider loaded none i last rev hlast hrev
    refine List.mem_iff_getElem?.mpr ⟨i - idx, ?_⟩
    rw [List.getElem?_drop]
    have hsum : idx + 1 + (i - idx) = i + 1 := by omega
    rw [hsum]
    exact hmark
  · intro hpasses
    refine ⟨idx, hfound, ?_⟩
    rw [List.all_eq_true]
    intro marked hmarked
    obtain ⟨j, hj⟩ := List.mem_iff_getElem?.mp hmarked
    rw [List.getElem?_drop] at hj
    have hbound := (List.getElem?_eq_some_iff.mp hj).1
    have hbound' : idx + 1 + j < loaded.length := hlength ▸ hbound
    have hlast : loaded[idx + j]? = some loaded[idx + j] := List.getElem?_eq_getElem _
    have hrev : loaded[idx + j + 1]? = some loaded[idx + j + 1] := List.getElem?_eq_getElem _
    have hmark := markRevisions_succ jvm provider loaded none _ _ _ hlast hrev
    have hsum : idx + 1 + j = idx + j + 1 := by omega
    rw [hsum] at hj
    change (markRevisions jvm provider none loaded)[idx + j + 1]? = some marked at hj
    rw [hmark] at hj
    cases hj
    exact passes_iff_safeUpdate.mp (hpasses _ _ ⟨idx + j, by omega, hlast, hrev⟩)

/-- **Catalogs after a covered signature.** That a signature covers the whole document
bounds what later catalogs drop and gain exactly when no later revision oversteps the
limits, or one of them fails for another reason. -/
theorem covers_within_limits_iff {pdfBytes : Bytes} {loaded : List PDFDocRevision}
    {signature : PDSignature} {idx : Nat}
    (hfile : ∀ last rev, FollowsAfter loaded idx last rev → ReadFromOneFile last rev)
    (hfound : (ofRevisions jvm provider pdfBytes loaded).getSignatureRevisionIndex signature =
      .ok (some idx)) :
    ((ofRevisions jvm provider pdfBytes loaded).isCoversWholeDocument signature = .ok true →
      ∀ last rev, FollowsAfter loaded idx last rev → WithinLimits last rev) ↔
    (∀ last rev, FollowsAfter loaded idx last rev → ¬ Oversteps last rev) ∨
      ∃ last rev, FollowsAfter loaded idx last rev ∧ ¬ Passes jvm provider last rev := by
  rw [covers_iff_passes hfound]
  have hlimits : (∀ last rev, FollowsAfter loaded idx last rev → WithinLimits last rev) ↔
      ∀ last rev, FollowsAfter loaded idx last rev → ¬ Oversteps last rev :=
    forall₂_congr fun last rev => forall_congr' fun h => withinLimits_iff (hfile last rev h)
  rw [hlimits]
  constructor
  · intro hclaim
    by_cases hpasses : ∀ last rev, FollowsAfter loaded idx last rev → Passes jvm provider last rev
    · exact .inl (hclaim hpasses)
    · right
      push Not at hpasses
      exact hpasses
  · rintro (hwithin | ⟨last, rev, hfollows, hfails⟩) hpasses
    · exact hwithin
    · exact absurd (hpasses last rev hfollows) hfails

/-! The catalog is written again: the update adds layers to it, of which none is in the
list. -/

def layeredObjects : List (Sigma fun _ : COSObjectKey => COSBase) :=
  [⟨⟨1, 0⟩, .dictionary [("Pages", .object ⟨2, 0⟩), ("OCProperties", .dictionary [])]⟩,
    ⟨⟨2, 0⟩, .dictionary [("Kids", .array [.object ⟨3, 0⟩])]⟩,
    ⟨⟨3, 0⟩, .dictionary [("Contents", .object ⟨4, 0⟩)]⟩,
    ⟨⟨4, 0⟩, .stream []⟩]

def layeredDocument : COSDocument where
  xrefTable := [⟨⟨1, 0⟩, 510⟩, ⟨⟨2, 0⟩, 20⟩, ⟨⟨3, 0⟩, 30⟩, ⟨⟨4, 0⟩, 40⟩].toAList
  objects := layeredObjects.toAList
  trailer := [("Root", .object ⟨1, 0⟩)]
  objects_wf := by decide

def layeredRevision : PDFDocRevision :=
  .ofDocument 900 false false layeredDocument ⟨1, 0⟩ rfl

/-- The signature of the first revision, which ends at 500. -/
def firstSignature : PDSignature := ⟨[0, 100, 300, 200], none⟩

theorem follows_signed {rev last' rev' : PDFDocRevision}
    (h : FollowsAfter [signedRevision, rev] 0 last' rev') :
    last' = signedRevision ∧ rev' = rev := by
  obtain ⟨i, -, hlast, hrev⟩ := h
  cases i with
  | zero =>
      cases hlast
      cases hrev
      exact ⟨rfl, rfl⟩
  | succ j => cases hrev

/-- The new pages come with a catalog of the same keys. -/
theorem covers_within_limits_switched :
    (∀ last rev, FollowsAfter [signedRevision, switchedRevision] 0 last rev →
      ReadFromOneFile last rev) ∧
    (ofRevisions plainJvm strictGeneralSafeObjects [] [signedRevision, switchedRevision]
      ).getSignatureRevisionIndex firstSignature = .ok (some 0) ∧
    ((ofRevisions plainJvm strictGeneralSafeObjects [] [signedRevision, switchedRevision]
      ).isCoversWholeDocument firstSignature = .ok true →
      ∀ last rev, FollowsAfter [signedRevision, switchedRevision] 0 last rev →
        WithinLimits last rev) := by
  have hfile : ∀ last rev, FollowsAfter [signedRevision, switchedRevision] 0 last rev →
      ReadFromOneFile last rev := by
    intro last rev h
    obtain ⟨rfl, rfl⟩ := follows_signed h
    exact signed_switched_one_file
  have hpages : ∀ name, InCatalog signedRevision name ↔ name = "Pages" := by
    intro name
    simp [InCatalog, show signedRevision.catalog = some [("Pages", .object ⟨2, 0⟩)] from rfl]
  have hswitched : ∀ name, InCatalog switchedRevision name ↔ name = "Pages" := by
    intro name
    simp [InCatalog, show switchedRevision.catalog = some [("Pages", .object ⟨6, 0⟩)] from rfl]
  refine ⟨hfile, rfl, (covers_within_limits_iff hfile rfl).mpr (.inl ?_)⟩
  rintro last rev h ⟨-, ⟨name, hlast, hrev⟩ | ⟨name, ⟨hrev, hlast⟩, -⟩⟩
  · obtain ⟨rfl, rfl⟩ := follows_signed h
    exact hrev ((hswitched name).mpr ((hpages name).mp hlast))
  · obtain ⟨rfl, rfl⟩ := follows_signed h
    exact hlast ((hpages name).mpr ((hswitched name).mp hrev))

/-- Layers are added to the signed document, and the signature covers it all. -/
theorem layers_added_covered :
    (ofRevisions plainJvm strictGeneralSafeObjects [] [signedRevision, layeredRevision]
      ).isCoversWholeDocument firstSignature = .ok true ∧
    (ofRevisions plainJvm (defaultGeneralSafeObjects plainJvm) []
      [signedRevision, layeredRevision]).isCoversWholeDocument firstSignature = .ok true ∧
    FollowsAfter [signedRevision, layeredRevision] 0 signedRevision layeredRevision ∧
    ReadFromOneFile signedRevision layeredRevision ∧
    ¬ WithinLimits signedRevision layeredRevision := by
  refine ⟨rfl, rfl, ⟨0, Nat.le_refl 0, rfl, rfl⟩, ?_, ?_⟩
  · intro k o _ hlast hrev
    have hmem : k ∈ signedRevision.xrefTable :=
      AList.lookup_isSome.mp (Option.isSome_iff_exists.mpr ⟨o, hlast⟩)
    have hkeys : ∀ k ∈ signedRevision.xrefTable.keys,
        k = ⟨1, 0⟩ ∨ k = ⟨2, 0⟩ ∨ k = ⟨3, 0⟩ ∨ k = ⟨4, 0⟩ := by decide
    rcases hkeys k hmem with rfl | rfl | rfl | rfl
    · -- the catalog moved
      rw [← hrev] at hlast
      exact absurd hlast (by decide)
    · rfl
    · rfl
    · rfl
  · intro hlimits
    have hgained : Gained signedRevision layeredRevision "OCProperties" := by
      refine ⟨⟨_, rfl, _, List.mem_cons_of_mem _ List.mem_cons_self⟩, ?_⟩
      rintro ⟨rootDic, hcatalog, value, hvalue⟩
      cases hcatalog
      simp at hvalue
    rcases hlimits.gained _ hgained with h | h | ⟨h, -⟩
    · exact absurd h (by decide)
    · exact absurd h (by decide)
    · exact absurd h (by decide)

end SigVal.Pdf
