import SigVal.Pdf.Revision

/-!
# What a safe update guarantees

A revision marked `safeUpdate` is taken to leave the visible document alone.
Two promises go with the mark: objects that the pages of the earlier revision
reach keep their place in the file, and the two catalogs agree on every entry
they share, the form apart.

Neither holds as it stands. The mark looks only at references that both tables
have, lets exempt numbers change whatever they are used for, and compares the
catalogs only when a reference with the new root's number changed. Both
theorems below say exactly which inputs slip through.
-/

namespace SigVal.Pdf

open SigVal.Java

/-! ## The scan of the catalog, one entry and then all -/

section Scan

variable (jvm : Jvm) (doc : COSDocument) (lastDic : List (String × COSBase))

theorem compareRootItem_safeObjects (key : String) (value lastValue : ObjectValue)
    (acc : RootScan) : (compareRootItem jvm key value lastValue acc).safeObjects =
      acc.safeObjects := by
  unfold compareRootItem
  split
  · rfl
  · rfl
  · split
    · rfl
    · rfl

/-- An entry never takes back what the scan has found wrong. -/
theorem scanRootEntry_mono (acc : RootScan) (entry : String × COSBase) :
    ((scanRootEntry jvm doc (some lastDic) acc entry).legalRootObject = true →
      acc.legalRootObject = true) ∧
    acc.changedRootItems ⊆ (scanRootEntry jvm doc (some lastDic) acc entry).changedRootItems := by
  simp only [scanRootEntry, compareRootItem]
  split
  · exact ⟨id, List.Subset.refl _⟩
  · exact ⟨fun h => absurd h Bool.false_ne_true, List.Subset.refl _⟩
  · split
    · exact ⟨id, List.Subset.refl _⟩
    · exact ⟨id, List.subset_append_left _ _⟩

/-- An entry the last catalog has too is found legal and matching, or it is
reported. -/
theorem scanRootEntry_reports (acc : RootScan) {key : String} (value : COSBase)
    {lastValue : COSBase}
    (hlast : lastDic.lookup key = some lastValue) :
    (scanRootEntry jvm doc (some lastDic) acc (key, value)).legalRootObject = false ∨
    (ObjectValue.ofBase value).valueMatches jvm (ObjectValue.ofBase lastValue) = true ∨
    key ∈ (scanRootEntry jvm doc (some lastDic) acc (key, value)).changedRootItems := by
  simp only [scanRootEntry, compareRootItem, hlast, ObjectValue.ofCOS]
  split
  · rename_i hnull
    exact absurd hnull (ObjectValue.ofBase_ne_null lastValue)
  · exact Or.inl rfl
  · split
    · rename_i hmatch
      exact Or.inr (Or.inl hmatch)
    · exact Or.inr (Or.inr (List.mem_append_right _ List.mem_cons_self))

theorem scan_mono (entries : List (String × COSBase)) (acc : RootScan) :
    ((entries.foldl (scanRootEntry jvm doc (some lastDic)) acc).legalRootObject = true →
      acc.legalRootObject = true) ∧
    acc.changedRootItems ⊆
      (entries.foldl (scanRootEntry jvm doc (some lastDic)) acc).changedRootItems := by
  induction entries generalizing acc with
  | nil => exact ⟨id, List.Subset.refl _⟩
  | cons e es ih =>
      obtain ⟨hlegal, hsub⟩ := ih (scanRootEntry jvm doc (some lastDic) acc e)
      obtain ⟨hlegal', hsub'⟩ := scanRootEntry_mono jvm doc lastDic acc e
      exact ⟨fun h => hlegal' (hlegal h), fun _ hmem => hsub (hsub' hmem)⟩

variable {jvm doc lastDic}

/-- A scan that finds the root legal has compared every shared entry. -/
theorem scan_compares {entries : List (String × COSBase)} {acc : RootScan}
    (hlegal : (entries.foldl (scanRootEntry jvm doc (some lastDic)) acc).legalRootObject = true)
    {key : String} {value lastValue : COSBase} (hmem : (key, value) ∈ entries)
    (hlast : lastDic.lookup key = some lastValue) :
    (ObjectValue.ofBase value).valueMatches jvm (ObjectValue.ofBase lastValue) = true ∨
    key ∈ (entries.foldl (scanRootEntry jvm doc (some lastDic)) acc).changedRootItems := by
  induction entries generalizing acc with
  | nil => cases hmem
  | cons e es ih =>
      rw [List.foldl_cons] at hlegal ⊢
      obtain ⟨hlegal', hsub⟩ :=
        scan_mono jvm doc lastDic es (scanRootEntry jvm doc (some lastDic) acc e)
      rcases List.mem_cons.mp hmem with rfl | hmem
      · rcases scanRootEntry_reports jvm doc lastDic acc value hlast with
          hbad | hmatch | hchanged
        · rw [hlegal' hlegal] at hbad
          cases hbad
        · exact Or.inl hmatch
        · exact Or.inr (hsub hchanged)
      · exact ih hlegal hmem

/-- The numbers a scan exempts are those its entries contribute. -/
theorem mem_scan_safeObjects {entries : List (String × COSBase)} {acc : RootScan} {n : Nat} :
    n ∈ (entries.foldl (scanRootEntry jvm doc (some lastDic)) acc).safeObjects ↔
      n ∈ acc.safeObjects ∨ ∃ e ∈ entries, n ∈ addSafeObjects jvm e.1 e.2 [] doc := by
  induction entries generalizing acc with
  | nil => simp
  | cons e es ih =>
      rw [List.foldl_cons, ih]
      have hstep : n ∈ (scanRootEntry jvm doc (some lastDic) acc e).safeObjects ↔
          n ∈ acc.safeObjects ∨ n ∈ addSafeObjects jvm e.1 e.2 [] doc := by
        simp only [scanRootEntry, compareRootItem_safeObjects, addSafeObjects, List.mem_append,
          List.nil_append, or_assoc]
      rw [hstep, or_assoc, List.exists_mem_cons_iff]

/-- Without a catalog to compare with, the scan exempts nothing. -/
theorem scan_none_safeObjects (entries : List (String × COSBase)) (acc : RootScan) :
    (entries.foldl (scanRootEntry jvm doc none) acc).safeObjects = acc.safeObjects := by
  induction entries generalizing acc with
  | nil => rfl
  | cons e es ih =>
      rw [List.foldl_cons, ih]
      rfl

end Scan

/-! ## Which numbers may change -/

/-- A cross reference that both revisions have, at different places. -/
def Changed (last rev : PDFDocRevision) (k : COSObjectKey) : Prop :=
  ∃ o n, last.xrefTable.lookup k = some o ∧ rev.xrefTable.lookup k = some n ∧ o ≠ n

/-- A reference with the number of the new root changed, so that the catalogs
are compared. -/
def RootCompared (last rev : PDFDocRevision) : Prop :=
  ∃ k, Changed last rev k ∧ k.number = rev.rootObjectId

/-- The numbers exempted by an entry of the new catalog. -/
inductive CatalogExempt (jvm : Jvm) (doc : COSDocument) (rootDic : List (String × COSBase)) :
    Nat → Prop where
  | acroForm {key : COSObjectKey} :
      ("AcroForm", .object key) ∈ rootDic → CatalogExempt jvm doc rootDic key.number
  | font {value : COSBase} {n : Nat} :
      ("AcroForm", value) ∈ rootDic →
      (AcroForm.ofCOS value doc).getObjectRef jvm ["DR", "Font"] = n →
      CatalogExempt jvm doc rootDic n
  | openAction {items : List COSBase} {n : Nat} :
      ("OpenAction", .array items) ∈ rootDic → itemRefs items = [n] →
      CatalogExempt jvm doc rootDic n

/-- The numbers exempted by the default provider. -/
inductive GeneralExempt (jvm : Jvm) (rev : PDFDocRevision) : Nat → Prop where
  | listed {rootDic : List (String × COSBase)} {name : String} {key : COSObjectKey} :
      rev.catalog = some rootDic → name ∈ ["DSS", "Extensions", "Metadata"] →
      rootDic.lookup name = some (.object key) → GeneralExempt jvm rev key.number
  | dssMember {rootDic entries : List (String × COSBase)} {name : String}
      {dss key : COSObjectKey} :
      rev.catalog = some rootDic → rootDic.lookup "DSS" = some (.object dss) →
      (rev.cosDocument.getObject dss).bind COSBase.asDictionary = some entries →
      entries.lookup name = some (.object key) → GeneralExempt jvm rev key.number
  | info {n : Nat} :
      Dictionary.getValueByName jvm
        (Dictionary.ofCOSDictionary rev.cosDocument.trailer) "Info" = some (.cosObject n) →
      GeneralExempt jvm rev n

/-- The number may change between the two revisions: it is the new root's, or
the new revision exempts it. -/
inductive Exempt (jvm : Jvm) (last rev : PDFDocRevision) : Nat → Prop where
  | root : Exempt jvm last rev rev.rootObjectId
  | catalog {rootDic lastDic : List (String × COSBase)} {n : Nat} :
      RootCompared last rev → rev.catalog = some rootDic → last.catalog = some lastDic →
      CatalogExempt jvm rev.cosDocument rootDic n → Exempt jvm last rev n
  | general {n : Nat} : GeneralExempt jvm rev n → Exempt jvm last rev n

theorem getObjectRef_eq (jvm : Jvm) (form : AcroForm) (path : List String) :
    form.getObjectRef jvm path = -1 ∨ ∃ n : Nat, form.getObjectRef jvm path = n := by
  unfold AcroForm.getObjectRef
  split
  · exact Or.inr ⟨_, rfl⟩
  · exact Or.inl rfl

theorem mem_acroFormObjects {jvm : Jvm} {value : COSBase} {doc : COSDocument} {n : Nat} :
    n ∈ acroFormObjects jvm value doc ↔
      (∃ key : COSObjectKey, value = .object key ∧ key.number = n) ∨
      (AcroForm.ofCOS value doc).getObjectRef jvm ["DR", "Font"] = n := by
  unfold acroFormObjects
  rw [List.mem_append]
  refine or_congr ?_ ?_
  · cases value <;> simp [eq_comm]
  · rcases getObjectRef_eq jvm (AcroForm.ofCOS value doc) ["DR", "Font"] with h | ⟨m, h⟩
    · rw [h]
      simp
    · rw [h]
      have hpos : (m : Int) > -1 := by omega
      rw [if_pos hpos, Int.toNat_natCast, List.mem_singleton]
      omega

theorem mem_openActionObjects {value : COSBase} {n : Nat} :
    n ∈ openActionObjects value ↔ ∃ items, value = .array items ∧ itemRefs items = [n] := by
  unfold openActionObjects
  split
  · rename_i items
    split
    · rename_i m hm
      constructor
      · intro h
        rw [List.mem_singleton] at h
        subst h
        exact ⟨items, rfl, hm⟩
      · rintro ⟨items', heq, h⟩
        cases heq
        rw [hm] at h
        exact h ▸ List.mem_singleton.mpr rfl
    · rename_i hnot
      constructor
      · intro h
        cases h
      · rintro ⟨items', heq, h⟩
        cases heq
        exact absurd h (hnot n)
  · rename_i hnot
    constructor
    · intro h
      cases h
    · rintro ⟨items, heq, _⟩
      exact absurd heq (hnot items)

/-- The catalog's contribution, entry by entry, is what `CatalogExempt` says. -/
theorem catalogExempt_iff {jvm : Jvm} {doc : COSDocument} {rootDic : List (String × COSBase)}
    {n : Nat} :
    CatalogExempt jvm doc rootDic n ↔ ∃ e ∈ rootDic, n ∈ addSafeObjects jvm e.1 e.2 [] doc := by
  constructor
  · intro h
    cases h with
    | @acroForm key hmem =>
        refine ⟨_, hmem, ?_⟩
        have : key.number ∈ acroFormObjects jvm (.object key) doc :=
          mem_acroFormObjects.mpr (Or.inl ⟨key, rfl, rfl⟩)
        simp [addSafeObjects, this]
    | font hmem href =>
        refine ⟨_, hmem, ?_⟩
        have := mem_acroFormObjects.mpr (Or.inr href)
        simp [addSafeObjects, this]
    | openAction hmem hitems =>
        refine ⟨_, hmem, ?_⟩
        have := mem_openActionObjects.mpr ⟨_, rfl, hitems⟩
        simp [addSafeObjects, this]
  · rintro ⟨⟨key, value⟩, hmem, h⟩
    simp only [addSafeObjects, List.nil_append, List.mem_append] at h
    rcases h with h | h
    · split at h
      · rename_i hkey
        subst hkey
        rcases mem_acroFormObjects.mp h with ⟨k, rfl, rfl⟩ | href
        · exact .acroForm hmem
        · exact .font hmem href
      · cases h
    · split at h
      · rename_i hkey
        subst hkey
        obtain ⟨items, rfl, hitems⟩ := mem_openActionObjects.mp h
        exact .openAction hmem hitems
      · cases h

theorem mem_addSafeOjects {rootDic : List (String × COSBase)} {objNames : List String} {n : Nat} :
    n ∈ addSafeOjects rootDic objNames ↔
      ∃ name ∈ objNames, ∃ key : COSObjectKey,
        rootDic.lookup name = some (.object key) ∧ key.number = n := by
  unfold addSafeOjects
  rw [List.mem_filterMap]
  refine exists_congr fun name => and_congr_right fun _ => ?_
  cases hlookup : rootDic.lookup name with
  | none => simp [ObjectValue.ofCOS]
  | some v => cases v <;> simp [ObjectValue.ofCOS, ObjectValue.ofBase]

theorem mem_dssObjects {jvm : Jvm} {rootDic : List (String × COSBase)} {doc : COSDocument}
    {n : Nat} :
    n ∈ dssObjects jvm rootDic doc ↔
      ∃ dss entries name, ∃ key : COSObjectKey, rootDic.lookup "DSS" = some (.object dss) ∧
        (doc.getObject dss).bind COSBase.asDictionary = some entries ∧
        entries.lookup name = some (.object key) ∧ key.number = n := by
  unfold dssObjects
  split
  · rename_i dss hdss
    cases hentries : (doc.getObject dss).bind COSBase.asDictionary with
    | none => simp [hdss, hentries]
    | some entries =>
        simp only [List.mem_filterMap]
        constructor
        · rintro ⟨⟨name, v⟩, hmem, hn⟩
          rw [jvm.mem_entriesInOrder, Dictionary.ofCOSDictionary,
            ObjectValue.ofEntries_lookup] at hmem
          obtain ⟨base, hbase, rfl⟩ := Option.map_eq_some_iff.mp hmem
          cases base <;> simp only [ObjectValue.ofBase, Option.some.injEq, reduceCtorEq] at hn
          rename_i key
          exact ⟨dss, entries, name, key, hdss, hentries, hbase, hn⟩
        · rintro ⟨dss', entries', name, key, hdss', hentries', hlookup, rfl⟩
          rw [hdss] at hdss'
          cases hdss'
          rw [hentries] at hentries'
          cases hentries'
          refine ⟨(name, .cosObject key.number), ?_, rfl⟩
          rw [jvm.mem_entriesInOrder, Dictionary.ofCOSDictionary, ObjectValue.ofEntries_lookup,
            hlookup]
          rfl
  · rename_i hnot
    constructor
    · intro h
      cases h
    · rintro ⟨dss, _, _, _, hdss, _⟩
      exact absurd hdss (hnot dss)

theorem mem_infoObjects {jvm : Jvm} {trailer : List (String × COSBase)} {n : Nat} :
    n ∈ infoObjects jvm trailer ↔
      Dictionary.getValueByName jvm (Dictionary.ofCOSDictionary trailer) "Info" =
        some (.cosObject n) := by
  unfold infoObjects
  split
  · rename_i m hm
    rw [hm]
    simp [eq_comm]
  · rename_i hnot
    constructor
    · intro h
      cases h
    · intro h
      exact absurd h (hnot n)

theorem generalExempt_iff {jvm : Jvm} {rev : PDFDocRevision} {n : Nat} :
    GeneralExempt jvm rev n ↔ n ∈ defaultGeneralSafeObjects jvm rev := by
  unfold defaultGeneralSafeObjects
  constructor
  · intro h
    rw [List.mem_append]
    cases h with
    | listed hcat hname hlookup =>
        left
        rw [hcat]
        exact List.mem_append_left _ (mem_addSafeOjects.mpr ⟨_, hname, _, hlookup, rfl⟩)
    | dssMember hcat hdss hentries hlookup =>
        left
        rw [hcat]
        exact List.mem_append_right _
          (mem_dssObjects.mpr ⟨_, _, _, _, hdss, hentries, hlookup, rfl⟩)
    | info hinfo => exact Or.inr (mem_infoObjects.mpr hinfo)
  · intro h
    rcases List.mem_append.mp h with h | h
    · cases hcat : rev.catalog with
      | none =>
          rw [hcat] at h
          cases h
      | some rootDic =>
          rw [hcat] at h
          rcases List.mem_append.mp h with h | h
          · obtain ⟨name, hname, key, hlookup, rfl⟩ := mem_addSafeOjects.mp h
            exact .listed hcat hname hlookup
          · obtain ⟨dss, entries, name, key, hdss, hentries, hlookup, rfl⟩ :=
              mem_dssObjects.mp h
            exact .dssMember hcat hdss hentries hlookup
    · exact .info (mem_infoObjects.mp h)

/-! ## What the mark says -/

section Mark

variable {jvm : Jvm} {provider : GeneralSafeObjects} {last rev : PDFDocRevision}

theorem collectUpdates_rootUpdate (jvm : Jvm) :
    (collectUpdates jvm rev (some last)).rootUpdate = true ↔ RootCompared last rev := by
  show (changedXref last.xrefTable rev.xrefTable).any
    (fun e => e.1.number == rev.rootObjectId) = true ↔ _
  rw [List.any_eq_true]
  constructor
  · rintro ⟨⟨k, o, n⟩, hmem, hroot⟩
    exact ⟨k, ⟨o, n, mem_changedXref.mp hmem⟩, beq_iff_eq.mp hroot⟩
  · rintro ⟨k, ⟨o, n, hchanged⟩, hroot⟩
    exact ⟨(k, o, n), mem_changedXref.mpr hchanged, beq_iff_eq.mpr hroot⟩

/-- With the root compared, the revision carries the result of the scan. -/
theorem collectUpdates_scan (jvm : Jvm) (h : RootCompared last rev) :
    (collectUpdates jvm rev (some last)).legalRootObject =
        (scanRoot jvm rev last.catalog).legalRootObject ∧
    (collectUpdates jvm rev (some last)).changedRootItems =
        (scanRoot jvm rev last.catalog).changedRootItems ∧
    (collectUpdates jvm rev (some last)).safeObjects =
        (scanRoot jvm rev last.catalog).safeObjects := by
  have hupdate := (collectUpdates_rootUpdate jvm).mpr h
  have hscan : (if (collectUpdates jvm rev (some last)).rootUpdate = true then
      scanRoot jvm rev last.catalog else RootScan.start) = scanRoot jvm rev last.catalog :=
    if_pos hupdate
  exact ⟨congrArg RootScan.legalRootObject hscan, congrArg RootScan.changedRootItems hscan,
    congrArg RootScan.safeObjects hscan⟩

/-- A root that is not compared counts as legal and unchanged. -/
theorem collectUpdates_not_compared (jvm : Jvm) (h : ¬ RootCompared last rev) :
    (collectUpdates jvm rev (some last)).legalRootObject = true ∧
    (collectUpdates jvm rev (some last)).changedRootItems = [] ∧
    (collectUpdates jvm rev (some last)).safeObjects = [] := by
  have hupdate := mt (collectUpdates_rootUpdate jvm).mp h
  have hscan : (if (collectUpdates jvm rev (some last)).rootUpdate = true then
      scanRoot jvm rev last.catalog else RootScan.start) = RootScan.start := if_neg hupdate
  exact ⟨congrArg RootScan.legalRootObject hscan, congrArg RootScan.changedRootItems hscan,
    congrArg RootScan.safeObjects hscan⟩

/-- The mark, taken apart. -/
theorem safeUpdate_iff :
    (getXrefUpdates jvm provider rev (some last)).safeUpdate = true ↔
      (collectUpdates jvm rev (some last)).legalRootObject = true ∧
      (∀ name ∈ (collectUpdates jvm rev (some last)).changedRootItems, name = "AcroForm") ∧
      (∀ k, Changed last rev k → k.number = rev.rootObjectId ∨
        k.number ∈ (collectUpdates jvm rev (some last)).safeObjects ∨
        k.number ∈ provider (collectUpdates jvm rev (some last))) := by
  show (!(collectUpdates jvm rev (some last)).changedRootItems.any (fun name => name != "AcroForm")
    && !(changedXref last.xrefTable rev.xrefTable).any (fun e =>
        e.1.number != rev.rootObjectId &&
          !((collectUpdates jvm rev (some last)).safeObjects ++
            provider (collectUpdates jvm rev (some last))).contains e.1.number)
    && (collectUpdates jvm rev (some last)).legalRootObject) = true ↔ _
  rw [Bool.and_eq_true, Bool.and_eq_true, and_comm, Bool.not_eq_true', List.any_eq_false,
    Bool.not_eq_true', List.any_eq_false]
  refine and_congr_right fun _ => and_congr ?_ ?_
  · apply forall₂_congr
    intro name _
    simp
  · constructor
    · rintro h k ⟨o, n, hchanged⟩
      have := h (k, o, n) (mem_changedXref.mpr hchanged)
      by_cases hroot : k.number = rev.rootObjectId
      · exact Or.inl hroot
      · simpa [hroot, or_iff_not_imp_left] using this
    · rintro h ⟨k, o, n⟩ hmem
      rcases h k ⟨o, n, mem_changedXref.mp hmem⟩ with hroot | hsafe | hsafe
      · simp [hroot]
      · simp [hsafe]
      · simp [hsafe]

theorem mem_scanRoot_safeObjects {n : Nat} :
    n ∈ (scanRoot jvm rev last.catalog).safeObjects ↔
      ∃ rootDic lastDic, rev.catalog = some rootDic ∧ last.catalog = some lastDic ∧
        CatalogExempt jvm rev.cosDocument rootDic n := by
  unfold scanRoot
  cases hcat : rev.catalog with
  | none => simp [RootScan.start]
  | some rootDic =>
      cases hlast : last.catalog with
      | none => simp [scan_none_safeObjects, RootScan.start]
      | some lastDic =>
          simp only [mem_scan_safeObjects, RootScan.start, List.not_mem_nil, false_or,
            catalogExempt_iff, Option.some.injEq, exists_eq_left', exists_and_left]

/-- The numbers the code lets change are the exempt ones. -/
theorem exempt_iff {n : Nat} :
    Exempt jvm last rev n ↔ n = rev.rootObjectId ∨
      n ∈ (collectUpdates jvm rev (some last)).safeObjects ∨
      n ∈ defaultGeneralSafeObjects jvm (collectUpdates jvm rev (some last)) := by
  have hgeneral : defaultGeneralSafeObjects jvm (collectUpdates jvm rev (some last)) =
      defaultGeneralSafeObjects jvm rev := rfl
  rw [hgeneral]
  constructor
  · intro h
    cases h with
    | root => exact Or.inl rfl
    | catalog hroot hcat hlast hexempt =>
        refine Or.inr (Or.inl ?_)
        rw [(collectUpdates_scan jvm hroot).2.2, mem_scanRoot_safeObjects]
        exact ⟨_, _, hcat, hlast, hexempt⟩
    | general hexempt => exact Or.inr (Or.inr (generalExempt_iff.mp hexempt))
  · rintro (rfl | h | h)
    · exact .root
    · by_cases hroot : RootCompared last rev
      · rw [(collectUpdates_scan jvm hroot).2.2, mem_scanRoot_safeObjects] at h
        obtain ⟨rootDic, lastDic, hcat, hlast, hexempt⟩ := h
        exact .catalog hroot hcat hlast hexempt
      · rw [(collectUpdates_not_compared jvm hroot).2.2] at h
        cases h
    · exact .general (generalExempt_iff.mpr h)

end Mark

/-! ## Page content -/

/-- The objects that the pages of a revision reach by following references. -/
inductive PageReachable (rev : PDFDocRevision) : COSObjectKey → Prop where
  | pages {rootDic : List (String × COSBase)} {v : COSBase} {k : COSObjectKey} :
      rev.catalog = some rootDic → rootDic.lookup "Pages" = some v → k ∈ v.refs →
      PageReachable rev k
  | step {k k' : COSObjectKey} {v : COSBase} :
      PageReachable rev k → rev.cosDocument.getObject k = some v → k' ∈ v.refs →
      PageReachable rev k'

/-- Every object the pages of `last` reach is where it was in `rev`. -/
def PagesKept (last rev : PDFDocRevision) : Prop :=
  ∀ k, PageReachable last k → ∀ o, last.xrefTable.lookup k = some o →
    rev.xrefTable.lookup k = some o

/-- The page objects the mark does not speak for: those the later table lost,
and exempt ones that moved. -/
inductive PageSlips (jvm : Jvm) (last rev : PDFDocRevision) (k : COSObjectKey) : Prop where
  | lost : k ∈ last.xrefTable → k ∉ rev.xrefTable → PageSlips jvm last rev k
  | exempt : Exempt jvm last rev k.number → Changed last rev k → PageSlips jvm last rev k

/-- **Page content under a safe update.** A revision marked safe with the
default provider keeps every page object in place exactly when no page object
slips: none is dropped from the table, and none moves under an exempt number. -/
theorem safeUpdate_pages_kept_iff {jvm : Jvm} {last rev : PDFDocRevision}
    (hsafe : (getXrefUpdates jvm (defaultGeneralSafeObjects jvm) rev (some last)).safeUpdate
      = true) :
    PagesKept last rev ↔ ∀ k, PageReachable last k → ¬ PageSlips jvm last rev k := by
  obtain ⟨_, _, hchanges⟩ := safeUpdate_iff.mp hsafe
  constructor
  · intro hkept k hreach hslip
    cases hslip with
    | lost hlast hrev =>
        obtain ⟨o, ho⟩ := Option.isSome_iff_exists.mp (AList.lookup_isSome.mpr hlast)
        have hnew := hkept k hreach o ho
        exact hrev (AList.lookup_isSome.mp (Option.isSome_iff_exists.mpr ⟨o, hnew⟩))
    | exempt _ hchanged =>
        obtain ⟨o, n, ho, hn, hne⟩ := hchanged
        rw [hkept k hreach o ho] at hn
        exact hne (Option.some.inj hn)
  · intro hslips k hreach o ho
    have hlast : k ∈ last.xrefTable :=
      AList.lookup_isSome.mp (Option.isSome_iff_exists.mpr ⟨o, ho⟩)
    have hrev : k ∈ rev.xrefTable := by
      by_contra hnot
      exact hslips k hreach (.lost hlast hnot)
    obtain ⟨n, hn⟩ := Option.isSome_iff_exists.mp (AList.lookup_isSome.mpr hrev)
    by_cases heq : o = n
    · rw [hn, heq]
    · have hchanged : Changed last rev k := ⟨o, n, ho, hn, heq⟩
      have hexempt := exempt_iff.mpr (hchanges k hchanged)
      exact absurd (.exempt hexempt hchanged) (hslips k hreach)

/-! A one-page document: catalog 1, page tree 2, page 3, content 4. -/

def pageObjects : List (Sigma fun _ : COSObjectKey => COSBase) :=
  [⟨⟨1, 0⟩, .dictionary [("Pages", .object ⟨2, 0⟩)]⟩,
    ⟨⟨2, 0⟩, .dictionary [("Kids", .array [.object ⟨3, 0⟩])]⟩,
    ⟨⟨3, 0⟩, .dictionary [("Contents", .object ⟨4, 0⟩)]⟩,
    ⟨⟨4, 0⟩, .stream []⟩]

theorem pageObjects_wf : ∀ e ∈ pageObjects.toAList.entries, e.2.wf = true := by decide

def signedDocument : COSDocument where
  xrefTable := [⟨⟨1, 0⟩, 10⟩, ⟨⟨2, 0⟩, 20⟩, ⟨⟨3, 0⟩, 30⟩, ⟨⟨4, 0⟩, 40⟩].toAList
  objects := pageObjects.toAList
  trailer := [("Root", .object ⟨1, 0⟩)]
  objects_wf := pageObjects_wf

theorem signedDocument_root :
    signedDocument.trailer.lookup "Root" = some (.object ⟨1, 0⟩) := rfl

def signedRevision : PDFDocRevision :=
  .ofDocument 500 true false signedDocument ⟨1, 0⟩ signedDocument_root

/-- The update rewrites the page content and names it as `Info`. -/
def contentUpdate : COSDocument where
  xrefTable := [⟨⟨1, 0⟩, 10⟩, ⟨⟨2, 0⟩, 20⟩, ⟨⟨3, 0⟩, 30⟩, ⟨⟨4, 0⟩, 540⟩].toAList
  objects := pageObjects.toAList
  trailer := [("Root", .object ⟨1, 0⟩), ("Info", .object ⟨4, 0⟩)]
  objects_wf := pageObjects_wf

def contentRevision : PDFDocRevision :=
  .ofDocument 900 false false contentUpdate ⟨1, 0⟩ rfl

theorem safeUpdate_pages_kept_iff_content :
    (getXrefUpdates plainJvm (defaultGeneralSafeObjects plainJvm) contentRevision
      (some signedRevision)).safeUpdate = true ∧
    (PagesKept signedRevision contentRevision ↔ ∀ k, PageReachable signedRevision k →
      ¬ PageSlips plainJvm signedRevision contentRevision k) :=
  ⟨rfl, safeUpdate_pages_kept_iff rfl⟩

/-- The content of the signed page moves, and the update is marked safe. -/
theorem page_content_redefined :
    (getXrefUpdates plainJvm (defaultGeneralSafeObjects plainJvm) contentRevision
      (some signedRevision)).safeUpdate = true ∧
    ¬ PagesKept signedRevision contentRevision := by
  refine ⟨rfl, ?_⟩
  intro hkept
  have h2 : PageReachable signedRevision ⟨2, 0⟩ :=
    .pages (v := .object ⟨2, 0⟩) rfl rfl List.mem_cons_self
  have h3 : PageReachable signedRevision ⟨3, 0⟩ := .step h2 rfl List.mem_cons_self
  have h4 : PageReachable signedRevision ⟨4, 0⟩ := .step h3 rfl List.mem_cons_self
  have hmoved : contentRevision.xrefTable.lookup ⟨4, 0⟩ = some 40 := hkept _ h4 40 rfl
  exact absurd hmoved (by decide)

/-! ## Catalogs -/

/-- The two catalogs have matching values wherever they share a key, the form
apart, and their pages are one object, of one number and generation. -/
structure CatalogIntegrity (jvm : Jvm) (last rev : PDFDocRevision) : Prop where
  shared : ∀ rootDic lastDic, rev.catalog = some rootDic → last.catalog = some lastDic →
    ∀ name v lastV, name ≠ "AcroForm" → rootDic.lookup name = some v →
      lastDic.lookup name = some lastV →
      (ObjectValue.ofBase v).valueMatches jvm (ObjectValue.ofBase lastV) = true
  pages : ∀ rootDic lastDic, rev.catalog = some rootDic → last.catalog = some lastDic →
    ∀ k lastK : COSObjectKey, rootDic.lookup "Pages" = some (.object k) →
      lastDic.lookup "Pages" = some (.object lastK) → k = lastK

/-- Both revisions were read from one file: an object at an unchanged place in
it is the same object. -/
def ReadFromOneFile (last rev : PDFDocRevision) : Prop :=
  ∀ k o, 0 ≤ o → last.xrefTable.lookup k = some o → rev.xrefTable.lookup k = some o →
    last.cosDocument.getObject k = rev.cosDocument.getObject k

/-- Both trailers name the same root, at the same place in the file. -/
def RootUntouched (last rev : PDFDocRevision) : Prop :=
  last.rootObject = rev.rootObject ∧ ∃ o, 0 ≤ o ∧
    last.xrefTable.lookup rev.rootObject = some o ∧
    rev.xrefTable.lookup rev.rootObject = some o

/-- The new revision switches to a catalog that is never compared, and it
differs from the old one in an entry other than the form. -/
structure UncheckedSwitch (jvm : Jvm) (last rev : PDFDocRevision) : Prop where
  notCompared : ¬ RootCompared last rev
  touched : ¬ RootUntouched last rev
  differs : ∃ rootDic lastDic, rev.catalog = some rootDic ∧ last.catalog = some lastDic ∧
    ∃ name v lastV, name ≠ "AcroForm" ∧ rootDic.lookup name = some v ∧
      lastDic.lookup name = some lastV ∧
      (ObjectValue.ofBase v).valueMatches jvm (ObjectValue.ofBase lastV) = false

/-- The pages go over to another generation of their object number, which the comparison
does not look at. -/
def GenerationSwitch (last rev : PDFDocRevision) : Prop :=
  ∃ rootDic lastDic, rev.catalog = some rootDic ∧ last.catalog = some lastDic ∧
    ∃ k lastK : COSObjectKey, rootDic.lookup "Pages" = some (.object k) ∧
      lastDic.lookup "Pages" = some (.object lastK) ∧ k.number = lastK.number ∧
      k.generation ≠ lastK.generation

theorem CatalogIntegrity.of_shared {jvm : Jvm} {last rev : PDFDocRevision}
    (hgeneration : ¬ GenerationSwitch last rev)
    (h : ∀ rootDic lastDic, rev.catalog = some rootDic → last.catalog = some lastDic →
      ∀ name v lastV, name ≠ "AcroForm" → rootDic.lookup name = some v →
        lastDic.lookup name = some lastV →
        (ObjectValue.ofBase v).valueMatches jvm (ObjectValue.ofBase lastV) = true) :
    CatalogIntegrity jvm last rev := by
  refine ⟨h, ?_⟩
  intro rootDic lastDic hcat hlast k lastK hk hlastK
  have hmatch := h rootDic lastDic hcat hlast "Pages" _ _ (by decide) hk hlastK
  have hnumber : k.number = lastK.number := beq_iff_eq.mp hmatch
  have hsame : k.generation = lastK.generation := by
    by_contra hne
    exact hgeneration ⟨rootDic, lastDic, hcat, hlast, k, lastK, hk, hlastK, hnumber, hne⟩
  cases k
  cases lastK
  rw [COSObjectKey.mk.injEq]
  exact ⟨hnumber, hsame⟩

/-- The comparison, when it runs, covers every shared entry. -/
theorem integrity_of_compared {jvm : Jvm} {provider : GeneralSafeObjects}
    {last rev : PDFDocRevision}
    (hsafe : (getXrefUpdates jvm provider rev (some last)).safeUpdate = true)
    (hroot : RootCompared last rev) (hgeneration : ¬ GenerationSwitch last rev) :
    CatalogIntegrity jvm last rev := by
  obtain ⟨hlegal, hitems, _⟩ := safeUpdate_iff.mp hsafe
  obtain ⟨hlegalScan, hchangedScan, _⟩ := collectUpdates_scan jvm hroot
  apply CatalogIntegrity.of_shared hgeneration
  intro rootDic lastDic hcat hlast name v lastV hname hv hlastV
  have hscan : scanRoot jvm rev last.catalog =
      rootDic.foldl (scanRootEntry jvm rev.cosDocument (some lastDic)) RootScan.start := by
    rw [scanRoot, hcat, hlast]
  rw [hlegalScan, hscan] at hlegal
  rw [hchangedScan, hscan] at hitems
  rcases scan_compares hlegal (mem_of_lookup hv) hlastV with hmatch | hchanged
  · exact hmatch
  · exact absurd (hitems name hchanged) hname

theorem catalog_entry_wf {rev : PDFDocRevision} {rootDic : List (String × COSBase)}
    (hcat : rev.catalog = some rootDic) {name : String} {v : COSBase}
    (hv : rootDic.lookup name = some v) : v.wf = true := by
  obtain ⟨base, hbase, hdic⟩ := Option.bind_eq_some_iff.mp hcat
  have hwf := COSDocument.getObject_wf hbase
  have hentries : COSBase.wfEntries rootDic = true := by
    cases base <;> simp only [COSBase.asDictionary, Option.some.injEq, reduceCtorEq] at hdic
    · subst hdic
      exact (Bool.and_eq_true_iff.mp hwf).2
    · subst hdic
      exact (Bool.and_eq_true_iff.mp hwf).2
  exact COSBase.wf_of_mem hentries (mem_of_lookup hv)

/-- A root that is not touched has the same catalog in both revisions. -/
theorem catalog_of_untouched {last rev : PDFDocRevision} (hfile : ReadFromOneFile last rev)
    (huntouched : RootUntouched last rev) : last.catalog = rev.catalog := by
  obtain ⟨hroot, o, ho, hlastO, hrevO⟩ := huntouched
  unfold PDFDocRevision.catalog PDFDocRevision.getRootObject
  rw [hroot, hfile _ o ho hlastO hrevO]

theorem integrity_of_untouched {jvm : Jvm} {last rev : PDFDocRevision}
    (hfile : ReadFromOneFile last rev) (huntouched : RootUntouched last rev)
    (hgeneration : ¬ GenerationSwitch last rev) : CatalogIntegrity jvm last rev := by
  have hcatalog : last.catalog = rev.catalog := catalog_of_untouched hfile huntouched
  apply CatalogIntegrity.of_shared hgeneration
  intro rootDic lastDic hcat hlast name v lastV _ hv hlastV
  rw [hcatalog, hcat] at hlast
  cases hlast
  rw [hv] at hlastV
  cases hlastV
  exact ObjectValue.valueMatches_self jvm v (catalog_entry_wf hcat hv)

/-- **Catalog integrity under a safe update.** Whatever provider is used, the
catalogs of a revision marked safe and of the one before it agree exactly
unless the new revision switches, unchecked, to a catalog that differs, or its pages go over
to another generation of their number. -/
theorem safeUpdate_catalog_integrity_iff {jvm : Jvm} {provider : GeneralSafeObjects}
    {last rev : PDFDocRevision} (hfile : ReadFromOneFile last rev)
    (hsafe : (getXrefUpdates jvm provider rev (some last)).safeUpdate = true) :
    CatalogIntegrity jvm last rev ↔
      ¬ UncheckedSwitch jvm last rev ∧ ¬ GenerationSwitch last rev := by
  constructor
  · intro hintegrity
    constructor
    · rintro ⟨_, _, rootDic, lastDic, hcat, hlast, name, v, lastV, hname, hv, hlastV, hdiffers⟩
      rw [hintegrity.shared rootDic lastDic hcat hlast name v lastV hname hv hlastV] at hdiffers
      cases hdiffers
    · rintro ⟨rootDic, lastDic, hcat, hlast, k, lastK, hk, hlastK, -, hne⟩
      exact hne (congrArg COSObjectKey.generation
        (hintegrity.pages rootDic lastDic hcat hlast k lastK hk hlastK))
  · rintro ⟨hnot, hgeneration⟩
    by_cases hroot : RootCompared last rev
    · exact integrity_of_compared hsafe hroot hgeneration
    by_cases huntouched : RootUntouched last rev
    · exact integrity_of_untouched hfile huntouched hgeneration
    apply CatalogIntegrity.of_shared hgeneration
    intro rootDic lastDic hcat hlast name v lastV hname hv hlastV
    by_contra hmatch
    exact hnot ⟨hroot, huntouched, rootDic, lastDic, hcat, hlast, name, v, lastV, hname, hv,
      hlastV, Bool.eq_false_iff.mpr hmatch⟩

/-! The update adds a second catalog with pages of its own and points the
trailer to it. -/

def switchedObjects : List (Sigma fun _ : COSObjectKey => COSBase) :=
  [⟨⟨5, 0⟩, .dictionary [("Pages", .object ⟨6, 0⟩)]⟩,
    ⟨⟨6, 0⟩, .dictionary [("Kids", .array [])]⟩]

def switchedDocument : COSDocument where
  xrefTable :=
    [⟨⟨1, 0⟩, 10⟩, ⟨⟨2, 0⟩, 20⟩, ⟨⟨3, 0⟩, 30⟩, ⟨⟨4, 0⟩, 40⟩, ⟨⟨5, 0⟩, 540⟩, ⟨⟨6, 0⟩, 560⟩].toAList
  objects := (pageObjects ++ switchedObjects).toAList
  trailer := [("Root", .object ⟨5, 0⟩)]
  objects_wf := by decide

def switchedRevision : PDFDocRevision :=
  .ofDocument 900 false false switchedDocument ⟨5, 0⟩ rfl

theorem signed_switched_one_file : ReadFromOneFile signedRevision switchedRevision := by
  intro k o _ hlast _
  have hmem : k ∈ signedRevision.xrefTable :=
    AList.lookup_isSome.mp (Option.isSome_iff_exists.mpr ⟨o, hlast⟩)
  have hkeys : ∀ k ∈ signedRevision.xrefTable.keys,
      k = ⟨1, 0⟩ ∨ k = ⟨2, 0⟩ ∨ k = ⟨3, 0⟩ ∨ k = ⟨4, 0⟩ := by decide
  rcases hkeys k hmem with rfl | rfl | rfl | rfl
  · rfl
  · rfl
  · rfl
  · rfl

theorem safeUpdate_catalog_integrity_iff_switched :
    ReadFromOneFile signedRevision switchedRevision ∧
    (getXrefUpdates plainJvm strictGeneralSafeObjects switchedRevision
      (some signedRevision)).safeUpdate = true ∧
    (CatalogIntegrity plainJvm signedRevision switchedRevision ↔
      ¬ UncheckedSwitch plainJvm signedRevision switchedRevision ∧
        ¬ GenerationSwitch signedRevision switchedRevision) := by
  have hsafe : (getXrefUpdates plainJvm strictGeneralSafeObjects switchedRevision
      (some signedRevision)).safeUpdate = true := rfl
  exact ⟨signed_switched_one_file, hsafe,
    safeUpdate_catalog_integrity_iff signed_switched_one_file hsafe⟩

/-- The pages are exchanged, and the update is marked safe by either provider. -/
theorem catalog_switched_unchecked :
    ReadFromOneFile signedRevision switchedRevision ∧
    (getXrefUpdates plainJvm strictGeneralSafeObjects switchedRevision
      (some signedRevision)).safeUpdate = true ∧
    (getXrefUpdates plainJvm (defaultGeneralSafeObjects plainJvm) switchedRevision
      (some signedRevision)).safeUpdate = true ∧
    ¬ CatalogIntegrity plainJvm signedRevision switchedRevision := by
  refine ⟨signed_switched_one_file, rfl, rfl, ?_⟩
  intro hintegrity
  have hpages := hintegrity.pages _ _ rfl rfl ⟨6, 0⟩ ⟨2, 0⟩ rfl rfl
  exact absurd hpages (by decide)

end SigVal.Pdf
