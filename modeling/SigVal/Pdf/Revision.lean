import SigVal.Pdf.Cos

/-!
# Revisions and their updates

`DefaultPDFSignatureContext.getXrefUpdates` compares a document revision with
the one before it. It lists the cross references that changed, compares the two
catalogs entry by entry, collects the object numbers that may change, and marks
the revision as a safe update, a valid DSS store, both or neither.

The catalogs are compared only under `rootUpdate`, that is when a cross
reference with the number of the new root changed. The collected numbers come
from the new revision, and exempt an object whatever else refers to it. What
these two rules are worth is stated in `SafeUpdate.lean`.
-/

namespace SigVal.Pdf

open SigVal.Java

abbrev XrefTable := AList fun _ : COSObjectKey => Int

/-- `PDFDocRevision` of a revision that loaded: `rootObject` is the reference
its trailer has under `Root`. -/
structure PDFDocRevision where
  length : Int
  signature : Bool
  documentTimestamp : Bool
  validDSS : Bool
  safeUpdate : Bool
  cosDocument : COSDocument
  rootObject : COSObjectKey
  rootObject_eq : cosDocument.trailer.lookup "Root" = some (.object rootObject)
  changedXref : List (COSObjectKey × Int × Int)
  addedXref : List (COSObjectKey × Int)
  rootUpdate : Bool
  nonRootUpdate : Bool
  legalRootObject : Bool
  changedRootItems : List String
  addedRootItems : List String
  safeObjects : List Nat

namespace PDFDocRevision

def rootObjectId (rev : PDFDocRevision) : Nat := rev.rootObject.number

def xrefTable (rev : PDFDocRevision) : XrefTable := rev.cosDocument.xrefTable

/-- The resolved root object, `none` when it is missing. -/
def getRootObject (rev : PDFDocRevision) : Option COSBase :=
  rev.cosDocument.getObject rev.rootObject

/-- The entries of the catalog, when the root object is a dictionary. -/
def catalog (rev : PDFDocRevision) : Option (List (String × COSBase)) :=
  rev.getRootObject.bind COSBase.asDictionary

/-- A revision as it is loaded, before it is compared with another one. -/
def ofDocument (length : Int) (signature documentTimestamp : Bool) (cosDocument : COSDocument)
    (rootObject : COSObjectKey)
    (h : cosDocument.trailer.lookup "Root" = some (.object rootObject)) : PDFDocRevision where
  length := length
  signature := signature
  documentTimestamp := documentTimestamp
  validDSS := false
  safeUpdate := false
  cosDocument := cosDocument
  rootObject := rootObject
  rootObject_eq := h
  changedXref := []
  addedXref := []
  rootUpdate := false
  nonRootUpdate := false
  legalRootObject := false
  changedRootItems := []
  addedRootItems := []
  safeObjects := []

end PDFDocRevision

/-! ## Changed and added cross references -/

def changedXref (lastTable xrefTable : XrefTable) : List (COSObjectKey × Int × Int) :=
  xrefTable.entries.filterMap fun e =>
    match lastTable.lookup e.1 with
    | some lastValue => if lastValue ≠ e.2 then some (e.1, lastValue, e.2) else none
    | none => none

def addedXref (lastTable xrefTable : XrefTable) : List (COSObjectKey × Int) :=
  xrefTable.entries.filterMap fun e =>
    match lastTable.lookup e.1 with
    | some _ => none
    | none => some (e.1, e.2)

theorem mem_changedXref {lastTable xrefTable : XrefTable} {k : COSObjectKey} {o n : Int} :
    (k, o, n) ∈ changedXref lastTable xrefTable ↔
      lastTable.lookup k = some o ∧ xrefTable.lookup k = some n ∧ o ≠ n := by
  unfold changedXref
  rw [List.mem_filterMap]
  constructor
  · rintro ⟨⟨k', n'⟩, hmem, h⟩
    cases hlast : lastTable.lookup k' with
    | none => simp [hlast] at h
    | some o' =>
        rw [hlast] at h
        by_cases hne : o' ≠ n'
        · simp only [if_pos hne, Option.some.injEq, Prod.mk.injEq] at h
          obtain ⟨rfl, rfl, rfl⟩ := h
          exact ⟨hlast, AList.mem_lookup_iff.mpr hmem, hne⟩
        · simp [if_neg hne] at h
  · rintro ⟨hlast, hnew, hne⟩
    refine ⟨⟨k, n⟩, AList.mem_lookup_iff.mp hnew, ?_⟩
    simp only [hlast, if_pos hne]

/-! ## Object numbers that may change -/

/-- The numbers of the references among the items of an array. -/
def itemRefs (items : List COSBase) : List Nat :=
  items.filterMap fun item =>
    match item with
    | .object key => some key.number
    | _ => none

/-- What `addSafeObjects` adds for an `AcroForm` entry. -/
def acroFormObjects (jvm : Jvm) (value : COSBase) (cosDocument : COSDocument) : List Nat :=
  let acroFormFont := (AcroForm.ofCOS value cosDocument).getObjectRef jvm ["DR", "Font"]
  (match value with
    | .object key => [key.number]
    | _ => []) ++
  (if acroFormFont > -1 then [acroFormFont.toNat] else [])

/-- What `addSafeObjects` adds for an `OpenAction` entry: the one reference of
an array that has exactly one. -/
def openActionObjects (value : COSBase) : List Nat :=
  match value with
  | .array items =>
      match itemRefs items with
      | [number] => [number]
      | _ => []
  | _ => []

def addSafeObjects (jvm : Jvm) (key : String) (value : COSBase) (safeObjects : List Nat)
    (cosDocument : COSDocument) : List Nat :=
  safeObjects ++
    (if key = "AcroForm" then acroFormObjects jvm value cosDocument else []) ++
    (if key = "OpenAction" then openActionObjects value else [])

/-- `GeneralSafeObjects`: the object numbers the provider appends to those
collected from the catalog. -/
abbrev GeneralSafeObjects := PDFDocRevision → List Nat

/-- `addSafeOjects` of the default provider: the listed entries that are
references. -/
def addSafeOjects (rootDic : List (String × COSBase)) (objNames : List String) : List Nat :=
  objNames.filterMap fun s =>
    match ObjectValue.ofCOS (rootDic.lookup s) with
    | .cosObject number => some number
    | _ => none

/-- The members of the DSS dictionary that are references. A `DSS` entry that
is no reference to a dictionary throws, and the exception is swallowed. -/
def dssObjects (jvm : Jvm) (rootDic : List (String × COSBase)) (cosDocument : COSDocument) :
    List Nat :=
  match rootDic.lookup "DSS" with
  | some (.object key) =>
      match (cosDocument.getObject key).bind COSBase.asDictionary with
      | some entries =>
          (jvm.entriesInOrder (Dictionary.ofCOSDictionary entries)).filterMap fun e =>
            match e.2 with
            | .cosObject number => some number
            | _ => none
      | none => []
  | _ => []

def infoObjects (jvm : Jvm) (trailer : List (String × COSBase)) : List Nat :=
  match Dictionary.getValueByName jvm (Dictionary.ofCOSDictionary trailer) "Info" with
  | some (.cosObject number) => [number]
  | _ => []

/-- `DefaultGeneralSafeObjects`. -/
def defaultGeneralSafeObjects (jvm : Jvm) : GeneralSafeObjects := fun revData =>
  (match revData.catalog with
    | some rootDic =>
        addSafeOjects rootDic ["DSS", "Extensions", "Metadata"] ++
          dssObjects jvm rootDic revData.cosDocument
    | none => []) ++
  infoObjects jvm revData.cosDocument.trailer

/-- `StrictGeneralSafeObjects` adds no safe objects. -/
def strictGeneralSafeObjects : GeneralSafeObjects := fun _ => []

/-! ## The comparison of two catalogs -/

/-- What the scan of the new catalog accumulates. -/
structure RootScan where
  legalRootObject : Bool
  changedRootItems : List String
  addedRootItems : List String
  safeObjects : List Nat

def RootScan.start : RootScan := ⟨true, [], [], []⟩

/-- The verdict on one entry, against the value the last catalog has for it. -/
def compareRootItem (jvm : Jvm) (key : String) (value lastValue : ObjectValue)
    (acc : RootScan) : RootScan :=
  match lastValue with
  | .null => { acc with addedRootItems := acc.addedRootItems ++ [key] }
  | .other => { acc with legalRootObject := false }
  | lastValue =>
      if value.valueMatches jvm lastValue then acc
      else { acc with changedRootItems := acc.changedRootItems ++ [key] }

/-- One entry of the new catalog. -/
def scanRootEntry (jvm : Jvm) (cosDocument : COSDocument)
    (lastRoot : Option (List (String × COSBase))) (acc : RootScan)
    (entry : String × COSBase) : RootScan :=
  match lastRoot with
  | none => { acc with legalRootObject := false }
  | some lastDic =>
      let acc := compareRootItem jvm entry.1 (ObjectValue.ofBase entry.2)
        (ObjectValue.ofCOS (lastDic.lookup entry.1)) acc
      { acc with safeObjects := addSafeObjects jvm entry.1 entry.2 acc.safeObjects cosDocument }

/-- The scan, which runs when the root was updated. -/
def scanRoot (jvm : Jvm) (revData : PDFDocRevision)
    (lastRoot : Option (List (String × COSBase))) : RootScan :=
  match revData.catalog with
  | some rootDic => rootDic.foldl (scanRootEntry jvm revData.cosDocument lastRoot) RootScan.start
  | none => { RootScan.start with legalRootObject := false }

/-! ## The update marks of a revision -/

/-- A changed reference that is neither the root's nor exempt. -/
def unsafeRefupdate (revData : PDFDocRevision) : Bool :=
  revData.changedXref.any fun e =>
    e.1.number != revData.rootObjectId && !revData.safeObjects.contains e.1.number

/-- A changed root item other than the form. -/
def unsupportedRootItemUpdate (revData : PDFDocRevision) : Bool :=
  revData.changedRootItems.any fun name => name != "AcroForm"

def addedRootItemsContains (jvm : Jvm) (addedRootItems : List String)
    (matchNames : List String) : Bool :=
  matchNames.all fun matchName =>
    addedRootItems.any fun cosName => jvm.equalsIgnoreCase cosName matchName

def isValidDSSUpdate (jvm : Jvm) (revData : PDFDocRevision) : Bool :=
  revData.rootUpdate && revData.safeUpdate && revData.legalRootObject &&
    revData.changedRootItems.length == 0 &&
    (revData.addedRootItems.length == 1 &&
        addedRootItemsContains jvm revData.addedRootItems ["DSS"] ||
      revData.addedRootItems.length == 2 &&
        addedRootItemsContains jvm revData.addedRootItems ["DSS", "Extensions"])

/-- The first half of `getXrefUpdates`: the changed references, and what the
catalogs say when the root is among them. The first revision has nothing to
change, so its root is never scanned. -/
def collectUpdates (jvm : Jvm) (revData : PDFDocRevision) (lastRevData : Option PDFDocRevision) :
    PDFDocRevision :=
  let lastTable := (lastRevData.map PDFDocRevision.xrefTable).getD ∅
  let changed := changedXref lastTable revData.xrefTable
  let rootUpdate := changed.any fun e => e.1.number == revData.rootObjectId
  let scan :=
    if rootUpdate then scanRoot jvm revData (lastRevData.bind PDFDocRevision.catalog)
    else RootScan.start
  { revData with
    changedXref := changed
    addedXref := addedXref lastTable revData.xrefTable
    rootUpdate := rootUpdate
    nonRootUpdate := changed.any fun e => e.1.number != revData.rootObjectId
    legalRootObject := scan.legalRootObject
    changedRootItems := scan.changedRootItems
    addedRootItems := scan.addedRootItems
    safeObjects := scan.safeObjects }

/-- `getXrefUpdates(revData, lastRevData)`. -/
def getXrefUpdates (jvm : Jvm) (safeObjectProvider : GeneralSafeObjects)
    (revData : PDFDocRevision) (lastRevData : Option PDFDocRevision) : PDFDocRevision :=
  let collected := collectUpdates jvm revData lastRevData
  let exempted :=
    { collected with safeObjects := collected.safeObjects ++ safeObjectProvider collected }
  let marked :=
    { exempted with
      safeUpdate := !unsupportedRootItemUpdate exempted && !unsafeRefupdate exempted &&
        exempted.legalRootObject }
  { marked with validDSS := isValidDSSUpdate jvm marked }

end SigVal.Pdf
