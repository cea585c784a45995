import SigVal.Pdf.SignatureContext

/-!
# Stricter and more lenient providers of safe objects

Which object numbers may change is up to the provider of general safe objects. A
provider that exempts more marks more revisions as safe. For the two questions about
a signature this is not immediate: one of them stops at the first revision that is
neither a signature nor a DSS store, and a mark that changes could make it look at a
later one. It does not, because a revision the stricter provider marks as safe is a
DSS store for both or for neither.
-/

namespace SigVal.Pdf

open SigVal.Java DefaultPDFSignatureContext

/-- The loop at the end of `extractPdfRevisionData`: each revision is compared with the
one before it, as that one was left. -/
def markRevisions (jvm : Jvm) (safeObjectProvider : GeneralSafeObjects) :
    Option PDFDocRevision → List PDFDocRevision → List PDFDocRevision
  | _, [] => []
  | lastRevData, revData :: rest =>
      let marked := getXrefUpdates jvm safeObjectProvider revData lastRevData
      marked :: markRevisions jvm safeObjectProvider (some marked) rest

/-- The context of a document whose revisions were loaded, shortest first. -/
def DefaultPDFSignatureContext.ofRevisions (jvm : Jvm) (safeObjectProvider : GeneralSafeObjects)
    (pdfBytes : Bytes) (loaded : List PDFDocRevision) : DefaultPDFSignatureContext :=
  ⟨pdfBytes, markRevisions jvm safeObjectProvider none loaded⟩

/-! ## One revision under two providers -/

/-- The two revisions are read from the same file; their marks may differ. -/
structure SameFile (a b : PDFDocRevision) : Prop where
  cosDocument : a.cosDocument = b.cosDocument
  rootObject : a.rootObject = b.rootObject

/-- `lenient` is the revision `strict` with marks that exempt more. -/
structure MarkedMore (strict lenient : PDFDocRevision) : Prop where
  file : SameFile strict lenient
  length : strict.length = lenient.length
  signature : strict.signature = lenient.signature
  safeUpdate : strict.safeUpdate = true → lenient.safeUpdate = true
  validDSS : strict.safeUpdate = true → strict.validDSS = lenient.validDSS
  safeUpdate_of_validDSS : strict.validDSS = true → strict.safeUpdate = true

section Marks

variable {jvm : Jvm} {strict lenient : GeneralSafeObjects} {rev a b : PDFDocRevision}

/-- The comparison reads nothing of the last revision but its file. -/
theorem collectUpdates_congr {last last' : Option PDFDocRevision}
    (h : Option.Rel SameFile last last') :
    collectUpdates jvm rev last = collectUpdates jvm rev last' := by
  cases h with
  | none => rfl
  | @some a b hfile =>
      have hxref : a.xrefTable = b.xrefTable := congrArg COSDocument.xrefTable hfile.cosDocument
      have hcatalog : a.catalog = b.catalog := by
        unfold PDFDocRevision.catalog PDFDocRevision.getRootObject
        rw [hfile.cosDocument, hfile.rootObject]
      simp only [collectUpdates, Option.map_some, Option.getD_some, Option.bind_some, hxref,
        hcatalog]

/-- More safe objects leave fewer unsafe references. -/
theorem unsafeRefupdate_mono {objects objects' : List Nat} (hsub : objects ⊆ objects')
    (h : unsafeRefupdate { rev with safeObjects := objects } = false) :
    unsafeRefupdate { rev with safeObjects := objects' } = false := by
  unfold unsafeRefupdate at h ⊢
  rw [List.any_eq_false] at h ⊢
  intro e he hmarked
  apply h e he
  simp only [Bool.and_eq_true, Bool.not_eq_true', List.contains_eq_mem, decide_eq_false_iff_not]
    at hmarked ⊢
  exact ⟨hmarked.1, fun hmem => hmarked.2 (hsub hmem)⟩

/-- Everything else the marks depend on is the same for both providers. -/
theorem getXrefUpdates_markedMore {last last' : Option PDFDocRevision}
    (hmore : ∀ rev, strict rev ⊆ lenient rev) (hlast : Option.Rel SameFile last last') :
    MarkedMore (getXrefUpdates jvm strict rev last) (getXrefUpdates jvm lenient rev last') := by
  have hcollect : collectUpdates jvm rev last = collectUpdates jvm rev last' :=
    collectUpdates_congr hlast
  have hsafe : (getXrefUpdates jvm strict rev last).safeUpdate = true →
      (getXrefUpdates jvm lenient rev last').safeUpdate = true := by
    simp only [getXrefUpdates, Bool.and_eq_true, Bool.not_eq_true', ← hcollect]
    rintro ⟨⟨hitems, hrefs⟩, hlegal⟩
    refine ⟨⟨hitems, ?_⟩, hlegal⟩
    refine unsafeRefupdate_mono ?_ hrefs
    intro number hnumber
    rcases List.mem_append.mp hnumber with hroot | hgeneral
    · exact List.mem_append_left _ hroot
    · exact List.mem_append_right _ (hmore _ hgeneral)
  refine ⟨⟨rfl, rfl⟩, rfl, rfl, hsafe, ?_, ?_⟩
  · intro hstrict
    have hlenient := hsafe hstrict
    simp only [getXrefUpdates, ← hcollect] at hstrict hlenient ⊢
    simp only [isValidDSSUpdate, hstrict, hlenient]
  · intro hdss
    simp only [getXrefUpdates, isValidDSSUpdate, Bool.and_eq_true] at hdss ⊢
    exact hdss.1.1.1.2

end Marks

/-! ## All revisions of a document -/

section Documents

variable {jvm : Jvm} {strict lenient : GeneralSafeObjects}

theorem markRevisions_markedMore (hmore : ∀ rev, strict rev ⊆ lenient rev)
    (loaded : List PDFDocRevision) :
    ∀ {last last' : Option PDFDocRevision}, Option.Rel SameFile last last' →
      List.Forall₂ MarkedMore (markRevisions jvm strict last loaded)
        (markRevisions jvm lenient last' loaded) := by
  induction loaded with
  | nil =>
      intro last last' _
      exact .nil
  | cons rev rest ih =>
      intro last last' hlast
      have hhead : MarkedMore (getXrefUpdates jvm strict rev last)
          (getXrefUpdates jvm lenient rev last') := getXrefUpdates_markedMore hmore hlast
      exact .cons hhead (ih (.some hhead.file))

/-- Both contexts find a signature in the same place. -/
theorem getSignatureRevisionIndex_congr {revisions revisions' : List PDFDocRevision}
    (h : List.Forall₂ MarkedMore revisions revisions') (pdfBytes : Bytes)
    (signature : PDSignature) :
    getSignatureRevisionIndex ⟨pdfBytes, revisions⟩ signature =
      getSignatureRevisionIndex ⟨pdfBytes, revisions'⟩ signature := by
  have hfind : ∀ len : Int, (revisions.findIdx? fun revision => revision.length == len) =
      revisions'.findIdx? fun revision => revision.length == len := by
    intro len
    induction h with
    | nil => rfl
    | cons hhead _ ih => rw [List.findIdx?_cons, List.findIdx?_cons, hhead.length, ih]
  simp only [getSignatureRevisionIndex, hfind]

/-- The scan over all later revisions. -/
theorem all_safeUpdate_mono {revisions revisions' : List PDFDocRevision}
    (h : List.Forall₂ MarkedMore revisions revisions')
    (hall : (revisions.all fun rev => rev.safeUpdate) = true) :
    (revisions'.all fun rev => rev.safeUpdate) = true := by
  induction h with
  | nil => rfl
  | cons hhead _ ih =>
      rw [List.all_cons, Bool.and_eq_true] at hall ⊢
      exact ⟨hhead.safeUpdate hall.1, ih hall.2⟩

/-- The scan that stops at the first ordinary revision. Where it stops under the
stricter marks with a safe revision, it stops under the others too. -/
theorem extendedBy_mono {revisions revisions' : List PDFDocRevision}
    (h : List.Forall₂ MarkedMore revisions revisions') (hstrict : extendedBy revisions = false) :
    extendedBy revisions' = false := by
  induction h with
  | nil => rfl
  | @cons rev rev' rest rest' hhead _ ih =>
      by_cases hord : Ordinary rev
      · rw [extendedBy_ordinary hord, Bool.not_eq_false'] at hstrict
        have hord' : Ordinary rev' :=
          ⟨hhead.signature ▸ hord.1, hhead.validDSS hstrict ▸ hord.2⟩
        rw [extendedBy_ordinary hord', hhead.safeUpdate hstrict]
        rfl
      · rw [extendedBy_skip hord] at hstrict
        have hord' : ¬ Ordinary rev' := by
          rintro ⟨hsignature, hdss⟩
          refine hord ⟨hhead.signature.trans hsignature, ?_⟩
          -- a DSS store under the stricter marks is one under the others
          by_contra hstore
          rw [Bool.not_eq_false] at hstore
          rw [hhead.validDSS (hhead.safeUpdate_of_validDSS hstore), hdss] at hstore
          cases hstore
        rw [extendedBy_skip hord']
        exact ih hstrict

/-- Revisions that are all safe extend nothing. -/
theorem extendedBy_of_all_safeUpdate {revisions : List PDFDocRevision}
    (hall : (revisions.all fun rev => rev.safeUpdate) = true) : extendedBy revisions = false := by
  induction revisions with
  | nil => rfl
  | cons rev rest ih =>
      rw [List.all_cons, Bool.and_eq_true] at hall
      by_cases hord : Ordinary rev
      · rw [extendedBy_ordinary hord, hall.1]
        rfl
      · rw [extendedBy_skip hord]
        exact ih hall.2

end Documents

/-! ## The two questions about a signature -/

section Verdicts

variable {ctx : DefaultPDFSignatureContext} {signature : PDSignature}

theorem isCoversWholeDocument_iff :
    ctx.isCoversWholeDocument signature = .ok true ↔
      ∃ idx, ctx.getSignatureRevisionIndex signature = .ok (some idx) ∧
        ((ctx.pdfDocRevisions.drop (idx + 1)).all fun rev => rev.safeUpdate) = true := by
  unfold isCoversWholeDocument
  rw [bind_ok_iff]
  constructor
  · rintro ⟨found, hfound, h⟩
    cases found with
    | none => cases h
    | some idx =>
        refine ⟨idx, hfound, ?_⟩
        dsimp only at h
        split at h
        · rename_i hlast
          rw [List.drop_eq_nil_of_le (Nat.le_of_eq hlast.symm)]
          rfl
        · exact Except.ok.inj h
  · rintro ⟨idx, hfound, hall⟩
    refine ⟨some idx, hfound, ?_⟩
    dsimp only
    split
    · rfl
    · exact congrArg Except.ok hall

theorem isSignatureExtendedByNonSafeUpdates_iff :
    ctx.isSignatureExtendedByNonSafeUpdates signature = .ok false ↔
      ∃ idx, ctx.getSignatureRevisionIndex signature = .ok (some idx) ∧
        extendedBy (ctx.pdfDocRevisions.drop (idx + 1)) = false := by
  unfold isSignatureExtendedByNonSafeUpdates
  rw [rethrowAs_ok_iff, bind_ok_iff]
  constructor
  · rintro ⟨found, hfound, h⟩
    cases found with
    | none => cases h
    | some idx => exact ⟨idx, hfound, Except.ok.inj h⟩
  · rintro ⟨idx, hfound, h⟩
    exact ⟨some idx, hfound, congrArg Except.ok h⟩

/-- A signature that covers the whole document is not extended, whatever the marks rest
on. -/
theorem not_extended_of_covers (h : ctx.isCoversWholeDocument signature = .ok true) :
    ctx.isSignatureExtendedByNonSafeUpdates signature = .ok false := by
  obtain ⟨idx, hfound, hall⟩ := isCoversWholeDocument_iff.mp h
  exact isSignatureExtendedByNonSafeUpdates_iff.mpr
    ⟨idx, hfound, extendedBy_of_all_safeUpdate hall⟩

end Verdicts

/-- **The strict provider refines the default one.** Every revision that is a safe
update, or a valid DSS store, without general safe objects is one with them; a
signature that covers the whole document then does so with them, and one that is not
extended is not extended with them. With either provider a signature that covers the
whole document is not extended. -/
theorem strict_refines_default (jvm : Jvm) (pdfBytes : Bytes) (loaded : List PDFDocRevision) :
    let strict := ofRevisions jvm strictGeneralSafeObjects pdfBytes loaded
    let default := ofRevisions jvm (defaultGeneralSafeObjects jvm) pdfBytes loaded
    List.Forall₂ (fun s d => (s.safeUpdate = true → d.safeUpdate = true) ∧
        (s.validDSS = true → d.validDSS = true)) strict.pdfDocRevisions default.pdfDocRevisions ∧
      ∀ signature,
        (strict.isCoversWholeDocument signature = .ok true →
          default.isCoversWholeDocument signature = .ok true) ∧
        (strict.isSignatureExtendedByNonSafeUpdates signature = .ok false →
          default.isSignatureExtendedByNonSafeUpdates signature = .ok false) ∧
        (strict.isCoversWholeDocument signature = .ok true →
          strict.isSignatureExtendedByNonSafeUpdates signature = .ok false) ∧
        (default.isCoversWholeDocument signature = .ok true →
          default.isSignatureExtendedByNonSafeUpdates signature = .ok false) := by
  intro strict default
  have hmore : ∀ rev, strictGeneralSafeObjects rev ⊆ defaultGeneralSafeObjects jvm rev :=
    fun rev => List.nil_subset _
  have hmarks : List.Forall₂ MarkedMore strict.pdfDocRevisions default.pdfDocRevisions :=
    markRevisions_markedMore hmore loaded .none
  have hindex : ∀ signature, strict.getSignatureRevisionIndex signature =
      default.getSignatureRevisionIndex signature :=
    getSignatureRevisionIndex_congr hmarks pdfBytes
  refine ⟨hmarks.imp ?_, ?_⟩
  · intro s d h
    refine ⟨h.safeUpdate, ?_⟩
    intro hdss
    rw [← h.validDSS (h.safeUpdate_of_validDSS hdss)]
    exact hdss
  · intro signature
    refine ⟨?_, ?_, not_extended_of_covers, not_extended_of_covers⟩
    · intro hcovers
      obtain ⟨idx, hfound, hall⟩ := isCoversWholeDocument_iff.mp hcovers
      exact isCoversWholeDocument_iff.mpr ⟨idx, hindex signature ▸ hfound,
        all_safeUpdate_mono (List.forall₂_drop (idx + 1) hmarks) hall⟩
    · intro hextended
      obtain ⟨idx, hfound, hscan⟩ := isSignatureExtendedByNonSafeUpdates_iff.mp hextended
      exact isSignatureExtendedByNonSafeUpdates_iff.mpr ⟨idx, hindex signature ▸ hfound,
        extendedBy_mono (List.forall₂_drop (idx + 1) hmarks) hscan⟩

end SigVal.Pdf
