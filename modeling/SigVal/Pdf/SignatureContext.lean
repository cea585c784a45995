import SigVal.Pdf.SafeUpdate

/-!
# Signatures in a document with several revisions

`DefaultPDFSignatureContext` answers two questions about a signature: was the
document extended by an update that is not safe, and does the signature cover
the whole document. Both locate the revision of the signature by its length and
look at the revisions after it.
-/

namespace SigVal.Pdf

open SigVal.Java

/-- What is read of a signature dictionary (`PDSignature`): its byte range, an
array of `int`, and its sub filter. -/
structure PDSignature where
  byteRange : List Int
  subFilter : Option String
deriving DecidableEq, Repr

/-- The bytes of the document and its revisions, shortest first. -/
structure DefaultPDFSignatureContext where
  pdfBytes : Bytes
  pdfDocRevisions : List PDFDocRevision

namespace DefaultPDFSignatureContext

/-- The end of the signed bytes, in `int` arithmetic. -/
def signedLength (signature : PDSignature) : Outcome Int := do
  let start ← arrayGet signature.byteRange 2
  let len ← arrayGet signature.byteRange 3
  pure (toInt (start + len))

/-- `getSignatureRevisionIndex`: `none` stands for -1. -/
def getSignatureRevisionIndex (ctx : DefaultPDFSignatureContext) (signature : PDSignature) :
    Outcome (Option Nat) :=
  rethrowAs .illegalArgument "Error examining signature revision" do
    let len ← signedLength signature
    pure (ctx.pdfDocRevisions.findIdx? fun revision => revision.length == len)

/-- The loop over the later revisions. The first one that is neither a
signature nor a DSS store decides. -/
def extendedBy : List PDFDocRevision → Bool
  | [] => false
  | pdfDocRevision :: later =>
      if !pdfDocRevision.signature && !pdfDocRevision.validDSS then !pdfDocRevision.safeUpdate
      else extendedBy later

def isSignatureExtendedByNonSafeUpdates (ctx : DefaultPDFSignatureContext)
    (signature : PDSignature) : Outcome Bool :=
  rethrowAs .illegalArgument "Error examining signature extensions" do
    match ← ctx.getSignatureRevisionIndex signature with
    | none => throw ⟨.illegalArgument, "Signature not found"⟩
    | some idx => pure (extendedBy (ctx.pdfDocRevisions.drop (idx + 1)))

def isCoversWholeDocument (ctx : DefaultPDFSignatureContext) (signature : PDSignature) :
    Outcome Bool := do
  match ← ctx.getSignatureRevisionIndex signature with
  | none => throw ⟨.illegalArgument, "The specified signature was not found in the document"⟩
  | some revisionIndex =>
      if revisionIndex + 1 = ctx.pdfDocRevisions.length then pure true
      else
        pure ((ctx.pdfDocRevisions.drop (revisionIndex + 1)).all fun nextRevision =>
          nextRevision.safeUpdate)

/-- `getSignedDocument`: the bytes up to the end of the signature's revision. -/
def getSignedDocument (ctx : DefaultPDFSignatureContext) (signature : PDSignature) :
    Outcome Bytes :=
  rethrowAs .illegalArgument "Error extracting signed version" do
    match ← ctx.getSignatureRevisionIndex signature with
    | none => throw ⟨.illegalArgument, "Signature not found"⟩
    | some idx =>
        let revision ← deref ctx.pdfDocRevisions[idx]?
        pure (ctx.pdfBytes.take revision.length.toNat)

end DefaultPDFSignatureContext

/-! ## Extension by an update that is not safe -/

open DefaultPDFSignatureContext

/-- The revision is neither a signature or timestamp nor a DSS store. -/
def Ordinary (rev : PDFDocRevision) : Prop := rev.signature = false ∧ rev.validDSS = false

/-- The update may alter what a signature before it covers. -/
def NonSafe (rev : PDFDocRevision) : Prop := Ordinary rev ∧ rev.safeUpdate = false

/-- The first ordinary revision is safe, and one that is not safe comes after
it. -/
inductive Masked : List PDFDocRevision → Prop where
  | here {rev : PDFDocRevision} {later : List PDFDocRevision} :
      Ordinary rev → rev.safeUpdate = true → (∃ r ∈ later, NonSafe r) → Masked (rev :: later)
  | skip {rev : PDFDocRevision} {later : List PDFDocRevision} :
      ¬ Ordinary rev → Masked later → Masked (rev :: later)

theorem ordinary_iff (rev : PDFDocRevision) :
    Ordinary rev ↔ (!rev.signature && !rev.validDSS) = true := by
  simp [Ordinary]

theorem extendedBy_ordinary {rev : PDFDocRevision} (h : Ordinary rev)
    (later : List PDFDocRevision) : extendedBy (rev :: later) = !rev.safeUpdate :=
  if_pos ((ordinary_iff rev).mp h)

theorem extendedBy_skip {rev : PDFDocRevision} (h : ¬ Ordinary rev)
    (later : List PDFDocRevision) : extendedBy (rev :: later) = extendedBy later :=
  if_neg (mt (ordinary_iff rev).mpr h)

/-- The loop is right unless the unsafe revision is masked. -/
theorem extendedBy_iff (later : List PDFDocRevision) :
    (extendedBy later = true ↔ ∃ r ∈ later, NonSafe r) ↔ ¬ Masked later := by
  induction later with
  | nil =>
      constructor
      · intro _ h
        cases h
      · intro _
        simp [extendedBy]
  | cons rev later ih =>
      by_cases hord : Ordinary rev
      · rw [extendedBy_ordinary hord]
        constructor
        · rintro hiff (⟨_, hsafe, r, hr, hbad⟩ | ⟨hnot, _⟩)
          · have := hiff.mpr ⟨r, List.mem_cons_of_mem _ hr, hbad⟩
            rw [hsafe] at this
            cases this
          · exact hnot hord
        · intro hmasked
          constructor
          · intro h
            exact ⟨rev, List.mem_cons_self, hord, by simpa using h⟩
          · rintro ⟨r, hr, hbad⟩
            rcases List.mem_cons.mp hr with rfl | hr
            · rw [hbad.2]
              rfl
            · by_contra hsafe
              exact hmasked (.here hord (by simpa using hsafe) ⟨r, hr, hbad⟩)
      · rw [extendedBy_skip hord]
        have hmem : (∃ r ∈ rev :: later, NonSafe r) ↔ ∃ r ∈ later, NonSafe r := by
          rw [List.exists_mem_cons_iff]
          exact or_iff_right fun h => hord h.1
        have hmask : Masked (rev :: later) ↔ Masked later := by
          constructor
          · rintro (⟨h, _⟩ | ⟨_, h⟩)
            · exact absurd h hord
            · exact h
          · exact .skip hord
        rw [hmem, hmask]
        exact ih

/-- **Extension of a signature.** For a signature whose revision is found, the
call returns, and its answer is right exactly when no unsafe revision is masked
by a safe one. -/
theorem extended_by_non_safe_iff {ctx : DefaultPDFSignatureContext} {signature : PDSignature}
    {idx : Nat} (hfound : ctx.getSignatureRevisionIndex signature = .ok (some idx)) :
    ∃ answer, ctx.isSignatureExtendedByNonSafeUpdates signature = .ok answer ∧
      ((answer = true ↔ ∃ r ∈ ctx.pdfDocRevisions.drop (idx + 1), NonSafe r) ↔
        ¬ Masked (ctx.pdfDocRevisions.drop (idx + 1))) := by
  refine ⟨extendedBy (ctx.pdfDocRevisions.drop (idx + 1)), ?_, extendedBy_iff _⟩
  unfold isSignatureExtendedByNonSafeUpdates
  rw [rethrowAs_ok_iff, hfound]
  rfl

/-! A signature, a safe update that adds nothing visible, and then an update
that rewrites the content of the signed page. -/

def resavedRevision : PDFDocRevision :=
  { getXrefUpdates plainJvm (defaultGeneralSafeObjects plainJvm) signedRevision
      (some signedRevision) with length := 700, signature := false }

/-- The content of the page moves, and nothing exempts it. -/
def rewrittenDocument : COSDocument where
  xrefTable := [⟨⟨1, 0⟩, 10⟩, ⟨⟨2, 0⟩, 20⟩, ⟨⟨3, 0⟩, 30⟩, ⟨⟨4, 0⟩, 740⟩].toAList
  objects := pageObjects.toAList
  trailer := [("Root", .object ⟨1, 0⟩)]
  objects_wf := pageObjects_wf

def rewrittenRevision : PDFDocRevision :=
  getXrefUpdates plainJvm (defaultGeneralSafeObjects plainJvm)
    (.ofDocument 900 false false rewrittenDocument ⟨1, 0⟩ rfl) (some resavedRevision)

def alteredContext : DefaultPDFSignatureContext :=
  ⟨[], [signedRevision, resavedRevision, rewrittenRevision]⟩

def signedRange : PDSignature := ⟨[0, 100, 200, 300], none⟩

theorem extended_by_non_safe_iff_altered :
    alteredContext.getSignatureRevisionIndex signedRange = .ok (some 0) ∧
    ∃ answer, alteredContext.isSignatureExtendedByNonSafeUpdates signedRange = .ok answer ∧
      ((answer = true ↔ ∃ r ∈ [resavedRevision, rewrittenRevision], NonSafe r) ↔
        ¬ Masked [resavedRevision, rewrittenRevision]) := by
  have hfound : alteredContext.getSignatureRevisionIndex signedRange = .ok (some 0) := rfl
  exact ⟨hfound, extended_by_non_safe_iff hfound⟩

/-- The altered page goes unnoticed behind the safe update. -/
theorem altered_page_unnoticed :
    alteredContext.getSignatureRevisionIndex signedRange = .ok (some 0) ∧
    alteredContext.isSignatureExtendedByNonSafeUpdates signedRange = .ok false ∧
    ∃ r ∈ alteredContext.pdfDocRevisions.drop 1, NonSafe r := by
  refine ⟨rfl, rfl, rewrittenRevision, ?_, ⟨rfl, rfl⟩, rfl⟩
  exact List.mem_cons_of_mem _ List.mem_cons_self

end SigVal.Pdf
