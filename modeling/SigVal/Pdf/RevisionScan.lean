import SigVal.Pdf.SafeObjectProviders
import Mathlib.Data.List.Sort

/-!
# From the bytes of a document to its revisions

The constructor of `DefaultPDFSignatureContext` looks for the revisions of a document
from its end: each `%%EOF` ends one, together with the line break after it. The prefix
of the document up to there is loaded like a document of its own, and one that does not
load is passed over. What is left is sorted by length and compared revision by
revision.
-/

namespace SigVal.Pdf

open SigVal.Java

/-- The characters indicating the end of a revision. -/
def EOF : Bytes := [0x25, 0x25, 0x45, 0x4f, 0x46]

/-- `lastIndexOf(EOF)` in the first `len` bytes. -/
def lastIndexOfEoF (pdfBytes : Bytes) (len : Nat) : Option Nat :=
  (List.range len).reverse.find? fun i => EOF.isPrefixOf ((pdfBytes.take len).drop i)

/-- The end of the revision whose marker is at the index: one line break is part of it. -/
def revisionLen (pdfBytes : Bytes) (lastIndexOfEoF : Nat) : Nat :=
  match pdfBytes[lastIndexOfEoF + 5]?, pdfBytes[lastIndexOfEoF + 6]? with
  | some 0x0a, _ => lastIndexOfEoF + 6
  | some 0x0d, some 0x0a => lastIndexOfEoF + 7
  | _, _ => lastIndexOfEoF + 5

/-- What `getRevision` finds out about a revision. -/
structure RevisionCandidate where
  length : Nat
  signature : Bool
  documentTimestamp : Bool
deriving DecidableEq, Repr

def subfilterEtsiRfc3161 : String := "ETSI.RFC3161"

/-- The loop over the signatures of the document; the last one that ends with the
revision decides whether it is a timestamp. -/
def revisionAt (pdfBytes : Bytes) (signatures : List PDSignature) (lastIndexOfEoF : Nat) :
    Outcome RevisionCandidate :=
  let length := revisionLen pdfBytes lastIndexOfEoF
  signatures.foldlM
    (fun candidate signature => do
      let len ← DefaultPDFSignatureContext.signedLength signature
      if len = length then
        pure
          { candidate with
            signature := true
            documentTimestamp := signature.subFilter == some subfilterEtsiRfc3161 }
      else pure candidate)
    ⟨length, false, false⟩

theorem lastIndexOfEoF_le {pdfBytes : Bytes} {len i : Nat}
    (h : lastIndexOfEoF pdfBytes len = some i) : i + 5 ≤ min len pdfBytes.length := by
  have hprefix := List.find?_some h
  rw [List.isPrefixOf_iff_prefix] at hprefix
  have hlength := hprefix.length_le
  simp only [EOF, List.length_cons, List.length_nil, List.length_drop, List.length_take]
    at hlength
  omega

theorem revisionLen_le {pdfBytes : Bytes} {i : Nat} (h : i + 5 ≤ pdfBytes.length) :
    revisionLen pdfBytes i ≤ pdfBytes.length := by
  unfold revisionLen
  split
  · rename_i hfirst
    have hlt := (List.getElem?_eq_some_iff.mp hfirst).1
    omega
  · rename_i hsecond
    have hlt := (List.getElem?_eq_some_iff.mp hsecond).1
    omega
  · exact h

theorem revisionLen_lt (pdfBytes : Bytes) (i : Nat) : revisionLen pdfBytes i ≤ i + 7 := by
  unfold revisionLen
  split <;> omega

/-- `getRevision`, iterated from the end of the document. -/
def revisionsBelow (pdfBytes : Bytes) (signatures : List PDSignature) (len : Nat) :
    Outcome (List RevisionCandidate) :=
  match h : lastIndexOfEoF pdfBytes len with
  | none => .ok []
  | some i => do
      let candidate ← revisionAt pdfBytes signatures i
      let earlier ← revisionsBelow pdfBytes signatures (revisionLen pdfBytes i - 5)
      pure (candidate :: earlier)
termination_by len
decreasing_by
  have hle := lastIndexOfEoF_le h
  have hlt := revisionLen_lt pdfBytes i
  omega

/-- A prefix of the document that loads, with the root of its trailer. -/
structure LoadedDocument where
  cosDocument : COSDocument
  rootObject : COSObjectKey
  rootObject_eq : cosDocument.trailer.lookup "Root" = some (.object rootObject)

/-- What is asked of the PDF library. -/
structure PdfLoader where
  getSignatureDictionaries : Bytes → Outcome (List PDSignature)
  loadPDF : Bytes → Option LoadedDocument

def consolidate (loader : PdfLoader) (pdfBytes : Bytes) (candidate : RevisionCandidate) :
    Option PDFDocRevision :=
  (loader.loadPDF (pdfBytes.take candidate.length)).map fun loaded =>
    .ofDocument candidate.length candidate.signature candidate.documentTimestamp
      loaded.cosDocument loaded.rootObject loaded.rootObject_eq

/-- The constructor of `DefaultPDFSignatureContext`. -/
def DefaultPDFSignatureContext.ofDocument (jvm : Jvm) (safeObjectProvider : GeneralSafeObjects)
    (loader : PdfLoader) (pdfBytes : Bytes) : Outcome DefaultPDFSignatureContext := do
  let signatures ← loader.getSignatureDictionaries pdfBytes
  let candidates ← revisionsBelow pdfBytes signatures pdfBytes.length
  let consolidatedList := candidates.filterMap (consolidate loader pdfBytes)
  let sorted := consolidatedList.mergeSort fun a b => decide (a.length ≤ b.length)
  pure (ofRevisions jvm safeObjectProvider pdfBytes sorted)

/-! ## Revisions lie within the document -/

section Lengths

variable {pdfBytes : Bytes} {signatures : List PDSignature}

/-- The signatures only set the marks of a revision. -/
theorem revisionAt_length {i : Nat} {candidate : RevisionCandidate}
    (h : revisionAt pdfBytes signatures i = .ok candidate) :
    candidate.length = revisionLen pdfBytes i := by
  unfold revisionAt at h
  dsimp only at h
  generalize hstart : (⟨revisionLen pdfBytes i, false, false⟩ : RevisionCandidate) = start at h
  have hlength : start.length = revisionLen pdfBytes i := by rw [← hstart]
  clear hstart
  induction signatures generalizing start with
  | nil =>
      cases h
      exact hlength
  | cons signature rest ih =>
      rw [List.foldlM_cons] at h
      obtain ⟨next, hnext, h⟩ := bind_ok_iff.mp h
      obtain ⟨len, -, hnext⟩ := bind_ok_iff.mp hnext
      apply ih next h
      split at hnext
      · cases hnext
        exact hlength
      · cases hnext
        exact hlength

theorem revisionsBelow_length_le (len : Nat) :
    ∀ {candidates : List RevisionCandidate},
      revisionsBelow pdfBytes signatures len = .ok candidates →
        ∀ candidate ∈ candidates, candidate.length ≤ pdfBytes.length := by
  induction len using revisionsBelow.induct pdfBytes with
  | case1 len hnone =>
      intro candidates h
      rw [revisionsBelow] at h
      split at h
      · cases h
        simp
      · rename_i i hsome
        rw [hnone] at hsome
        cases hsome
  | case2 len i hsome ih =>
      intro candidates h
      rw [revisionsBelow] at h
      split at h
      · rename_i hnone
        rw [hnone] at hsome
        cases hsome
      · rename_i i' hsome'
        rw [hsome] at hsome'
        cases hsome'
        obtain ⟨candidate, hcandidate, h⟩ := bind_ok_iff.mp h
        obtain ⟨earlier, hearlier, h⟩ := bind_ok_iff.mp h
        cases h
        have hmarker := lastIndexOfEoF_le hsome
        intro c hc
        rcases List.mem_cons.mp hc with rfl | hc
        · rw [revisionAt_length hcandidate]
          exact revisionLen_le (by omega)
        · exact ih hearlier c hc

theorem markRevisions_length (jvm : Jvm) (safeObjectProvider : GeneralSafeObjects)
    (loaded : List PDFDocRevision) :
    ∀ last, (markRevisions jvm safeObjectProvider last loaded).map (·.length) =
      loaded.map (·.length) := by
  induction loaded with
  | nil => exact fun _ => rfl
  | cons revData rest ih =>
      intro last
      show _ :: _ = _ :: _
      rw [ih]
      rfl

/-- A revision ends within the document. -/
theorem ofDocument_length_le {jvm : Jvm} {safeObjectProvider : GeneralSafeObjects}
    {loader : PdfLoader} {ctx : DefaultPDFSignatureContext}
    (h : DefaultPDFSignatureContext.ofDocument jvm safeObjectProvider loader pdfBytes = .ok ctx) :
    ∀ rev ∈ ctx.pdfDocRevisions, rev.length ≤ pdfBytes.length := by
  unfold DefaultPDFSignatureContext.ofDocument at h
  obtain ⟨signatures, -, h⟩ := bind_ok_iff.mp h
  obtain ⟨candidates, hcandidates, h⟩ := bind_ok_iff.mp h
  cases h
  intro rev hrev
  have hlength := List.mem_map_of_mem (f := PDFDocRevision.length) hrev
  simp only [DefaultPDFSignatureContext.ofRevisions, markRevisions_length, List.mem_map,
    List.mem_mergeSort, List.mem_filterMap] at hlength
  obtain ⟨loaded, ⟨candidate, hcandidate, hloaded⟩, hsame⟩ := hlength
  obtain ⟨document, -, rfl⟩ := Option.map_eq_some_iff.mp hloaded
  rw [← hsame]
  exact Int.ofNat_le.mpr (revisionsBelow_length_le _ hcandidates candidate hcandidate)

end Lengths

end SigVal.Pdf
