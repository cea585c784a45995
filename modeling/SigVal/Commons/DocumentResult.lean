import SigVal.Commons.SigValResult

/-!
# The verdict on a document

`SignedDocumentValidationResult` counts the signatures of a document and says whether all of
them are valid. The validators of the three formats write `getConcludingSigVerifyResult` out
alike, each for results of its own class.
-/

namespace SigVal.Commons

variable {Cert TS Result : Type}

/-- `SignedDocumentValidationResult`, with the values of a new object. -/
structure SignedDocumentValidationResult (Result : Type) where
  signed : Bool := false
  completeSuccess : Bool := false
  validSignatureSignsWholeDocument : Bool := false
  signatureCount : Nat := 0
  validSignatureCount : Nat := 0
  statusMessage : Option String := none
  signatureValidationResults : Option (List Result) := none

/-- The verdict on a document from its results, which are of a class that extends
`ExtendedSigValResult`. They are of the class the source casts them to, so the cast does not
fail. -/
def concludingResult (toExtended : Result → ExtendedSigValResult Cert TS)
    (sigVerifyResultList : List Result) : SignedDocumentValidationResult Result :=
  let sigVerifyResult : SignedDocumentValidationResult Result :=
    { signatureValidationResults := some sigVerifyResultList }
  if sigVerifyResultList.isEmpty then
    { sigVerifyResult with statusMessage := some "No signatures" }
  else
    let sigVerifyResult :=
      { sigVerifyResult with signed := true, signatureCount := sigVerifyResultList.length }
    let validSignatureResultList :=
      sigVerifyResultList.filter fun result => (toExtended result).isSuccess
    if validSignatureResultList.isEmpty then
      { sigVerifyResult with statusMessage := some "No valid signatures" }
    else
      let completeSuccess := sigVerifyResultList.length == validSignatureResultList.length
      { sigVerifyResult with
        validSignatureCount := validSignatureResultList.length
        completeSuccess := completeSuccess
        statusMessage := some
          (if completeSuccess then "OK" else "Some signatures are valid and some are invalid")
        validSignatureSignsWholeDocument :=
          validSignatureResultList.any fun result => (toExtended result).coversDocument }

/-- `getConcludingSigVerifyResult` of the XML and the JOSE validator. -/
def getConcludingSigVerifyResult (sigVerifyResultList : List (ExtendedSigValResult Cert TS)) :
    SignedDocumentValidationResult (ExtendedSigValResult Cert TS) :=
  concludingResult id sigVerifyResultList

section Verdict

variable (toExtended : Result → ExtendedSigValResult Cert TS) (results : List Result)

theorem isSuccess_iff {result : ExtendedSigValResult Cert TS} :
    result.isSuccess = true ↔ result.status = .SUCCESS := by
  unfold ExtendedSigValResult.isSuccess
  exact beq_iff_eq

/-- The results are handed on, and counted. -/
theorem concludingResult_results :
    (concludingResult toExtended results).signatureValidationResults = some results ∧
      (concludingResult toExtended results).signatureCount = results.length := by
  unfold concludingResult
  dsimp only
  split
  · rename_i hempty
    rw [List.isEmpty_iff.mp hempty]
    exact ⟨rfl, rfl⟩
  · split
    · exact ⟨rfl, rfl⟩
    · exact ⟨rfl, rfl⟩

/-- Complete success is success of every signature, and of at least one. -/
theorem concludingResult_completeSuccess_iff :
    (concludingResult toExtended results).completeSuccess = true ↔
      results ≠ [] ∧ ∀ result ∈ results, (toExtended result).status = .SUCCESS := by
  have hall :
      results.length = (results.filter fun result => (toExtended result).isSuccess).length ↔
      ∀ result ∈ results, (toExtended result).status = .SUCCESS := by
    rw [eq_comm, List.length_filter_eq_length_iff]
    exact forall₂_congr fun _ _ => isSuccess_iff
  unfold concludingResult
  dsimp only
  split
  · rename_i hempty
    have hnil : results = [] := List.isEmpty_iff.mp hempty
    constructor
    · intro h
      cases h
    · rintro ⟨hne, -⟩
      exact absurd hnil hne
  · rename_i hempty
    have hne : results ≠ [] := by simpa using hempty
    split
    · rename_i hnone
      rw [List.isEmpty_iff] at hnone
      constructor
      · intro h
        cases h
      · rintro ⟨-, hsuccess⟩
        have hlength := hall.mpr hsuccess
        rw [hnone] at hlength
        exact absurd (List.length_eq_zero_iff.mp hlength) hne
    · simp only [beq_iff_eq, hall, hne, ne_eq, not_false_eq_true, true_and]

end Verdict

end SigVal.Commons
