import SigVal.Pdf.RevisionScan
import SigVal.Pdf.SingleValidator

/-!
# Byte ranges over the integers

The byte range of a signature is four `int`s from the document. Its end is the last two of
them added up, and the sum wraps. A document timestamp covers a signature when this sum is
below the length of its first range. Where that range starts, and where the signed bytes and
the signature itself lie, is not looked at.
-/

namespace SigVal.Pdf

open SigVal.Java

/-- A `ByteRange` of four `int`s. -/
structure ByteRange where
  start₁ : Int
  length₁ : Int
  start₂ : Int
  length₂ : Int
  isInt : ∀ x ∈ [start₁, length₁, start₂, length₂], -(2 ^ 31) ≤ x ∧ x < 2 ^ 31

namespace ByteRange

/-- A signature dictionary with this range. -/
def signature (range : ByteRange) (subFilter : Option String) : PDSignature :=
  ⟨[range.start₁, range.length₁, range.start₂, range.length₂], subFilter⟩

/-- The end of the second range. -/
def endOffset (range : ByteRange) : Int := range.start₂ + range.length₂

theorem signedLength_signature (range : ByteRange) (subFilter : Option String) :
    DefaultPDFSignatureContext.signedLength (range.signature subFilter) =
      .ok (toInt range.endOffset) := rfl

end ByteRange

/-- A sum that is an `int` does not wrap. -/
theorem toInt_of_isInt {x : Int} (hx : -(2 ^ 31) ≤ x ∧ x < 2 ^ 31) : toInt x = x := by
  unfold toInt
  exact Int.bmod_eq_of_le (by omega) (by omega)

/-! ## Signed bytes -/

/-- The offset is in one of the ranges, each given by its start and its length. -/
def SignedBy : List Int → Int → Prop
  | start :: length :: rest, x => (start ≤ x ∧ x < start + length) ∨ SignedBy rest x
  | _, _ => False

/-- The offset is left out between two ranges, where the signature stands. -/
def LeftOutBy : List Int → Int → Prop
  | start :: length :: next :: rest, x =>
      (start + length ≤ x ∧ x < next) ∨ LeftOutBy (next :: rest) x
  | _, _ => False

/-- Over the integers: the second range ends before the first range of the timestamp does,
which starts at 0, and the signature and all that it signs is among the bytes that the
timestamp signs. -/
structure CoversBytes (stamp signed : List Int) : Prop where
  start : stamp[0]? = some 0
  ends : ∃ start length limit, signed[2]? = some start ∧ signed[3]? = some length ∧
    stamp[1]? = some limit ∧ start + length < limit
  inside : ∀ x, SignedBy signed x ∨ LeftOutBy signed x → SignedBy stamp x

namespace ByteRange

/-- The offsets from `start` on, up to `stop`, are none, or those of one of the two ranges, or
of both where these touch. -/
def Holds (range : ByteRange) (start stop : Int) : Prop :=
  stop ≤ start ∨
    (range.start₁ ≤ start ∧ stop ≤ range.start₁ + range.length₁) ∨
    (range.start₂ ≤ start ∧ stop ≤ range.start₂ + range.length₂) ∨
    (range.start₁ ≤ start ∧ range.start₂ ≤ range.start₁ + range.length₁ ∧
      stop ≤ range.start₂ + range.length₂) ∨
    (range.start₂ ≤ start ∧ range.start₁ ≤ range.start₂ + range.length₂ ∧
      stop ≤ range.start₁ + range.length₁)

theorem signedBy_iff (range : ByteRange) (subFilter : Option String) (x : Int) :
    SignedBy (range.signature subFilter).byteRange x ↔
      (range.start₁ ≤ x ∧ x < range.start₁ + range.length₁) ∨
      (range.start₂ ≤ x ∧ x < range.start₂ + range.length₂) := by
  simp [signature, SignedBy]

theorem leftOutBy_iff (range : ByteRange) (subFilter : Option String) (x : Int) :
    LeftOutBy (range.signature subFilter).byteRange x ↔
      range.start₁ + range.length₁ ≤ x ∧ x < range.start₂ := by
  simp [signature, LeftOutBy]

/-- The ends of the ranges decide which stretches of offsets they hold. -/
theorem holds_iff (range : ByteRange) (subFilter : Option String) (start stop : Int) :
    range.Holds start stop ↔
      ∀ x, start ≤ x → x < stop → SignedBy (range.signature subFilter).byteRange x := by
  simp only [signedBy_iff]
  constructor
  · rintro (h | h | h | h | h) x hstart hstop
    · omega
    · omega
    · omega
    · omega
    · omega
  · intro h
    unfold Holds
    by_cases hempty : stop ≤ start
    · exact .inl hempty
    · -- the first offset, the last one, and those where a range ends
      have hfirst := h start
      have hlast := h (stop - 1)
      have hend₁ := h (range.start₁ + range.length₁)
      have hend₂ := h (range.start₂ + range.length₂)
      omega

/-- The parts of a signature: its ranges, and what is left out between them. -/
theorem inside_iff (stamp signed : ByteRange) (stampFilter signedFilter : Option String) :
    (∀ x, SignedBy (signed.signature signedFilter).byteRange x ∨
        LeftOutBy (signed.signature signedFilter).byteRange x →
      SignedBy (stamp.signature stampFilter).byteRange x) ↔
      stamp.Holds signed.start₁ (signed.start₁ + signed.length₁) ∧
        stamp.Holds (signed.start₁ + signed.length₁) signed.start₂ ∧
        stamp.Holds signed.start₂ signed.endOffset := by
  rw [stamp.holds_iff stampFilter, stamp.holds_iff stampFilter, stamp.holds_iff stampFilter]
  simp only [signedBy_iff signed, leftOutBy_iff signed]
  constructor
  · intro h
    refine ⟨?_, ?_, ?_⟩
    · intro x hstart hstop
      exact h x (.inl (.inl ⟨hstart, hstop⟩))
    · intro x hstart hstop
      exact h x (.inr ⟨hstart, hstop⟩)
    · intro x hstart hstop
      exact h x (.inl (.inr ⟨hstart, hstop⟩))
  · rintro ⟨hfirst, hgap, hsecond⟩ x ((⟨hstart, hstop⟩ | ⟨hstart, hstop⟩) | ⟨hstart, hstop⟩)
    · exact hfirst x hstart hstop
    · exact hsecond x hstart hstop
    · exact hgap x hstart hstop

theorem covers_iff (stamp signed : ByteRange) (stampFilter signedFilter : Option String) :
    CoversBytes (stamp.signature stampFilter).byteRange (signed.signature signedFilter).byteRange ↔
      stamp.start₁ = 0 ∧ signed.endOffset < stamp.length₁ ∧
        stamp.Holds signed.start₁ (signed.start₁ + signed.length₁) ∧
        stamp.Holds (signed.start₁ + signed.length₁) signed.start₂ ∧
        stamp.Holds signed.start₂ signed.endOffset := by
  rw [← inside_iff stamp signed stampFilter signedFilter]
  constructor
  · rintro ⟨hstart, ⟨start, length, limit, h2, h3, h1, hlt⟩, hinside⟩
    cases h1
    cases h2
    cases h3
    exact ⟨Option.some.inj hstart, hlt, hinside⟩
  · rintro ⟨hstart, hlt, hinside⟩
    exact ⟨congrArg some hstart, ⟨_, _, _, rfl, rfl, rfl, hlt⟩, hinside⟩

end ByteRange

/-! ## Document timestamps -/

section Covered

variable {Cert : Type}

/-- **Coverage by a timestamp.** A signature that counts as covered is covered over the
integers exactly when the first range of the timestamp starts at 0, the end of the signature
does not overflow, and its two ranges and the stretch between them are held by the ranges of
the timestamp, or when the signature does not count as covered. -/
theorem isSignatureCovered_exact_iff (ts : Commons.TimeStamp Cert) (stamp signed : ByteRange)
    (stampFilter signedFilter : Option String) :
    ((⟨ts, stamp.signature stampFilter⟩ : PDFDocTimeStamp Cert).isSignatureCovered
        (signed.signature signedFilter) = true →
      CoversBytes (stamp.signature stampFilter).byteRange
        (signed.signature signedFilter).byteRange) ↔
    (stamp.start₁ = 0 ∧ signed.endOffset < 2 ^ 31 ∧
      stamp.Holds signed.start₁ (signed.start₁ + signed.length₁) ∧
      stamp.Holds (signed.start₁ + signed.length₁) signed.start₂ ∧
      stamp.Holds signed.start₂ signed.endOffset) ∨
    stamp.length₁ ≤ toInt signed.endOffset := by
  have hcovered : (⟨ts, stamp.signature stampFilter⟩ : PDFDocTimeStamp Cert).isSignatureCovered
      (signed.signature signedFilter) = decide (stamp.length₁ > toInt signed.endOffset) := rfl
  rw [hcovered, decide_eq_true_eq, ByteRange.covers_iff]
  have hlength := stamp.isInt stamp.length₁ (by simp)
  constructor
  · intro hexact
    by_cases hcovers : stamp.length₁ > toInt signed.endOffset
    · obtain ⟨hstart, hend, hheld⟩ := hexact hcovers
      exact .inl ⟨hstart, by omega, hheld⟩
    · exact .inr (by omega)
  · rintro (⟨hstart, hend, hheld⟩ | hnot) hcovers
    · refine ⟨hstart, ?_, hheld⟩
      by_cases hlow : -(2 ^ 31) ≤ signed.endOffset
      · rw [toInt_of_isInt ⟨hlow, hend⟩] at hcovers
        omega
      · omega
    · omega

end Covered

/-- The end of the second range is beyond the `int`s. -/
def overflowingRange : ByteRange where
  start₁ := 0
  length₁ := 10
  start₂ := 2147483647
  length₂ := 100
  isInt := by decide

/-- The first range is longer than the document that is timestamped. -/
def reachingRange : ByteRange where
  start₁ := 0
  length₁ := 5000
  start₂ := 100
  length₂ := 100
  isInt := by decide

def stampedRange : ByteRange where
  start₁ := 0
  length₁ := 1000
  start₂ := 1200
  length₂ := 100
  isInt := by decide

/-- Signatures that end, or sign bytes, far behind the timestamp are covered by it. -/
theorem overflowing_signature_covered :
    ((⟨{}, stampedRange.signature none⟩ : PDFDocTimeStamp Nat).isSignatureCovered
        (overflowingRange.signature none) = true ∧
      ¬ CoversBytes (stampedRange.signature none).byteRange
        (overflowingRange.signature none).byteRange) ∧
    (⟨{}, stampedRange.signature none⟩ : PDFDocTimeStamp Nat).isSignatureCovered
        (reachingRange.signature none) = true ∧
      ¬ CoversBytes (stampedRange.signature none).byteRange
        (reachingRange.signature none).byteRange := by
  simp only [ByteRange.covers_iff]
  refine ⟨⟨by decide, ?_⟩, by decide, ?_⟩
  · rintro ⟨-, hend, -⟩
    revert hend
    decide
  · rintro ⟨-, -, hfirst, -⟩
    unfold ByteRange.Holds at hfirst
    revert hfirst
    decide

end SigVal.Pdf
