import SigVal.Pdf.ByteRanges
import SigVal.Pdf.SignedFiles

/-!
# Where revisions end

The end of a revision is found from the bytes: `%%EOF` and the line break after it, which
may be the first bytes of a later update. A signature belongs to the revision whose end is
the end of its byte range. All markers of a document are found, so that only the line
breaks decide whether a signature is located.
-/

namespace SigVal.Pdf

open SigVal.Java DefaultPDFSignatureContext

/-! ## Markers -/

/-- There is a `%%EOF` at the offset. -/
def MarkerAt (pdfBytes : Bytes) (i : Nat) : Prop := EOF <+: pdfBytes.drop i

instance (pdfBytes : Bytes) (i : Nat) : Decidable (MarkerAt pdfBytes i) :=
  inferInstanceAs (Decidable (EOF <+: pdfBytes.drop i))

variable {pdfBytes : Bytes} {i j len : Nat}

theorem MarkerAt.getElem? (hi : MarkerAt pdfBytes i) {k : Nat} (hk : k < 5) :
    pdfBytes[i + k]? = EOF[k]? := by
  rw [← List.getElem?_drop]
  exact ((List.prefix_iff_getElem?.mp hi) k hk).trans (List.getElem?_eq_getElem hk).symm

theorem MarkerAt.length_le (hi : MarkerAt pdfBytes i) : i + 5 ≤ pdfBytes.length := by
  have hlength := List.IsPrefix.length_le hi
  simp only [EOF, List.length_cons, List.length_nil, List.length_drop] at hlength
  omega

/-- Markers do not overlap. -/
theorem MarkerAt.apart (hi : MarkerAt pdfBytes i) (hj : MarkerAt pdfBytes j) (hlt : i < j) :
    i + 5 ≤ j := by
  by_contra hnear
  -- an inner byte of the first marker would be the `%` of the second
  have hcases : j = i + 1 ∨ j = i + 2 ∨ j = i + 3 ∨ j = i + 4 := by omega
  rcases hcases with rfl | rfl | rfl | rfl
  · have h := (hi.getElem? (k := 2) (by omega)).symm.trans (hj.getElem? (k := 1) (by omega))
    revert h
    decide
  · have h := (hi.getElem? (k := 2) (by omega)).symm.trans (hj.getElem? (k := 0) (by omega))
    revert h
    decide
  · have h := (hi.getElem? (k := 3) (by omega)).symm.trans (hj.getElem? (k := 0) (by omega))
    revert h
    decide
  · have h := (hi.getElem? (k := 4) (by omega)).symm.trans (hj.getElem? (k := 0) (by omega))
    revert h
    decide

theorem markerAt_take_iff :
    EOF.isPrefixOf ((pdfBytes.take len).drop i) = true ↔ MarkerAt pdfBytes i ∧ i + 5 ≤ len := by
  rw [List.isPrefixOf_iff_prefix, List.drop_take, List.prefix_take_iff]
  have hlength : EOF.length = 5 := rfl
  rw [hlength]
  constructor
  · rintro ⟨hmarker, hle⟩
    exact ⟨hmarker, by omega⟩
  · rintro ⟨hmarker, hle⟩
    exact ⟨hmarker, by omega⟩

/-- The search from the end stops no earlier than at a hit. -/
theorem exists_last_hit {p : Nat → Bool} (hp : p j = true) (hj : j < len) :
    ∃ i, (List.range len).reverse.find? p = some i ∧ j ≤ i := by
  induction len with
  | zero => omega
  | succ n ih =>
      rw [List.range_succ, List.reverse_append, List.reverse_singleton, List.singleton_append,
        List.find?_cons]
      by_cases hn : p n = true
      · rw [hn]
        exact ⟨n, rfl, by omega⟩
      · have hne : j ≠ n := by
          rintro rfl
          exact hn hp
        rw [Bool.not_eq_true] at hn
        rw [hn]
        exact ih (by omega)

theorem lastIndexOfEoF_spec (h : lastIndexOfEoF pdfBytes len = some i) :
    MarkerAt pdfBytes i ∧ i + 5 ≤ len := by
  unfold lastIndexOfEoF at h
  have hhit := List.find?_some h
  exact markerAt_take_iff.mp hhit

theorem exists_lastIndexOfEoF (hj : MarkerAt pdfBytes j) (hlen : j + 5 ≤ len) :
    ∃ i, lastIndexOfEoF pdfBytes len = some i ∧ j ≤ i :=
  exists_last_hit (markerAt_take_iff.mpr ⟨hj, hlen⟩) (by omega)

theorem le_revisionLen (pdfBytes : Bytes) (i : Nat) : i + 5 ≤ revisionLen pdfBytes i := by
  unfold revisionLen
  split
  · omega
  · omega
  · omega

/-- A revision ends at its own marker. -/
theorem marker_eq_of_end (hi : MarkerAt pdfBytes i) (hj : MarkerAt pdfBytes j) {e : Nat}
    (hie : i + 5 ≤ e ∧ e ≤ i + 7) (hje : j + 5 ≤ e ∧ e ≤ j + 7) : i = j := by
  rcases Nat.lt_trichotomy i j with hlt | heq | hgt
  · have hapart := hi.apart hj hlt
    omega
  · exact heq
  · have hapart := hj.apart hi hgt
    omega

/-- The offsets of all markers, in bytes that stand at the offset. -/
def markerOffsets : Bytes → Nat → List Nat
  | [], _ => []
  | byte :: rest, offset =>
      if EOF.isPrefixOf (byte :: rest) then offset :: markerOffsets rest (offset + 1)
      else markerOffsets rest (offset + 1)

theorem mem_markerOffsets {bytes : Bytes} {offset : Nat} :
    j ∈ markerOffsets bytes offset ↔ ∃ i, MarkerAt bytes i ∧ j = offset + i := by
  induction bytes generalizing offset with
  | nil =>
      apply iff_of_false List.not_mem_nil
      rintro ⟨i, hi, -⟩
      have hlength := hi.length_le
      simp at hlength
  | cons byte rest ih =>
      have hmem : j ∈ markerOffsets (byte :: rest) offset ↔
          (MarkerAt (byte :: rest) 0 ∧ j = offset) ∨ j ∈ markerOffsets rest (offset + 1) := by
        unfold MarkerAt
        rw [markerOffsets, List.drop_zero, ← List.isPrefixOf_iff_prefix]
        by_cases hhit : EOF.isPrefixOf (byte :: rest) = true
        · rw [if_pos hhit, List.mem_cons]
          simp [hhit]
        · rw [if_neg hhit]
          simp [hhit]
      rw [hmem, ih]
      constructor
      · rintro (⟨hfirst, rfl⟩ | ⟨i, hi, rfl⟩)
        · exact ⟨0, hfirst, rfl⟩
        · exact ⟨i + 1, hi, by omega⟩
      · rintro ⟨i, hi, rfl⟩
        cases i with
        | zero => exact .inl ⟨hi, rfl⟩
        | succ i => exact .inr ⟨i, hi, by omega⟩

theorem mem_markerOffsets_zero : j ∈ markerOffsets pdfBytes 0 ↔ MarkerAt pdfBytes j := by
  rw [mem_markerOffsets]
  simp

/-- The only marker is the last one. -/
theorem lastIndexOfEoF_single (hmarkers : markerOffsets pdfBytes 0 = [i]) (hlen : i + 5 ≤ len) :
    lastIndexOfEoF pdfBytes len = some i := by
  have hi : MarkerAt pdfBytes i :=
    mem_markerOffsets_zero.mp (by rw [hmarkers]; exact List.mem_cons_self)
  obtain ⟨last, hlast, -⟩ := exists_lastIndexOfEoF hi hlen
  have hmem := mem_markerOffsets_zero.mpr (lastIndexOfEoF_spec hlast).1
  rw [hmarkers, List.mem_singleton] at hmem
  rw [hlast, hmem]

/-- Before it there is none. -/
theorem lastIndexOfEoF_none (hmarkers : markerOffsets pdfBytes 0 = [i]) (hlen : len < i + 5) :
    lastIndexOfEoF pdfBytes len = none := by
  rw [Option.eq_none_iff_forall_ne_some]
  intro last hlast
  obtain ⟨hmarker, hend⟩ := lastIndexOfEoF_spec hlast
  have hmem := mem_markerOffsets_zero.mpr hmarker
  rw [hmarkers, List.mem_singleton] at hmem
  omega

/-! ## The revisions of a document -/

/-- One step of the search for revisions. -/
theorem revisionsBelow_some {signatures : List PDSignature}
    (h : lastIndexOfEoF pdfBytes len = some i) :
    revisionsBelow pdfBytes signatures len = (do
      let candidate ← revisionAt pdfBytes signatures i
      let earlier ← revisionsBelow pdfBytes signatures (revisionLen pdfBytes i - 5)
      pure (candidate :: earlier)) := by
  rw [revisionsBelow]
  split
  · rename_i hnone
    rw [h] at hnone
    cases hnone
  · rename_i i' hsome
    rw [h] at hsome
    cases hsome
    rfl

theorem revisionsBelow_none {signatures : List PDSignature}
    (h : lastIndexOfEoF pdfBytes len = none) :
    revisionsBelow pdfBytes signatures len = .ok [] := by
  rw [revisionsBelow]
  split
  · rfl
  · rename_i i' hsome
    rw [h] at hsome
    cases hsome

/-- The revisions that are looked for end at the markers, and all of them are found. -/
theorem exists_candidate_iff {signatures : List PDSignature} (len : Nat) :
    ∀ {candidates : List RevisionCandidate},
      revisionsBelow pdfBytes signatures len = .ok candidates → ∀ e,
        (∃ candidate ∈ candidates, candidate.length = e) ↔
          ∃ j, MarkerAt pdfBytes j ∧ j + 5 ≤ len ∧ revisionLen pdfBytes j = e := by
  induction len using revisionsBelow.induct pdfBytes with
  | case1 len hnone =>
      intro candidates h e
      rw [revisionsBelow_none hnone] at h
      cases h
      apply iff_of_false (by simp)
      rintro ⟨j, hj, hlen, -⟩
      obtain ⟨i, hi, -⟩ := exists_lastIndexOfEoF hj hlen
      rw [hnone] at hi
      cases hi
  | case2 len i hsome ih =>
      intro candidates h e
      rw [revisionsBelow_some hsome] at h
      obtain ⟨candidate, hcandidate, h⟩ := bind_ok_iff.mp h
      obtain ⟨earlier, hearlier, h⟩ := bind_ok_iff.mp h
      cases h
      obtain ⟨hi, hlen⟩ := lastIndexOfEoF_spec hsome
      have hlow := le_revisionLen pdfBytes i
      have hhigh := revisionLen_lt pdfBytes i
      rw [List.exists_mem_cons_iff, revisionAt_length hcandidate, ih hearlier e]
      constructor
      · rintro (hend | ⟨j, hj, hjlen, hend⟩)
        · exact ⟨i, hi, hlen, hend⟩
        · exact ⟨j, hj, by omega, hend⟩
      · rintro ⟨j, hj, hjlen, hend⟩
        -- the last marker, or one before it and apart from it
        by_cases hji : j = i
        · rw [hji] at hend
          exact .inl hend
        · obtain ⟨last, hlast, hle⟩ := exists_lastIndexOfEoF hj hjlen
          rw [hsome] at hlast
          cases hlast
          have hapart := hj.apart hi (by omega)
          exact .inr ⟨j, hj, by omega, hend⟩

section Context

variable {jvm : Jvm} {safeObjectProvider : GeneralSafeObjects} {loader : PdfLoader}
  {ctx : DefaultPDFSignatureContext}
  (hdoc : DefaultPDFSignatureContext.ofDocument jvm safeObjectProvider loader pdfBytes = .ok ctx)
include hdoc

/-- **The revisions of a document.** They end at the markers of the document with their line
breaks, where the bytes up to there load. -/
theorem exists_revision_iff (e : Nat) :
    (∃ rev ∈ ctx.pdfDocRevisions, rev.length = e) ↔
      ∃ j, MarkerAt pdfBytes j ∧ revisionLen pdfBytes j = e ∧
        (loader.loadPDF (pdfBytes.take e)).isSome = true := by
  unfold DefaultPDFSignatureContext.ofDocument at hdoc
  obtain ⟨signatures, -, hdoc⟩ := bind_ok_iff.mp hdoc
  obtain ⟨candidates, hcandidates, hdoc⟩ := bind_ok_iff.mp hdoc
  cases hdoc
  have hfound := exists_candidate_iff _ hcandidates e
  have hlengths : (∃ rev ∈ markRevisions jvm safeObjectProvider none
      ((candidates.filterMap (consolidate loader pdfBytes)).mergeSort
        fun a b => decide (a.length ≤ b.length)), rev.length = e) ↔
      ∃ candidate ∈ candidates, ∃ rev, consolidate loader pdfBytes candidate = some rev ∧
        rev.length = e := by
    rw [← List.mem_map (f := PDFDocRevision.length), markRevisions_length, List.mem_map]
    simp only [List.mem_mergeSort, List.mem_filterMap]
    constructor
    · rintro ⟨rev, ⟨candidate, hcandidate, hrev⟩, hlength⟩
      exact ⟨candidate, hcandidate, rev, hrev, hlength⟩
    · rintro ⟨candidate, hcandidate, rev, hrev, hlength⟩
      exact ⟨rev, ⟨candidate, hcandidate, hrev⟩, hlength⟩
  apply hlengths.trans
  constructor
  · rintro ⟨candidate, hcandidate, rev, hrev, hlength⟩
    obtain ⟨loaded, hloaded, rfl⟩ := Option.map_eq_some_iff.mp hrev
    have hend : candidate.length = e := Int.ofNat_inj.mp hlength
    obtain ⟨j, hj, -, hjend⟩ := hfound.mp ⟨candidate, hcandidate, hend⟩
    rw [hend] at hloaded
    exact ⟨j, hj, hjend, by rw [hloaded]; rfl⟩
  · rintro ⟨j, hj, hjend, hloads⟩
    obtain ⟨candidate, hcandidate, hend⟩ := hfound.mpr ⟨j, hj, hj.length_le, hjend⟩
    obtain ⟨loaded, hloaded⟩ := Option.isSome_iff_exists.mp hloads
    rw [← hend] at hloaded
    refine ⟨candidate, hcandidate, .ofDocument candidate.length candidate.signature
      candidate.documentTimestamp loaded.cosDocument loaded.rootObject loaded.rootObject_eq, ?_,
      congrArg Int.ofNat hend⟩
    unfold consolidate
    rw [hloaded]
    rfl

/-- The revisions stand in the order of their lengths. -/
theorem revisions_sorted :
    (ctx.pdfDocRevisions.map (·.length)).Pairwise fun a b => a ≤ b := by
  unfold DefaultPDFSignatureContext.ofDocument at hdoc
  obtain ⟨signatures, -, hdoc⟩ := bind_ok_iff.mp hdoc
  obtain ⟨candidates, -, hdoc⟩ := bind_ok_iff.mp hdoc
  cases hdoc
  show ((markRevisions jvm safeObjectProvider none _).map _).Pairwise _
  rw [markRevisions_length, List.pairwise_map]
  have hsorted := @List.pairwise_mergeSort _ (fun a b : PDFDocRevision =>
    decide (a.length ≤ b.length))
    (fun a b c hab hbc => decide_eq_true ((of_decide_eq_true hab).trans (of_decide_eq_true hbc)))
    (fun a b => by simpa using Int.le_total a.length b.length)
    (candidates.filterMap (consolidate loader pdfBytes))
  exact hsorted.imp fun h => of_decide_eq_true h

end Context

/-! ## Documents that are read -/

section Reading

variable {signatures : List PDSignature}
  (hranges : ∀ signature ∈ signatures, ∃ e, signedLength signature = .ok e)
include hranges

theorem revisionAt_ok (i : Nat) :
    ∃ candidate, revisionAt pdfBytes signatures i = .ok candidate := by
  unfold revisionAt
  dsimp only
  generalize (⟨revisionLen pdfBytes i, false, false⟩ : RevisionCandidate) = start
  induction signatures generalizing start with
  | nil => exact ⟨start, rfl⟩
  | cons signature rest ih =>
      obtain ⟨e, he⟩ := hranges signature List.mem_cons_self
      rw [List.foldlM_cons, exists_bind_ok_iff]
      simp only [he]
      have hrest := ih fun s hs => hranges s (List.mem_cons_of_mem _ hs)
      by_cases hend : e = revisionLen pdfBytes i
      · exact ⟨_, if_pos hend, hrest _⟩
      · exact ⟨start, if_neg hend, hrest start⟩

theorem revisionsBelow_ok (len : Nat) :
    ∃ candidates, revisionsBelow pdfBytes signatures len = .ok candidates := by
  induction len using revisionsBelow.induct pdfBytes with
  | case1 len hnone => exact ⟨[], revisionsBelow_none hnone⟩
  | case2 len i hsome ih =>
      obtain ⟨candidate, hcandidate⟩ : ∃ candidate,
          revisionAt pdfBytes signatures i = .ok candidate := revisionAt_ok hranges i
      obtain ⟨earlier, hearlier⟩ := ih
      refine ⟨candidate :: earlier, ?_⟩
      rw [revisionsBelow_some hsome, hcandidate, hearlier]
      rfl

/-- A document whose signatures have complete ranges is read. -/
theorem ofDocument_ok {jvm : Jvm} {safeObjectProvider : GeneralSafeObjects} {loader : PdfLoader}
    (hsignatures : loader.getSignatureDictionaries pdfBytes = .ok signatures) :
    ∃ ctx, DefaultPDFSignatureContext.ofDocument jvm safeObjectProvider loader pdfBytes =
      .ok ctx := by
  obtain ⟨candidates, hcandidates⟩ := revisionsBelow_ok hranges pdfBytes.length
  unfold DefaultPDFSignatureContext.ofDocument
  rw [hsignatures]
  show ∃ ctx, (revisionsBelow pdfBytes signatures pdfBytes.length >>= _) = _
  rw [hcandidates]
  exact ⟨_, rfl⟩

end Reading

/-! ## Locating a signature -/

/-- What may stand between the marker and the end of a revision. -/
inductive LineEnd where
  | none
  | cr
  | lf
  | crlf
deriving DecidableEq, Repr

namespace LineEnd

def bytes : LineEnd → Bytes
  | .none => []
  | .cr => [0x0d]
  | .lf => [0x0a]
  | .crlf => [0x0d, 0x0a]

end LineEnd

/-- The offset after the marker and the line end. -/
def endAfter (i : Nat) (lineEnd : LineEnd) : Nat := i + 5 + lineEnd.bytes.length

/-- A revision was ended with the marker and the line end. -/
structure EndedWith (pdfBytes : Bytes) (i : Nat) (lineEnd : LineEnd) : Prop where
  marker : MarkerAt pdfBytes i
  lineEnd : lineEnd.bytes <+: pdfBytes.drop (i + 5)

/-- The line end is taken for what it is, whatever was appended: it is a line feed, with or
without a carriage return, or there is none and what follows does not begin with one. -/
def Recognized (pdfBytes : Bytes) (i : Nat) : LineEnd → Prop
  | .lf => True
  | .crlf => True
  | .cr => False
  | .none => pdfBytes[i + 5]? ≠ some 0x0a ∧
      ¬ (pdfBytes[i + 5]? = some 0x0d ∧ pdfBytes[i + 6]? = some 0x0a)

instance (pdfBytes : Bytes) (i : Nat) : ∀ lineEnd, Decidable (Recognized pdfBytes i lineEnd)
  | .lf => .isTrue trivial
  | .crlf => .isTrue trivial
  | .cr => .isFalse id
  | .none => inferInstanceAs (Decidable (_ ∧ _))

/-- The end that is inferred is the one the revision was given. -/
theorem revisionLen_eq_iff {lineEnd : LineEnd} (hended : EndedWith pdfBytes i lineEnd) :
    revisionLen pdfBytes i = endAfter i lineEnd ↔ Recognized pdfBytes i lineEnd := by
  have hbytes := List.prefix_iff_getElem?.mp hended.lineEnd
  unfold revisionLen endAfter
  cases lineEnd with
  | lf =>
      have h0 : pdfBytes[i + 5]? = some 0x0a := by
        simpa [LineEnd.bytes, List.getElem?_drop] using hbytes 0 (by decide)
      rw [h0]
      exact iff_of_true rfl trivial
  | crlf =>
      have h0 : pdfBytes[i + 5]? = some 0x0d := by
        simpa [LineEnd.bytes, List.getElem?_drop] using hbytes 0 (by decide)
      have h1 : pdfBytes[i + 6]? = some 0x0a := by
        simpa [LineEnd.bytes, List.getElem?_drop] using hbytes 1 (by decide)
      rw [h0, h1]
      exact iff_of_true rfl trivial
  | cr =>
      have h0 : pdfBytes[i + 5]? = some 0x0d := by
        simpa [LineEnd.bytes, List.getElem?_drop] using hbytes 0 (by decide)
      rw [h0]
      refine iff_of_false ?_ id
      simp only [LineEnd.bytes, List.length_singleton]
      split
      · rename_i hlf
        cases hlf
      · omega
      · omega
  | none =>
      unfold Recognized
      simp only [LineEnd.bytes, List.length_nil, Nat.add_zero]
      split
      · rename_i h0
        exact iff_of_false (by omega) fun h => h.1 h0
      · rename_i h0 h1
        exact iff_of_false (by omega) fun h => h.2 ⟨h0, h1⟩
      · rename_i hlf hcrlf
        exact iff_of_true rfl ⟨hlf, fun h => hcrlf h.1 h.2⟩

section Located

variable {jvm : Jvm} {safeObjectProvider : GeneralSafeObjects} {loader : PdfLoader}
  {ctx : DefaultPDFSignatureContext}

theorem endAfter_le {lineEnd : LineEnd} (hended : EndedWith pdfBytes i lineEnd) :
    endAfter i lineEnd ≤ pdfBytes.length := by
  have hmarker := hended.marker.length_le
  have hlength := hended.lineEnd.length_le
  rw [List.length_drop] at hlength
  unfold endAfter
  omega

/-- The index of a revision with this length is found when there is one. -/
theorem getSignatureRevisionIndex_iff {range : ByteRange} {subFilter : Option String} {e : Int}
    (hend : toInt range.endOffset = e) :
    (∃ idx rev, ctx.getSignatureRevisionIndex (range.signature subFilter) = .ok (some idx) ∧
      ctx.pdfDocRevisions[idx]? = some rev ∧ rev.length = e) ↔
    ∃ rev ∈ ctx.pdfDocRevisions, rev.length = e := by
  have hindex : ctx.getSignatureRevisionIndex (range.signature subFilter) =
      .ok (ctx.pdfDocRevisions.findIdx? fun revision => revision.length == e) := by
    rw [← hend]
    rfl
  rw [hindex]
  constructor
  · rintro ⟨idx, rev, -, hrev, hlength⟩
    exact ⟨rev, List.mem_of_getElem? hrev, hlength⟩
  · rintro ⟨rev, hrev, hlength⟩
    obtain ⟨idx, hidx⟩ : ∃ idx, ctx.pdfDocRevisions.findIdx?
        (fun revision => revision.length == e) = some idx := by
      apply Option.isSome_iff_exists.mp
      rw [List.findIdx?_isSome, List.any_eq_true]
      exact ⟨rev, hrev, by simpa using hlength⟩
    obtain ⟨hlt, hfound, -⟩ := List.findIdx?_eq_some_iff_getElem.mp hidx
    exact ⟨idx, _, congrArg Except.ok hidx, List.getElem?_eq_getElem hlt, by simpa using hfound⟩

/-- **Locating a signature.** A signature that ends with a revision, at a prefix that
loads, is located in every document that has this prefix, exactly when the line end is
recognized. -/
theorem revision_located_iff
    (hdoc : DefaultPDFSignatureContext.ofDocument jvm safeObjectProvider loader pdfBytes = .ok ctx)
    (hsize : pdfBytes.length < 2 ^ 31) {range : ByteRange} {subFilter : Option String}
    {lineEnd : LineEnd} (hended : EndedWith pdfBytes i lineEnd)
    (hrange : range.endOffset = endAfter i lineEnd)
    (hloads : (loader.loadPDF (pdfBytes.take (endAfter i lineEnd))).isSome = true) :
    (∃ idx rev, ctx.getSignatureRevisionIndex (range.signature subFilter) = .ok (some idx) ∧
      ctx.pdfDocRevisions[idx]? = some rev ∧ rev.length = range.endOffset) ↔
    Recognized pdfBytes i lineEnd := by
  have hle := endAfter_le hended
  have hint : toInt range.endOffset = range.endOffset := toInt_of_isInt (by omega)
  rw [getSignatureRevisionIndex_iff hint, hrange, exists_revision_iff hdoc,
    ← revisionLen_eq_iff hended]
  constructor
  · rintro ⟨j, hj, hend, -⟩
    have hij : i = j := by
      have hlow := le_revisionLen pdfBytes j
      have hhigh := revisionLen_lt pdfBytes j
      refine marker_eq_of_end hended.marker hj (e := endAfter i lineEnd) ?_ (by omega)
      unfold endAfter
      cases lineEnd <;> simp [LineEnd.bytes]
    rw [hij]
    rw [hij] at hend
    exact hend
  · intro hend
    exact ⟨i, hended.marker, hend, hloads⟩

end Located

/-! ## The document of a signature -/

section Last

variable {jvm : Jvm} {safeObjectProvider : GeneralSafeObjects} {loader : PdfLoader}
  {ctx : DefaultPDFSignatureContext}

/-- Two ranges that start at 0 and leave one gap between them. -/
structure FitsTogether (range : ByteRange) : Prop where
  start : range.start₁ = 0
  first : 0 ≤ range.length₁
  gap : range.start₁ + range.length₁ < range.start₂
  second : 0 ≤ range.length₂

/-- The ranges fit together and end with the document. -/
structure CoversDocument (range : ByteRange) (pdfBytes : Bytes) : Prop
    extends FitsTogether range where
  ends : range.endOffset = pdfBytes.length

/-- The document is a revision: it ends with a marker and at most one line break, and
loads. -/
def EndsWithRevision (loader : PdfLoader) (pdfBytes : Bytes) : Prop :=
  (∃ i, MarkerAt pdfBytes i ∧ revisionLen pdfBytes i = pdfBytes.length) ∧
    (loader.loadPDF pdfBytes).isSome = true

theorem endsWithRevision_iff
    (hdoc : DefaultPDFSignatureContext.ofDocument jvm safeObjectProvider loader pdfBytes =
      .ok ctx) :
    EndsWithRevision loader pdfBytes ↔
      ∃ rev ∈ ctx.pdfDocRevisions, rev.length = pdfBytes.length := by
  rw [exists_revision_iff hdoc, List.take_length]
  unfold EndsWithRevision
  constructor
  · rintro ⟨⟨j, hj, hend⟩, hloads⟩
    exact ⟨j, hj, hend, hloads⟩
  · rintro ⟨j, hj, hend, hloads⟩
    exact ⟨⟨j, hj, hend⟩, hloads⟩

/-- The last revision is the longest. -/
theorem length_le_last
    (hdoc : DefaultPDFSignatureContext.ofDocument jvm safeObjectProvider loader pdfBytes = .ok ctx)
    {idx : Nat} {last : PDFDocRevision} (hidx : ctx.pdfDocRevisions[idx]? = some last)
    (hlast : idx + 1 = ctx.pdfDocRevisions.length) :
    ∀ rev ∈ ctx.pdfDocRevisions, rev.length ≤ last.length := by
  intro rev hrev
  obtain ⟨k, hk, rfl⟩ := List.getElem_of_mem hrev
  obtain ⟨hlt, rfl⟩ := List.getElem?_eq_some_iff.mp hidx
  rcases Nat.lt_or_ge k idx with hki | hki
  · have hsorted := List.pairwise_map.mp (revisions_sorted hdoc)
    exact List.pairwise_iff_getElem.mp hsorted k idx hk hlt hki
  · obtain rfl : k = idx := by omega
    exact Int.le_refl _

/-- The revision that is found has the wrapped end of the range as its length. -/
theorem found_length {range : ByteRange} {subFilter : Option String} {idx : Nat}
    (hfound : ctx.getSignatureRevisionIndex (range.signature subFilter) = .ok (some idx)) :
    ∃ rev, ctx.pdfDocRevisions[idx]? = some rev ∧ rev.length = toInt range.endOffset := by
  have hidx : ctx.pdfDocRevisions.findIdx?
      (fun revision => revision.length == toInt range.endOffset) = some idx := Except.ok.inj hfound
  obtain ⟨hlt, hrev, -⟩ := List.findIdx?_eq_some_iff_getElem.mp hidx
  exact ⟨_, List.getElem?_eq_getElem hlt, by simpa using hrev⟩

/-- **The last signature.** A signature whose revision is the last one is taken to cover
the whole document. It does so exactly when its ranges fit together and their end does not
overflow, and the document ends with a revision. -/
theorem last_signature_covers_iff
    (hdoc : DefaultPDFSignatureContext.ofDocument jvm safeObjectProvider loader pdfBytes = .ok ctx)
    (hsize : pdfBytes.length < 2 ^ 31) {range : ByteRange} {subFilter : Option String} {idx : Nat}
    (hfound : ctx.getSignatureRevisionIndex (range.signature subFilter) = .ok (some idx))
    (hlast : idx + 1 = ctx.pdfDocRevisions.length) :
    ctx.isCoversWholeDocument (range.signature subFilter) = .ok true ∧
      (CoversDocument range pdfBytes ↔
        FitsTogether range ∧ range.endOffset < 2 ^ 31 ∧ EndsWithRevision loader pdfBytes) := by
  obtain ⟨last, hidx, hlength⟩ := found_length hfound
  constructor
  · refine isCoversWholeDocument_iff.mpr ⟨idx, hfound, ?_⟩
    rw [List.drop_eq_nil_of_le (Nat.le_of_eq hlast.symm)]
    rfl
  · rw [endsWithRevision_iff hdoc]
    constructor
    · rintro ⟨hfits, hends⟩
      have hint : toInt range.endOffset = range.endOffset := toInt_of_isInt (by omega)
      refine ⟨hfits, by omega, last, List.mem_of_getElem? hidx, ?_⟩
      rw [hlength, hint, hends]
    · rintro ⟨hfits, hsmall, rev, hrev, hend⟩
      refine ⟨hfits, ?_⟩
      have hnonneg : 0 ≤ range.endOffset := by
        have hstart := hfits.start
        have hfirst := hfits.first
        have hgap := hfits.gap
        have hsecond := hfits.second
        unfold ByteRange.endOffset
        omega
      have hint : toInt range.endOffset = range.endOffset := toInt_of_isInt ⟨by omega, hsmall⟩
      have hlower := length_le_last hdoc hidx hlast rev hrev
      have hupper := ofDocument_length_le hdoc last (List.mem_of_getElem? hidx)
      omega

end Last

/-- A document with one marker, which the signature ends with, has one revision. -/
theorem ofDocument_single {jvm : Jvm} {safeObjectProvider : GeneralSafeObjects}
    {loader : PdfLoader} {signature : PDSignature} {loaded : LoadedDocument}
    (hsignatures : loader.getSignatureDictionaries pdfBytes = .ok [signature])
    (hmarkers : markerOffsets pdfBytes 0 = [i])
    (hend : revisionLen pdfBytes i = pdfBytes.length)
    (hsigned : signedLength signature = .ok pdfBytes.length)
    (hfilter : signature.subFilter ≠ some subfilterEtsiRfc3161)
    (hloads : loader.loadPDF pdfBytes = some loaded) :
    DefaultPDFSignatureContext.ofDocument jvm safeObjectProvider loader pdfBytes =
      .ok (ofRevisions jvm safeObjectProvider pdfBytes
        [.ofDocument pdfBytes.length true false loaded.cosDocument loaded.rootObject
          loaded.rootObject_eq]) := by
  have hmarker : MarkerAt pdfBytes i :=
    mem_markerOffsets_zero.mp (by rw [hmarkers]; exact List.mem_cons_self)
  have hlength := hmarker.length_le
  have hlow := le_revisionLen pdfBytes i
  have hhigh := revisionLen_lt pdfBytes i
  have hrevision : revisionAt pdfBytes [signature] i = .ok ⟨pdfBytes.length, true, false⟩ := by
    unfold revisionAt
    simp only [List.foldlM_cons, List.foldlM_nil, hsigned, hend, beq_eq_false_iff_ne.mpr hfilter,
      bind, Except.bind, if_true]
    rfl
  have hcandidates : revisionsBelow pdfBytes [signature] pdfBytes.length =
      .ok [⟨pdfBytes.length, true, false⟩] := by
    rw [revisionsBelow_some (lastIndexOfEoF_single hmarkers hlength), hrevision, hend,
      revisionsBelow_none (lastIndexOfEoF_none hmarkers (by omega))]
    rfl
  have hconsolidated : [⟨pdfBytes.length, true, false⟩].filterMap (consolidate loader pdfBytes) =
      [.ofDocument pdfBytes.length true false loaded.cosDocument loaded.rootObject
        loaded.rootObject_eq] := by
    unfold consolidate
    simp only [List.filterMap_cons, List.take_length, hloads]
    rfl
  unfold DefaultPDFSignatureContext.ofDocument
  rw [hsignatures]
  show (revisionsBelow _ _ _ >>= _) = _
  rw [hcandidates]
  show Except.ok (ofRevisions _ _ _ (List.mergeSort _ _)) = _
  rw [hconsolidated, List.mergeSort_singleton]

/-! ## A document with one revision, and an update of it -/

section Documents

/-- A signed page, up to the marker. The given line is the one with the byte range. -/
def signedLines (byteRange : String) : List String :=
  ["%PDF-1.7",
    "1 0 obj", "<</Type/Catalog/Pages 2 0 R/AcroForm<</Fields[4 0 R]/SigFlags 3>>>>", "endobj",
    "2 0 obj", "<</Type/Pages/Kids[3 0 R]/Count 1>>", "endobj",
    "3 0 obj", "<</Type/Page/Parent 2 0 R/MediaBox[0 0 9 9]>>", "endobj",
    "4 0 obj", "<</FT/Sig/T(s)/V 5 0 R>>", "endobj",
    "5 0 obj", "<</Type/Sig/Filter/Adobe.PPKLite/SubFilter/ETSI.CAdES.detached",
    byteRange, "/Contents<00>>>", "endobj",
    "xref", "0 6", "0000000000 65535 f ", "0000000009 00000 n ", "0000000092 00000 n ",
    "0000000143 00000 n ", "0000000204 00000 n ", "0000000244 00000 n ",
    "trailer", "<</Size 6/Root 1 0 R>>", "startxref", "364"]

/-- Signed with the marker, and without a line break after it. -/
def markedBytes (byteRange : String) : Bytes := ofLines (signedLines byteRange) ++ EOF

def signedBytes (byteRange : String) : Bytes := markedBytes byteRange ++ [0x0a]

/-- An update that gives the page another height. -/
def plainUpdate : Bytes :=
  ofLines ["3 0 obj", "<</Type/Page/Parent 2 0 R/MediaBox[0 0 9 8]>>", "endobj",
    "xref", "3 1", "0000000544 00000 n ",
    "trailer", "<</Size 6/Root 1 0 R/Prev 364>>", "startxref", "605"] ++ EOF ++ [0x0a]

def wholeLine : String := "/ByteRange[0 350 354 190]"
def markerLine : String := "/ByteRange[0 350 354 189]"
def overlappingLine : String := "/ByteRange[7 2 4 540]    "

/-- Up to the line feed. -/
def wholeRange : ByteRange where
  start₁ := 0
  length₁ := 350
  start₂ := 354
  length₂ := 190
  isInt := by decide

/-- Up to the marker. -/
def markerRange : ByteRange where
  start₁ := 0
  length₁ := 350
  start₂ := 354
  length₂ := 189
  isInt := by decide

/-- The ranges overlap, and the first bytes are in neither of them. -/
def overlappingRange : ByteRange where
  start₁ := 7
  length₁ := 2
  start₂ := 4
  length₂ := 540
  isInt := by decide

/-- The signature dictionary of the page. -/
def pageSignature (range : ByteRange) : PDSignature :=
  range.signature (some "ETSI.CAdES.detached")

/-- The objects of the signed page, which has this height. -/
def signedObjects (range : ByteRange) (height : Int) : List ((_ : COSObjectKey) × COSBase) :=
  [⟨⟨1, 0⟩, .dictionary [("Type", .name "Catalog"), ("Pages", .object ⟨2, 0⟩),
      ("AcroForm", .dictionary [("Fields", .array [.object ⟨4, 0⟩]), ("SigFlags", .integer 3)])]⟩,
    ⟨⟨2, 0⟩, .dictionary [("Type", .name "Pages"), ("Kids", .array [.object ⟨3, 0⟩]),
      ("Count", .integer 1)]⟩,
    ⟨⟨3, 0⟩, .dictionary [("Type", .name "Page"), ("Parent", .object ⟨2, 0⟩),
      ("MediaBox", .array [.integer 0, .integer 0, .integer 9, .integer height])]⟩,
    ⟨⟨4, 0⟩, .dictionary [("FT", .name "Sig"), ("T", .string "s"), ("V", .object ⟨5, 0⟩)]⟩,
    ⟨⟨5, 0⟩, .dictionary [("Type", .name "Sig"), ("Filter", .name "Adobe.PPKLite"),
      ("SubFilter", .name "ETSI.CAdES.detached"),
      ("ByteRange", .array [.integer range.start₁, .integer range.length₁,
        .integer range.start₂, .integer range.length₂]),
      ("Contents", .string "\x00")]⟩]

theorem signedObjects_wf (range : ByteRange) (height : Int) :
    ∀ e ∈ (signedObjects range height).toAList.entries, e.2.wf = true := by
  have hentries : (signedObjects range height).toAList.entries = signedObjects range height := rfl
  rw [hentries]
  simp only [signedObjects, List.forall_mem_cons]
  exact ⟨rfl, rfl, rfl, rfl, rfl, List.forall_mem_nil _⟩

/-- The document that is loaded, with the page at this offset. -/
def pageDocument (range : ByteRange) (height offset : Int) (prev : List (String × COSBase)) :
    LoadedDocument where
  cosDocument :=
    { xrefTable := [⟨⟨1, 0⟩, 9⟩, ⟨⟨2, 0⟩, 92⟩, ⟨⟨3, 0⟩, offset⟩, ⟨⟨4, 0⟩, 204⟩,
        ⟨⟨5, 0⟩, 244⟩].toAList
      objects := (signedObjects range height).toAList
      trailer := ("Size", .integer 6) :: ("Root", .object ⟨1, 0⟩) :: prev
      objects_wf := signedObjects_wf range height }
  rootObject := ⟨1, 0⟩
  rootObject_eq := rfl

def signedPage (range : ByteRange) : LoadedDocument := pageDocument range 9 143 []

def updatedPage (range : ByteRange) : LoadedDocument :=
  pageDocument range 8 544 [("Prev", .integer 364)]

/-- A library that finds the signature in these documents, and refuses all others. -/
def tableLoader (documents : List (Bytes × LoadedDocument)) (range : ByteRange) : PdfLoader where
  getSignatureDictionaries := fun pdfBytes =>
    if (documents.lookup pdfBytes).isSome then .ok [pageSignature range]
    else .error ⟨.io, "Error: End-of-File, expected line"⟩
  loadPDF := fun pdfBytes => documents.lookup pdfBytes

/-- The signed page and its update. -/
def pageDocuments (byteRange : String) (range : ByteRange) : List (Bytes × LoadedDocument) :=
  [(signedBytes byteRange, signedPage range), (markedBytes byteRange, signedPage range),
    (signedBytes byteRange ++ plainUpdate, updatedPage range)]

theorem lookup_signedBytes (byteRange : String) (range : ByteRange) :
    (pageDocuments byteRange range).lookup (signedBytes byteRange) = some (signedPage range) := by
  unfold pageDocuments
  exact List.lookup_cons_self

def pageLoader (byteRange : String) (range : ByteRange) : PdfLoader :=
  tableLoader (pageDocuments byteRange range) range

theorem loadPDF_signedBytes (byteRange : String) (range : ByteRange) :
    ((pageLoader byteRange range).loadPDF (signedBytes byteRange)).isSome = true := by
  unfold pageLoader tableLoader
  dsimp only
  rw [lookup_signedBytes]
  rfl

theorem pageSignature_length (range : ByteRange) :
    ∀ signature ∈ [pageSignature range], ∃ e, signedLength signature = .ok e := by
  intro signature hsignature
  rw [List.mem_singleton] at hsignature
  rw [hsignature]
  exact ⟨_, range.signedLength_signature _⟩

section Table

variable {documents : List (Bytes × LoadedDocument)} {range : ByteRange} {pdfBytes : Bytes}
  (hloads : (documents.lookup pdfBytes).isSome = true)
include hloads

theorem tableLoader_signatures :
    (tableLoader documents range).getSignatureDictionaries pdfBytes =
      .ok [pageSignature range] :=
  if_pos hloads

/-- What is in the table is read. -/
theorem tableLoader_read :
    ∃ ctx, DefaultPDFSignatureContext.ofDocument plainJvm strictGeneralSafeObjects
      (tableLoader documents range) pdfBytes = .ok ctx :=
  ofDocument_ok (pageSignature_length range) (tableLoader_signatures hloads)

end Table

def oneRevisionContext (byteRange : String) (range : ByteRange) : DefaultPDFSignatureContext :=
  ofRevisions plainJvm strictGeneralSafeObjects (signedBytes byteRange)
    [.ofDocument 544 true false (signedPage range).cosDocument ⟨1, 0⟩ rfl]

/-- The one marker of the signed page and the end of its revision. -/
theorem signedBytes_markers : ∀ line ∈ [wholeLine, markerLine, overlappingLine],
    markerOffsets (signedBytes line) 0 = [538] ∧ revisionLen (signedBytes line) 538 = 544 ∧
      (signedBytes line).length = 544 := by
  decide +kernel

/-- The signed page has one revision. -/
theorem signedBytes_context {documents : List (Bytes × LoadedDocument)} {line : String}
    (hline : line ∈ [wholeLine, markerLine, overlappingLine]) {range : ByteRange}
    (hend : toInt range.endOffset = 544)
    (hloads : documents.lookup (signedBytes line) = some (signedPage range)) :
    DefaultPDFSignatureContext.ofDocument plainJvm strictGeneralSafeObjects
        (tableLoader documents range) (signedBytes line) =
      .ok (oneRevisionContext line range) := by
  obtain ⟨hmarkers, hlen, hlength⟩ := signedBytes_markers line hline
  have hsigned : signedLength (pageSignature range) = .ok (signedBytes line).length := by
    unfold pageSignature
    rw [ByteRange.signedLength_signature, hend, hlength]
    rfl
  have hfilter : (pageSignature range).subFilter ≠ some subfilterEtsiRfc3161 := by
    show some "ETSI.CAdES.detached" ≠ some subfilterEtsiRfc3161
    decide
  rw [ofDocument_single (tableLoader_signatures (Option.isSome_of_eq_some hloads)) hmarkers
    (hlen.trans hlength.symm) hsigned hfilter hloads, hlength]
  rfl

/-- The signature over the whole document covers it. -/
theorem last_signature_covers_whole :
    (oneRevisionContext wholeLine wholeRange).isCoversWholeDocument (pageSignature wholeRange) =
        .ok true ∧
      CoversDocument wholeRange (signedBytes wholeLine) := by
  have hdoc : DefaultPDFSignatureContext.ofDocument plainJvm strictGeneralSafeObjects
      (pageLoader wholeLine wholeRange) (signedBytes wholeLine) =
        .ok (oneRevisionContext wholeLine wholeRange) :=
    signedBytes_context (by decide) rfl (lookup_signedBytes _ _)
  obtain ⟨hmarkers, hlen, hlength⟩ := signedBytes_markers wholeLine (by decide)
  have hmarker : MarkerAt (signedBytes wholeLine) 538 :=
    mem_markerOffsets_zero.mp (by rw [hmarkers]; exact List.mem_cons_self)
  have hfound : (oneRevisionContext wholeLine wholeRange).getSignatureRevisionIndex
      (wholeRange.signature (some "ETSI.CAdES.detached")) = .ok (some 0) := rfl
  obtain ⟨hcovers, hiff⟩ := last_signature_covers_iff hdoc (by omega) hfound rfl
  exact ⟨hcovers, hiff.mpr ⟨⟨rfl, by decide, by decide, by decide⟩, by decide,
    ⟨538, hmarker, hlen.trans hlength.symm⟩, loadPDF_signedBytes _ _⟩⟩

/-- A signature that is taken to cover the document, with ranges that overlap and leave out
its beginning. -/
theorem overlapping_ranges_cover :
    DefaultPDFSignatureContext.ofDocument plainJvm strictGeneralSafeObjects
        (pageLoader overlappingLine overlappingRange) (signedBytes overlappingLine) =
      .ok (oneRevisionContext overlappingLine overlappingRange) ∧
      (oneRevisionContext overlappingLine overlappingRange).isCoversWholeDocument
        (pageSignature overlappingRange) = .ok true ∧
      ¬ CoversDocument overlappingRange (signedBytes overlappingLine) := by
  refine ⟨signedBytes_context (by decide) rfl (lookup_signedBytes _ _), rfl, ?_⟩
  intro hcovers
  exact absurd hcovers.start (by decide)

/-- The update leaves the signature where it is. -/
theorem revision_located_extended :
    ∃ ctx, DefaultPDFSignatureContext.ofDocument plainJvm strictGeneralSafeObjects
        (pageLoader wholeLine wholeRange) (signedBytes wholeLine ++ plainUpdate) = .ok ctx ∧
      ∃ idx rev, ctx.getSignatureRevisionIndex (pageSignature wholeRange) = .ok (some idx) ∧
        ctx.pdfDocRevisions[idx]? = some rev ∧ rev.length = wholeRange.endOffset := by
  obtain ⟨ctx, hdoc⟩ : ∃ ctx, DefaultPDFSignatureContext.ofDocument plainJvm
      strictGeneralSafeObjects (pageLoader wholeLine wholeRange)
        (signedBytes wholeLine ++ plainUpdate) = .ok ctx :=
    tableLoader_read (by decide +kernel)
  have hended : EndedWith (signedBytes wholeLine ++ plainUpdate) 538 .lf :=
    ⟨by decide +kernel, by decide +kernel⟩
  exact ⟨ctx, hdoc, (revision_located_iff hdoc (by decide +kernel) hended rfl
    (by decide +kernel)).mpr trivial⟩

/-- Signed up to the marker, and not found once an update follows on a new line. -/
theorem continued_signature_lost :
    EndedWith (markedBytes markerLine) 538 .none ∧
      markerRange.endOffset = endAfter 538 .none ∧
      ∃ ctx, DefaultPDFSignatureContext.ofDocument plainJvm strictGeneralSafeObjects
        (pageLoader markerLine markerRange) (markedBytes markerLine ++ [0x0a] ++ plainUpdate) =
          .ok ctx ∧
      ¬ ∃ idx rev, ctx.getSignatureRevisionIndex (pageSignature markerRange) = .ok (some idx) ∧
        ctx.pdfDocRevisions[idx]? = some rev ∧ rev.length = markerRange.endOffset := by
  obtain ⟨ctx, hdoc⟩ : ∃ ctx, DefaultPDFSignatureContext.ofDocument plainJvm
      strictGeneralSafeObjects (pageLoader markerLine markerRange)
        (markedBytes markerLine ++ [0x0a] ++ plainUpdate) = .ok ctx :=
    tableLoader_read (by decide +kernel)
  refine ⟨⟨by decide +kernel, by decide +kernel⟩, rfl, ctx, hdoc, ?_⟩
  unfold pageSignature
  rw [getSignatureRevisionIndex_iff (toInt_of_isInt (by decide))]
  intro hrevision
  obtain ⟨j, hj, hend, -⟩ := (exists_revision_iff hdoc 543).mp hrevision
  have hnone : ∀ j ∈ markerOffsets (markedBytes markerLine ++ [0x0a] ++ plainUpdate) 0,
      revisionLen (markedBytes markerLine ++ [0x0a] ++ plainUpdate) j ≠ 543 := by decide +kernel
  exact hnone j (mem_markerOffsets_zero.mpr hj) hend

end Documents

end SigVal.Pdf
