import SigVal.Pdf.IncrementalUpdates

/-!
# The signed version of a document

`getSignedDocument` cuts the document after the revision of a signature. What is cut off is
a document of its own. It has the revisions up to that of the signature and no others, and
what the signatures say about them is what its own signatures say.
-/

namespace SigVal.Pdf

open SigVal.Java DefaultPDFSignatureContext

variable {jvm : Jvm} {safeObjectProvider : GeneralSafeObjects} {loader : PdfLoader}
  {doc signed : ReadDocument jvm safeObjectProvider loader}
  {signature signature' : PDSignature} {idx idx' : Nat}

/-- A revision ends with a marker, and the bytes up to there load. -/
theorem exists_marker_of_mem {rev : PDFDocRevision} (h : rev ∈ doc.context.pdfDocRevisions) :
    ∃ j, MarkerAt doc.pdfBytes j ∧ rev.length = revisionLen doc.pdfBytes j ∧
      (loader.loadPDF (doc.pdfBytes.take (revisionLen doc.pdfBytes j))).isSome = true := by
  obtain ⟨signatures, -, -, hcontext⟩ := ofDocument_eq doc.context_eq
  have hscanned := List.mem_map_of_mem (f := scanned) h
  rw [hcontext] at hscanned
  dsimp only [ofRevisions] at hscanned
  rw [markRevisions_scanned] at hscanned
  obtain ⟨loaded, hloaded, hsame⟩ := List.mem_map.mp hscanned
  obtain ⟨j, hj, hat⟩ := List.mem_filterMap.mp hloaded
  have hlength : loaded.length = rev.length := congrArg Prod.fst hsame
  refine ⟨j, mem_occurrences.mp hj, ?_, ?_⟩
  · rw [← hlength]
    exact (loadedAt_eq_some hat).1
  · rw [← loadedAt_isSome signatures, hat]
    rfl

/-! ## Where the document is cut -/

/-- The document is cut at the end of a revision. -/
structure CutAt (doc signed : ReadDocument jvm safeObjectProvider loader) (idx : Nat) : Prop where
  revision : ∃ rev, doc.context.pdfDocRevisions[idx]? = some rev ∧
    signed.pdfBytes = doc.pdfBytes.take rev.length.toNat

theorem cutAt_of_signedDocument
    (hfound : doc.context.getSignatureRevisionIndex signature = .ok (some idx))
    (hsigned : doc.context.getSignedDocument signature = .ok signed.pdfBytes) :
    CutAt doc signed idx := by
  obtain ⟨rev, hrev⟩ := getSignatureRevisionIndex_lt hfound
  rw [signedDocument_eq hfound hrev, context_pdfBytes doc.context_eq] at hsigned
  exact ⟨rev, hrev, (Except.ok.inj hsigned).symm⟩

/-- The marker that the signed version ends with. -/
structure LastMarker (doc signed : ReadDocument jvm safeObjectProvider loader) (j : Nat) :
    Prop where
  marker : MarkerAt doc.pdfBytes j
  length : signed.pdfBytes.length = revisionLen doc.pdfBytes j
  take : signed.pdfBytes = doc.pdfBytes.take (revisionLen doc.pdfBytes j)
  loads : (loader.loadPDF signed.pdfBytes).isSome = true

theorem CutAt.lastMarker (h : CutAt doc signed idx) : ∃ j, LastMarker doc signed j := by
  obtain ⟨rev, hrev, htake⟩ := h.revision
  obtain ⟨j, hj, hlength, hloads⟩ := exists_marker_of_mem (List.mem_of_getElem? hrev)
  rw [hlength, Int.toNat_natCast] at htake
  refine ⟨j, hj, ?_, htake, ?_⟩
  · rw [htake, List.length_take, Nat.min_eq_left (revisionLen_le hj.length_le)]
  · rw [htake]
    exact hloads

/-- Cut after a revision, a document keeps the ends of its markers. -/
theorem LastMarker.revisionLen_eq {j i : Nat} (h : LastMarker doc signed j)
    (hi : MarkerAt signed.pdfBytes i) :
    revisionLen doc.pdfBytes i = revisionLen signed.pdfBytes i := by
  by_contra hne
  have hbytes : signed.pdfBytes ++ doc.pdfBytes.drop (revisionLen doc.pdfBytes j) =
      doc.pdfBytes := by
    rw [h.take, List.take_append_drop]
  rw [← hbytes] at hne
  have hbeyond := (revisionLen_append hi hne).2
  have hmarker := hi.append (doc.pdfBytes.drop (revisionLen doc.pdfBytes j))
  rw [hbytes] at hbeyond hmarker
  have hlength := hi.length_le
  have hlow := le_revisionLen doc.pdfBytes j
  have hhigh := revisionLen_lt doc.pdfBytes j
  have hhigh' := revisionLen_lt doc.pdfBytes i
  have hend := h.length
  -- the marker is the last one, or too far before it
  rcases Nat.lt_trichotomy i j with hlt | heq | hgt
  · have hapart := hmarker.apart h.marker hlt
    omega
  · rw [heq] at hbeyond
    omega
  · have hapart := h.marker.apart hmarker hgt
    omega

theorem LastMarker.append_rest {j : Nat} (h : LastMarker doc signed j) :
    signed.pdfBytes ++ doc.pdfBytes.drop (revisionLen doc.pdfBytes j) = doc.pdfBytes := by
  rw [h.take, List.take_append_drop]

/-- What the signatures say does not depend on where the document is cut. -/
def SameMarks (doc signed : ReadDocument jvm safeObjectProvider loader) : Prop :=
  ∀ i, MarkerAt signed.pdfBytes i →
    (loader.loadPDF (signed.pdfBytes.take (revisionLen signed.pdfBytes i))).isSome →
      marked doc.signatures (revisionLen signed.pdfBytes i) =
        marked signed.signatures (revisionLen signed.pdfBytes i)

theorem LastMarker.keepsRevisions_iff {j : Nat} (h : LastMarker doc signed j)
    (signatures signatures' : List PDSignature) :
    KeepsRevisions loader signed.pdfBytes (doc.pdfBytes.drop (revisionLen doc.pdfBytes j))
        signatures signatures' ↔
      ∀ i, MarkerAt signed.pdfBytes i →
        (loader.loadPDF (signed.pdfBytes.take (revisionLen signed.pdfBytes i))).isSome →
          marked signatures' (revisionLen signed.pdfBytes i) =
            marked signatures (revisionLen signed.pdfBytes i) := by
  unfold KeepsRevisions
  rw [h.append_rest]
  constructor
  · exact fun hkeeps i hi hloads => (hkeeps i hi hloads).2
  · exact fun hmarks i hi hloads => ⟨h.revisionLen_eq hi, hmarks i hi hloads⟩

/-! ## The lengths of the revisions -/

/-- Whatever the signatures say, the revisions have the same lengths. -/
theorem loadedRevisions_lengths (loader : PdfLoader) (pdfBytes : Bytes)
    (signatures signatures' : List PDSignature) :
    (loadedRevisions loader pdfBytes signatures).map (·.length) =
      (loadedRevisions loader pdfBytes signatures').map (·.length) := by
  unfold loadedRevisions
  rw [List.map_filterMap, List.map_filterMap]
  refine List.filterMap_congr fun i _ => ?_
  unfold loadedAt consolidate
  rw [Option.map_map, Option.map_map]
  rfl

theorem revisions_lengths (doc : ReadDocument jvm safeObjectProvider loader)
    (signatures : List PDSignature) :
    doc.context.pdfDocRevisions.map (·.length) =
      (loadedRevisions loader doc.pdfBytes signatures).map (·.length) := by
  obtain ⟨found, -, -, hcontext⟩ := ofDocument_eq doc.context_eq
  rw [hcontext]
  dsimp only [ofRevisions]
  rw [markRevisions_length]
  exact loadedRevisions_lengths loader doc.pdfBytes found signatures

theorem LastMarker.lengths_initial {j : Nat} (h : LastMarker doc signed j) :
    signed.context.pdfDocRevisions.map (·.length) <+:
      doc.context.pdfDocRevisions.map (·.length) := by
  have hkeeps := (h.keepsRevisions_iff [] []).mpr fun _ _ _ => rfl
  have hinitial := loadedRevisions_initial hkeeps
  rw [h.append_rest] at hinitial
  rw [revisions_lengths doc [], revisions_lengths signed []]
  exact hinitial.map _

/-- The first elements of an increasing list, up to a largest one. -/
theorem length_eq_of_initial {first all : List Int} (hinitial : first <+: all)
    (hincreasing : all.Pairwise (· < ·)) {e : Int} (hidx : all[idx]? = some e)
    (hmem : e ∈ first) (hlargest : ∀ x ∈ first, x ≤ e) : first.length = idx + 1 := by
  have hlt := List.pairwise_iff_getElem.mp hincreasing
  obtain ⟨hbound, rfl⟩ := List.getElem?_eq_some_iff.mp hidx
  obtain ⟨k, hk, hke⟩ := List.getElem_of_mem hmem
  have hle := hinitial.length_le
  rw [hinitial.getElem hk] at hke
  have hki : k = idx := by
    rcases Nat.lt_trichotomy k idx with hless | heq | hgreater
    · have hsmaller := hlt k idx (by omega) hbound hless
      omega
    · exact heq
    · have hlarger := hlt idx k hbound (by omega) hgreater
      omega
  subst hki
  by_contra hne
  have hnext : k + 1 < first.length := by omega
  have hsmall := hlargest _ (List.getElem_mem hnext)
  rw [hinitial.getElem hnext] at hsmall
  have hlarge := hlt k (k + 1) (by omega) (by omega) (by omega)
  omega

/-- The revision that the document is cut at is the last one. -/
theorem CutAt.length_eq (h : CutAt doc signed idx) :
    signed.context.pdfDocRevisions.length = idx + 1 := by
  obtain ⟨rev, hrev, htake⟩ := h.revision
  obtain ⟨i, hi, hlength, hloads⟩ := exists_marker_of_mem (List.mem_of_getElem? hrev)
  obtain ⟨j, hlast⟩ := h.lastMarker
  have hsize : (signed.pdfBytes.length : Int) = rev.length := by
    have hend := ofDocument_length_le doc.context_eq rev (List.mem_of_getElem? hrev)
    rw [htake, List.length_take]
    omega
  have hmarker : MarkerAt signed.pdfBytes j := by
    have hlow := le_revisionLen doc.pdfBytes j
    have hlater : MarkerAt
        (signed.pdfBytes ++ doc.pdfBytes.drop (revisionLen doc.pdfBytes j)) j := by
      rw [hlast.append_rest]
      exact hlast.marker
    apply (markerAt_append_iff _).mp hlater
    rw [hlast.length]
    exact hlow
  obtain ⟨last, hmem, hlastLength⟩ :=
    (exists_revision_iff signed.context_eq signed.pdfBytes.length).mpr
      ⟨j, hmarker, by rw [← hlast.revisionLen_eq hmarker, hlast.length],
        by rw [List.take_length]; exact hlast.loads⟩
  have hcount := @length_eq_of_initial idx _ _ hlast.lengths_initial
    (ofDocument_distinct doc.context_eq).increasing (e := rev.length)
    (by rw [List.getElem?_map, hrev]; rfl) ?_ ?_
  · rw [List.length_map] at hcount
    exact hcount
  · rw [← hsize, ← hlastLength]
    exact List.mem_map_of_mem hmem
  · intro x hx
    obtain ⟨r, hr, rfl⟩ := List.mem_map.mp hx
    rw [← hsize]
    exact ofDocument_length_le signed.context_eq r hr

theorem CutAt.lengths_eq (h : CutAt doc signed idx) :
    signed.context.pdfDocRevisions.map (·.length) =
      (doc.context.pdfDocRevisions.take (idx + 1)).map (·.length) := by
  obtain ⟨j, hlast⟩ := h.lastMarker
  have htake := List.prefix_iff_eq_take.mp hlast.lengths_initial
  rw [List.length_map, h.length_eq] at htake
  rw [htake, List.map_take]

/-! ## Signatures in the signed version -/

theorem getSignatureRevisionIndex_lengths (ctx : DefaultPDFSignatureContext)
    (signature : PDSignature) :
    ctx.getSignatureRevisionIndex signature =
      rethrowAs .illegalArgument "Error examining signature revision" (do
        let len ← signedLength signature
        pure ((ctx.pdfDocRevisions.map (·.length)).findIdx? fun length => length == len)) := by
  unfold getSignatureRevisionIndex
  simp only [List.findIdx?_map]
  rfl

/-- A signature whose revision is not cut off is located where it was. -/
theorem CutAt.index_eq (h : CutAt doc signed idx) (hle : idx' ≤ idx)
    (hfound : doc.context.getSignatureRevisionIndex signature' = .ok (some idx')) :
    signed.context.getSignatureRevisionIndex signature' = .ok (some idx') := by
  rw [getSignatureRevisionIndex_lengths, rethrowAs_ok_iff, bind_ok_iff] at hfound ⊢
  obtain ⟨len, hlen, hidx⟩ := hfound
  refine ⟨len, hlen, congrArg Except.ok ?_⟩
  rw [h.lengths_eq, List.map_take, List.findIdx?_take, Except.ok.inj hidx]
  exact if_pos (decide_eq_true (by omega))

/-- And its signed document is the same one. -/
theorem CutAt.sameSignedDocument (h : CutAt doc signed idx) (hle : idx' ≤ idx)
    (hfound : doc.context.getSignatureRevisionIndex signature' = .ok (some idx')) :
    signed.context.getSignedDocument signature' = doc.context.getSignedDocument signature' := by
  obtain ⟨j, hlast⟩ := h.lastMarker
  obtain ⟨rev, hrev⟩ := getSignatureRevisionIndex_lt hfound
  obtain ⟨rev', hrev'⟩ := getSignatureRevisionIndex_lt (h.index_eq hle hfound)
  have hlength : rev'.length = rev.length := by
    have hlengths := congrArg (·[idx']?) h.lengths_eq
    simp only [List.getElem?_map, List.getElem?_take_of_lt (Nat.lt_succ_of_le hle), hrev, hrev',
      Option.map_some, Option.some.injEq] at hlengths
    exact hlengths
  have hend := ofDocument_length_le signed.context_eq rev' (List.mem_of_getElem? hrev')
  rw [signedDocument_eq hfound hrev, signedDocument_eq (h.index_eq hle hfound) hrev', hlength,
    context_pdfBytes doc.context_eq, context_pdfBytes signed.context_eq, ← hlast.append_rest,
    List.take_append_of_le_length (by omega)]

/-- The revisions themselves are the same exactly when the signatures agree on them. -/
theorem CutAt.revisions_iff (h : CutAt doc signed idx) :
    signed.context.pdfDocRevisions = doc.context.pdfDocRevisions.take (idx + 1) ↔
      SameMarks doc signed := by
  obtain ⟨j, hlast⟩ := h.lastMarker
  have hcontext := doc.context_eq
  have hsignatures := doc.signatures_eq
  rw [← hlast.append_rest] at hcontext hsignatures
  have hkeeps := hlast.keepsRevisions_iff signed.signatures doc.signatures
  constructor
  · intro htake
    refine hkeeps.mp (keepsRevisions_of_initial signed.context_eq hcontext signed.signatures_eq
      hsignatures ?_)
    rw [htake]
    exact List.take_prefix _ _
  · intro hmarks
    have hinitial := revisions_prefix_of_keeps signed.context_eq hcontext signed.signatures_eq
      hsignatures (hkeeps.mpr hmarks)
    have htake := List.prefix_iff_eq_take.mp hinitial
    rw [h.length_eq] at htake
    exact htake

/-- **The signed version.** Read as a document of its own, the signed document of a signature
has revisions of the same lengths up to that of the signature, and the very same revisions
exactly when the signatures of the two documents agree on them. There the signature covers
the whole document and is not extended, and each signature that is not cut off is located
where it was, with the same signed document. -/
theorem signed_version (hfound : doc.context.getSignatureRevisionIndex signature = .ok (some idx))
    (hsigned : doc.context.getSignedDocument signature = .ok signed.pdfBytes) :
    signed.context.pdfDocRevisions.map (·.length) =
      (doc.context.pdfDocRevisions.take (idx + 1)).map (·.length) ∧
    (signed.context.pdfDocRevisions = doc.context.pdfDocRevisions.take (idx + 1) ↔
      SameMarks doc signed) ∧
    signed.context.isCoversWholeDocument signature = .ok true ∧
    signed.context.isSignatureExtendedByNonSafeUpdates signature = .ok false ∧
    ∀ signature' idx', idx' ≤ idx →
      doc.context.getSignatureRevisionIndex signature' = .ok (some idx') →
        signed.context.getSignatureRevisionIndex signature' = .ok (some idx') ∧
        signed.context.getSignedDocument signature' =
          doc.context.getSignedDocument signature' := by
  have hcut := cutAt_of_signedDocument hfound hsigned
  have hcovers : signed.context.isCoversWholeDocument signature = .ok true := by
    refine isCoversWholeDocument_iff.mpr ⟨idx, hcut.index_eq (Nat.le_refl idx) hfound, ?_⟩
    rw [List.drop_eq_nil_of_le (Nat.le_of_eq hcut.length_eq)]
    rfl
  exact ⟨hcut.lengths_eq, hcut.revisions_iff, hcovers, not_extended_of_covers hcovers,
    fun _ _ hle hfound' => ⟨hcut.index_eq hle hfound', hcut.sameSignedDocument hle hfound'⟩⟩

/-! ## The signed version of a document that was updated -/

section Documents

/-- Cut after the signature, the updated document is the signed one again. -/
theorem signed_version_updated :
    ∃ doc : ReadDocument plainJvm strictGeneralSafeObjects
        (tableLoader updatedDocuments wholeRange),
      doc.pdfBytes = signedBytes wholeLine ++ plainUpdate ∧
      doc.context.getSignedDocument (pageSignature wholeRange) = .ok signedRead.pdfBytes ∧
      signedRead.context.isCoversWholeDocument (pageSignature wholeRange) = .ok true := by
  obtain ⟨doc, hbytes, hsignatures⟩ := exists_readDocument updatedDocuments_read.1
  have hupdated : Updated signedRead doc := by
    refine ⟨plainUpdate, hbytes, ?_⟩
    rw [hsignatures]
    exact update_keeps plainUpdate_ends
  have hinitial := hupdated.extends.revisions
  have hfound := getSignatureRevisionIndex_initial hinitial signedRead_located
  have hfirst : doc.context.pdfDocRevisions[0]? = signedRead.context.pdfDocRevisions[0]? :=
    List.prefix_iff_getElem?.mp hinitial 0 Nat.zero_lt_one
  have hsigned : doc.context.getSignedDocument (pageSignature wholeRange) =
      .ok signedRead.pdfBytes := by
    have hlength : (signedBytes wholeLine).length = 544 :=
      (signedBytes_markers wholeLine List.mem_cons_self).2.2
    rw [signedDocument_eq hfound hfirst, context_pdfBytes doc.context_eq, hbytes]
    exact congrArg Except.ok (List.take_left' hlength)
  exact ⟨doc, hbytes, hsigned, (signed_version hfound hsigned).2.2.1⟩

end Documents

end SigVal.Pdf
