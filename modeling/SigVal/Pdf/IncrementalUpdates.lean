import Mathlib.Data.List.Infix
import SigVal.Pdf.MarkerScan
import SigVal.Lib.Runs

/-!
# Documents that grow by updates

An incremental update appends bytes to a document. The context of the longer document is
made anew: all its markers are searched again, and every revision asks the signatures of
the longer document. The revisions the document had before come out the same unless the
update changes where one of them ends, or which of them end with a signature.
-/

namespace SigVal.Pdf

open SigVal.Java SigVal.Runs DefaultPDFSignatureContext

/-! ## The marks of a revision -/

/-- The signature ends at the offset. -/
def endsAt (len : Nat) (signature : PDSignature) : Bool :=
  match signedLength signature with
  | .ok e => e == len
  | .error _ => false

/-- The revision of the length, with what the signatures say about it. -/
def marked (signatures : List PDSignature) (len : Nat) : RevisionCandidate where
  length := len
  signature := signatures.any (endsAt len)
  documentTimestamp := (signatures.filter (endsAt len)).getLast?.any fun signature =>
    signature.subFilter == some subfilterEtsiRfc3161

/-- The ranges of all signatures are complete. -/
def CompleteRanges (signatures : List PDSignature) : Prop :=
  ∀ signature ∈ signatures, ∃ e, signedLength signature = .ok e

variable {pdfBytes update : Bytes} {signatures : List PDSignature} {i j : Nat}

theorem endsAt_eq {signature : PDSignature} {e : Int} (h : signedLength signature = .ok e)
    (len : Nat) : endsAt len signature = (e == len) := by
  unfold endsAt
  rw [h]

theorem marked_append_hit {before : List PDSignature} {signature : PDSignature} {len : Nat}
    (h : endsAt len signature = true) :
    marked (before ++ [signature]) len =
      ⟨len, true, signature.subFilter == some subfilterEtsiRfc3161⟩ := by
  unfold marked
  rw [List.any_append, List.filter_append, List.filter_cons_of_pos h, List.filter_nil,
    List.getLast?_concat]
  simp [h]

theorem marked_append_miss {before : List PDSignature} {signature : PDSignature} {len : Nat}
    (h : endsAt len signature = false) :
    marked (before ++ [signature]) len = marked before len := by
  unfold marked
  rw [List.any_append, List.filter_append, List.filter_cons_of_neg (by simp [h]), List.filter_nil,
    List.append_nil]
  simp [h]

/-- The loop over the signatures keeps what the last one that ends here says. -/
theorem revisionAt_eq_marked (hranges : CompleteRanges signatures) (i : Nat) :
    revisionAt pdfBytes signatures i = .ok (marked signatures (revisionLen pdfBytes i)) := by
  unfold revisionAt
  dsimp only
  generalize revisionLen pdfBytes i = len
  induction signatures using List.reverseRecOn with
  | nil => rfl
  | append_singleton before signature ih =>
      obtain ⟨e, he⟩ := hranges signature (by simp)
      have hbefore := ih fun s hs => hranges s (List.mem_append_left _ hs)
      rw [List.foldlM_append]
      refine bind_ok_iff.mpr ⟨marked before len, hbefore, ?_⟩
      rw [List.foldlM_cons]
      refine bind_ok_iff.mpr ⟨marked (before ++ [signature]) len, ?_, rfl⟩
      refine bind_ok_iff.mpr ⟨e, he, ?_⟩
      by_cases hend : e = len
      · rw [if_pos hend, marked_append_hit (by simp [endsAt_eq he, hend])]
        rfl
      · rw [if_neg hend, marked_append_miss (by simp [endsAt_eq he, hend])]
        rfl

/-! ## The revisions of a document, marker by marker -/

/-- The revision that ends at the marker, when the bytes up to there load. -/
def loadedAt (loader : PdfLoader) (pdfBytes : Bytes) (signatures : List PDSignature) (i : Nat) :
    Option PDFDocRevision :=
  consolidate loader pdfBytes (marked signatures (revisionLen pdfBytes i))

/-- The loaded revisions, from the first marker to the last. -/
def loadedRevisions (loader : PdfLoader) (pdfBytes : Bytes) (signatures : List PDSignature) :
    List PDFDocRevision :=
  (occurrences pdfBytes).filterMap (loadedAt loader pdfBytes signatures)

theorem loadedAt_eq_some {loader : PdfLoader} {rev : PDFDocRevision}
    (h : loadedAt loader pdfBytes signatures i = some rev) :
    rev.length = revisionLen pdfBytes i ∧
      rev.signature = (marked signatures (revisionLen pdfBytes i)).signature ∧
      rev.documentTimestamp =
        (marked signatures (revisionLen pdfBytes i)).documentTimestamp := by
  obtain ⟨loaded, -, rfl⟩ := Option.map_eq_some_iff.mp h
  exact ⟨rfl, rfl, rfl⟩

theorem loadedAt_isSome {loader : PdfLoader} (signatures : List PDSignature) :
    (loadedAt loader pdfBytes signatures i).isSome =
      (loader.loadPDF (pdfBytes.take (revisionLen pdfBytes i))).isSome := by
  unfold loadedAt consolidate
  rw [Option.isSome_map]
  rfl

theorem loadedRevisions_increasing (loader : PdfLoader) :
    (loadedRevisions loader pdfBytes signatures).Pairwise fun a b => a.length < b.length := by
  unfold loadedRevisions
  refine List.Pairwise.filterMap _ ?_ ((occurrences_increasing pdfBytes).imp_of_mem ?_)
    (R := fun i j => revisionLen pdfBytes i < revisionLen pdfBytes j)
  · intro i j hlt rev hrev rev' hrev'
    rw [(loadedAt_eq_some hrev).1, (loadedAt_eq_some hrev').1]
    exact Int.ofNat_lt.mpr hlt
  · intro i j hi hj hlt
    exact revisionLen_strictMono (mem_occurrences.mp hi) (mem_occurrences.mp hj) hlt

/-- The candidates come from the last marker to the first, and sorting turns them round. -/
theorem sorted_loadedRevisions {loader : PdfLoader} :
    ((loadedRevisions loader pdfBytes signatures).reverse.mergeSort
      fun a b => decide (a.length ≤ b.length)) = loadedRevisions loader pdfBytes signatures := by
  have hincreasing : (loadedRevisions loader pdfBytes signatures).Pairwise
      fun a b => a.length < b.length := loadedRevisions_increasing loader
  have hsorted := @List.pairwise_mergeSort _ (fun a b : PDFDocRevision =>
    decide (a.length ≤ b.length))
    (fun a b c hab hbc => decide_eq_true ((of_decide_eq_true hab).trans (of_decide_eq_true hbc)))
    (fun a b => by simpa using Int.le_total a.length b.length)
    (loadedRevisions loader pdfBytes signatures).reverse
  have hperm := (List.mergeSort_perm (loadedRevisions loader pdfBytes signatures).reverse
    fun a b => decide (a.length ≤ b.length)).trans (List.reverse_perm _)
  refine @List.Perm.eq_of_pairwise _ (fun a b => a.length ≤ b.length) _ _ ?_
    (hsorted.imp fun h => of_decide_eq_true h) (hincreasing.imp fun h => h.le) hperm
  -- a length names one revision
  intro a b ha hb hab hba
  obtain ⟨k, hk, rfl⟩ := List.getElem_of_mem (hperm.mem_iff.mp ha)
  obtain ⟨m, hm, rfl⟩ := List.getElem_of_mem hb
  rcases Nat.lt_trichotomy k m with hlt | heq | hgt
  · have hshorter := List.pairwise_iff_getElem.mp hincreasing k m hk hm hlt
    omega
  · subst heq
    rfl
  · have hshorter := List.pairwise_iff_getElem.mp hincreasing m k hm hk hgt
    omega

section Context

variable {jvm : Jvm} {safeObjectProvider : GeneralSafeObjects} {loader : PdfLoader}
  {ctx : DefaultPDFSignatureContext}

/-- What a document that was read looks like. -/
theorem ofDocument_eq
    (hdoc : DefaultPDFSignatureContext.ofDocument jvm safeObjectProvider loader pdfBytes =
      .ok ctx) :
    ∃ signatures, loader.getSignatureDictionaries pdfBytes = .ok signatures ∧
      (occurrences pdfBytes = [] ∨ CompleteRanges signatures) ∧
      ctx = ofRevisions jvm safeObjectProvider pdfBytes
        (loadedRevisions loader pdfBytes signatures) := by
  unfold DefaultPDFSignatureContext.ofDocument at hdoc
  obtain ⟨signatures, hsignatures, hdoc⟩ := bind_ok_iff.mp hdoc
  obtain ⟨candidates, hcandidates, hdoc⟩ := bind_ok_iff.mp hdoc
  cases hdoc
  have hreads : occurrences pdfBytes = [] ∨ CompleteRanges signatures :=
    scanFrom_ok_iff.mp ⟨candidates, hcandidates⟩
  refine ⟨signatures, hsignatures, hreads, ?_⟩
  have hmarks : candidates =
      (occurrences pdfBytes).reverse.map fun i => marked signatures (revisionLen pdfBytes i) := by
    have hscan : (occurrences pdfBytes).reverse.mapM (revisionAt pdfBytes signatures) =
      .ok candidates := scanFrom_none.symm.trans hcandidates
    rcases hreads with hnil | hranges
    · rw [hnil] at hscan ⊢
      cases hscan
      rfl
    · rw [funext (revisionAt_eq_marked hranges)] at hscan
      exact Except.ok.inj (hscan.symm.trans List.mapM_pure)
  have hloaded : candidates.filterMap (consolidate loader pdfBytes) =
      (loadedRevisions loader pdfBytes signatures).reverse := by
    rw [hmarks, List.filterMap_map, List.filterMap_reverse]
    rfl
  show ofRevisions _ _ _ (List.mergeSort _ _) = _
  rw [hloaded, sorted_loadedRevisions]

theorem context_pdfBytes
    (hdoc : DefaultPDFSignatureContext.ofDocument jvm safeObjectProvider loader pdfBytes =
      .ok ctx) : ctx.pdfBytes = pdfBytes := by
  obtain ⟨signatures, -, -, rfl⟩ := ofDocument_eq hdoc
  rfl

end Context

/-! ## The comparison along two lists of revisions -/

section Marking

variable {jvm : Jvm} {safeObjectProvider : GeneralSafeObjects}

/-- A revision is compared with the one before it only. -/
theorem markRevisions_append (first : List PDFDocRevision) :
    ∀ (last : Option PDFDocRevision) (later : List PDFDocRevision),
      ∃ last', markRevisions jvm safeObjectProvider last (first ++ later) =
        markRevisions jvm safeObjectProvider last first ++
          markRevisions jvm safeObjectProvider last' later := by
  induction first with
  | nil => exact fun last later => ⟨last, rfl⟩
  | cons revData rest ih =>
      intro last later
      obtain ⟨last', hrest⟩ := ih
        (some (getXrefUpdates jvm safeObjectProvider revData last)) later
      exact ⟨last', congrArg (_ :: ·) hrest⟩

theorem markRevisions_initial {first all : List PDFDocRevision} (h : first <+: all)
    (last : Option PDFDocRevision) :
    markRevisions jvm safeObjectProvider last first <+:
      markRevisions jvm safeObjectProvider last all := by
  obtain ⟨later, rfl⟩ := h
  obtain ⟨last', happend⟩ : ∃ last', markRevisions jvm safeObjectProvider last (first ++ later) =
      markRevisions jvm safeObjectProvider last first ++
        markRevisions jvm safeObjectProvider last' later := markRevisions_append first last later
  exact ⟨_, happend.symm⟩

/-- What the scan found out about a revision. -/
def scanned (rev : PDFDocRevision) : Int × Bool × Bool :=
  (rev.length, rev.signature, rev.documentTimestamp)

theorem markRevisions_scanned (loaded : List PDFDocRevision) :
    ∀ last, (markRevisions jvm safeObjectProvider last loaded).map scanned =
      loaded.map scanned := by
  induction loaded with
  | nil => exact fun _ => rfl
  | cons revData rest ih =>
      intro last
      show _ :: _ = _ :: _
      rw [ih]
      rfl

end Marking

/-! ## One update -/

/-- The update leaves the revisions of the document as they are: for each one that loads,
the line break after its marker is not completed by the first bytes of the update, and the
signatures of the longer document say about it what those of the document said. -/
def KeepsRevisions (loader : PdfLoader) (pdfBytes update : Bytes)
    (signatures signatures' : List PDSignature) : Prop :=
  ∀ i, MarkerAt pdfBytes i → (loader.loadPDF (pdfBytes.take (revisionLen pdfBytes i))).isSome →
    revisionLen (pdfBytes ++ update) i = revisionLen pdfBytes i ∧
      marked signatures' (revisionLen pdfBytes i) = marked signatures (revisionLen pdfBytes i)

theorem MarkerAt.append (h : MarkerAt pdfBytes i) (update : Bytes) :
    MarkerAt (pdfBytes ++ update) i := by
  have hlength := h.length_le
  unfold MarkerAt at h ⊢
  rw [List.drop_append_of_le_length (by omega)]
  exact h.trans (List.prefix_append _ _)

theorem markerAt_append_iff (hle : i + 5 ≤ pdfBytes.length) :
    MarkerAt (pdfBytes ++ update) i ↔ MarkerAt pdfBytes i := by
  constructor
  · intro h
    unfold MarkerAt at h ⊢
    rw [List.drop_append_of_le_length (by omega)] at h
    apply List.prefix_of_prefix_length_le h (List.prefix_append _ _)
    rw [List.length_drop]
    show 5 ≤ _
    omega
  · exact fun h => h.append update

/-- The markers of the document come first, and no other one lies within it. -/
theorem occurrences_append (pdfBytes update : Bytes) :
    occurrences (pdfBytes ++ update) = occurrences pdfBytes ++
      (occurrences (pdfBytes ++ update)).filter fun i => pdfBytes.length < i + 5 := by
  have hincreasing : (occurrences pdfBytes ++ (occurrences (pdfBytes ++ update)).filter
      fun i => pdfBytes.length < i + 5).Pairwise (· < ·) := by
    refine List.pairwise_append.mpr ⟨occurrences_increasing _,
      (occurrences_increasing _).filter _, ?_⟩
    intro i hi j hj
    have hlength := (mem_occurrences.mp hi).length_le
    have hlater := of_decide_eq_true (List.mem_filter.mp hj).2
    omega
  apply (occurrences_increasing _).eq_of_mem_iff hincreasing
  intro i
  rw [List.mem_append, List.mem_filter, mem_occurrences, mem_occurrences, decide_eq_true_iff]
  constructor
  · intro h
    rcases Nat.lt_or_ge pdfBytes.length (i + 5) with hlater | hwithin
    · exact .inr ⟨h, hlater⟩
    · exact .inl ((markerAt_append_iff hwithin).mp h)
  · rintro (h | ⟨h, -⟩)
    · exact h.append update
    · exact h

/-- Only at the end of the document can an update change where a revision ends. -/
theorem revisionLen_append (hi : MarkerAt pdfBytes i)
    (hne : revisionLen (pdfBytes ++ update) i ≠ revisionLen pdfBytes i) :
    pdfBytes.length ≤ i + 6 ∧ pdfBytes.length < revisionLen (pdfBytes ++ update) i := by
  have hlength := hi.length_le
  rw [revisionLen_eq, revisionLen_eq] at hne
  rw [revisionLen_eq]
  unfold lineBreakLength at hne ⊢
  rcases Nat.lt_or_ge (i + 6) pdfBytes.length with hinside | hlast
  · -- both bytes that are looked at are the document's own
    rw [List.getElem?_append_left (by omega), List.getElem?_append_left (by omega)] at hne
    exact absurd rfl hne
  · have hsecond : pdfBytes[i + 5 + 1]? = none := List.getElem?_eq_none (by omega)
    rw [hsecond] at hne
    simp only [reduceCtorEq, and_false, if_false] at hne
    refine ⟨by omega, ?_⟩
    rcases Nat.lt_or_ge (i + 5) pdfBytes.length with hone | hnone
    · rw [List.getElem?_append_left hone] at hne ⊢
      split at hne
      · exact absurd rfl hne
      · rename_i hlf
        rw [if_neg hlf]
        split at hne
        · rename_i hcrlf
          rw [if_pos hcrlf]
          omega
        · exact absurd rfl hne
    · rw [List.getElem?_eq_none hnone] at hne
      simp only [reduceCtorEq, if_false] at hne
      split at hne
      · rename_i hlf
        rw [if_pos hlf]
        omega
      · rename_i hlf
        split at hne
        · rename_i hcrlf
          rw [if_neg hlf, if_pos hcrlf]
          omega
        · exact absurd rfl hne

/-- A revision that loads is found again, and one that does not load may only appear behind
all that load. -/
theorem loadedRevisions_initial {loader : PdfLoader} {signatures' : List PDSignature}
    (hkeeps : KeepsRevisions loader pdfBytes update signatures signatures') :
    loadedRevisions loader pdfBytes signatures <+:
      loadedRevisions loader (pdfBytes ++ update) signatures' := by
  have hsame : ∀ i ∈ occurrences pdfBytes,
      revisionLen (pdfBytes ++ update) i = revisionLen pdfBytes i →
        loadedAt loader (pdfBytes ++ update) signatures' i =
          loadedAt loader pdfBytes signatures i := by
    intro i hi hlen
    have hmarker := mem_occurrences.mp hi
    have htake : (pdfBytes ++ update).take (revisionLen pdfBytes i) =
        pdfBytes.take (revisionLen pdfBytes i) :=
      List.take_append_of_le_length (revisionLen_le hmarker.length_le)
    cases hloads : (loader.loadPDF (pdfBytes.take (revisionLen pdfBytes i))).isSome with
    | true =>
        unfold loadedAt consolidate
        rw [hlen, (hkeeps i hmarker hloads).2]
        show Option.map _ (loader.loadPDF ((pdfBytes ++ update).take (revisionLen pdfBytes i))) = _
        rw [htake]
        rfl
    | false =>
        have hnone : loadedAt loader pdfBytes signatures i = none :=
          Option.isNone_iff_eq_none.mp (by rw [← Option.not_isSome, loadedAt_isSome, hloads]; rfl)
        have hnone' : loadedAt loader (pdfBytes ++ update) signatures' i = none := by
          apply Option.isNone_iff_eq_none.mp
          rw [← Option.not_isSome, loadedAt_isSome, hlen, htake, hloads]
          rfl
        rw [hnone, hnone']
  unfold loadedRevisions
  rw [occurrences_append pdfBytes update, List.filterMap_append]
  refine List.IsPrefix.trans ?_ (List.prefix_append _ _)
  rcases List.eq_nil_or_concat (occurrences pdfBytes) with hnil | ⟨init, last, hlast⟩
  · rw [hnil]
    exact List.prefix_rfl
  · have hbefore : init.filterMap (loadedAt loader (pdfBytes ++ update) signatures') =
        init.filterMap (loadedAt loader pdfBytes signatures) := by
      refine List.filterMap_congr fun i hi => hsame i (by rw [hlast]; simp [hi]) ?_
      by_contra hne
      -- another marker follows
      have hmem : i ∈ occurrences pdfBytes := by rw [hlast]; simp [hi]
      have hmarker := mem_occurrences.mp hmem
      have hlastMarker : MarkerAt pdfBytes last := mem_occurrences.mp (by rw [hlast]; simp)
      have hincreasing := occurrences_increasing pdfBytes
      rw [hlast, List.concat_eq_append, List.pairwise_append] at hincreasing
      have hlt := hincreasing.2.2 i hi last (List.mem_singleton_self _)
      have hapart := hmarker.apart hlastMarker hlt
      have hbound := hlastMarker.length_le
      have hend := (revisionLen_append hmarker hne).1
      omega
    rw [hlast, List.concat_eq_append, List.filterMap_append, List.filterMap_append, hbefore]
    refine (List.prefix_append_right_inj _).mpr ?_
    cases hloaded : loadedAt loader pdfBytes signatures last with
    | none =>
        rw [List.filterMap_cons, hloaded]
        exact List.nil_prefix
    | some rev =>
        have hmem : last ∈ occurrences pdfBytes := by rw [hlast]; simp
        have hloads : (loader.loadPDF (pdfBytes.take (revisionLen pdfBytes last))).isSome := by
          rw [← loadedAt_isSome signatures, hloaded]
          rfl
        rw [List.filterMap_cons, List.filterMap_cons,
          hsame last hmem (hkeeps last (mem_occurrences.mp hmem) hloads).1]
        exact List.prefix_rfl

section Context

variable {jvm : Jvm} {safeObjectProvider : GeneralSafeObjects} {loader : PdfLoader}
  {signatures' : List PDSignature} {ctx ctx' : DefaultPDFSignatureContext}
  (hdoc : DefaultPDFSignatureContext.ofDocument jvm safeObjectProvider loader pdfBytes = .ok ctx)
  (hdoc' : DefaultPDFSignatureContext.ofDocument jvm safeObjectProvider loader
    (pdfBytes ++ update) = .ok ctx')
  (hsignatures : loader.getSignatureDictionaries pdfBytes = .ok signatures)
  (hsignatures' : loader.getSignatureDictionaries (pdfBytes ++ update) = .ok signatures')
include hdoc hdoc' hsignatures hsignatures'

theorem keepsRevisions_of_initial
    (hinitial : ctx.pdfDocRevisions <+: ctx'.pdfDocRevisions) :
    KeepsRevisions loader pdfBytes update signatures signatures' := by
  obtain ⟨found, hfound, -, rfl⟩ := ofDocument_eq hdoc
  obtain ⟨found', hfound', -, rfl⟩ := ofDocument_eq hdoc'
  cases hsignatures.symm.trans hfound
  cases hsignatures'.symm.trans hfound'
  intro i hmarker hloads
  have hscanned := hinitial.map scanned
  dsimp only [ofRevisions] at hscanned
  rw [markRevisions_scanned, markRevisions_scanned] at hscanned
  rw [← loadedAt_isSome signatures] at hloads
  obtain ⟨rev, hrev⟩ := Option.isSome_iff_exists.mp hloads
  have hmem : rev ∈ loadedRevisions loader pdfBytes signatures :=
    List.mem_filterMap.mpr ⟨i, mem_occurrences.mpr hmarker, hrev⟩
  obtain ⟨rev', hmem', hsame⟩ := List.mem_map.mp (hscanned.subset (List.mem_map_of_mem hmem))
  obtain ⟨j, hj, hrev'⟩ := List.mem_filterMap.mp hmem'
  obtain ⟨hlen, hsig, hts⟩ := loadedAt_eq_some hrev
  obtain ⟨hlen', hsig', hts'⟩ := loadedAt_eq_some hrev'
  simp only [scanned, Prod.mk.injEq] at hsame
  obtain ⟨hlength, hsignature, htimestamp⟩ := hsame
  have hends : revisionLen (pdfBytes ++ update) j = revisionLen pdfBytes i := by
    rw [hlen, hlen'] at hlength
    exact Int.ofNat_inj.mp hlength
  -- the two revisions end at one marker
  have hji : j = i := by
    have hlow := le_revisionLen pdfBytes i
    have hhigh := revisionLen_lt pdfBytes i
    have hlow' := le_revisionLen (pdfBytes ++ update) j
    have hhigh' := revisionLen_lt (pdfBytes ++ update) j
    exact marker_eq_of_end (mem_occurrences.mp hj) (hmarker.append update)
      (e := revisionLen pdfBytes i) (by omega) (by omega)
  subst hji
  refine ⟨hends, ?_⟩
  rw [hends] at hsig' hts'
  have hsigs : (marked signatures' (revisionLen pdfBytes j)).signature =
      (marked signatures (revisionLen pdfBytes j)).signature := by
    rw [← hsig', ← hsig, hsignature]
  have hstamps : (marked signatures' (revisionLen pdfBytes j)).documentTimestamp =
      (marked signatures (revisionLen pdfBytes j)).documentTimestamp := by
    rw [← hts', ← hts, htimestamp]
  exact congrArg₂ (RevisionCandidate.mk _) hsigs hstamps

theorem revisions_prefix_of_keeps
    (hkeeps : KeepsRevisions loader pdfBytes update signatures signatures') :
    ctx.pdfDocRevisions <+: ctx'.pdfDocRevisions := by
  obtain ⟨found, hfound, -, rfl⟩ := ofDocument_eq hdoc
  obtain ⟨found', hfound', -, rfl⟩ := ofDocument_eq hdoc'
  cases hsignatures.symm.trans hfound
  cases hsignatures'.symm.trans hfound'
  exact markRevisions_initial (loadedRevisions_initial hkeeps) none

/-- **One update.** The revisions of the document are the first ones of the longer
document, with the same verdict on each, exactly when the update leaves the ends and the
signatures of those that load as they are. -/
theorem revisions_prefix_iff :
    ctx.pdfDocRevisions <+: ctx'.pdfDocRevisions ↔
      KeepsRevisions loader pdfBytes update signatures signatures' :=
  ⟨keepsRevisions_of_initial hdoc hdoc' hsignatures hsignatures',
    revisions_prefix_of_keeps hdoc hdoc' hsignatures hsignatures'⟩

end Context

/-! ## Verdicts on the first revisions -/

section Verdicts

variable {ctx ctx' : DefaultPDFSignatureContext} {signature : PDSignature} {idx : Nat}

theorem extendedBy_isSome {later : List PDFDocRevision} (h : extendedBy later = true) :
    ∃ rev ∈ later, Ordinary rev := by
  induction later with
  | nil => cases h
  | cons rev later ih =>
      by_cases hord : Ordinary rev
      · exact ⟨rev, List.mem_cons_self, hord⟩
      · rw [extendedBy_skip hord] at h
        obtain ⟨r, hr, hr'⟩ := ih h
        exact ⟨r, List.mem_cons_of_mem _ hr, hr'⟩

/-- Behind an ordinary revision the loop looks no further. -/
theorem extendedBy_append {first : List PDFDocRevision} (h : ∃ rev ∈ first, Ordinary rev)
    (later : List PDFDocRevision) : extendedBy (first ++ later) = extendedBy first := by
  induction first with
  | nil =>
      obtain ⟨rev, hrev, -⟩ := h
      cases hrev
  | cons rev first ih =>
      by_cases hord : Ordinary rev
      · rw [List.cons_append, extendedBy_ordinary hord, extendedBy_ordinary hord]
      · rw [List.cons_append, extendedBy_skip hord, extendedBy_skip hord]
        apply ih
        obtain ⟨r, hr, hr'⟩ := h
        rcases List.mem_cons.mp hr with rfl | hr
        · exact absurd hr' hord
        · exact ⟨r, hr, hr'⟩

theorem getSignatureRevisionIndex_initial (hinitial : ctx.pdfDocRevisions <+: ctx'.pdfDocRevisions)
    (hfound : ctx.getSignatureRevisionIndex signature = .ok (some idx)) :
    ctx'.getSignatureRevisionIndex signature = .ok (some idx) := by
  unfold getSignatureRevisionIndex at hfound ⊢
  rw [rethrowAs_ok_iff, bind_ok_iff] at hfound ⊢
  obtain ⟨len, hlen, hidx⟩ := hfound
  exact ⟨len, hlen, congrArg Except.ok (hinitial.findIdx?_eq_some (Except.ok.inj hidx))⟩

/-- The index is one of a revision. -/
theorem getSignatureRevisionIndex_lt
    (hfound : ctx.getSignatureRevisionIndex signature = .ok (some idx)) :
    ∃ rev, ctx.pdfDocRevisions[idx]? = some rev := by
  unfold getSignatureRevisionIndex at hfound
  rw [rethrowAs_ok_iff, bind_ok_iff] at hfound
  obtain ⟨len, -, hidx⟩ := hfound
  obtain ⟨hlt, -⟩ := List.findIdx?_eq_some_iff_getElem.mp (Except.ok.inj hidx)
  exact ⟨_, List.getElem?_eq_getElem hlt⟩

theorem extended_eq (hfound : ctx.getSignatureRevisionIndex signature = .ok (some idx)) :
    ctx.isSignatureExtendedByNonSafeUpdates signature =
      .ok (extendedBy (ctx.pdfDocRevisions.drop (idx + 1))) := by
  unfold isSignatureExtendedByNonSafeUpdates
  rw [rethrowAs_ok_iff, hfound]
  rfl

theorem signedDocument_eq {rev : PDFDocRevision}
    (hfound : ctx.getSignatureRevisionIndex signature = .ok (some idx))
    (hrev : ctx.pdfDocRevisions[idx]? = some rev) :
    ctx.getSignedDocument signature = .ok (ctx.pdfBytes.take rev.length.toNat) := by
  unfold getSignedDocument
  rw [rethrowAs_ok_iff, hfound]
  show (deref ctx.pdfDocRevisions[idx]? >>= _) = _
  rw [hrev]
  rfl

/-- A later revision can only take away what covers the document. -/
theorem covers_of_initial (hinitial : ctx.pdfDocRevisions <+: ctx'.pdfDocRevisions)
    (hfound : ctx.getSignatureRevisionIndex signature = .ok (some idx))
    (hcovers : ctx'.isCoversWholeDocument signature = .ok true) :
    ctx.isCoversWholeDocument signature = .ok true := by
  obtain ⟨idx', hfound', hall⟩ := isCoversWholeDocument_iff.mp hcovers
  cases (getSignatureRevisionIndex_initial hinitial hfound).symm.trans hfound'
  refine isCoversWholeDocument_iff.mpr ⟨idx, hfound, List.all_eq_true.mpr ?_⟩
  intro rev hrev
  exact List.all_eq_true.mp hall rev ((hinitial.drop (idx + 1)).subset hrev)

/-- Once an ordinary revision follows the signature, the verdict on extensions stands. -/
theorem extended_of_initial (hinitial : ctx.pdfDocRevisions <+: ctx'.pdfDocRevisions)
    (hfound : ctx.getSignatureRevisionIndex signature = .ok (some idx))
    (hord : ∃ rev ∈ ctx.pdfDocRevisions.drop (idx + 1), Ordinary rev) :
    ctx'.isSignatureExtendedByNonSafeUpdates signature =
      ctx.isSignatureExtendedByNonSafeUpdates signature := by
  obtain ⟨later, hlater⟩ := hinitial.drop (idx + 1)
  rw [extended_eq hfound, extended_eq (getSignatureRevisionIndex_initial hinitial hfound),
    ← hlater, extendedBy_append hord]

end Verdicts

/-! ## Any number of updates -/

/-- A document that was read. -/
structure ReadDocument (jvm : Jvm) (safeObjectProvider : GeneralSafeObjects) (loader : PdfLoader)
    where
  pdfBytes : Bytes
  signatures : List PDSignature
  context : DefaultPDFSignatureContext
  signatures_eq : loader.getSignatureDictionaries pdfBytes = .ok signatures
  context_eq : DefaultPDFSignatureContext.ofDocument jvm safeObjectProvider loader pdfBytes =
    .ok context

section Runs

variable {jvm : Jvm} {safeObjectProvider : GeneralSafeObjects} {loader : PdfLoader}
  {doc doc' : ReadDocument jvm safeObjectProvider loader} {signature : PDSignature} {idx : Nat}

/-- The document was updated, and its revisions were kept. -/
def Updated (doc doc' : ReadDocument jvm safeObjectProvider loader) : Prop :=
  ∃ update, doc'.pdfBytes = doc.pdfBytes ++ update ∧
    KeepsRevisions loader doc.pdfBytes update doc.signatures doc'.signatures

/-- The bytes and the revisions of the one document are the first ones of the other. -/
structure Extends (doc doc' : ReadDocument jvm safeObjectProvider loader) : Prop where
  bytes : doc.pdfBytes <+: doc'.pdfBytes
  revisions : doc.context.pdfDocRevisions <+: doc'.context.pdfDocRevisions

theorem Extends.trans {doc'' : ReadDocument jvm safeObjectProvider loader}
    (h : Extends doc doc') (h' : Extends doc' doc'') : Extends doc doc'' :=
  ⟨h.bytes.trans h'.bytes, h.revisions.trans h'.revisions⟩

theorem Updated.extends (h : Updated doc doc') : Extends doc doc' := by
  obtain ⟨update, hbytes, hkeeps⟩ := h
  refine ⟨⟨update, hbytes.symm⟩, ?_⟩
  have hcontext := doc'.context_eq
  have hsignatures := doc'.signatures_eq
  rw [hbytes] at hcontext hsignatures
  exact revisions_prefix_of_keeps doc.context_eq hcontext doc.signatures_eq hsignatures hkeeps

theorem extends_of_run (hrun : Run Updated doc doc') : Extends doc doc' := by
  induction hrun with
  | refl => exact ⟨List.prefix_rfl, List.prefix_rfl⟩
  | tail _ hlast ih => exact ih.trans hlast.extends

/-- **Any number of updates.** However often a document is updated, as long as its revisions
are kept: a signature that was located stays where it is, its signed document stays the
same, and once it does not cover the whole document it never does again. Once it is
extended by an update that is not safe it stays so, and the first ordinary revision after
it settles the question. -/
theorem updates_keep_verdicts (hrun : Run Updated doc doc')
    (hfound : doc.context.getSignatureRevisionIndex signature = .ok (some idx)) :
    doc'.context.getSignatureRevisionIndex signature = .ok (some idx) ∧
    doc'.context.getSignedDocument signature = doc.context.getSignedDocument signature ∧
    (doc'.context.isCoversWholeDocument signature = .ok true →
      doc.context.isCoversWholeDocument signature = .ok true) ∧
    (doc.context.isSignatureExtendedByNonSafeUpdates signature = .ok true →
      doc'.context.isSignatureExtendedByNonSafeUpdates signature = .ok true) ∧
    ((∃ rev ∈ doc.context.pdfDocRevisions.drop (idx + 1), Ordinary rev) →
      doc'.context.isSignatureExtendedByNonSafeUpdates signature =
        doc.context.isSignatureExtendedByNonSafeUpdates signature) := by
  obtain ⟨hbytes, hinitial⟩ := extends_of_run hrun
  have hfound' := getSignatureRevisionIndex_initial hinitial hfound
  refine ⟨hfound', ?_, covers_of_initial hinitial hfound, ?_, extended_of_initial hinitial hfound⟩
  · obtain ⟨rev, hrev⟩ := getSignatureRevisionIndex_lt hfound
    have hrev' : doc'.context.pdfDocRevisions[idx]? = some rev := by
      obtain ⟨hlt, rfl⟩ := List.getElem?_eq_some_iff.mp hrev
      exact List.prefix_iff_getElem?.mp hinitial idx hlt
    have hlength := ofDocument_length_le doc.context_eq rev (List.mem_of_getElem? hrev)
    obtain ⟨update, hupdate⟩ := hbytes
    rw [signedDocument_eq hfound hrev, signedDocument_eq hfound' hrev',
      context_pdfBytes doc.context_eq, context_pdfBytes doc'.context_eq, ← hupdate,
      List.take_append_of_le_length (by omega)]
  · intro hextended
    have hord : ∃ rev ∈ doc.context.pdfDocRevisions.drop (idx + 1), Ordinary rev := by
      rw [extended_eq hfound] at hextended
      exact extendedBy_isSome (Except.ok.inj hextended)
    rw [extended_of_initial hinitial hfound hord]
    exact hextended

end Runs

/-! ## A signed document that is updated twice -/

section Documents

/-- An update of the updated page. -/
def laterUpdate : Bytes :=
  ofLines ["3 0 obj", "<</Type/Page/Parent 2 0 R/MediaBox[0 0 9 7]>>", "endobj",
    "xref", "3 1", "0000000694 00000 n ",
    "trailer", "<</Size 6/Root 1 0 R/Prev 605>>", "startxref", "755"] ++ EOF ++ [0x0a]

/-- The signed page and its two updates. -/
def updatedDocuments : List (Bytes × LoadedDocument) :=
  pageDocuments wholeLine wholeRange ++
    [(signedBytes wholeLine ++ plainUpdate ++ laterUpdate,
      pageDocument wholeRange 7 694 [("Prev", .integer 605)])]

theorem lookup_updatedDocuments :
    updatedDocuments.lookup (signedBytes wholeLine) = some (signedPage wholeRange) := by
  unfold updatedDocuments
  rw [List.lookup_append, lookup_signedBytes]
  rfl

/-- An update without a signature keeps the revisions whose line breaks it keeps. -/
theorem update_keeps {documents : List (Bytes × LoadedDocument)} {range : ByteRange}
    {pdfBytes update : Bytes} (hends : ∀ i ∈ markerOffsets pdfBytes 0,
      revisionLen (pdfBytes ++ update) i = revisionLen pdfBytes i) :
    KeepsRevisions (tableLoader documents range) pdfBytes update [pageSignature range]
      [pageSignature range] := by
  intro i hmarker _
  exact ⟨hends i (mem_markerOffsets_zero.mpr hmarker), rfl⟩

theorem plainUpdate_ends : ∀ i ∈ markerOffsets (signedBytes wholeLine) 0,
    revisionLen (signedBytes wholeLine ++ plainUpdate) i =
      revisionLen (signedBytes wholeLine) i := by
  decide +kernel

theorem laterUpdate_ends : ∀ i ∈ markerOffsets (signedBytes wholeLine ++ plainUpdate) 0,
    revisionLen (signedBytes wholeLine ++ plainUpdate ++ laterUpdate) i =
      revisionLen (signedBytes wholeLine ++ plainUpdate) i := by
  decide +kernel

theorem updatedDocuments_read :
    (updatedDocuments.lookup (signedBytes wholeLine ++ plainUpdate)).isSome = true ∧
      (updatedDocuments.lookup
        (signedBytes wholeLine ++ plainUpdate ++ laterUpdate)).isSome = true := by
  decide +kernel

/-- A document that this library reads. -/
theorem exists_readDocument {documents : List (Bytes × LoadedDocument)} {range : ByteRange}
    {pdfBytes : Bytes} (hloads : (documents.lookup pdfBytes).isSome = true) :
    ∃ doc : ReadDocument plainJvm strictGeneralSafeObjects (tableLoader documents range),
      doc.pdfBytes = pdfBytes ∧ doc.signatures = [pageSignature range] := by
  obtain ⟨ctx, hdoc⟩ := tableLoader_read hloads
  exact ⟨⟨pdfBytes, _, ctx, tableLoader_signatures hloads, hdoc⟩, rfl, rfl⟩

/-- The signed page, read. -/
def signedRead :
    ReadDocument plainJvm strictGeneralSafeObjects (tableLoader updatedDocuments wholeRange) where
  pdfBytes := signedBytes wholeLine
  signatures := [pageSignature wholeRange]
  context := oneRevisionContext wholeLine wholeRange
  signatures_eq := tableLoader_signatures (Option.isSome_of_eq_some lookup_updatedDocuments)
  context_eq := signedBytes_context List.mem_cons_self rfl lookup_updatedDocuments

theorem signedRead_located :
    signedRead.context.getSignatureRevisionIndex (pageSignature wholeRange) = .ok (some 0) := rfl

/-- The revision of the signature is the first one of the updated document. -/
theorem revisions_prefix_signed :
    ∃ ctx', DefaultPDFSignatureContext.ofDocument plainJvm strictGeneralSafeObjects
        (tableLoader updatedDocuments wholeRange) (signedBytes wholeLine ++ plainUpdate) =
          .ok ctx' ∧
      signedRead.context.pdfDocRevisions <+: ctx'.pdfDocRevisions := by
  obtain ⟨ctx', hdoc'⟩ := tableLoader_read updatedDocuments_read.1
  refine ⟨ctx', hdoc', ?_⟩
  exact (revisions_prefix_iff signedRead.context_eq hdoc' signedRead.signatures_eq
    (tableLoader_signatures updatedDocuments_read.1)).mpr (update_keeps plainUpdate_ends)

/-- Two updates, and the signature covers what it covered. -/
theorem updates_keep_signed :
    ∃ doc' : ReadDocument plainJvm strictGeneralSafeObjects
        (tableLoader updatedDocuments wholeRange),
      doc'.pdfBytes = signedBytes wholeLine ++ plainUpdate ++ laterUpdate ∧
      Run Updated signedRead doc' ∧
      doc'.context.getSignatureRevisionIndex (pageSignature wholeRange) = .ok (some 0) ∧
      doc'.context.getSignedDocument (pageSignature wholeRange) =
        signedRead.context.getSignedDocument (pageSignature wholeRange) := by
  obtain ⟨once, honce, hsignatures⟩ := exists_readDocument updatedDocuments_read.1
  obtain ⟨twice, htwice, hsignatures'⟩ := exists_readDocument updatedDocuments_read.2
  have hfirst : Updated signedRead once := by
    refine ⟨plainUpdate, honce, ?_⟩
    rw [hsignatures]
    exact update_keeps plainUpdate_ends
  have hsecond : Updated once twice := by
    refine ⟨laterUpdate, by rw [htwice, honce], ?_⟩
    rw [hsignatures, hsignatures', honce]
    exact update_keeps laterUpdate_ends
  have hrun : Run Updated signedRead twice := (Relation.ReflTransGen.single hfirst).tail hsecond
  have hverdicts := updates_keep_verdicts hrun signedRead_located
  exact ⟨twice, htwice, hrun, hverdicts.1, hverdicts.2.1⟩

end Documents

end SigVal.Pdf
