import Mathlib.Data.List.Sort
import SigVal.Lib.Chains
import SigVal.Pdf.RevisionEnds

/-!
# The backwards scan for revisions

`getRevision` looks for the last marker before the end of the revision it was given, less
the five bytes of a marker. That end may be one or two bytes behind the marker, so the
marker itself is cut off only in part, and the next one must not reach into what is left
of it. Markers do not overlap, and so the scan meets each of them once.
-/

namespace SigVal.Pdf

open SigVal.Java SigVal.Chains DefaultPDFSignatureContext

/-! ## One step of the scan -/

/-- What is searched: the whole document, or what lies before the prior revision. -/
def searchedLength (pdfBytes : Bytes) : Option RevisionCandidate → Nat
  | none => pdfBytes.length
  | some priorRevision => priorRevision.length - 5

def getRevision (pdfBytes : Bytes) (signatures : List PDSignature)
    (priorRevision : Option RevisionCandidate) : Outcome (Option RevisionCandidate) :=
  match lastIndexOfEoF pdfBytes (searchedLength pdfBytes priorRevision) with
  | none => .ok none
  | some i => do
      let revision ← revisionAt pdfBytes signatures i
      pure (some revision)

/-- The revision that the loop goes on with. -/
def lastRevision (pdfBytes : Bytes) (signatures : List PDSignature)
    (priorRevision : Option RevisionCandidate) : Option (Option RevisionCandidate) :=
  match getRevision pdfBytes signatures priorRevision with
  | .ok (some revision) => some (some revision)
  | _ => none

/-- The revisions that the loop still finds. -/
def scanFrom (pdfBytes : Bytes) (signatures : List PDSignature)
    (priorRevision : Option RevisionCandidate) : Outcome (List RevisionCandidate) :=
  revisionsBelow pdfBytes signatures (searchedLength pdfBytes priorRevision)

variable {pdfBytes : Bytes} {signatures : List PDSignature} {i j len : Nat}

/-- One turn of the loop. -/
theorem scanFrom_eq (priorRevision : Option RevisionCandidate) :
    scanFrom pdfBytes signatures priorRevision = (do
      match ← getRevision pdfBytes signatures priorRevision with
      | none => pure []
      | some revision =>
          let earlier ← scanFrom pdfBytes signatures (some revision)
          pure (revision :: earlier)) := by
  unfold getRevision scanFrom
  cases hlast : lastIndexOfEoF pdfBytes (searchedLength pdfBytes priorRevision) with
  | none => exact revisionsBelow_none hlast
  | some i =>
      rw [revisionsBelow_some hlast]
      dsimp only
      cases hrevision : revisionAt pdfBytes signatures i with
      | error e => rfl
      | ok revision =>
          rw [← revisionAt_length hrevision]
          rfl

/-! ## Every marker once -/

/-- The offsets of the markers of the document, from the first to the last. -/
def occurrences (pdfBytes : Bytes) : List Nat :=
  (List.range pdfBytes.length).filter fun i => MarkerAt pdfBytes i

/-- The markers that lie within the first bytes. -/
def occurrencesBelow (pdfBytes : Bytes) (len : Nat) : List Nat :=
  (occurrences pdfBytes).filter fun i => i + 5 ≤ len

theorem mem_occurrences : i ∈ occurrences pdfBytes ↔ MarkerAt pdfBytes i := by
  unfold occurrences
  rw [List.mem_filter, List.mem_range, decide_eq_true_iff]
  apply and_iff_right_of_imp
  intro hmarker
  have hlength := hmarker.length_le
  omega

theorem mem_occurrencesBelow :
    i ∈ occurrencesBelow pdfBytes len ↔ MarkerAt pdfBytes i ∧ i + 5 ≤ len := by
  unfold occurrencesBelow
  rw [List.mem_filter, mem_occurrences, decide_eq_true_iff]

theorem occurrences_increasing (pdfBytes : Bytes) : (occurrences pdfBytes).Pairwise (· < ·) :=
  List.pairwise_lt_range.filter _

theorem occurrencesBelow_increasing (pdfBytes : Bytes) (len : Nat) :
    (occurrencesBelow pdfBytes len).Pairwise (· < ·) :=
  (occurrences_increasing pdfBytes).filter _

theorem occurrencesBelow_length (pdfBytes : Bytes) :
    occurrencesBelow pdfBytes pdfBytes.length = occurrences pdfBytes :=
  List.filter_eq_self.mpr fun _ hi => decide_eq_true (mem_occurrences.mp hi).length_le

theorem occurrencesBelow_nil (h : lastIndexOfEoF pdfBytes len = none) :
    occurrencesBelow pdfBytes len = [] := by
  apply List.eq_nil_iff_forall_not_mem.mpr
  intro j hj
  obtain ⟨hmarker, hle⟩ := mem_occurrencesBelow.mp hj
  obtain ⟨i, hi, -⟩ := exists_lastIndexOfEoF hmarker hle
  rw [h] at hi
  cases hi

/-- What is left of a marker after the step is too short for another one to reach in. -/
theorem occurrencesBelow_last (h : lastIndexOfEoF pdfBytes len = some i) :
    occurrencesBelow pdfBytes len =
      occurrencesBelow pdfBytes (revisionLen pdfBytes i - 5) ++ [i] := by
  obtain ⟨hi, hlen⟩ := lastIndexOfEoF_spec h
  have hlow := le_revisionLen pdfBytes i
  have hhigh := revisionLen_lt pdfBytes i
  have hapart : ∀ j, MarkerAt pdfBytes j → j < i → j + 5 ≤ i := fun j hj hlt => hj.apart hi hlt
  have hlast : ∀ j ∈ occurrencesBelow pdfBytes len, j ≤ i := by
    intro j hj
    obtain ⟨hmarker, hle⟩ := mem_occurrencesBelow.mp hj
    obtain ⟨last, hfound, hjle⟩ := exists_lastIndexOfEoF hmarker hle
    rw [h] at hfound
    cases hfound
    exact hjle
  have hincreasing : (occurrencesBelow pdfBytes (revisionLen pdfBytes i - 5) ++ [i]).Pairwise
      (· < ·) := by
    refine List.pairwise_append.mpr
      ⟨occurrencesBelow_increasing _ _, List.pairwise_singleton _ _, ?_⟩
    intro j hj k hk
    rw [List.mem_singleton] at hk
    have hle := (mem_occurrencesBelow.mp hj).2
    omega
  apply (occurrencesBelow_increasing pdfBytes len).eq_of_mem_iff hincreasing
  intro j
  rw [List.mem_append, List.mem_singleton]
  constructor
  · intro hj
    have hmarker := (mem_occurrencesBelow.mp hj).1
    rcases Nat.lt_or_eq_of_le (hlast j hj) with hlt | heq
    · have hend := hapart j hmarker hlt
      exact .inl (mem_occurrencesBelow.mpr ⟨hmarker, by omega⟩)
    · exact .inr heq
  · rintro (hj | rfl)
    · obtain ⟨hmarker, hle⟩ := mem_occurrencesBelow.mp hj
      exact mem_occurrencesBelow.mpr ⟨hmarker, by omega⟩
    · exact mem_occurrencesBelow.mpr ⟨hi, hlen⟩

/-- Each marker is visited, the last one first. -/
theorem revisionsBelow_eq_mapM (len : Nat) :
    revisionsBelow pdfBytes signatures len =
      (occurrencesBelow pdfBytes len).reverse.mapM (revisionAt pdfBytes signatures) := by
  induction len using revisionsBelow.induct pdfBytes with
  | case1 len hnone =>
      rw [revisionsBelow_none hnone, occurrencesBelow_nil hnone]
      rfl
  | case2 len i hsome ih =>
      rw [revisionsBelow_some hsome, occurrencesBelow_last hsome, List.reverse_append,
        List.reverse_singleton, List.singleton_append, List.mapM_cons, ih]

/-- Each call of `getRevision` that finds a revision uses up a marker. -/
theorem endsWithin_lastRevision {n : Nat} :
    ∀ {priorRevision : Option RevisionCandidate},
      (occurrencesBelow pdfBytes (searchedLength pdfBytes priorRevision)).length < n →
        EndsWithin (lastRevision pdfBytes signatures) n priorRevision := by
  induction n with
  | zero => exact fun h => absurd h (Nat.not_lt_zero _)
  | succ n ih =>
      intro priorRevision h next hnext
      unfold lastRevision getRevision at hnext
      cases hlast : lastIndexOfEoF pdfBytes (searchedLength pdfBytes priorRevision) with
      | none =>
          rw [hlast] at hnext
          cases hnext
      | some i =>
          rw [hlast] at hnext
          dsimp only at hnext
          cases hrevision : revisionAt pdfBytes signatures i with
          | error e =>
              rw [hrevision] at hnext
              cases hnext
          | ok revision =>
              rw [hrevision] at hnext
              cases hnext
              apply ih
              rw [occurrencesBelow_last hlast, List.length_append, List.length_singleton] at h
              show (occurrencesBelow pdfBytes (revision.length - 5)).length < n
              rw [revisionAt_length hrevision]
              omega

/-! ## The lengths that are found -/

/-- The line break at the offset, a line feed or a carriage return before one. -/
def lineBreakLength (pdfBytes : Bytes) (i : Nat) : Nat :=
  if pdfBytes[i]? = some 0x0a then 1
  else if pdfBytes[i]? = some 0x0d ∧ pdfBytes[i + 1]? = some 0x0a then 2
  else 0

theorem revisionLen_eq (pdfBytes : Bytes) (i : Nat) :
    revisionLen pdfBytes i = i + 5 + lineBreakLength pdfBytes (i + 5) := by
  unfold revisionLen lineBreakLength
  split
  · rename_i hlf
    rw [if_pos hlf]
  · rename_i hcr hlf
    rw [if_neg (by rw [hcr]; decide), if_pos ⟨hcr, hlf⟩]
  · rename_i hlf hcrlf
    rw [if_neg hlf, if_neg fun h => hcrlf h.1 h.2]

/-- A later marker ends a longer revision. -/
theorem revisionLen_strictMono (hi : MarkerAt pdfBytes i) (hj : MarkerAt pdfBytes j)
    (hlt : i < j) : revisionLen pdfBytes i < revisionLen pdfBytes j := by
  have hapart := hi.apart hj hlt
  have hhigh := revisionLen_lt pdfBytes i
  have hlow := le_revisionLen pdfBytes j
  omega

/-- One candidate for each marker, from the last to the first. -/
structure ScansMarkers (pdfBytes : Bytes) (candidates : List RevisionCandidate) : Prop where
  lengths : candidates.map (·.length) =
    (occurrences pdfBytes).reverse.map fun p => p + 5 + lineBreakLength pdfBytes (p + 5)
  within : ∀ candidate ∈ candidates, candidate.length ≤ pdfBytes.length
  decreasing : (candidates.map (·.length)).Pairwise (· > ·)

theorem scanFrom_none :
    scanFrom pdfBytes signatures none =
      (occurrences pdfBytes).reverse.mapM (revisionAt pdfBytes signatures) := by
  unfold scanFrom searchedLength
  rw [revisionsBelow_eq_mapM, occurrencesBelow_length]

theorem scansMarkers {candidates : List RevisionCandidate}
    (h : scanFrom pdfBytes signatures none = .ok candidates) :
    ScansMarkers pdfBytes candidates := by
  have hvisits := forall₂_of_mapM_ok (scanFrom_none.symm.trans h)
  have hlengths : candidates.map (·.length) =
      (occurrences pdfBytes).reverse.map (revisionLen pdfBytes) := by
    rw [← List.forall₂_eq_eq_eq, List.forall₂_map_left_iff, List.forall₂_map_right_iff]
    exact hvisits.flip.imp fun _ _ hrevision => revisionAt_length hrevision
  refine ⟨?_, revisionsBelow_length_le _ h, ?_⟩
  · rw [hlengths]
    exact List.map_congr_left fun p _ => revisionLen_eq pdfBytes p
  · rw [hlengths, List.map_reverse, List.pairwise_reverse, List.pairwise_map]
    refine (occurrences_increasing pdfBytes).imp_of_mem fun hi hj hlt => ?_
    exact revisionLen_strictMono (mem_occurrences.mp hi) (mem_occurrences.mp hj) hlt

/-- Every signature of the document is asked for its range. -/
theorem revisionAt_reads {candidate : RevisionCandidate}
    (h : revisionAt pdfBytes signatures i = .ok candidate) :
    ∀ signature ∈ signatures, ∃ e, signedLength signature = .ok e := by
  unfold revisionAt at h
  dsimp only at h
  generalize (⟨revisionLen pdfBytes i, false, false⟩ : RevisionCandidate) = start at h
  induction signatures generalizing start with
  | nil =>
      intro signature hsignature
      cases hsignature
  | cons first rest ih =>
      rw [List.foldlM_cons] at h
      obtain ⟨next, hnext, h⟩ := bind_ok_iff.mp h
      obtain ⟨e, he, -⟩ := bind_ok_iff.mp hnext
      exact List.forall_mem_cons.mpr ⟨⟨e, he⟩, ih next h⟩

/-- The scan fails only over a signature whose range is incomplete, at the first marker. -/
theorem scanFrom_ok_iff :
    (∃ candidates, scanFrom pdfBytes signatures none = .ok candidates) ↔
      occurrences pdfBytes = [] ∨
        ∀ signature ∈ signatures, ∃ e, signedLength signature = .ok e := by
  rw [scanFrom_none, exists_mapM_ok_iff]
  constructor
  · intro hvisits
    apply or_iff_not_imp_left.mpr
    intro hne
    obtain ⟨p, hp⟩ := List.exists_mem_of_ne_nil _ hne
    obtain ⟨candidate, hcandidate⟩ := hvisits p (List.mem_reverse.mpr hp)
    exact revisionAt_reads hcandidate
  · rintro (hnil | hranges) p hp
    · rw [hnil] at hp
      cases hp
    · exact revisionAt_ok hranges p

/-! ## The revisions that are kept -/

/-- Lengths that increase from revision to revision, and name one revision each. -/
structure DistinctRevisions (revisions : List PDFDocRevision) : Prop where
  increasing : (revisions.map (·.length)).Pairwise (· < ·)
  unique : ∀ (idx idx' : Nat) (rev rev' : PDFDocRevision), revisions[idx]? = some rev →
    revisions[idx']? = some rev' → rev.length = rev'.length → idx = idx'

theorem distinctRevisions_of_increasing {revisions : List PDFDocRevision}
    (h : (revisions.map (·.length)).Pairwise (· < ·)) : DistinctRevisions revisions := by
  refine ⟨h, ?_⟩
  have hlt : ∀ {idx idx' : Nat} {rev rev' : PDFDocRevision}, revisions[idx]? = some rev →
      revisions[idx']? = some rev' → idx < idx' → rev.length < rev'.length := by
    intro idx idx' rev rev' hrev hrev' hidx
    obtain ⟨hbound, rfl⟩ := List.getElem?_eq_some_iff.mp hrev
    obtain ⟨hbound', rfl⟩ := List.getElem?_eq_some_iff.mp hrev'
    exact List.pairwise_iff_getElem.mp (List.pairwise_map.mp h) idx idx' hbound hbound' hidx
  intro idx idx' rev rev' hrev hrev' hsame
  rcases Nat.lt_trichotomy idx idx' with hless | heq | hgreater
  · have hshorter := hlt hrev hrev' hless
    omega
  · exact heq
  · have hshorter := hlt hrev' hrev hgreater
    omega

theorem consolidate_length {loader : PdfLoader} {candidate : RevisionCandidate}
    {rev : PDFDocRevision} (h : consolidate loader pdfBytes candidate = some rev) :
    rev.length = candidate.length := by
  obtain ⟨loaded, -, rfl⟩ := Option.map_eq_some_iff.mp h
  rfl

/-- A candidate that does not load leaves the lengths of the others in their order. -/
theorem lengths_sublist (loader : PdfLoader) (candidates : List RevisionCandidate) :
    ((candidates.filterMap (consolidate loader pdfBytes)).map (·.length)).Sublist
      (candidates.map fun candidate => (candidate.length : Int)) := by
  induction candidates with
  | nil => exact .slnil
  | cons candidate rest ih =>
      rw [List.filterMap_cons]
      cases hloaded : consolidate loader pdfBytes candidate with
      | none => exact ih.cons _
      | some rev =>
          dsimp only
          rw [List.map_cons, List.map_cons, consolidate_length hloaded]
          exact ih.cons_cons _

section Context

variable {jvm : Jvm} {safeObjectProvider : GeneralSafeObjects} {loader : PdfLoader}
  {ctx : DefaultPDFSignatureContext}

theorem ofDocument_distinct
    (hdoc : DefaultPDFSignatureContext.ofDocument jvm safeObjectProvider loader pdfBytes =
      .ok ctx) : DistinctRevisions ctx.pdfDocRevisions := by
  have hsorted := revisions_sorted hdoc
  apply distinctRevisions_of_increasing
  unfold DefaultPDFSignatureContext.ofDocument at hdoc
  obtain ⟨signatures, -, hdoc⟩ := bind_ok_iff.mp hdoc
  obtain ⟨candidates, hcandidates, hdoc⟩ := bind_ok_iff.mp hdoc
  cases hdoc
  have hcast : (candidates.map fun candidate => (candidate.length : Int)).Nodup := by
    have hdecreasing := (@scansMarkers pdfBytes signatures candidates hcandidates).decreasing
    rw [List.pairwise_map] at hdecreasing
    refine List.pairwise_map.mpr (hdecreasing.imp fun hgt => ?_)
    omega
  have hperm := (List.mergeSort_perm (candidates.filterMap (consolidate loader pdfBytes))
    fun a b => decide (a.length ≤ b.length)).map (·.length)
  have hnodup := hperm.nodup_iff.mpr (hcast.sublist (lengths_sublist loader candidates))
  dsimp only [DefaultPDFSignatureContext.ofRevisions] at hsorted ⊢
  rw [markRevisions_length] at hsorted ⊢
  exact (hsorted.and hnodup).imp fun h => lt_of_le_of_ne h.1 h.2

end Context

/-- **The scan for revisions.** For every document the scan ends after one call more than
there are markers, and visits each marker once, from the last to the first. It fails only
over a signature without a complete range. The candidates end with their markers and one
line break, within the document, and get shorter and shorter. The revisions that are kept
get longer from one to the next, so that a length names one of them. -/
theorem revision_scan (pdfBytes : Bytes) (signatures : List PDSignature) :
    EndsWithin (lastRevision pdfBytes signatures) ((occurrences pdfBytes).length + 1) none ∧
    scanFrom pdfBytes signatures none =
      (occurrences pdfBytes).reverse.mapM (revisionAt pdfBytes signatures) ∧
    ((∃ candidates, scanFrom pdfBytes signatures none = .ok candidates) ↔
      occurrences pdfBytes = [] ∨
        ∀ signature ∈ signatures, ∃ e, signedLength signature = .ok e) ∧
    (∀ candidates, scanFrom pdfBytes signatures none = .ok candidates →
      ScansMarkers pdfBytes candidates) ∧
    ∀ jvm safeObjectProvider loader ctx,
      DefaultPDFSignatureContext.ofDocument jvm safeObjectProvider loader pdfBytes = .ok ctx →
        DistinctRevisions ctx.pdfDocRevisions := by
  refine ⟨endsWithin_lastRevision ?_, scanFrom_none, scanFrom_ok_iff, fun _ h => scansMarkers h,
    fun _ _ _ _ hdoc => ofDocument_distinct hdoc⟩
  show (occurrencesBelow pdfBytes pdfBytes.length).length < _
  rw [occurrencesBelow_length]
  exact Nat.lt_succ_self _

/-- Two markers that touch, the first without a line break and the second with one. -/
example : (occurrences (EOF ++ EOF ++ [0x0d, 0x0a])).map
    (revisionLen (EOF ++ EOF ++ [0x0d, 0x0a])) = [5, 12] := by decide

end SigVal.Pdf
