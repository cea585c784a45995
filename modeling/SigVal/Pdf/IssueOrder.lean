import SigVal.Pdf.SvtTimestamps

/-!
# The order of issue

The most recent token is found by sorting, for the tokens of XML and JOSE signatures by
their issue time and for those of PDF documents by the time of their timestamp. Both
comparators know two answers: before, when the first time is the later one, and after
otherwise. Of two tokens of the same time each comes after the other, which no sort has
to put up with. A token without issue time has no place in the order at all: the epoch
that is documented for it is returned only when the claims cannot be read.
-/

namespace SigVal.Pdf

open SigVal.Java SigVal.Commons SVAUtils PDFSVTValidator

/-! ## Tokens -/

/-- The issue time as it is documented, the epoch when it is not set. -/
def issueTime (jwt : SignedJWT) : Date := (getSVTIssueDate jwt).getD 0

/-- `getMostRecentJwt`, with the sort the library happens to have. -/
def getMostRecentJwtBy (library : LibrarySort) (signedJWTList : List SignedJWT) :
    Outcome (Option SignedJWT) :=
  if signedJWTList.isEmpty then .ok none
  else do
    let sorted ← library.sort compareSVTIssueDate signedJWTList
    pure sorted.head?

theorem getMostRecentJwt_eq (l : List SignedJWT) :
    getMostRecentJwt l = getMostRecentJwtBy insertionSort l := rfl

/-- A token of the list is returned, and none has a later issue time. -/
def SelectsMostRecent (library : LibrarySort) (l : List SignedJWT) : Prop :=
  ∃ jwt ∈ l, getMostRecentJwtBy library l = .ok (some jwt) ∧
    ∀ other ∈ l, issueTime other ≤ issueTime jwt

/-- Both tokens have an issue time, and not the same. -/
def IssuedApart (o1 o2 : SignedJWT) : Prop :=
  ∃ date1 date2, getSVTIssueDate o1 = some date1 ∧ getSVTIssueDate o2 = some date2 ∧
    date1 ≠ date2

theorem compareSVTIssueDate_ok_iff {o1 o2 : SignedJWT} {c : Int} :
    compareSVTIssueDate o1 o2 = .ok c ↔
      ∃ date1 date2, getSVTIssueDate o1 = some date1 ∧ getSVTIssueDate o2 = some date2 ∧
        c = if date1 > date2 then -1 else 1 := by
  unfold compareSVTIssueDate
  rw [bind_ok_iff]
  constructor
  · rintro ⟨date1, hdate1, h⟩
    obtain ⟨date2, hdate2, h⟩ := bind_ok_iff.mp h
    cases h
    exact ⟨date1, date2, deref_ok_iff.mp hdate1, deref_ok_iff.mp hdate2, rfl⟩
  · rintro ⟨date1, date2, hdate1, hdate2, rfl⟩
    exact ⟨date1, deref_ok_iff.mpr hdate1,
      bind_ok_iff.mpr ⟨date2, deref_ok_iff.mpr hdate2, rfl⟩⟩

/-- The answers mirror each other when one of two times is later. -/
theorem mirrors_compareSVTIssueDate_iff {o1 o2 : SignedJWT} :
    Mirrors compareSVTIssueDate o1 o2 ↔ IssuedApart o1 o2 := by
  constructor
  · rintro ⟨c, c', hc, hc', hsign⟩
    obtain ⟨date1, date2, hdate1, hdate2, rfl⟩ := compareSVTIssueDate_ok_iff.mp hc
    obtain ⟨date2', date1', hdate2', hdate1', rfl⟩ := compareSVTIssueDate_ok_iff.mp hc'
    rw [hdate1] at hdate1'
    rw [hdate2] at hdate2'
    cases hdate1'
    cases hdate2'
    refine ⟨date1, date2, hdate1, hdate2, ?_⟩
    rintro rfl
    simp at hsign
  · rintro ⟨date1, date2, hdate1, hdate2, hne⟩
    refine ⟨_, _, compareSVTIssueDate_ok_iff.mpr ⟨date1, date2, hdate1, hdate2, rfl⟩,
      compareSVTIssueDate_ok_iff.mpr ⟨date2, date1, hdate2, hdate1, rfl⟩, ?_⟩
    rcases Int.lt_or_gt_of_ne hne with hlt | hgt
    · rw [if_neg (Int.lt_asymm hlt), if_pos hlt]
      rfl
    · rw [if_pos hgt, if_neg (Int.lt_asymm hgt)]
      rfl

theorem compareSVTIssueDate_pos {o1 o2 : SignedJWT} {c : Int}
    (h : compareSVTIssueDate o1 o2 = .ok c) (hpos : 0 < c) :
    ∃ date1 date2, getSVTIssueDate o1 = some date1 ∧ getSVTIssueDate o2 = some date2 ∧
      date1 ≤ date2 := by
  obtain ⟨date1, date2, hdate1, hdate2, rfl⟩ := compareSVTIssueDate_ok_iff.mp h
  refine ⟨date1, date2, hdate1, hdate2, ?_⟩
  by_contra hlater
  rw [if_pos (Int.not_le.mp hlater)] at hpos
  cases hpos

theorem chains_compareSVTIssueDate (o1 o2 o3 : SignedJWT) :
    Chains compareSVTIssueDate o1 o2 o3 := by
  intro p q hp hq hppos hqpos
  obtain ⟨date1, date2, hdate1, hdate2, h12⟩ := compareSVTIssueDate_pos hp hppos
  obtain ⟨date2', date3, hdate2', hdate3, h23⟩ := compareSVTIssueDate_pos hq hqpos
  rw [hdate2] at hdate2'
  cases hdate2'
  refine ⟨_, compareSVTIssueDate_ok_iff.mpr ⟨date1, date3, hdate1, hdate3, rfl⟩, ?_⟩
  rw [if_neg (Int.not_lt.mpr (Int.le_trans h12 h23))]
  decide

theorem compareSVTIssueDate_ne_zero (o1 o2 : SignedJWT) :
    compareSVTIssueDate o1 o2 ≠ .ok 0 := by
  intro h
  obtain ⟨date1, date2, -, -, hzero⟩ := compareSVTIssueDate_ok_iff.mp h
  split at hzero
  · omega
  · omega

theorem keepsContract_iff (l : List SignedJWT) :
    KeepsContract compareSVTIssueDate l ↔ l.Pairwise IssuedApart := by
  constructor
  · intro hcontract
    exact hcontract.mirrors.imp mirrors_compareSVTIssueDate_iff.mp
  · intro hapart
    refine ⟨hapart.imp mirrors_compareSVTIssueDate_iff.mpr, ?_, ?_⟩
    · intro x _ y _ z _
      exact chains_compareSVTIssueDate x y z
    · intro x _ y _ hzero
      exact absurd hzero (compareSVTIssueDate_ne_zero x y)

/-- The head of a list in the order of the comparator has the latest issue time. -/
theorem issueTime_le_of_notAfter {o1 o2 : SignedJWT} (h : NotAfter compareSVTIssueDate o1 o2) :
    issueTime o2 ≤ issueTime o1 := by
  obtain ⟨c, hc, hle⟩ := h
  obtain ⟨date1, date2, hdate1, hdate2, rfl⟩ := compareSVTIssueDate_ok_iff.mp hc
  unfold issueTime
  rw [hdate1, hdate2, Option.getD_some, Option.getD_some]
  split at hle
  · rename_i hlater
    exact Int.le_of_lt hlater
  · cases hle

theorem selects_of_issuedApart (library : LibrarySort) {first : SignedJWT}
    {rest : List SignedJWT} (h : (first :: rest).Pairwise IssuedApart) :
    SelectsMostRecent library (first :: rest) := by
  obtain ⟨ys, hys, hperm, hsorted⟩ :=
    library.sorts compareSVTIssueDate (first :: rest) ((keepsContract_iff _).mpr h)
  cases ys with
  | nil => exact absurd hperm.length_eq (by simp)
  | cons jwt others =>
      refine ⟨jwt, hperm.mem_iff.mp List.mem_cons_self, ?_, ?_⟩
      · simp [getMostRecentJwtBy, hys, bind, Except.bind, pure, Except.pure]
      · intro other hother
        rcases List.mem_cons.mp (hperm.mem_iff.mpr hother) with rfl | hother
        · exact Int.le_refl _
        · exact issueTime_le_of_notAfter (List.rel_of_pairwise_cons hsorted hother)

/-- Whatever sort the library has: a list on which the contract is broken may be refused. -/
theorem selects_iff_issuedApart (first : SignedJWT) (rest : List SignedJWT) :
    (∀ library, SelectsMostRecent library (first :: rest)) ↔
      (first :: rest).Pairwise IssuedApart := by
  constructor
  · intro hselects
    by_contra hapart
    obtain ⟨jwt, -, hjwt, -⟩ := hselects refusingSort
    have hrefused : ¬ KeepsContract compareSVTIssueDate (first :: rest) :=
      mt (keepsContract_iff _).mp hapart
    simp [getMostRecentJwtBy, refusingSort, if_neg hrefused, bind, Except.bind] at hjwt
  · intro hapart library
    exact selects_of_issuedApart library hapart

/-! ### By insertion

A sort by insertion asks only whether one token precedes another. It copes with equal
times, and fails on a token without one. -/

/-- The token has an issue time. -/
def Issued (jwt : SignedJWT) : Prop := ∃ date, getSVTIssueDate jwt = some date

theorem insertWith_issued {jwt first : SignedJWT} {rest sorted : List SignedJWT}
    (h : insertWith compareSVTIssueDate jwt (first :: rest) = .ok sorted) :
    Issued jwt ∧ Issued first := by
  obtain ⟨c, hc, -⟩ := bind_ok_iff.mp h
  obtain ⟨date1, date2, hdate1, hdate2, -⟩ := compareSVTIssueDate_ok_iff.mp hc
  exact ⟨⟨date1, hdate1⟩, date2, hdate2⟩

/-- Every token that is placed next to another one was asked for its time. -/
theorem foldlM_insertWith_issued :
    ∀ {jwts acc sorted : List SignedJWT},
      jwts.foldlM (fun sorted jwt => insertWith compareSVTIssueDate jwt sorted) acc = .ok sorted →
      acc ≠ [] → ∀ jwt ∈ jwts, Issued jwt
  | [], _, _, _, _, jwt, hjwt => by cases hjwt
  | next :: jwts, acc, sorted, h, hacc, jwt, hjwt => by
      rw [List.foldlM_cons] at h
      obtain ⟨acc', hins, h⟩ := bind_ok_iff.mp h
      have hacc' : acc' ≠ [] := by
        rintro rfl
        exact absurd (insertWith_perm hins).length_eq (by simp)
      rcases List.mem_cons.mp hjwt with rfl | hjwt
      · cases acc with
        | nil => exact absurd rfl hacc
        | cons first rest => exact (insertWith_issued hins).1
      · exact foldlM_insertWith_issued h hacc' jwt hjwt

theorem sortWith_issued {first second : SignedJWT} {rest sorted : List SignedJWT}
    (h : sortWith compareSVTIssueDate (first :: second :: rest) = .ok sorted) :
    ∀ jwt ∈ first :: second :: rest, Issued jwt := by
  unfold sortWith at h
  rw [List.foldlM_cons] at h
  obtain ⟨acc, hacc, h⟩ := bind_ok_iff.mp h
  cases hacc
  have hlater : ∀ jwt ∈ second :: rest, Issued jwt := foldlM_insertWith_issued h (by simp)
  rw [List.foldlM_cons] at h
  obtain ⟨acc, hacc, -⟩ := bind_ok_iff.mp h
  intro jwt hjwt
  rcases List.mem_cons.mp hjwt with rfl | hjwt
  · exact (insertWith_issued hacc).2
  · exact hlater jwt hjwt

/-- On tokens with an issue time the comparator answers by it. -/
theorem answers_issueTime {l : List SignedJWT} (hissued : ∀ jwt ∈ l, Issued jwt) :
    Answers compareSVTIssueDate (fun o1 o2 => decide (issueTime o1 > issueTime o2))
      (· ∈ l) := by
  intro o1 h1 o2 h2
  obtain ⟨date1, hdate1⟩ := hissued o1 h1
  obtain ⟨date2, hdate2⟩ := hissued o2 h2
  refine ⟨_, compareSVTIssueDate_ok_iff.mpr ⟨date1, date2, hdate1, hdate2, rfl⟩, ?_⟩
  simp only [issueTime, hdate1, hdate2, Option.getD_some, decide_eq_true_eq]
  by_cases hlater : date1 > date2
  · simp [hlater]
  · simp [hlater]

theorem getMostRecentJwt_selects_iff (first : SignedJWT) (rest : List SignedJWT) :
    SelectsMostRecent insertionSort (first :: rest) ↔
      rest = [] ∨ ∀ jwt ∈ first :: rest, Issued jwt := by
  constructor
  · rintro ⟨jwt, -, hjwt, -⟩
    cases rest with
    | nil => exact .inl rfl
    | cons second rest =>
        obtain ⟨sorted, hsorted, -⟩ := bind_ok_iff.mp hjwt
        exact .inr (sortWith_issued hsorted)
  · rintro (rfl | hissued)
    · exact selects_of_issuedApart insertionSort (List.pairwise_singleton _ _)
    · obtain ⟨ys, hys, hhead⟩ := sortWith_head (answers_issueTime hissued)
      obtain ⟨jwt, hjwt⟩ : ∃ jwt, scan (fun o1 o2 => decide (issueTime o1 > issueTime o2))
          (first :: rest) = some jwt := ⟨_, rfl⟩
      refine ⟨jwt, scan_mem hjwt, ?_, ?_⟩
      · rw [hjwt] at hhead
        simp [getMostRecentJwtBy, insertionSort, hys, hhead, bind, Except.bind, pure, Except.pure]
      · intro other hother
        have hbest := scan_best ?_ ?_ hjwt other hother
        · simpa using hbest
        · intro a b _ _ hab
          rw [decide_eq_true_iff] at hab
          exact decide_eq_false (Int.lt_asymm hab)
        · intro a b c _ _ _ hab hbc
          rw [decide_eq_false_iff_not, Int.not_lt] at hab hbc
          exact decide_eq_false (Int.not_lt.mpr (Int.le_trans hab hbc))

/-! ## Timestamps -/

section Timestamps

variable {Cert : Type}

/-- Both timestamps are readable, and their times differ or one has none. -/
def StampedApart (o1 o2 : PDFSVTDocTimeStamp Cert) : Prop :=
  ∃ tstInfo1 tstInfo2, o1.tstInfo = some tstInfo1 ∧ o2.tstInfo = some tstInfo2 ∧
    (tstInfo1.genTime = none ∨ tstInfo2.genTime = none ∨ tstInfo1.genTime ≠ tstInfo2.genTime)

theorem compareGenTime_eq {o1 o2 : PDFSVTDocTimeStamp Cert} {tstInfo1 tstInfo2 : TSTInfo}
    (h1 : o1.tstInfo = some tstInfo1) (h2 : o2.tstInfo = some tstInfo2) :
    compareGenTime o1 o2 = .ok (match tstInfo1.genTime, tstInfo2.genTime with
      | some o1Date, some o2Date => if o1Date > o2Date then -1 else 1
      | _, _ => 0) := by
  unfold compareGenTime
  simp only [h1, h2, deref, bind, Except.bind]
  cases htime1 : tstInfo1.genTime with
  | none => rfl
  | some o1Date =>
      cases htime2 : tstInfo2.genTime with
      | none => rfl
      | some o2Date => rfl

theorem compareGenTime_loaded {o1 o2 : PDFSVTDocTimeStamp Cert} {c : Int}
    (h : compareGenTime o1 o2 = .ok c) : ∃ tstInfo1, o1.tstInfo = some tstInfo1 := by
  obtain ⟨tstInfo1, htst, -⟩ := bind_ok_iff.mp h
  exact ⟨tstInfo1, deref_ok_iff.mp htst⟩

theorem mirrors_compareGenTime_iff {o1 o2 : PDFSVTDocTimeStamp Cert} :
    Mirrors compareGenTime o1 o2 ↔ StampedApart o1 o2 := by
  constructor
  · rintro ⟨c, c', hc, hc', hsign⟩
    obtain ⟨tstInfo1, h1⟩ := compareGenTime_loaded hc
    obtain ⟨tstInfo2, h2⟩ := compareGenTime_loaded hc'
    refine ⟨tstInfo1, tstInfo2, h1, h2, ?_⟩
    by_contra hsame
    push Not at hsame
    obtain ⟨htime1, -, heq⟩ := hsame
    obtain ⟨date, hdate⟩ := Option.ne_none_iff_exists'.mp htime1
    rw [compareGenTime_eq h1 h2, ← heq, hdate] at hc
    rw [compareGenTime_eq h2 h1, ← heq, hdate] at hc'
    have hnot : ¬ date > date := Int.lt_irrefl date
    simp only [if_neg hnot, Except.ok.injEq] at hc hc'
    subst hc
    subst hc'
    cases hsign
  · rintro ⟨tstInfo1, tstInfo2, h1, h2, hapart⟩
    refine ⟨_, _, compareGenTime_eq h1 h2, compareGenTime_eq h2 h1, ?_⟩
    cases htime1 : tstInfo1.genTime with
    | none => cases tstInfo2.genTime <;> rfl
    | some date1 =>
        cases htime2 : tstInfo2.genTime with
        | none => rfl
        | some date2 =>
            have hne : date1 ≠ date2 := by
              rintro rfl
              rw [htime1, htime2] at hapart
              simp at hapart
            rcases Int.lt_or_gt_of_ne hne with hlt | hgt
            · simp only [if_neg (Int.lt_asymm hlt), gt_iff_lt, if_pos hlt]
              rfl
            · simp only [if_neg (Int.lt_asymm hgt), gt_iff_lt, if_pos hgt]
              rfl

theorem compareGenTime_pos {o1 o2 : PDFSVTDocTimeStamp Cert} {c : Int}
    (h : compareGenTime o1 o2 = .ok c) (hpos : 0 < c) :
    ∃ tstInfo1 tstInfo2 date1 date2, o1.tstInfo = some tstInfo1 ∧ o2.tstInfo = some tstInfo2 ∧
      tstInfo1.genTime = some date1 ∧ tstInfo2.genTime = some date2 ∧ date1 ≤ date2 := by
  obtain ⟨tstInfo1, htst1, h⟩ := bind_ok_iff.mp h
  cases htime1 : tstInfo1.genTime with
  | none =>
      rw [htime1] at h
      cases h
      cases hpos
  | some date1 =>
      rw [htime1] at h
      obtain ⟨tstInfo2, htst2, h⟩ := bind_ok_iff.mp h
      cases htime2 : tstInfo2.genTime with
      | none =>
          rw [htime2] at h
          cases h
          cases hpos
      | some date2 =>
          rw [htime2] at h
          cases h
          refine ⟨tstInfo1, tstInfo2, date1, date2, deref_ok_iff.mp htst1, deref_ok_iff.mp htst2,
            htime1, htime2, ?_⟩
          by_contra hlater
          rw [if_pos (Int.not_le.mp hlater)] at hpos
          cases hpos

theorem chains_compareGenTime (o1 o2 o3 : PDFSVTDocTimeStamp Cert) :
    Chains compareGenTime o1 o2 o3 := by
  intro p q hp hq hppos hqpos
  obtain ⟨tstInfo1, tstInfo2, date1, date2, h1, h2, htime1, htime2, h12⟩ :=
    compareGenTime_pos hp hppos
  obtain ⟨tstInfo2', tstInfo3, date2', date3, h2', h3, htime2', htime3, h23⟩ :=
    compareGenTime_pos hq hqpos
  rw [h2] at h2'
  cases h2'
  rw [htime2] at htime2'
  cases htime2'
  refine ⟨_, compareGenTime_eq h1 h3, ?_⟩
  simp only [htime1, htime3]
  rw [if_neg (Int.not_lt.mpr (Int.le_trans h12 h23))]
  decide

/-- **The most recent token.** On a list that is not empty, whatever sort the library has,
the selection returns a token whose issue time is the latest exactly when any two tokens
of the list are issued apart. The comparators are transitive, and mirror their answers on
two tokens exactly when these are apart. -/
theorem most_recent_selection_iff (first : SignedJWT) (rest : List SignedJWT)
    (o1 o2 o3 : SignedJWT) (t1 t2 t3 : PDFSVTDocTimeStamp Cert) :
    ((∀ library, SelectsMostRecent library (first :: rest)) ↔
      (first :: rest).Pairwise IssuedApart) ∧
    (Mirrors compareSVTIssueDate o1 o2 ↔ IssuedApart o1 o2) ∧
    Chains compareSVTIssueDate o1 o2 o3 ∧
    (Mirrors compareGenTime t1 t2 ↔ StampedApart t1 t2) ∧
    Chains compareGenTime t1 t2 t3 :=
  ⟨selects_iff_issuedApart first rest, mirrors_compareSVTIssueDate_iff,
    chains_compareSVTIssueDate o1 o2 o3, mirrors_compareGenTime_iff,
    chains_compareGenTime t1 t2 t3⟩

/-- A token that was issued at the time, if at one. -/
def tokenIssuedAt (date : Option Date) : SignedJWT where
  header := ⟨"RS256", none, some [[1]]⟩
  claimsSet := some
    { issuer := none
      jwtID := none
      issueTime := date
      expirationTime := none
      sigValClaims := some ⟨some DigestAlgorithm.idSHA256, some []⟩ }
  signingInput := [7]
  signature := [9]

/-- A timestamp of the time, over an SVT. -/
def stampedAt (date : Date) : PDFSVTDocTimeStamp Unit where
  toTimeStamp := { tstInfo := some ⟨"1", some date, "", [], some "t"⟩ }
  documentTimestampSig := ⟨[0, 10, 20, 10], none⟩
  signedJWT := tokenIssuedAt none
  svtClaims := ⟨none, none⟩

/-- A token without issue time makes the selection throw, and two tokens of one time come
after each other. -/
theorem undated_token_fails :
    getMostRecentJwt [tokenIssuedAt (some 1000), tokenIssuedAt none] = .error Exn.nullPointer ∧
      ¬ Mirrors compareSVTIssueDate (tokenIssuedAt (some 1000)) (tokenIssuedAt (some 1000)) ∧
      ¬ Mirrors compareGenTime (stampedAt 1000) (stampedAt 1000) := by
  refine ⟨rfl, ?_, ?_⟩
  · rintro ⟨c, c', hc, hc', hsign⟩
    cases hc
    cases hc'
    cases hsign
  · rintro ⟨c, c', hc, hc', hsign⟩
    cases hc
    cases hc'
    cases hsign

end Timestamps

end SigVal.Pdf
