import SigVal.Lib.Java
import Mathlib.Data.List.Induction
import Mathlib.Data.List.Perm.Basic
import Mathlib.Data.List.Rotate
import Mathlib.Order.Lattice

/-!
# Sorting with a comparator that may throw

`Collections.sort` and `Stream.sorted` order a list with a `Comparator`. The
sort is stable, and the comparator is asked at least once about every element
of a list of two or more, so a comparator that throws on an element makes the
sort throw.

`sortWith` places each element of the list, from left to right, before the
first already placed element the comparator says it precedes. This is how the
library sorts a short list. A longer one is cut into runs that are merged, with
the same result when the comparator keeps its contract; `LibrarySort` below says
what may be relied on otherwise. Definitions are run with `sortWith`, and what depends
on the sort is stated for every `LibrarySort`, of which `sortWith` is one.
-/

namespace SigVal.Java

variable {α β : Type}

/-- Place `x` before the first element of the sorted `ys` it compares below. -/
def insertWith (cmp : α → α → Outcome Int) (x : α) : List α → Outcome (List α)
  | [] => .ok [x]
  | y :: ys => do
      let c ← cmp x y
      if c < 0 then pure (x :: y :: ys)
      else
        let rest ← insertWith cmp x ys
        pure (y :: rest)

/-- `List.sort(cmp)`. -/
def sortWith (cmp : α → α → Outcome Int) (xs : List α) : Outcome (List α) :=
  xs.foldlM (fun sorted x => insertWith cmp x sorted) []

theorem insertWith_perm {cmp : α → α → Outcome Int} {x : α} :
    ∀ {ys zs : List α}, insertWith cmp x ys = .ok zs → zs.Perm (x :: ys)
  | [], zs, h => by
      have : zs = [x] := by simpa [insertWith, eq_comm] using h
      subst this
      exact List.Perm.refl _
  | y :: ys, zs, h => by
      simp only [insertWith] at h
      obtain ⟨c, _, h⟩ := bind_ok_iff.mp h
      by_cases hc : c < 0
      · rw [if_pos hc] at h
        cases h
        exact List.Perm.refl _
      · rw [if_neg hc] at h
        obtain ⟨rest, hrest, h⟩ := bind_ok_iff.mp h
        cases h
        exact ((insertWith_perm hrest).cons y).trans (List.Perm.swap x y ys)

theorem foldlM_insertWith_perm {cmp : α → α → Outcome Int} :
    ∀ {xs acc zs : List α},
      xs.foldlM (fun sorted x => insertWith cmp x sorted) acc = .ok zs →
        zs.Perm (acc ++ xs)
  | [], acc, zs, h => by
      cases h
      simp
  | x :: xs, acc, zs, h => by
      rw [List.foldlM_cons] at h
      obtain ⟨acc', hacc, h⟩ := bind_ok_iff.mp h
      have h1 := foldlM_insertWith_perm h
      have h2 : (acc' ++ xs).Perm ((x :: acc) ++ xs) :=
        (insertWith_perm hacc).append_right xs
      have h3 : ((x :: acc) ++ xs).Perm (acc ++ x :: xs) := List.perm_middle.symm
      exact h1.trans (h2.trans h3)

/-- The sort rearranges: it neither drops nor duplicates an element. -/
theorem sortWith_perm {cmp : α → α → Outcome Int} {xs zs : List α}
    (h : sortWith cmp xs = .ok zs) : zs.Perm xs := by
  simpa using foldlM_insertWith_perm h

theorem mem_sortWith {cmp : α → α → Outcome Int} {xs zs : List α} {a : α}
    (h : sortWith cmp xs = .ok zs) : a ∈ zs ↔ a ∈ xs :=
  (sortWith_perm h).mem_iff

/-! ## What comes first

The first element of the sorted list is found by one pass over the input: each
element is compared with the best one so far and replaces it when it precedes
it. -/

/-- The best element of a list, where a later one must be strictly better. -/
def scan (better : α → α → Bool) : List α → Option α
  | [] => none
  | x :: xs => some (xs.foldl (fun best y => if better y best then y else best) x)

/-- The comparator answers on the elements of `S`, and says `better` there. -/
def Answers (cmp : α → α → Outcome Int) (better : α → α → Bool) (S : α → Prop) : Prop :=
  ∀ a, S a → ∀ b, S b → ∃ c, cmp a b = .ok c ∧ (c < 0 ↔ better a b = true)

theorem insertWith_head {cmp : α → α → Outcome Int} {better : α → α → Bool} {S : α → Prop}
    (hcmp : Answers cmp better S) {x : α} (hx : S x) :
    ∀ {ys : List α}, (∀ y ∈ ys, S y) →
      ∃ zs, insertWith cmp x ys = .ok zs ∧
        zs.head? = some (match ys.head? with
          | none => x
          | some y => if better x y then x else y)
  | [], _ => ⟨[x], rfl, rfl⟩
  | y :: ys, hys => by
      obtain ⟨c, hc, hbetter⟩ := hcmp x hx y (hys y List.mem_cons_self)
      by_cases hneg : c < 0
      · refine ⟨x :: y :: ys, ?_, ?_⟩
        · simp [insertWith, hc, hneg, bind, Except.bind, pure, Except.pure]
        · simp [hbetter.mp hneg]
      · obtain ⟨rest, hrest, _⟩ :=
          insertWith_head hcmp hx fun y' hy' => hys y' (List.mem_cons_of_mem _ hy')
        refine ⟨y :: rest, ?_, ?_⟩
        · simp [insertWith, hc, hneg, hrest, bind, Except.bind, pure, Except.pure]
        · have hnot : ¬ better x y = true := fun h => hneg (hbetter.mpr h)
          simp [hnot]

theorem foldlM_insertWith_head {cmp : α → α → Outcome Int} {better : α → α → Bool}
    {S : α → Prop} (hcmp : Answers cmp better S) :
    ∀ {xs acc : List α} {best : α}, (∀ x ∈ xs, S x) → (∀ y ∈ acc, S y) →
      acc.head? = some best →
      ∃ zs, xs.foldlM (fun sorted x => insertWith cmp x sorted) acc = .ok zs ∧
        zs.head? = some (xs.foldl (fun best y => if better y best then y else best) best)
  | [], acc, _, _, _, hbest => ⟨acc, rfl, hbest⟩
  | x :: xs, acc, best, hxs, hacc, hbest => by
      have hx : S x := hxs x List.mem_cons_self
      obtain ⟨acc', hins, hhead⟩ := insertWith_head hcmp hx hacc
      rw [hbest] at hhead
      -- the elements placed so far are those of the input
      have hacc' : ∀ y ∈ acc', S y := by
        intro y hy
        rcases List.mem_cons.mp ((insertWith_perm hins).mem_iff.mp hy) with rfl | hy
        · exact hx
        · exact hacc y hy
      obtain ⟨zs, hzs, hfirst⟩ :=
        foldlM_insertWith_head hcmp (fun y hy => hxs y (List.mem_cons_of_mem _ hy)) hacc' hhead
      refine ⟨zs, ?_, hfirst⟩
      rw [List.foldlM_cons, hins]
      exact hzs

/-- A comparator that answers on the list sorts it, and the best element comes
first. -/
theorem sortWith_head {cmp : α → α → Outcome Int} {better : α → α → Bool} {xs : List α}
    (hcmp : Answers cmp better (· ∈ xs)) :
    ∃ ys, sortWith cmp xs = .ok ys ∧ ys.head? = scan better xs := by
  cases xs with
  | nil => exact ⟨[], rfl, rfl⟩
  | cons x xs =>
      have hfirst : insertWith cmp x [] = .ok [x] := rfl
      have hplaced : ∀ y ∈ [x], y ∈ x :: xs := by
        intro y hy
        rw [List.mem_singleton] at hy
        rw [hy]
        exact List.mem_cons_self
      obtain ⟨zs, hzs, hhead⟩ := foldlM_insertWith_head hcmp
        (fun y hy => List.mem_cons_of_mem _ hy) hplaced rfl
      refine ⟨zs, ?_, hhead⟩
      unfold sortWith
      rw [List.foldlM_cons, hfirst]
      exact hzs

theorem foldl_better_mem {better : α → α → Bool} (xs : List α) (best : α) :
    xs.foldl (fun best y => if better y best then y else best) best ∈ best :: xs := by
  induction xs generalizing best with
  | nil => exact List.mem_cons_self
  | cons y xs ih =>
      rw [List.foldl_cons]
      by_cases hy : better y best = true
      · rw [if_pos hy]
        exact List.mem_cons_of_mem _ (ih y)
      · rw [if_neg hy]
        rcases List.mem_cons.mp (ih best) with hbest | hmem
        · rw [hbest]
          exact List.mem_cons_self
        · exact List.mem_cons_of_mem _ (List.mem_cons_of_mem _ hmem)

theorem scan_mem {better : α → α → Bool} {xs : List α} {a : α} (h : scan better xs = some a) :
    a ∈ xs := by
  cases xs with
  | nil => cases h
  | cons x xs =>
      cases h
      exact foldl_better_mem xs x

/-- A map that keeps the comparison keeps the best element. -/
theorem scan_map {better : α → α → Bool} {better' : β → β → Bool} {f : α → β}
    (hf : ∀ a b, better' (f a) (f b) = better a b) (xs : List α) :
    scan better' (xs.map f) = (scan better xs).map f := by
  cases xs with
  | nil => rfl
  | cons x xs =>
      simp only [List.map_cons, scan, Option.map_some, Option.some.injEq]
      induction xs generalizing x with
      | nil => rfl
      | cons y xs ih =>
          simp only [List.map_cons, List.foldl_cons, hf]
          by_cases hy : better y x = true
          · simp only [if_pos hy]
            exact ih y
          · simp only [if_neg hy]
            exact ih x

/-- Where the comparison orders the elements of `S`, nothing is better than the
best. -/
theorem foldl_better_best {better : α → α → Bool} {S : α → Prop}
    (hasymm : ∀ a b, S a → S b → better a b = true → better b a = false)
    (htrans : ∀ a b c, S a → S b → S c → better a b = false → better b c = false →
      better a c = false) :
    ∀ {xs : List α} {best : α}, S best → (∀ x ∈ xs, S x) → ∀ y ∈ best :: xs,
      better y (xs.foldl (fun best y => if better y best then y else best) best) = false
  | [], best, hbest, _, y, hy => by
      rw [List.mem_singleton.mp hy]
      by_contra hself
      exact hself (hasymm best best hbest hbest (by simpa using hself))
  | x :: xs, best, hbest, hxs, y, hy => by
      have hx : S x := hxs x List.mem_cons_self
      have hrest : ∀ x' ∈ xs, S x' := fun x' hx' => hxs x' (List.mem_cons_of_mem _ hx')
      have hstays : ∀ b, S b →
          S (xs.foldl (fun best y => if better y best then y else best) b) := by
        intro b hb
        rcases List.mem_cons.mp (foldl_better_mem xs b) with hfinal | hfinal
        · rw [hfinal]
          exact hb
        · exact hrest _ hfinal
      rw [List.foldl_cons]
      by_cases hbetter : better x best = true
      · rw [if_pos hbetter]
        have ih := foldl_better_best hasymm htrans hx hrest
        rcases List.mem_cons.mp hy with rfl | hy
        · -- the old best is beaten by `x`, which the final one is not worse than
          exact htrans _ x _ hbest hx (hstays x hx) (hasymm x _ hx hbest hbetter)
            (ih x List.mem_cons_self)
        · exact ih y hy
      · rw [if_neg hbetter]
        have ih := foldl_better_best hasymm htrans hbest hrest
        rcases List.mem_cons.mp hy with rfl | hy
        · exact ih _ List.mem_cons_self
        · rcases List.mem_cons.mp hy with rfl | hy
          · exact htrans _ best _ hx hbest (hstays best hbest) (by simpa using hbetter)
              (ih best List.mem_cons_self)
          · exact ih y (List.mem_cons_of_mem _ hy)

theorem scan_best {better : α → α → Bool} {xs : List α} {a : α}
    (hasymm : ∀ a b, a ∈ xs → b ∈ xs → better a b = true → better b a = false)
    (htrans : ∀ a b c, a ∈ xs → b ∈ xs → c ∈ xs → better a b = false → better b c = false →
      better a c = false)
    (h : scan better xs = some a) : ∀ y ∈ xs, better y a = false := by
  cases xs with
  | nil => cases h
  | cons x xs =>
      cases h
      exact foldl_better_best hasymm htrans List.mem_cons_self
        fun y hy => List.mem_cons_of_mem _ hy

/-- By a key, the best element is the first of those with the greatest key. -/
theorem exists_split_of_scan {κ : Type} [LinearOrder κ] {key : α → κ} {xs : List α} :
    ∀ {a : α}, scan (fun x y => decide (key y < key x)) xs = some a →
      ∃ before after, xs = before ++ a :: after ∧ (∀ y ∈ before, key y < key a) ∧
        ∀ y ∈ after, key y ≤ key a := by
  induction xs using List.reverseRecOn with
  | nil =>
      intro a h
      cases h
  | append_singleton xs x ih =>
      intro a h
      cases xs with
      | nil =>
          cases h
          exact ⟨[], [], rfl, by simp, by simp⟩
      | cons first rest =>
          obtain ⟨best, hbest⟩ : ∃ best,
            scan (fun x y => decide (key y < key x)) (first :: rest) = some best := ⟨_, rfl⟩
          obtain ⟨before, after, hsplit, hbefore, hafter⟩ := ih hbest
          have hlast : a = if key best < key x then x else best := by
            simp only [scan, List.cons_append, List.foldl_append, List.foldl_cons,
              List.foldl_nil, Option.some.injEq, decide_eq_true_eq] at h hbest
            rw [hbest] at h
            exact h.symm
          split at hlast
          · rename_i hgreater
            subst hlast
            refine ⟨first :: rest, [], rfl, ?_, by simp⟩
            intro y hy
            rw [hsplit, List.mem_append, List.mem_cons] at hy
            rcases hy with hy | rfl | hy
            · exact (hbefore y hy).trans hgreater
            · exact hgreater
            · exact (hafter y hy).trans_lt hgreater
          · rename_i hnot
            subst hlast
            refine ⟨before, after ++ [x], ?_, hbefore, ?_⟩
            · rw [hsplit, List.append_assoc, List.cons_append]
            · intro y hy
              rcases List.mem_append.mp hy with hy | hy
              · exact hafter y hy
              · rw [List.mem_singleton.mp hy]
                exact not_lt.mp hnot

/-- There is one such element. -/
theorem split_unique {κ : Type} [LinearOrder κ] {key : α → κ} {a b : α}
    {before after before' after' : List α} (heq : before ++ a :: after = before' ++ b :: after')
    (hbefore : ∀ y ∈ before, key y < key a) (hafter : ∀ y ∈ after, key y ≤ key a)
    (hbefore' : ∀ y ∈ before', key y < key b) (hafter' : ∀ y ∈ after', key y ≤ key b) :
    a = b := by
  rcases List.append_eq_append_iff.mp heq with ⟨between, hfront, hback⟩ | ⟨between, hfront, hback⟩
  · cases between with
    | nil => exact (List.cons.inj hback).1
    | cons x between =>
        obtain ⟨rfl, rfl⟩ := List.cons.inj hback
        have hlt : key a < key b := hbefore' a (by rw [hfront]; simp)
        exact absurd hlt (not_lt.mpr (hafter b (by simp)))
  · cases between with
    | nil => exact (List.cons.inj hback).1.symm
    | cons x between =>
        obtain ⟨rfl, rfl⟩ := List.cons.inj hback
        have hlt : key b < key a := hbefore b (by rw [hfront]; simp)
        exact absurd hlt (not_lt.mpr (hafter' a (by simp)))

/-! ## The contract between comparator and sort

What the documentation asks of a comparator is asked here for the elements of the list
that is sorted, two at a time: a sort compares an element with others, not with itself. A
sort owes an answer only to a comparator that keeps the contract; it may refuse any other
one. -/

/-- The comparator answers on the two both ways, and the answers have opposite signs. -/
def Mirrors (cmp : α → α → Outcome Int) (a b : α) : Prop :=
  ∃ c c', cmp a b = .ok c ∧ cmp b a = .ok c' ∧ c.sign = -c'.sign

/-- What comes after the second, which comes after the third, comes after the third. -/
def Chains (cmp : α → α → Outcome Int) (x y z : α) : Prop :=
  ∀ p q, cmp x y = .ok p → cmp y z = .ok q → 0 < p → 0 < q → ∃ r, cmp x z = .ok r ∧ 0 < r

structure KeepsContract (cmp : α → α → Outcome Int) (xs : List α) : Prop where
  mirrors : xs.Pairwise (Mirrors cmp)
  chains : ∀ x ∈ xs, ∀ y ∈ xs, ∀ z ∈ xs, Chains cmp x y z
  ties : ∀ x ∈ xs, ∀ y ∈ xs, cmp x y = .ok 0 → ∀ z ∈ xs, ∀ p q, cmp x z = .ok p →
    cmp y z = .ok q → p.sign = q.sign

/-- The first may stand before the second. -/
def NotAfter (cmp : α → α → Outcome Int) (a b : α) : Prop := ∃ c, cmp a b = .ok c ∧ c ≤ 0

/-- A sort as the library documents it. -/
structure LibrarySort where
  sort : {α : Type} → (α → α → Outcome Int) → List α → Outcome (List α)
  sorts : ∀ {α : Type} (cmp : α → α → Outcome Int) (xs : List α), KeepsContract cmp xs →
    ∃ ys, sort cmp xs = .ok ys ∧ ys.Perm xs ∧ ys.Pairwise (NotAfter cmp)

/-- The result has the elements of the list, whatever the comparator answers. -/
def LibrarySort.Reorders (library : LibrarySort) : Prop :=
  ∀ {α : Type} (cmp : α → α → Outcome Int) (xs ys : List α), library.sort cmp xs = .ok ys →
    ys.Perm xs

theorem Mirrors.symm {cmp : α → α → Outcome Int} {a b : α} (h : Mirrors cmp a b) :
    Mirrors cmp b a := by
  obtain ⟨c, c', hab, hba, hsign⟩ := h
  exact ⟨c', c, hba, hab, by omega⟩

theorem Mirrors.answers {cmp : α → α → Outcome Int} {a b : α} (h : Mirrors cmp a b) :
    (∃ c, cmp a b = .ok c ∧ c < 0) ∧ (∃ c, cmp b a = .ok c ∧ 0 < c) ∨
      (∃ c, cmp a b = .ok c ∧ 0 ≤ c) ∧ NotAfter cmp b a := by
  obtain ⟨c, c', hab, hba, hsign⟩ := h
  by_cases hneg : c < 0
  · left
    rw [Int.sign_eq_neg_one_of_neg hneg] at hsign
    have hpos : 0 < c' := Int.pos_of_sign_eq_one (by omega)
    exact ⟨⟨c, hab, hneg⟩, c', hba, hpos⟩
  · right
    have hnonneg : 0 ≤ c := by omega
    have hsign' : 0 ≤ c.sign := Int.sign_nonneg_iff.mpr hnonneg
    have hle : c'.sign ≤ 0 := by omega
    exact ⟨⟨c, hab, hnonneg⟩, c', hba, Int.sign_nonpos_iff.mp hle⟩

section Contract

variable {cmp : α → α → Outcome Int}

/-- An element is placed before the first one it precedes. By transitivity it precedes
all that follow. -/
theorem insertWith_sorted {x : α} :
    ∀ {ys : List α}, (∀ y ∈ ys, Mirrors cmp x y) →
      (∀ y ∈ ys, ∀ z ∈ ys, Chains cmp y x z) → ys.Pairwise (NotAfter cmp) →
      ∃ zs, insertWith cmp x ys = .ok zs ∧ zs.Pairwise (NotAfter cmp)
  | [], _, _, _ => ⟨[x], rfl, List.pairwise_singleton _ _⟩
  | y :: ys, hmirrors, hchains, hsorted => by
      obtain ⟨hfirst, hrest⟩ := List.pairwise_cons.mp hsorted
      rcases (hmirrors y List.mem_cons_self).answers with
        ⟨⟨c, hc, hneg⟩, c', hc', hpos⟩ | ⟨⟨c, hc, hnonneg⟩, hafter⟩
      · refine ⟨x :: y :: ys, ?_, List.pairwise_cons.mpr ⟨?_, hsorted⟩⟩
        · simp [insertWith, hc, hneg, bind, Except.bind, pure, Except.pure]
        · intro z hz
          obtain ⟨d, d', hxz, -, -⟩ := hmirrors z hz
          refine ⟨d, hxz, ?_⟩
          rcases List.mem_cons.mp hz with rfl | hz'
          · rw [hc] at hxz
            cases hxz
            omega
          · by_contra hlater
            obtain ⟨e, he, hle⟩ := hfirst z hz'
            obtain ⟨r, hr, hpos'⟩ :=
              hchains y List.mem_cons_self z hz c' d hc' hxz hpos (by omega)
            rw [he] at hr
            cases hr
            omega
      · obtain ⟨zs, hzs, hsorted'⟩ := insertWith_sorted
          (fun z hz => hmirrors z (List.mem_cons_of_mem _ hz))
          (fun z hz z' hz' => hchains z (List.mem_cons_of_mem _ hz) z' (List.mem_cons_of_mem _ hz'))
          hrest
        have hstays : ¬ c < 0 := by omega
        refine ⟨y :: zs, ?_, List.pairwise_cons.mpr ⟨?_, hsorted'⟩⟩
        · simp [insertWith, hc, hstays, hzs, bind, Except.bind, pure, Except.pure]
        · intro z hz
          rcases List.mem_cons.mp ((insertWith_perm hzs).mem_iff.mp hz) with rfl | hz
          · exact hafter
          · exact hfirst z hz

theorem foldlM_insertWith_sorted :
    ∀ {xs acc : List α}, (acc ++ xs).Pairwise (Mirrors cmp) →
      (∀ x ∈ acc ++ xs, ∀ y ∈ acc ++ xs, ∀ z ∈ acc ++ xs, Chains cmp x y z) →
      acc.Pairwise (NotAfter cmp) →
      ∃ zs, xs.foldlM (fun sorted x => insertWith cmp x sorted) acc = .ok zs ∧
        zs.Pairwise (NotAfter cmp)
  | [], acc, _, _, hsorted => ⟨acc, rfl, hsorted⟩
  | x :: xs, acc, hmirrors, hchains, hsorted => by
      have hmid : (acc ++ x :: xs).Perm (x :: acc ++ xs) := List.perm_middle
      have hmirrors' : (x :: acc ++ xs).Pairwise (Mirrors cmp) :=
        (hmid.pairwise_iff Mirrors.symm).mp hmirrors
      have hx : x ∈ acc ++ x :: xs := by simp
      obtain ⟨acc', hins, hsorted'⟩ := @insertWith_sorted _ cmp x acc
        (fun y hy => List.rel_of_pairwise_cons hmirrors' (List.mem_append_left _ hy))
        (fun y hy z hz => hchains y (List.mem_append_left _ hy) x hx z (List.mem_append_left _ hz))
        hsorted
      have hperm : (acc' ++ xs).Perm (acc ++ x :: xs) :=
        ((insertWith_perm hins).append_right xs).trans hmid.symm
      obtain ⟨zs, hzs, hall⟩ := foldlM_insertWith_sorted
        ((hperm.pairwise_iff Mirrors.symm).mpr hmirrors)
        (fun a ha b hb c hc => hchains a (hperm.mem_iff.mp ha) b (hperm.mem_iff.mp hb) c
          (hperm.mem_iff.mp hc)) hsorted'
      refine ⟨zs, ?_, hall⟩
      rw [List.foldlM_cons, hins]
      exact hzs

end Contract

/-- Sorting by insertion is one such sort. -/
def insertionSort : LibrarySort where
  sort := sortWith
  sorts := by
    intro α cmp xs hcontract
    obtain ⟨ys, hys, hsorted⟩ :=
      @foldlM_insertWith_sorted _ cmp xs [] hcontract.mirrors hcontract.chains .nil
    exact ⟨ys, hys, sortWith_perm hys, hsorted⟩

open Classical in
/-- Another one refuses every comparator that breaks the contract on the list. -/
noncomputable def refusingSort : LibrarySort where
  sort cmp xs :=
    if KeepsContract cmp xs then sortWith cmp xs
    else .error ⟨.illegalArgument, "Comparison method violates its general contract!"⟩
  sorts := by
    intro α cmp xs hcontract
    rw [if_pos hcontract]
    exact insertionSort.sorts cmp xs hcontract

theorem insertionSort_reorders : insertionSort.Reorders := fun _ _ _ h => sortWith_perm h

open Classical in
/-- A third one leaves such a list as it is, but for the place where it begins. -/
noncomputable def rotatingSort (n : Nat) : LibrarySort where
  sort cmp xs := if KeepsContract cmp xs then sortWith cmp xs else .ok (xs.rotate n)
  sorts := by
    intro α cmp xs hcontract
    rw [if_pos hcontract]
    exact insertionSort.sorts cmp xs hcontract

theorem rotatingSort_reorders (n : Nat) : (rotatingSort n).Reorders := by
  intro α cmp xs ys h
  unfold rotatingSort at h
  dsimp only at h
  split at h
  · exact sortWith_perm h
  · cases h
    exact List.rotate_perm xs n

end SigVal.Java
