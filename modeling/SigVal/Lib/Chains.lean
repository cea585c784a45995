import Mathlib.Data.List.Chain
import Mathlib.Data.Set.Finite.Basic
import Mathlib.Data.Fintype.Pigeonhole
import Mathlib.Logic.Relation
import Mathlib.Logic.Function.Iterate

/-!
# Following a partial function

A procedure that calls itself at most once follows a partial function `next` from
argument to argument. It returns when `next` is undefined somewhere along the way.
`EndsWithin` counts the calls, and `Endless` is the sequence of arguments of a
procedure that never returns. Over finitely many arguments such a sequence goes
around in a circle.
-/

namespace SigVal.Chains

variable {α : Type} {next : α → Option α}

/-- At most `n` calls are made from `a`. -/
def EndsWithin (next : α → Option α) : Nat → α → Prop
  | 0, _ => False
  | n + 1, a => ∀ b, next a = some b → EndsWithin next n b

/-- There is always a next call. -/
def Endless (next : α → Option α) (a : α) : Prop :=
  ∃ seq : Nat → α, seq 0 = a ∧ ∀ n, next (seq n) = some (seq (n + 1))

/-- `b` is what `a` calls. -/
def Calls (next : α → Option α) (a b : α) : Prop := next a = some b

theorem EndsWithin.not_endless {n : Nat} : ∀ {a : α}, EndsWithin next n a → ¬ Endless next a := by
  induction n with
  | zero => exact fun h _ => h
  | succ n ih =>
      rintro a h ⟨seq, rfl, hseq⟩
      exact ih (h _ (hseq 0)) ⟨fun k => seq (k + 1), rfl, fun k => hseq (k + 1)⟩

/-- Where no bound will do there is a next call, for which no bound will do. -/
theorem exists_next_of_unbounded {a : α} (h : ¬ ∃ n, EndsWithin next n a) :
    ∃ b, next a = some b ∧ ¬ ∃ n, EndsWithin next n b := by
  cases hnext : next a with
  | none =>
      refine absurd ⟨1, ?_⟩ h
      intro b hb
      rw [hnext] at hb
      cases hb
  | some b =>
      refine ⟨b, rfl, ?_⟩
      rintro ⟨n, hn⟩
      refine h ⟨n + 1, ?_⟩
      intro b' hb'
      rw [hnext] at hb'
      cases hb'
      exact hn

/-- The calls either end or go on for ever. -/
theorem endsWithin_iff_not_endless {a : α} :
    (∃ n, EndsWithin next n a) ↔ ¬ Endless next a := by
  constructor
  · rintro ⟨n, hn⟩
    exact hn.not_endless
  · intro hnot
    by_contra hunbounded
    -- follow `next` and never meet a bound
    have hinv : ∀ n, ¬ ∃ k, EndsWithin next k ((fun x => (next x).getD x)^[n] a) := by
      intro n
      induction n with
      | zero => exact hunbounded
      | succ n ih =>
          obtain ⟨b, hb, hunb⟩ := exists_next_of_unbounded ih
          rw [Function.iterate_succ_apply']
          simpa only [hb, Option.getD_some] using hunb
    refine hnot ⟨fun n => (fun x => (next x).getD x)^[n] a, rfl, ?_⟩
    intro n
    obtain ⟨b, hb, -⟩ := exists_next_of_unbounded (hinv n)
    simp only [Function.iterate_succ_apply', hb, Option.getD_some]

theorem EndsWithin.step {n : Nat} {a b : α} (h : EndsWithin next n a) (hcall : Calls next a b) :
    ∃ m < n, EndsWithin next m b := by
  cases n with
  | zero => exact h.elim
  | succ n => exact ⟨n, Nat.lt_succ_self n, h b hcall⟩

theorem EndsWithin.along {n : Nat} {a b : α} (h : EndsWithin next n a)
    (hpath : Relation.TransGen (Calls next) a b) : ∃ m < n, EndsWithin next m b := by
  induction hpath with
  | single hcall => exact h.step hcall
  | tail _ hcall ih =>
      obtain ⟨m, hm, hend⟩ := ih
      obtain ⟨k, hk, hend'⟩ := hend.step hcall
      exact ⟨k, hk.trans hm, hend'⟩

/-- What calls itself has no end. -/
theorem not_endsWithin_of_cycle {a : α} (hcycle : Relation.TransGen (Calls next) a a) :
    ∀ n, ¬ EndsWithin next n a := by
  intro n
  induction n using Nat.strong_induction_on with
  | _ n ih =>
      intro h
      obtain ⟨m, hm, hend⟩ := h.along hcycle
      exact ih m hm hend

theorem transGen_of_seq {seq : Nat → α} (hseq : ∀ n, next (seq n) = some (seq (n + 1))) (m : Nat) :
    ∀ k, Relation.TransGen (Calls next) (seq m) (seq (m + k + 1))
  | 0 => .single (hseq m)
  | k + 1 => .tail (transGen_of_seq hseq m k) (hseq (m + k + 1))

/-- Some argument on the way from `a` is met again. -/
def ComesBack (next : α → Option α) (a : α) : Prop :=
  ∃ b, Relation.ReflTransGen (Calls next) a b ∧ Relation.TransGen (Calls next) b b

theorem EndsWithin.not_comesBack {n : Nat} {a : α} (h : EndsWithin next n a) :
    ¬ ComesBack next a := by
  rintro ⟨b, hreach, hcycle⟩
  rcases Relation.reflTransGen_iff_eq_or_transGen.mp hreach with rfl | htrans
  · exact not_endsWithin_of_cycle hcycle n h
  · obtain ⟨m, -, hend⟩ := h.along htrans
    exact not_endsWithin_of_cycle hcycle m hend

/-- Over finitely many arguments, what never ends comes back to where it was. -/
theorem endless_iff_cycle {a : α}
    (hfinite : {b | Relation.ReflTransGen (Calls next) a b}.Finite) :
    Endless next a ↔ ComesBack next a := by
  constructor
  · rintro ⟨seq, rfl, hseq⟩
    have hreach : ∀ n, Relation.ReflTransGen (Calls next) (seq 0) (seq n) := by
      intro n
      induction n with
      | zero => exact .refl
      | succ n ih => exact ih.tail (hseq n)
    have : Finite {b | Relation.ReflTransGen (Calls next) (seq 0) b} := hfinite
    obtain ⟨m, n, hne, heq⟩ := Finite.exists_ne_map_eq_of_infinite
      fun n => (⟨seq n, hreach n⟩ : {b | Relation.ReflTransGen (Calls next) (seq 0) b})
    have hsame : seq m = seq n := congrArg Subtype.val heq
    rcases Nat.lt_or_gt_of_ne hne with hlt | hlt
    · obtain ⟨k, rfl⟩ := Nat.exists_eq_add_of_lt hlt
      exact ⟨seq m, hreach m, by simpa only [← hsame] using transGen_of_seq hseq m k⟩
    · obtain ⟨k, rfl⟩ := Nat.exists_eq_add_of_lt hlt
      exact ⟨seq n, hreach n, by simpa only [hsame] using transGen_of_seq hseq n k⟩
  · intro hback
    by_contra hnot
    obtain ⟨n, hend⟩ := endsWithin_iff_not_endless.mpr hnot
    exact hend.not_comesBack hback

/-- The arguments of successive calls differ where none is met again. -/
theorem nodup_of_isChain {a : α} {l : List α} (hback : ¬ ComesBack next a)
    (hchain : List.IsChain (Calls next) (a :: l)) : (a :: l).Nodup := by
  have hpairs : List.Pairwise (Relation.TransGen (Calls next)) (a :: l) := by
    rw [← List.isChain_iff_pairwise]
    exact hchain.imp fun _ _ h => .single h
  have hreach : ∀ b ∈ a :: l, Relation.ReflTransGen (Calls next) a b := by
    intro b hb
    rcases List.mem_cons.mp hb with rfl | hb
    · exact .refl
    · exact (List.rel_of_pairwise_cons hpairs hb).to_reflTransGen
  apply hpairs.imp_of_mem
  rintro b c hb hc hbc rfl
  exact hback ⟨b, hreach b hb, hbc⟩

end SigVal.Chains
