import SigVal.Lib.Java

/-!
# Bodies that set fields and may throw

A Java method often fills in an object inside `try` and records in `catch` what
went wrong. What was set before the exception stays set, so the state outlives
the failure. `Mutating σ α` is such a body, and `wp` its weakest precondition
with one postcondition for a normal end and one for an exception.
-/

namespace SigVal.Java

/-- A body that sets fields of an object of class `σ` as it goes: when it
throws, what it has set so far stays set. -/
abbrev Mutating (σ α : Type) := ExceptT Exn (StateM σ) α

namespace Mutating

variable {σ α β : Type}

/-- A call that does not touch the object. -/
def call (x : Outcome α) : Mutating σ α := ExceptT.mk (pure x)

/-- `try { body } catch (Exception ex) { handler }`. -/
def tryCatch (body : Mutating σ Unit) (handler : Exn → σ → σ) (s : σ) : σ :=
  match body.run s with
  | (.ok (), t) => t
  | (.error ex, t) => handler ex t

/-- A `try` inside a body: the handler may return a value or throw on. -/
def catching (body : Mutating σ α) (handler : Exn → Mutating σ α) : Mutating σ α :=
  ExceptT.mk fun s =>
    match body.run s with
    | (.ok a, t) => (.ok a, t)
    | (.error ex, t) => (handler ex).run t

/-- A body that sets fields of a part of the object. -/
def zoom {τ : Type} (get : σ → τ) (set : σ → τ → σ) (body : Mutating τ α) : Mutating σ α :=
  ExceptT.mk fun s =>
    match body.run (get s) with
    | (r, t) => (r, set s t)

/-- From `s` the body ends normally in `Q` or throws in `E`. -/
def wp (body : Mutating σ α) (Q : α → σ → Prop) (E : Exn → σ → Prop) (s : σ) : Prop :=
  match body.run s with
  | (.ok a, t) => Q a t
  | (.error ex, t) => E ex t

variable {Q : α → σ → Prop} {E : Exn → σ → Prop} {s : σ}

@[simp] theorem wp_pure (a : α) : wp (pure a) Q E s ↔ Q a s := Iff.rfl

@[simp] theorem wp_throw (ex : Exn) : wp (throw ex) Q E s ↔ E ex s := Iff.rfl

@[simp] theorem wp_modify (f : σ → σ) {Q : PUnit → σ → Prop} :
    wp (modify f) Q E s ↔ Q PUnit.unit (f s) := Iff.rfl

@[simp] theorem wp_get {Q : σ → σ → Prop} : wp get Q E s ↔ Q s s := Iff.rfl

theorem wp_call (x : Outcome α) :
    wp (call x) Q E s ↔ (∀ a, x = .ok a → Q a s) ∧ ∀ ex, x = .error ex → E ex s := by
  cases x with
  | ok a =>
      show Q a s ↔ _
      simp
  | error ex =>
      show E ex s ↔ _
      simp

/-- A call inside a body that must not throw returns a value. -/
theorem wp_call_total (x : Outcome α) :
    wp (call x) Q (fun _ _ => False) s ↔ ∃ a, x = .ok a ∧ Q a s := by
  cases x with
  | ok a =>
      show Q a s ↔ _
      simp
  | error ex =>
      show False ↔ _
      simp

theorem run_bind (x : Mutating σ α) (f : α → Mutating σ β) (s : σ) :
    (x >>= f).run s =
      match x.run s with
      | (.ok a, t) => (f a).run t
      | (.error ex, t) => (.error ex, t) := by
  rw [ExceptT.run_bind]
  simp only [bind, StateT.bind]
  rcases x.run s with ⟨ex | a, t⟩
  · rfl
  · rfl

/-- Two bodies in sequence end normally when both do. -/
theorem run_bind_ok_iff {x : Mutating σ α} {f : α → Mutating σ β} {s u : σ} {b : β} :
    (x >>= f).run s = (.ok b, u) ↔
      ∃ a t, x.run s = (.ok a, t) ∧ (f a).run t = (.ok b, u) := by
  rw [run_bind]
  rcases x.run s with ⟨ex | a, t⟩
  · constructor
    · rintro ⟨⟩
    · rintro ⟨a, t', ⟨⟩, -⟩
  · constructor
    · intro h
      exact ⟨a, t, rfl, h⟩
    · rintro ⟨a', t', ⟨⟩, h⟩
      exact h

theorem exists_run_bind_ok_iff (x : Mutating σ α) (f : α → Mutating σ β) (s : σ) :
    (∃ b u, (x >>= f).run s = (.ok b, u)) ↔
      ∃ a t, x.run s = (.ok a, t) ∧ ∃ b u, (f a).run t = (.ok b, u) := by
  simp only [run_bind_ok_iff]
  constructor
  · rintro ⟨b, u, a, t, hx, hf⟩
    exact ⟨a, t, hx, b, u, hf⟩
  · rintro ⟨a, t, hx, b, u, hf⟩
    exact ⟨b, u, a, t, hx, hf⟩

theorem run_catching (body : Mutating σ α) (handler : Exn → Mutating σ α) (s : σ) :
    (catching body handler).run s =
      match body.run s with
      | (.ok a, t) => (.ok a, t)
      | (.error ex, t) => (handler ex).run t := rfl

@[simp] theorem run_call (x : Outcome α) (s : σ) : (call x : Mutating σ α).run s = (x, s) := rfl

@[simp] theorem run_modify (f : σ → σ) (s : σ) :
    (modify f : Mutating σ PUnit).run s = (.ok PUnit.unit, f s) := rfl

@[simp] theorem run_get (s : σ) : (get : Mutating σ σ).run s = (.ok s, s) := rfl

@[simp] theorem run_throw (ex : Exn) (s : σ) : (throw ex : Mutating σ α).run s = (.error ex, s) :=
  rfl

@[simp] theorem run_pure (a : α) (s : σ) : (pure a : Mutating σ α).run s = (.ok a, s) := rfl

theorem wp_bind (x : Mutating σ α) (f : α → Mutating σ β) {Q : β → σ → Prop} :
    wp (x >>= f) Q E s ↔ wp x (fun a t => wp (f a) Q E t) E s := by
  unfold wp
  rw [run_bind]
  rcases x.run s with ⟨ex | a, t⟩
  · rfl
  · rfl

/-- Consequence. -/
theorem wp_mono {body : Mutating σ α} {Q' : α → σ → Prop} {E' : Exn → σ → Prop}
    (h : wp body Q E s) (hQ : ∀ a t, Q a t → Q' a t) (hE : ∀ ex t, E ex t → E' ex t) :
    wp body Q' E' s := by
  unfold wp at h ⊢
  rcases hrun : body.run s with ⟨ex | a, t⟩
  · rw [hrun] at h
    exact hE ex t h
  · rw [hrun] at h
    exact hQ a t h

/-- What holds of every end holds of the end of the body. -/
theorem wp_of_forall {body : Mutating σ α} (hQ : ∀ a t, Q a t) (hE : ∀ ex t, E ex t) :
    wp body Q E s := by
  unfold wp
  rcases body.run s with ⟨ex | a, t⟩
  · exact hE ex t
  · exact hQ a t

theorem wp_iff_of_run_ok {body : Mutating σ α} {a : α} {t : σ} (hrun : body.run s = (.ok a, t)) :
    wp body Q E s ↔ Q a t := by
  unfold wp
  rw [hrun]

theorem wp_iff_of_run_error {body : Mutating σ α} {ex : Exn} {t : σ}
    (hrun : body.run s = (.error ex, t)) : wp body Q E s ↔ E ex t := by
  unfold wp
  rw [hrun]

/-- What holds of a run that ends normally. -/
theorem of_run_ok {body : Mutating σ α} {a : α} {t : σ} (h : wp body Q E s)
    (hrun : body.run s = (.ok a, t)) : Q a t := (wp_iff_of_run_ok hrun).mp h

/-- What holds of a run that throws. -/
theorem of_run_error {body : Mutating σ α} {ex : Exn} {t : σ} (h : wp body Q E s)
    (hrun : body.run s = (.error ex, t)) : E ex t := (wp_iff_of_run_error hrun).mp h

/-- A computation that never throws returns. -/
theorem run_of_wp_total {body : Mutating σ α} (h : wp body Q (fun _ _ => False) s) :
    ∃ a t, body.run s = (.ok a, t) ∧ Q a t := by
  rcases hrun : body.run s with ⟨ex | a, t⟩
  · rw [wp_iff_of_run_error hrun] at h
    exact h.elim
  · rw [wp_iff_of_run_ok hrun] at h
    exact ⟨a, t, rfl, h⟩

/-- What holds however the body ends holds of the state it leaves. -/
theorem final_of_wp {body : Mutating σ α} {P : σ → Prop}
    (h : wp body (fun _ t => P t) (fun _ t => P t) s) : P (body.run s).2 := by
  unfold wp at h
  rcases hrun : body.run s with ⟨ex | a, t⟩
  · rw [hrun] at h
    exact h
  · rw [hrun] at h
    exact h

theorem wp_catching (body : Mutating σ α) (handler : Exn → Mutating σ α) :
    wp (catching body handler) Q E s ↔ wp body Q (fun ex t => wp (handler ex) Q E t) s := by
  unfold wp
  rw [run_catching]
  rcases body.run s with ⟨ex | a, t⟩
  · rfl
  · rfl

theorem wp_zoom {τ : Type} (get : σ → τ) (set : σ → τ → σ) (body : Mutating τ α) :
    wp (zoom get set body) Q E s ↔
      wp body (fun a t => Q a (set s t)) (fun ex t => E ex (set s t)) (get s) := by
  unfold wp
  show (match (match body.run (get s) with | (r, t) => (r, set s t)) with
    | (.ok a, t) => Q a t
    | (.error ex, t) => E ex t) ↔ _
  rcases body.run (get s) with ⟨ex | a, t⟩
  · rfl
  · rfl

/-- A loop that maps a list: what each turn keeps holds after it, and the results
stand in the order of the list. -/
theorem wp_mapM {f : α → Mutating σ β} {R : α → β → Prop} {I : σ → Prop} {l : List α}
    (hstep : ∀ a ∈ l, ∀ t, I t → wp (f a) (fun b u => R a b ∧ I u) E t) :
    ∀ {s : σ}, I s → wp (l.mapM f) (fun bs u => List.Forall₂ R l bs ∧ I u) E s := by
  induction l with
  | nil =>
      intro s hinv
      rw [List.mapM_nil]
      exact ⟨.nil, hinv⟩
  | cons a rest ih =>
      intro s hinv
      rw [List.mapM_cons, wp_bind]
      refine wp_mono (hstep a List.mem_cons_self s hinv) ?_ (fun _ _ h => h)
      rintro b t ⟨hhead, hinv'⟩
      rw [wp_bind]
      refine wp_mono (ih (fun x hx => hstep x (List.mem_cons_of_mem _ hx)) hinv') ?_
        (fun _ _ h => h)
      rintro bs u ⟨htail, hinv''⟩
      exact ⟨.cons hhead htail, hinv''⟩

/-- A loop whose turns each work on a part of their own: at its end every part is as its
own turn made it. -/
theorem wp_mapM_separate {τ : Type} {f : α → Mutating σ β} {part : α → σ → τ}
    {R : α → β → τ → Prop} {I : σ → Prop} {l : List α} (hnodup : l.Nodup)
    (hturn : ∀ a ∈ l, ∀ t, I t → part a t = part a s →
      wp (f a) (fun b u => R a b (part a u) ∧ I u ∧ ∀ c ∈ l, c ≠ a → part c u = part c t) E t)
    (hstart : I s) :
    wp (l.mapM f) (fun bs u => List.Forall₂ (fun a b => R a b (part a u)) l bs ∧ I u) E s := by
  -- the parts still to come are as at the start, and the others stay as they are
  suffices h : ∀ rest, rest ⊆ l → rest.Nodup → ∀ t, I t → (∀ c ∈ rest, part c t = part c s) →
      wp (rest.mapM f) (fun bs u => List.Forall₂ (fun a b => R a b (part a u)) rest bs ∧ I u ∧
        ∀ c ∈ l, c ∉ rest → part c u = part c t) E t by
    refine wp_mono (h l (List.Subset.refl l) hnodup s hstart fun _ _ => rfl) ?_ fun _ _ he => he
    rintro bs u ⟨hall, hinv, -⟩
    exact ⟨hall, hinv⟩
  intro rest
  induction rest with
  | nil =>
      intro _ _ t hinv _
      rw [List.mapM_nil]
      exact ⟨.nil, hinv, fun _ _ _ => rfl⟩
  | cons a rest ih =>
      intro hsub hdistinct t hinv huntouched
      have hmem : a ∈ l := hsub List.mem_cons_self
      obtain ⟨hfresh, hdistinct'⟩ := List.nodup_cons.mp hdistinct
      rw [List.mapM_cons, wp_bind]
      refine wp_mono (hturn a hmem t hinv (huntouched a List.mem_cons_self)) ?_ fun _ _ he => he
      rintro b u ⟨hown, hinv', hframe⟩
      have huntouched' : ∀ c ∈ rest, part c u = part c s := by
        intro c hc
        have hne : c ≠ a := fun heq => hfresh (heq ▸ hc)
        rw [hframe c (hsub (List.mem_cons_of_mem a hc)) hne]
        exact huntouched c (List.mem_cons_of_mem a hc)
      rw [wp_bind]
      refine wp_mono (ih (fun c hc => hsub (List.mem_cons_of_mem a hc)) hdistinct' u hinv'
        huntouched') ?_ fun _ _ he => he
      rintro bs v ⟨hall, hinv'', hframe'⟩
      refine ⟨.cons ?_ hall, hinv'', ?_⟩
      · rw [hframe' a hmem hfresh]
        exact hown
      · intro c hc hout
        have hne : c ≠ a := fun heq => hout (heq ▸ List.mem_cons_self)
        rw [hframe' c hc fun hin => hout (List.mem_cons_of_mem a hin)]
        exact hframe c hc hne

/-- A `for` loop: what holds of the elements taken so far holds of all of them at the end. -/
theorem wp_forIn {f : α → PUnit → Mutating σ (ForInStep PUnit)} {I : List α → σ → Prop}
    {l : List α}
    (hstep : ∀ taken a rest, l = taken ++ a :: rest → ∀ t, I taken t →
      wp (f a PUnit.unit) (fun step u => step = .yield PUnit.unit ∧ I (taken ++ [a]) u) E t)
    (hstart : I [] s) : wp (forIn l PUnit.unit f) (fun _ u => I l u) E s := by
  suffices h : ∀ rest taken t, l = taken ++ rest → I taken t →
      wp (forIn rest PUnit.unit f) (fun _ u => I l u) E t by
    exact h l [] s rfl hstart
  intro rest
  induction rest with
  | nil =>
      intro taken t hl htaken
      rw [List.append_nil] at hl
      rw [List.forIn_nil, hl]
      exact htaken
  | cons a rest ih =>
      intro taken t hl htaken
      rw [List.forIn_cons, wp_bind]
      refine wp_mono (hstep taken a rest hl t htaken) ?_ (fun _ _ h => h)
      rintro _ u ⟨rfl, htaken'⟩
      exact ih (taken ++ [a]) u (by rw [hl, List.append_assoc, List.singleton_append]) htaken'

/-- What holds after the body, or after the handler, holds after the whole. -/
theorem tryCatch_of_wp {body : Mutating σ Unit} {handler : Exn → σ → σ} {P : σ → Prop}
    (h : wp body (fun _ t => P t) (fun ex t => P (handler ex t)) s) :
    P (tryCatch body handler s) := by
  unfold wp at h
  unfold tryCatch
  rcases hrun : body.run s with ⟨ex | a, t⟩
  · rw [hrun] at h
    exact h
  · rw [hrun] at h
    exact h

/-- What the handler destroys holds after the whole exactly when the body ends
normally with it. -/
theorem tryCatch_iff_wp {body : Mutating σ Unit} {handler : Exn → σ → σ} {P : σ → Prop}
    (hhandler : ∀ ex t, ¬ P (handler ex t)) :
    P (tryCatch body handler s) ↔ wp body (fun _ t => P t) (fun _ _ => False) s := by
  unfold wp tryCatch
  rcases body.run s with ⟨ex | a, t⟩
  · exact iff_of_false (hhandler ex t) id
  · rfl

/-! ## What a body leaves alone -/

/-- However the body ends, this part of the object is as it was. -/
def Keeps {τ : Type} (part : σ → τ) (body : Mutating σ α) : Prop :=
  ∀ s, part (body.run s).2 = part s

section Keeps

variable {τ : Type} {part : σ → τ}

/-- What is left alone is as before at every end. -/
theorem Keeps.wp {body : Mutating σ α} {Q : α → σ → Prop} {E : Exn → σ → Prop} {s : σ}
    (h : Keeps part body) (hbody : Mutating.wp body Q E s) :
    Mutating.wp body (fun a t => Q a t ∧ part t = part s) (fun ex t => E ex t ∧ part t = part s)
      s := by
  have hkept := h s
  unfold Mutating.wp at hbody ⊢
  rcases hrun : body.run s with ⟨ex | a, t⟩
  · rw [hrun] at hbody hkept
    exact ⟨hbody, hkept⟩
  · rw [hrun] at hbody hkept
    exact ⟨hbody, hkept⟩

theorem keeps_pure (a : α) : Keeps part (pure a : Mutating σ α) := fun _ => rfl

theorem keeps_call (x : Outcome α) : Keeps part (call x) := fun _ => rfl

theorem keeps_throw (ex : Exn) : Keeps part (throw ex : Mutating σ α) := fun _ => rfl

theorem keeps_modify {f : σ → σ} (h : ∀ s, part (f s) = part s) :
    Keeps part (modify f : Mutating σ PUnit) := h

theorem keeps_bind {x : Mutating σ α} {f : α → Mutating σ β} (hx : Keeps part x)
    (hf : ∀ a, Keeps part (f a)) : Keeps part (x >>= f) := by
  intro s
  have hfirst := hx s
  rw [run_bind]
  rcases hrun : x.run s with ⟨ex | a, t⟩
  · rw [hrun] at hfirst
    exact hfirst
  · rw [hrun] at hfirst
    exact (hf a t).trans hfirst

theorem keeps_forIn {l : List α} {f : α → β → Mutating σ (ForInStep β)}
    (hf : ∀ a b, Keeps part (f a b)) : ∀ b, Keeps part (forIn l b f) := by
  induction l with
  | nil =>
      intro b
      rw [List.forIn_nil]
      exact keeps_pure b
  | cons a rest ih =>
      intro b
      rw [List.forIn_cons]
      apply keeps_bind (hf a b)
      intro step
      cases step with
      | done b' => exact keeps_pure b'
      | yield b' => exact ih b'

theorem tryCatch_keeps (part : σ → τ) {body : Mutating σ Unit} {handler : Exn → σ → σ}
    (hbody : Keeps part body) (hhandler : ∀ ex s, part (handler ex s) = part s) (s : σ) :
    part (tryCatch body handler s) = part s := by
  have hrun := hbody s
  unfold tryCatch
  rcases hbody' : body.run s with ⟨ex | a, t⟩
  · rw [hbody'] at hrun
    exact (hhandler ex t).trans hrun
  · rw [hbody'] at hrun
    exact hrun

end Keeps

end Mutating

end SigVal.Java
