import Mathlib.Algebra.Group.Int.Defs
import Mathlib.Algebra.Group.Nat.Defs
import Mathlib.Data.Int.Init
import Mathlib.Data.List.Basic
import Mathlib.Data.List.Forall2
import Mathlib.Data.List.Zip

/-!
# Java values and outcomes

What every translated method shares: an outcome that is a value or a thrown
exception, the two's complement integers of the language, dates, and the
case-insensitive string comparison of `java.lang.String`.

Nothing here belongs to one program. A `null` reference is `none`, and a
method that dereferences one throws `Exn.nullPointer`.
-/

namespace SigVal.Java

/-! ## Outcomes -/

/-- The exception classes a `catch` clause or an `instanceof` test can tell
apart. -/
inductive ExnClass where
  | io
  | runtime
  | illegalArgument
  | nullPointer
  | classCast
  | indexOutOfBounds
  | noSuchElement
  | noSuchAlgorithm
  | parse
  | signature
  | xmlSignature
  | certPathBuilder
  | certPathValidator
  | ocsp
  | security
  | concurrentModification
deriving DecidableEq, Repr

/-- A thrown exception: its class and its message. -/
structure Exn where
  cls : ExnClass
  msg : String
deriving DecidableEq, Repr

/-- The result of calling a method: it returns, or it throws. -/
abbrev Outcome (α : Type) := Except Exn α

def Exn.nullPointer : Exn := ⟨.nullPointer, "null"⟩
def Exn.classCast : Exn := ⟨.classCast, "class cast"⟩
def Exn.indexOutOfBounds : Exn := ⟨.indexOutOfBounds, "index out of bounds"⟩
def Exn.concurrentModification : Exn := ⟨.concurrentModification, "null"⟩

/-- Dereferencing a reference that may be `null`. -/
def deref {α : Type} : Option α → Outcome α
  | some a => .ok a
  | none => .error Exn.nullPointer

/-- `a[i]` on a Java array. -/
def arrayGet {α : Type} (xs : List α) (i : Nat) : Outcome α :=
  match xs[i]? with
  | some a => .ok a
  | none => .error Exn.indexOutOfBounds

/-- A body whose exceptions are all caught and rethrown as one. -/
def rethrowAs {α : Type} (cls : ExnClass) (msg : String) : Outcome α → Outcome α
  | .ok a => .ok a
  | .error _ => .error ⟨cls, msg⟩

@[simp] theorem rethrowAs_ok_iff {α : Type} {cls : ExnClass} {msg : String} {x : Outcome α}
    {a : α} : rethrowAs cls msg x = .ok a ↔ x = .ok a := by
  cases x <;> simp [rethrowAs]

theorem bind_ok_iff {α β : Type} {x : Outcome α} {f : α → Outcome β} {b : β} :
    (x >>= f) = .ok b ↔ ∃ a, x = .ok a ∧ f a = .ok b := by
  cases x with
  | error e => simp [bind, Except.bind]
  | ok a => simp [bind, Except.bind]

@[simp] theorem deref_ok_iff {α : Type} {o : Option α} {a : α} :
    deref o = .ok a ↔ o = some a := by
  cases o <;> simp [deref]

@[simp] theorem arrayGet_ok_iff {α : Type} {xs : List α} {i : Nat} {a : α} :
    arrayGet xs i = .ok a ↔ xs[i]? = some a := by
  unfold arrayGet
  cases xs[i]? <;> simp

/-- A sequence of calls returns when each call does. -/
theorem exists_bind_ok_iff {α β : Type} {x : Outcome α} {f : α → Outcome β} :
    (∃ b, (x >>= f) = .ok b) ↔ ∃ a, x = .ok a ∧ ∃ b, f a = .ok b := by
  cases x with
  | error e => simp [bind, Except.bind]
  | ok a => simp [bind, Except.bind]

@[simp] theorem exists_pure_ok {α : Type} (a : α) : ∃ b, (pure a : Outcome α) = .ok b := ⟨a, rfl⟩

/-- A `map` over a stream throws what its function throws. -/
theorem exists_mapM_ok_iff {α β : Type} {f : α → Outcome β} {l : List α} :
    (∃ bs, l.mapM f = .ok bs) ↔ ∀ a ∈ l, ∃ b, f a = .ok b := by
  induction l with
  | nil => simp [pure, Except.pure]
  | cons a rest ih =>
      rw [List.forall_mem_cons, ← ih]
      simp only [List.mapM_cons, bind_ok_iff]
      constructor
      · rintro ⟨_, b, hb, bs, hbs, -⟩
        exact ⟨⟨b, hb⟩, bs, hbs⟩
      · rintro ⟨⟨b, hb⟩, bs, hbs⟩
        exact ⟨b :: bs, b, hb, bs, hbs, rfl⟩

theorem mapM_ok_cons {α β : Type} {f : α → Outcome β} {x : α} {xs : List α} {y : β} {ys : List β}
    (hx : f x = .ok y) (hxs : xs.mapM f = .ok ys) : (x :: xs).mapM f = .ok (y :: ys) := by
  rw [List.mapM_cons, hx, hxs]
  rfl

/-- The results of a `map` over a stream stand in the order of its elements. -/
theorem forall₂_of_mapM_ok {α β : Type} {f : α → Outcome β} {l : List α} :
    ∀ {bs : List β}, l.mapM f = .ok bs → List.Forall₂ (fun a b => f a = .ok b) l bs := by
  induction l with
  | nil =>
      intro bs h
      cases h
      exact .nil
  | cons a rest ih =>
      intro bs h
      rw [List.mapM_cons] at h
      obtain ⟨b, hb, h⟩ := bind_ok_iff.mp h
      obtain ⟨bs', hbs', h⟩ := bind_ok_iff.mp h
      cases h
      exact .cons hb (ih hbs')

/-- Each result of a `map` over a stream is the result for one of its elements. -/
theorem exists_of_mem_mapM {α β : Type} {f : α → Outcome β} {l : List α} {bs : List β}
    (h : l.mapM f = .ok bs) : ∀ b ∈ bs, ∃ a ∈ l, f a = .ok b := by
  have hall := forall₂_of_mapM_ok h
  clear h
  induction hall with
  | nil => simp
  | cons hab _ ih =>
      intro b hb
      rcases List.mem_cons.mp hb with rfl | hb
      · exact ⟨_, List.mem_cons_self, hab⟩
      · obtain ⟨a, ha, hfa⟩ := ih b hb
        exact ⟨a, List.mem_cons_of_mem _ ha, hfa⟩

/-- A `map` that dereferences throws on the first `null`. -/
theorem mapM_deref_ok_iff {α β : Type} {f : α → Option β} {l : List α} {bs : List β} :
    (l.mapM fun a => deref (f a)) = .ok bs ↔
      (∀ a ∈ l, ∃ b, f a = some b) ∧ bs = l.filterMap f := by
  induction l generalizing bs with
  | nil => simp [pure, Except.pure, eq_comm]
  | cons a rest ih =>
      simp only [List.mapM_cons, bind_ok_iff, deref_ok_iff, ih, List.forall_mem_cons,
        List.filterMap_cons]
      constructor
      · rintro ⟨b, hb, bs', ⟨hrest, rfl⟩, h⟩
        cases h
        rw [hb]
        exact ⟨⟨⟨b, rfl⟩, hrest⟩, rfl⟩
      · rintro ⟨⟨⟨b, hb⟩, hrest⟩, rfl⟩
        rw [hb]
        exact ⟨b, rfl, _, ⟨hrest, rfl⟩, rfl⟩

/-- Reading back what was written item by item. -/
theorem mapM_of_forall₂ {α β : Type} {f : β → Option α} {l : List α} {l' : List β}
    (h : List.Forall₂ (fun a b => f b = some a) l l') : l'.mapM f = some l := by
  induction h with
  | nil => rfl
  | cons hab _ ih =>
      rw [List.mapM_cons, hab, ih]
      rfl

/-- Two streams one after the other. -/
theorem forall₂_comp {α β γ : Type} {R : α → β → Prop} {Q : β → γ → Prop} {l : List α}
    {l' : List β} (h : List.Forall₂ R l l') :
    ∀ {l'' : List γ}, List.Forall₂ Q l' l'' →
      List.Forall₂ (fun a c => ∃ b, R a b ∧ Q b c) l l'' := by
  induction h with
  | nil =>
      intro l'' h'
      cases h'
      exact .nil
  | cons hhead _ ih =>
      intro l'' h'
      cases h' with
      | cons hhead' htail' => exact .cons ⟨_, hhead, hhead'⟩ (ih htail')

theorem filterMap_eq_of_forall₂ {α β γ : Type} {f : α → Option γ} {g : β → Option γ} {l : List α}
    {l' : List β} (h : List.Forall₂ (fun a b => g b = f a) l l') :
    l'.filterMap g = l.filterMap f := by
  induction h with
  | nil => rfl
  | cons hhead _ ih => rw [List.filterMap_cons, List.filterMap_cons, hhead, ih]

/-- Each element of the first list has its counterpart. -/
theorem forall₂_left {α β : Type} {R : α → β → Prop} {l : List α} {l' : List β}
    (h : List.Forall₂ R l l') : ∀ a ∈ l, ∃ b ∈ l', R a b := by
  induction h with
  | nil =>
      intro a ha
      cases ha
  | cons hhead _ ih =>
      intro a ha
      rcases List.mem_cons.mp ha with rfl | hmem
      · exact ⟨_, List.mem_cons_self, hhead⟩
      · obtain ⟨b, hb, hR⟩ := ih a hmem
        exact ⟨b, List.mem_cons_of_mem _ hb, hR⟩

/-- What holds of the second of two related items when something holds of each holds of all of
them when these hold throughout. -/
theorem forall₂_forall_iff {α β : Type} {R : α → β → Prop} {P S : β → Prop} {Q : α → Prop}
    (hR : ∀ a b, R a b → (P b ↔ S b ∧ Q a)) {l : List α} {l' : List β}
    (h : List.Forall₂ R l l') : (∀ b ∈ l', P b) ↔ (∀ a ∈ l, Q a) ∧ ∀ b ∈ l', S b := by
  induction h with
  | nil => simp
  | cons hfirst _ ih =>
      rw [List.forall_mem_cons, List.forall_mem_cons, List.forall_mem_cons, ih, hR _ _ hfirst]
      constructor
      · rintro ⟨⟨hs, hq⟩, hqs, hss⟩
        exact ⟨⟨hq, hqs⟩, hs, hss⟩
      · rintro ⟨⟨hq, hqs⟩, hs, hss⟩
        exact ⟨⟨hs, hq⟩, hqs, hss⟩

/-- The last element is matched by the last one. -/
theorem forall₂_concat {α β : Type} {R : α → β → Prop} {a : α} :
    ∀ {l : List α} {bs : List β}, List.Forall₂ R (l ++ [a]) bs →
      ∃ bs' b, bs = bs' ++ [b] ∧ List.Forall₂ R l bs' ∧ R a b := by
  intro l
  induction l with
  | nil =>
      intro bs h
      obtain ⟨b, rest, hb, hrest, rfl⟩ := List.forall₂_cons_left_iff.mp h
      cases hrest
      exact ⟨[], b, rfl, .nil, hb⟩
  | cons x rest ih =>
      intro bs h
      obtain ⟨y, ys, hxy, hys, rfl⟩ := List.forall₂_cons_left_iff.mp h
      obtain ⟨bs', b, rfl, hrest, hb⟩ := ih hys
      exact ⟨y :: bs', b, rfl, .cons hxy hrest, hb⟩

/-- Counterparts of elements that are known to be in the first list. -/
theorem forall₂_mem_left {α β : Type} {R : α → β → Prop} {l : List α} {l' : List β}
    (h : List.Forall₂ R l l') : List.Forall₂ (fun a b => a ∈ l ∧ R a b) l l' := by
  induction h with
  | nil => exact .nil
  | cons hhead _ ih =>
      refine .cons ⟨List.mem_cons_self, hhead⟩ (ih.imp ?_)
      rintro a b ⟨ha, hR⟩
      exact ⟨List.mem_cons_of_mem _ ha, hR⟩

/-- Elements that all come from `f` come from a list through `f`. -/
theorem exists_map_of_forall₂ {α β γ : Type} {R : α → β → Prop} {f : β → γ} {l : List α}
    {l' : List γ} (h : List.Forall₂ (fun a c => ∃ b, R a b ∧ c = f b) l l') :
    ∃ bs, List.Forall₂ R l bs ∧ l' = bs.map f := by
  induction h with
  | nil => exact ⟨[], .nil, rfl⟩
  | cons hhead _ ih =>
      obtain ⟨b, hb, rfl⟩ := hhead
      obtain ⟨bs, hbs, rfl⟩ := ih
      exact ⟨b :: bs, .cons hb hbs, rfl⟩

/-! ## Integers and dates -/

/-- The `int` a mathematical result wraps to. -/
def toInt (x : Int) : Int := Int.bmod x (2 ^ 32)

/-- The `long` a mathematical result wraps to. -/
def toLong (x : Int) : Int := Int.bmod x (2 ^ 64)

/-- `java.util.Date`: milliseconds since the epoch. -/
abbrev Date := Int

abbrev Bytes := List UInt8

/-! ## Strings -/

/-- The case mapping of the running JVM (`Character.toUpperCase` and
`Character.toLowerCase`), which follows the Unicode tables. -/
structure CaseTable where
  toUpperCase : Char → Char
  toLowerCase : Char → Char

/-- The mapping restricted to ASCII letters. -/
def asciiCase : CaseTable where
  toUpperCase := Char.toUpper
  toLowerCase := Char.toLower

/-- One character pair of `String.regionMatches` with `ignoreCase`. -/
def CaseTable.charEq (t : CaseTable) (c d : Char) : Bool :=
  c == d || t.toUpperCase c == t.toUpperCase d ||
    t.toLowerCase (t.toUpperCase c) == t.toLowerCase (t.toUpperCase d)

/-- `String.equalsIgnoreCase`. -/
def CaseTable.equalsIgnoreCase (t : CaseTable) (a b : String) : Bool :=
  a.toList.length == b.toList.length &&
    (a.toList.zip b.toList).all fun p => t.charEq p.1 p.2

@[simp] theorem CaseTable.charEq_self (t : CaseTable) (c : Char) : t.charEq c c = true := by
  simp [charEq]

@[simp] theorem CaseTable.equalsIgnoreCase_self (t : CaseTable) (a : String) :
    t.equalsIgnoreCase a a = true := by
  simp only [equalsIgnoreCase, beq_self_eq_true, Bool.true_and, List.all_eq_true]
  intro p hp
  rw [← List.map_id a.toList, List.zip_map', List.mem_map] at hp
  obtain ⟨c, _, rfl⟩ := hp
  exact t.charEq_self c

theorem CaseTable.charEq_comm (t : CaseTable) (c d : Char) : t.charEq c d = t.charEq d c := by
  simp only [charEq, Bool.beq_comm]

theorem CaseTable.equalsIgnoreCase_comm (t : CaseTable) (a b : String) :
    t.equalsIgnoreCase a b = t.equalsIgnoreCase b a := by
  unfold equalsIgnoreCase
  rw [← List.zip_swap b.toList a.toList, List.all_map, Bool.beq_comm]
  refine congrArg _ (congrArg _ (funext fun p => ?_))
  exact t.charEq_comm _ _

end SigVal.Java
