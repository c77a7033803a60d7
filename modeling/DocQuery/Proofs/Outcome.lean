import Mathlib.Data.List.Forall2

/-!
# Outcomes of computations that can fail

What a successful chain of computations says about its links, what a successful run over a list says
about its elements, and what the causes of a failure can be.
-/

namespace Except

variable {ε α β : Type}

theorem bind_eq_ok_iff {x : Except ε α} {f : α → Except ε β} {b : β} :
    (x >>= f) = .ok b ↔ ∃ a, x = .ok a ∧ f a = .ok b := by
  cases x <;> simp [bind, Except.bind]

theorem map_eq_ok_iff {x : Except ε α} {f : α → β} {b : β} :
    x.map f = .ok b ↔ ∃ a, x = .ok a ∧ f a = b := by
  cases x <;> simp [Except.map]

/-- A computation has one outcome. -/
theorem ok_unique {x : Except ε α} {a b : α} (first : x = .ok a) (second : x = .ok b) : a = b :=
  Except.ok.inj (first.symm.trans second)

/-- An outcome in front of a list of outcomes. -/
theorem bind_cons_eq_ok_iff {x : Except ε α} {xs : Except ε (List α)} {ys : List α} :
    (do let a ← x; let as ← xs; .ok (a :: as)) = .ok ys ↔
      ∃ a as, x = .ok a ∧ xs = .ok as ∧ ys = a :: as := by
  simp only [bind_eq_ok_iff, ok.injEq]
  constructor
  · rintro ⟨a, first, as, others, rfl⟩
    exact ⟨a, as, first, others, rfl⟩
  · rintro ⟨a, as, first, others, rfl⟩
    exact ⟨a, first, as, others, rfl⟩

@[simp] theorem isOk_ok (a : α) : (ok a : Except ε α).isOk = true := rfl

@[simp] theorem isOk_error (e : ε) : (error e : Except ε α).isOk = false := rfl

theorem exists_eq_ok_of_isOk {x : Except ε α} (h : x.isOk = true) : ∃ a, x = .ok a := by
  cases x with
  | error e => cases h
  | ok a => exact ⟨a, rfl⟩

/-- A computation that fails, if it does, for a cause of the given kind. -/
def FailsOnlyBy (kind : ε → Prop) (x : Except ε α) : Prop := ∀ e, x = .error e → kind e

namespace FailsOnlyBy

variable {kind : ε → Prop} {x : Except ε α}

theorem ok (a : α) : FailsOnlyBy kind (.ok a : Except ε α) := by
  rintro e ⟨⟩

theorem error {e : ε} (cause : kind e) : FailsOnlyBy kind (.error e : Except ε α) := by
  rintro _ ⟨⟩
  exact cause

theorem bind {f : α → Except ε β} (first : FailsOnlyBy kind x)
    (next : ∀ a, FailsOnlyBy kind (f a)) : FailsOnlyBy kind (x >>= f) := by
  cases x with
  | error e => exact .error (first e rfl)
  | ok a => exact next a

theorem map {f : α → β} (first : FailsOnlyBy kind x) : FailsOnlyBy kind (x.map f) := by
  cases x with
  | error e => exact .error (first e rfl)
  | ok a => exact .ok (f a)

/-- A run over a list fails only as its computations do. -/
theorem bind_cons {xs : Except ε (List α)} (first : FailsOnlyBy kind x)
    (others : FailsOnlyBy kind xs) :
    FailsOnlyBy kind (do let a ← x; let as ← xs; .ok (a :: as)) :=
  first.bind fun a => others.bind fun as => .ok (a :: as)

end FailsOnlyBy

/-- Two computations fail alike, or succeed with related results. -/
inductive Related (R : α → β → Prop) : Except ε α → Except ε β → Prop
  | ok {a : α} {b : β} (related : R a b) : Related R (.ok a) (.ok b)
  | error (e : ε) : Related R (.error e) (.error e)

namespace Related

variable {γ δ : Type} {R : α → β → Prop} {S : γ → δ → Prop} {x : Except ε α} {y : Except ε β}

theorem bind {f : α → Except ε γ} {g : β → Except ε δ} (first : Related R x y)
    (next : ∀ a b, R a b → Related S (f a) (g b)) : Related S (x >>= f) (y >>= g) := by
  cases first with
  | ok related => exact next _ _ related
  | error e => exact .error e

theorem map {f : α → γ} {g : β → δ} (first : Related R x y)
    (next : ∀ a b, R a b → S (f a) (g b)) : Related S (x.map f) (y.map g) := by
  cases first with
  | ok related => exact .ok (next _ _ related)
  | error e => exact .error e

theorem map_eq {f : α → γ} {g : β → γ} (first : Related R x y) (same : ∀ a b, R a b → f a = g b) :
    x.map f = y.map g := by
  cases first with
  | ok related => exact congrArg Except.ok (same _ _ related)
  | error e => rfl

/-- A computation is related to itself, if its result is. -/
theorem self {R : α → α → Prop} {x : Except ε α} (result : ∀ a, x = .ok a → R a a) :
    Related R x x := by
  cases x with
  | error e => exact .error e
  | ok a => exact .ok (result a rfl)

end Related

end Except

namespace List

variable {α β : Type} {r : α → β → Prop} {xs : List α} {ys : List β}

/-- A list has an image under a relation exactly if every element has one. -/
theorem exists_forall₂_iff : (∃ ys, Forall₂ r xs ys) ↔ ∀ x ∈ xs, ∃ y, r x y := by
  induction xs with
  | nil => simp
  | cons x xs ih =>
      simp only [forall₂_cons_left_iff, mem_cons, forall_eq_or_imp, ← ih]
      constructor
      · rintro ⟨_, y, ys, head, tail, rfl⟩
        exact ⟨⟨y, head⟩, ys, tail⟩
      · rintro ⟨⟨y, head⟩, ys, tail⟩
        exact ⟨y :: ys, y, ys, head, tail, rfl⟩

/-- Where a relation has one image at most, the images of a list all have a property exactly if each
element has an image with it. -/
theorem Forall₂.all_iff {q : β → Bool} (functional : ∀ x y z, r x y → r x z → y = z)
    (h : Forall₂ r xs ys) : ys.all q = true ↔ ∀ x ∈ xs, ∃ y, r x y ∧ q y = true := by
  induction h with
  | nil => simp
  | @cons x y xs ys head _ ih =>
      have image : (∃ z, r x z ∧ q z = true) ↔ q y = true :=
        ⟨fun ⟨z, rz, qz⟩ => functional x y z head rz ▸ qz, fun qy => ⟨y, head, qy⟩⟩
      simp [ih, image]

/-- Every image comes from an element. -/
theorem Forall₂.exists_of_mem_right (h : Forall₂ r xs ys) {y : β} (mem : y ∈ ys) :
    ∃ x ∈ xs, r x y := by
  induction h with
  | nil => cases mem
  | cons head _ ih =>
      rcases mem_cons.mp mem with rfl | mem
      · exact ⟨_, mem_cons_self, head⟩
      · obtain ⟨x, inXs, related⟩ := ih mem
        exact ⟨x, mem_cons_of_mem _ inXs, related⟩

/-- Element by element, two relations in a row. -/
theorem Forall₂.comp {γ : Type} {s : β → γ → Prop} {zs : List γ} (first : Forall₂ r xs ys)
    (second : Forall₂ s ys zs) : Forall₂ (fun x z => ∃ y, r x y ∧ s y z) xs zs := by
  induction first generalizing zs with
  | nil =>
      cases second
      exact .nil
  | cons head _ ih =>
      cases second with
      | cons head' tail' => exact .cons ⟨_, head, head'⟩ (ih tail')

end List
