/-!
# Computations that may fail, one after the other

What is known of the parts of a computation that ended well, and of one that failed.  Checking a
tree, lowering a term and building a scope all run in `Except`, and all stop at the first error; so
from a good end follows a good end of every part, and from an error a good end of every part before
it.
-/

set_option autoImplicit false

namespace Except

variable {ε δ α β : Type}

/-- A sequence ends well if both parts do. -/
theorem bind_eq_ok_iff {x : Except ε α} {f : α → Except ε β} {b : β} :
    x >>= f = .ok b ↔ ∃ a, x = .ok a ∧ f a = .ok b := by
  cases x <;> simp [bind, Except.bind]

/-- A test that stops the computation has been passed if it ends well. -/
theorem if_throw_eq_ok_iff {c : Prop} [Decidable c] {e : ε} {k : α → Except ε β} {x : Except ε β}
    {b : β} : (if c then throw e >>= k else x) = .ok b ↔ ¬ c ∧ x = .ok b := by
  split
  next h =>
    constructor
    · rintro ⟨⟩
    · exact fun hx ↦ absurd h hx.1
  next h => exact ⟨fun hx ↦ ⟨h, hx⟩, And.right⟩

theorem mapError_eq_ok_iff {x : Except ε α} {f : ε → δ} {a : α} :
    x.mapError f = .ok a ↔ x = .ok a := by
  cases x with
  | error e => exact ⟨fun h ↦ (nomatch h), fun h ↦ (nomatch h)⟩
  | ok b =>
    constructor
    · rintro ⟨⟩
      rfl
    · rintro ⟨⟩
      rfl

theorem toOption_eq_some_iff {x : Except ε α} {a : α} : x.toOption = some a ↔ x = .ok a := by
  cases x <;> simp [Except.toOption]

/-- A computation that ends well, found by evaluation. -/
theorem exists_eq_ok {x : Except ε α} (h : x.toOption.isSome = true) : ∃ a, x = .ok a := by
  obtain ⟨a, ha⟩ := Option.isSome_iff_exists.1 h
  exact ⟨a, toOption_eq_some_iff.1 ha⟩

/-- What every step of a fold keeps, the whole fold keeps. -/
theorem foldlM_induction {step : α → β → Except ε α} {xs : List β} {P : α → Prop}
    (hstep : ∀ x ∈ xs, ∀ a b, P a → step a x = .ok b → P b) {a b : α} (ha : P a)
    (h : xs.foldlM step a = .ok b) : P b := by
  induction xs generalizing a with
  | nil =>
    cases h
    exact ha
  | cons x xs ih =>
    rw [List.foldlM_cons] at h
    obtain ⟨a', hx, hxs⟩ := bind_eq_ok_iff.1 h
    refine ih (fun y hy ↦ hstep y (List.mem_cons_of_mem _ hy)) ?_ hxs
    exact hstep x List.mem_cons_self a a' ha hx

/-- A fold is followed on part of what it holds, if each of its steps is. -/
theorem map_foldlM {σ : Type} {step : α → β → Except ε α} {step' : σ → β → Except ε σ}
    {P : α → Prop} (view : α → σ) (hmap : ∀ x a, P a → (step a x).map view = step' (view a) x)
    (hstep : ∀ x a b, P a → step a x = .ok b → P b) (xs : List β) {a : α} (ha : P a) :
    (xs.foldlM step a).map view = xs.foldlM step' (view a) := by
  induction xs generalizing a with
  | nil => rfl
  | cons x xs ih =>
    rw [List.foldlM_cons, List.foldlM_cons, ← hmap x a ha]
    cases hx : step a x with
    | error e => rfl
    | ok b => exact ih (hstep x a b ha hx)

/-- A sequence fails where one of its parts does. -/
theorem bind_eq_error_iff {x : Except ε α} {f : α → Except ε β} {e : ε} :
    x >>= f = .error e ↔ x = .error e ∨ ∃ a, x = .ok a ∧ f a = .error e := by
  cases x <;> simp [bind, Except.bind]

theorem mapError_eq_error_iff {x : Except ε α} {f : ε → δ} {d : δ} :
    x.mapError f = .error d ↔ ∃ e, x = .error e ∧ f e = d := by
  cases x with
  | error e =>
    constructor
    · rintro ⟨⟩
      exact ⟨e, rfl, rfl⟩
    · rintro ⟨_, ⟨⟩, rfl⟩
      rfl
  | ok a =>
    constructor
    · rintro ⟨⟩
    · rintro ⟨_, ⟨⟩, -⟩

theorem foldlM_concat_eq_ok_iff {step : α → β → Except ε α} {xs : List β} {x : β} {a c : α} :
    (xs ++ [x]).foldlM step a = .ok c ↔
      ∃ b, xs.foldlM step a = .ok b ∧ step b x = .ok c := by
  rw [List.foldlM_append, bind_eq_ok_iff]
  simp only [List.foldlM_cons, List.foldlM_nil, bind_pure]

/-- **A fold fails at a first step**, and all steps before it end well. -/
theorem foldlM_eq_error_iff {step : α → β → Except ε α} {xs : List β} {a : α} {e : ε} :
    xs.foldlM step a = .error e ↔ ∃ before x after b,
      xs = before ++ x :: after ∧ before.foldlM step a = .ok b ∧ step b x = .error e := by
  constructor
  · intro h
    induction xs generalizing a with
    | nil => cases h
    | cons x xs ih =>
      rw [List.foldlM_cons] at h
      rcases bind_eq_error_iff.1 h with hx | ⟨a', hx, hxs⟩
      · exact ⟨[], x, xs, a, rfl, rfl, hx⟩
      · obtain ⟨before, y, after, b, rfl, hbefore, hy⟩ := ih hxs
        refine ⟨x :: before, y, after, b, rfl, ?_, hy⟩
        rw [List.foldlM_cons]
        exact bind_eq_ok_iff.2 ⟨a', hx, hbefore⟩
  · rintro ⟨before, x, after, b, rfl, hbefore, hx⟩
    rw [List.foldlM_append, bind_eq_error_iff]
    refine .inr ⟨b, hbefore, ?_⟩
    rw [List.foldlM_cons, bind_eq_error_iff]
    exact .inl hx

/-! A fold that collects things looks at what it holds in one step after the other.  If what a step
adds does not depend on what was there, then neither the things collected nor the question whether
all goes well depends on the order of the steps. -/

section Collect

variable {γ : Type} {step : α → β → Except ε α} {P : α → Prop} {view : α → List γ}
  {adds : β → List γ}

/-- At the end a fold holds what it held before and what the steps added. -/
theorem mem_view_of_foldlM (view : α → List γ) (adds : β → List γ)
    (hstep : ∀ x a b, P a → step a x = .ok b → P b ∧ ∀ y, y ∈ view b ↔ y ∈ view a ∨ y ∈ adds x)
    {xs : List β} {a b : α} (ha : P a) (h : xs.foldlM step a = .ok b) :
    P b ∧ ∀ y, y ∈ view b ↔ y ∈ view a ∨ y ∈ xs.flatMap adds := by
  induction xs generalizing a with
  | nil =>
    cases h
    exact ⟨ha, fun y ↦ by simp⟩
  | cons x xs ih =>
    rw [List.foldlM_cons] at h
    obtain ⟨a', hx, hxs⟩ := bind_eq_ok_iff.1 h
    obtain ⟨ha', hview⟩ := hstep x a a' ha hx
    obtain ⟨hb, hviews⟩ := ih ha' hxs
    refine ⟨hb, fun y ↦ ?_⟩
    rw [hviews, hview, List.flatMap_cons, List.mem_append, or_assoc]

/-- Where the order counts: what a fold that may fail does to what it holds, a fold that cannot fail
does as well. -/
theorem view_of_foldlM {σ : Type} (view : α → σ) (record : σ → γ → σ) (adds : β → List γ)
    (hstep : ∀ x a b, P a → step a x = .ok b → P b ∧ view b = (adds x).foldl record (view a))
    {xs : List β} {a b : α} (ha : P a) (h : xs.foldlM step a = .ok b) :
    P b ∧ view b = (xs.flatMap adds).foldl record (view a) := by
  induction xs generalizing a with
  | nil =>
    cases h
    exact ⟨ha, rfl⟩
  | cons x xs ih =>
    rw [List.foldlM_cons] at h
    obtain ⟨a', hx, hxs⟩ := bind_eq_ok_iff.1 h
    obtain ⟨ha', hview⟩ := hstep x a a' ha hx
    obtain ⟨hb, hviews⟩ := ih ha' hxs
    refine ⟨hb, ?_⟩
    rw [hviews, hview, List.flatMap_cons, List.foldl_append]

/-- A fold ends well if every step is sound by itself and everything it held and was given goes
together. -/
theorem exists_foldlM_iff (sound : β → Prop) (C : List γ → Prop)
    (hstep : ∀ x a b, P a → step a x = .ok b → P b ∧ ∀ y, y ∈ view b ↔ y ∈ view a ∨ y ∈ adds x)
    (hok : ∀ x a, P a → ((∃ b, step a x = .ok b) ↔ sound x ∧ C (view a ++ adds x)))
    (hC : ∀ l l', l ⊆ l' → C l' → C l) (hP : ∀ a, P a → C (view a)) (xs : List β) {a : α}
    (ha : P a) : (∃ b, xs.foldlM step a = .ok b) ↔
      (∀ x ∈ xs, sound x) ∧ C (view a ++ xs.flatMap adds) := by
  induction xs generalizing a with
  | nil => exact ⟨fun _ ↦ ⟨by simp, by simpa using hP a ha⟩, fun _ ↦ ⟨a, rfl⟩⟩
  | cons x xs ih =>
    have hmem : ∀ a', (∀ y, y ∈ view a' ↔ y ∈ view a ∨ y ∈ adds x) →
        ∀ y, y ∈ view a' ++ xs.flatMap adds ↔ y ∈ view a ++ (x :: xs).flatMap adds := by
      intro a' hview y
      rw [List.mem_append, hview, List.flatMap_cons, List.mem_append, List.mem_append, or_assoc]
    rw [List.forall_mem_cons]
    constructor
    · rintro ⟨b, h⟩
      rw [List.foldlM_cons] at h
      obtain ⟨a', hx, hxs⟩ := bind_eq_ok_iff.1 h
      obtain ⟨ha', hview⟩ := hstep x a a' ha hx
      obtain ⟨hsound, hall⟩ := (ih ha').1 ⟨b, hxs⟩
      exact ⟨⟨((hok x a ha).1 ⟨a', hx⟩).1, hsound⟩,
        hC _ _ (fun y hy ↦ (hmem a' hview y).2 hy) hall⟩
    · rintro ⟨⟨hx, hxs⟩, hall⟩
      have hfirst : C (view a ++ adds x) := by
        refine hC _ _ (fun y hy ↦ ?_) hall
        rw [List.flatMap_cons, ← List.append_assoc]
        exact List.mem_append_left _ hy
      obtain ⟨a', ha''⟩ := (hok x a ha).2 ⟨hx, hfirst⟩
      obtain ⟨ha', hview⟩ := hstep x a a' ha ha''
      obtain ⟨b, hb⟩ := (ih ha').2 ⟨hxs, hC _ _ (fun y hy ↦ (hmem a' hview y).1 hy) hall⟩
      exact ⟨b, by rw [List.foldlM_cons]; exact bind_eq_ok_iff.2 ⟨a', ha'', hb⟩⟩

end Collect

/-! ## The first error

Where the parts of a computation do not need each other's results, its error is the first error
among those of its parts. -/

/-- The error of a computation. -/
def failure? : Except ε α → Option ε
  | .ok _ => none
  | .error e => some e

theorem failure?_eq_some_iff {x : Except ε α} {e : ε} : x.failure? = some e ↔ x = .error e := by
  cases x <;> simp [failure?]

/-- A computation without a result of its own ends well if there is no error. -/
theorem failure?_eq_none_iff {x : Except ε Unit} : x.failure? = none ↔ x = .ok () := by
  cases x <;> simp [failure?]

/-- What comes second fails in the same way whatever came first. -/
theorem failure?_bind {x : Except ε α} {f : α → Except ε β} {second : Option ε}
    (h : ∀ a, (f a).failure? = second) : (x >>= f).failure? = x.failure?.or second := by
  cases x with
  | error e => rfl
  | ok a => exact h a

theorem failure?_map (x : Except ε α) (f : α → β) :
    (do return f (← x) : Except ε β).failure? = x.failure? := by
  cases x <;> rfl

theorem failure?_pair {γ : Type} (x : Except ε α) (y : Except ε β) (f : α → β → γ) :
    (do return f (← x) (← y) : Except ε γ).failure? = x.failure?.or y.failure? :=
  failure?_bind fun _ ↦ failure?_map _ _

end Except
