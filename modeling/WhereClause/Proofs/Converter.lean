import WhereClause.Converter
import WhereClause.Proofs.Scope.Registry

/-!
# What a converter has done when it succeeds

Building and converting run through several stages and stop at the first that fails.  Here is what a
success says about each of them: `Converter.Plan.build_eq_ok_iff` for a converter that was built,
and `Converter.convert_eq_ok_iff` for a filter that was converted.  In between stands what several
changes of a plan come to (`Converter.Plan.view_of_applyAll`).
-/

set_option autoImplicit false

namespace WhereClause

namespace Converter

/-- The default scope is the one the default plan describes, so taking it as it stands changes
nothing. -/
theorem Plan.build_eq (p : Plan) : p.build = (do
    p.settings.validate
    let scope ← p.scopePlan.build.mapError .scope
    return ⟨p, scope⟩) := by
  rw [build]
  cases h : p.scopePlan.isStandard with
  | false => rfl
  | true =>
    have hdefault : p.scopePlan = .default := of_decide_eq_true h
    rw [hdefault]
    rfl

/-- A converter is built from valid settings, and holds its plan and the scope of that plan. -/
theorem Plan.build_eq_ok_iff {p : Plan} {c : Converter} :
    p.build = .ok c ↔
      p.settings.validate = .ok () ∧ p.scopePlan.build = .ok c.scope ∧ c.plan = p := by
  rw [build_eq, Except.bind_eq_ok_iff]
  constructor
  · rintro ⟨⟨⟩, hvalid, h⟩
    obtain ⟨scope, hbuilt, ⟨⟩⟩ := Except.bind_eq_ok_iff.1 h
    exact ⟨hvalid, Except.mapError_eq_ok_iff.1 hbuilt, rfl⟩
  · rintro ⟨hvalid, hbuilt, rfl⟩
    exact ⟨(), hvalid, Except.bind_eq_ok_iff.2 ⟨c.scope, Except.mapError_eq_ok_iff.2 hbuilt, rfl⟩⟩

theorem Plan.generate_of_build {p : Plan} {c : Converter} (hc : p.build = .ok c) (e : Expr) :
    c.generate e = p.settings.generate e := by
  obtain ⟨-, -, rfl⟩ := build_eq_ok_iff.1 hc
  rfl

/-! ## Changes of a plan -/

namespace Plan

variable [Calendar.ZoneTable] {p q : Plan}

/-- A time zone that is given by its name is the only change that can fail. -/
theorem apply_zone_eq_ok {name : String} (h : p.apply (.zone name) = .ok q) :
    ∃ zone, q = { p with settings.zone := zone } := by
  rw [apply] at h
  split at h
  · cases h
    exact ⟨_, rfl⟩
  · cases h

theorem applyAll_cons_eq_ok {step : Step} {changes : List Step}
    (h : p.applyAll (step :: changes) = .ok q) :
    ∃ p', p.apply step = .ok p' ∧ p'.applyAll changes = .ok q := by
  rw [applyAll, List.foldlM_cons] at h
  exact Except.bind_eq_ok_iff.1 h

/-- **The last change that mentions something decides.**  What is looked at may be anything in a
plan that a change either sets or leaves alone. -/
theorem view_of_applyAll {α : Type} (view : Plan → α) (mention? : Step → Option α)
    (hview : ∀ {p q : Plan} {step : Step}, p.apply step = .ok q →
      view q = (mention? step).getD (view p)) {changes : List Step}
    (h : p.applyAll changes = .ok q) :
    view q = (changes.filterMap mention?).getLast?.getD (view p) := by
  induction changes generalizing p with
  | nil =>
    cases h
    rfl
  | cons step changes ih =>
    obtain ⟨p', hstep, hrest⟩ := applyAll_cons_eq_ok h
    rw [ih hrest, hview hstep, List.filterMap_cons]
    cases mention? step with
    | none => rfl
    | some value => rw [List.getLast?_cons]; rfl

end Plan

/-! ## Conversion -/

/-- A filter has SQL if its text has a tree that fits the scope and has SQL. -/
theorem convert_eq_ok_iff {c : Converter} {text sql : String} :
    c.convert text = .ok sql ↔
      ∃ e, parse text = .ok e ∧ c.scope.check e = .ok () ∧ c.generate e = .ok sql := by
  rw [convert, convertWith, Except.bind_eq_ok_iff]
  refine exists_congr fun e ↦ ?_
  rw [Except.mapError_eq_ok_iff, Except.mapError_eq_ok_iff, ← and_assoc]
  refine and_congr_left fun _ ↦ ?_
  rw [Frontend.text]
  cases hparse : parse text with
  | error error => simp
  | ok e' =>
    cases hcheck : c.scope.check e' with
    | error error =>
      simp only [Scope.checked, hcheck, reduceCtorEq, Except.ok.injEq, false_iff, not_and]
      rintro rfl h
      rw [hcheck] at h
      cases h
    | ok u =>
      simp only [Scope.checked, hcheck, Except.ok.injEq]
      constructor
      · rintro rfl
        exact ⟨rfl, hcheck⟩
      · exact And.left

/-- A plan that gives a converter with a property, found by evaluation.  What is evaluated leaves
out the check of the standard functions, which takes long and ends the same for every plan. -/
theorem Plan.exists_build {P : Converter → Prop} [DecidablePred P] (p : Plan)
    (h : (do
      p.settings.validate.toOption
      let functions ← (p.functions.foldlM Scope.declare p.scopePlan.visible).toOption
      (p.scopePlan.complete functions).toOption).any (fun s ↦ decide (P ⟨p, s⟩)) = true) :
    ∃ c, p.build = .ok c ∧ P c := by
  obtain ⟨scope, hscope, hP⟩ := (Option.any_eq_true _ _).1 h
  obtain ⟨⟨⟩, hvalid, hscope⟩ := Option.bind_eq_some_iff.1 hscope
  obtain ⟨functions, hfunctions, hcomplete⟩ := Option.bind_eq_some_iff.1 hscope
  rw [Except.toOption_eq_some_iff] at hvalid hfunctions hcomplete
  have hbuilt : p.scopePlan.build = .ok scope := by
    rw [Scope.Plan.build_eq, Except.bind_eq_ok_iff]
    exact ⟨functions, Except.mapError_eq_ok_iff.2 hfunctions, hcomplete⟩
  exact ⟨⟨p, scope⟩, build_eq_ok_iff.2 ⟨hvalid, hbuilt, rfl⟩, of_decide_eq_true hP⟩

end Converter

end WhereClause
