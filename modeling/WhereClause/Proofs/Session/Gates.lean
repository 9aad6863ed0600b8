import WhereClause.Proofs.Scope.Built
import WhereClause.Proofs.Session.Lineage

/-!
# Which functions a converter lets through

A function has to pass two gates before it is part of SQL text: the scope must have it, and the
settings must enable it.  A third is the renderer's own list of functions that have a form in SQL.
The three are filled at different times, and here is what they come to for a converter of a
session, in terms of the changes it was made by.

* The settings follow the last change that mentions a function
  (`Converter.Plan.isEnabled_of_applyAll`).
* The scope has what is enabled and what was declared besides (`Converter.hasFunction_iff`).
* **No call in a tree that was rendered got past the settings** (`Rendered.admitted`), however
  deep it stands.
-/

set_option autoImplicit false

namespace WhereClause

namespace Converter.Plan

/-! ## Changes that mention a function -/

/-- Whether a change enables or disables a function; none if it does not mention it. -/
def Step.switch? (function : String) : Step → Option Bool
  | .enable name => if name = function then some true else none
  | .disable name => if name = function then some false else none
  | _ => none

/-- What the last change that mentions a function does to it. -/
def lastSwitch? (function : String) (changes : List Step) : Option Bool :=
  (changes.filterMap (Step.switch? function)).getLast?

/-- The function a change declares. -/
def Step.declared? : Step → Option FunctionDecl
  | .function f => some f
  | _ => none

theorem Step.mem_filterMap_declared? {changes : List Step} {f : FunctionDecl} :
    f ∈ changes.filterMap declared? ↔ .function f ∈ changes := by
  rw [List.mem_filterMap]
  constructor
  · rintro ⟨step, hstep, hf⟩
    cases step with
    | function g =>
      cases hf
      exact hstep
    | _ => cases hf
  · exact fun h ↦ ⟨_, h, rfl⟩

variable [Calendar.ZoneTable] {p q : Plan}

/-! ## One change -/

/-- Only what a change mentions is switched by it. -/
theorem isEnabled_of_apply {step : Step} (h : p.apply step = .ok q) (function : String) :
    q.settings.isEnabled function =
      (step.switch? function).getD (p.settings.isEnabled function) := by
  cases step with
  | enable name =>
    cases h
    rw [Step.switch?, Bool.eq_iff_iff]
    by_cases hname : name = function
    · simp [Settings.isEnabled, hname]
    · simp [Settings.isEnabled, hname, Ne.symm hname]
  | disable name =>
    cases h
    rw [Step.switch?, Bool.eq_iff_iff]
    by_cases hname : name = function
    · simp [Settings.isEnabled, hname]
    · simp [Settings.isEnabled, hname, Ne.symm hname]
  | zone name =>
    obtain ⟨zone, rfl⟩ := apply_zone_eq_ok h
    rfl
  | _ =>
    cases h
    rfl

theorem functions_of_apply {step : Step} (h : p.apply step = .ok q) :
    q.functions = p.functions ++ step.declared?.toList := by
  cases step with
  | function f =>
    cases h
    rfl
  | zone name =>
    obtain ⟨zone, rfl⟩ := apply_zone_eq_ok h
    simp [Step.declared?]
  | _ =>
    cases h
    simp [Step.declared?]

/-! ## Several changes -/

/-- **The last change that mentions a function decides.** -/
theorem isEnabled_of_applyAll {changes : List Step} (h : p.applyAll changes = .ok q)
    (function : String) : q.settings.isEnabled function =
      (lastSwitch? function changes).getD (p.settings.isEnabled function) :=
  view_of_applyAll (fun p ↦ p.settings.isEnabled function) (Step.switch? function)
    (fun h ↦ isEnabled_of_apply h function) h

theorem functions_of_applyAll {changes : List Step} (h : p.applyAll changes = .ok q) :
    q.functions = p.functions ++ changes.filterMap Step.declared? := by
  induction changes generalizing p with
  | nil =>
    cases h
    simp
  | cons step changes ih =>
    obtain ⟨p', hstep, hrest⟩ := applyAll_cons_eq_ok h
    rw [ih hrest, functions_of_apply hstep, List.append_assoc, List.filterMap_cons]
    cases step.declared? <;> rfl

end Converter.Plan

/-! ## What a scope has -/

namespace Converter

/-- **A scope has the functions that are enabled and those that were declared.** -/
theorem hasFunction_iff {p : Plan} {c : Converter} (hc : p.build = .ok c) {function : String} :
    c.scope.hasFunction function = true ↔
      c.settings.isEnabled function = true ∨ ∃ f ∈ p.functions, f.name = function := by
  obtain ⟨-, hscope, rfl⟩ := Plan.build_eq_ok_iff.1 hc
  have hhas : c.scope.hasFunction function = true ↔
      function ∈ c.scope.functions.map FunctionDecl.name := by
    rw [Scope.hasFunction, Scope.function?, Scope.declared?, List.find?_isSome, List.mem_map]
    simp only [beq_iff_eq]
  obtain ⟨-, hallowed, -, -⟩ := Scope.Plan.build_eq_ok_iff.1 hscope
  obtain ⟨-, hnames, -⟩ := Scope.Plan.contents_of_build hscope
  rw [hhas]
  constructor
  · intro h
    rcases (hnames function).1 h with hvisible | hdeclared
    · obtain ⟨f, hf, rfl⟩ := List.mem_map.1 hvisible
      exact .inl (List.mem_filter.1 hf).2
    · exact .inr (List.mem_map.1 hdeclared)
  · rintro (henabled | hdeclared)
    · exact Scope.declares_iff.1 (hallowed function (NameSet.contains_iff.1 henabled))
    · exact (hnames function).2 (.inr (List.mem_map.2 hdeclared))

end Converter

/-! ## Calls in rendered trees -/

namespace Expr

/-- Every call in a tree, at any depth, is enabled and has a form in SQL. -/
def Admitted (s : Settings) (e : Expr) : Prop :=
  ∀ function target args, .call function target args ∈ e.nodes →
    s.isEnabled function = true ∧ ∃ b : Builtin, b.name = function

variable {s : Settings}

theorem admitted_literal (v : Value) : Admitted s (.literal v) := by
  intro function target args h
  simp [nodes] at h

/-- A call is admitted with its receiver and its arguments. -/
theorem admitted_call {b : Builtin} {target : Option Expr} {args : List Expr}
    (enabled : s.isEnabled b.name = true) (htarget : ∀ t ∈ target, Admitted s t)
    (hargs : ∀ a ∈ args, Admitted s a) : Admitted s (.call b.name target args) := by
  intro function target' args' h
  rcases mem_nodes_call.1 h with heq | ⟨t, ht, hmem⟩ | ⟨a, ha, hmem⟩
  · cases heq
    exact ⟨enabled, b, rfl⟩
  · exact htarget t ht _ _ _ hmem
  · exact hargs a ha _ _ _ hmem

/-- A chain that starts from a variable holds no calls. -/
theorem admitted_of_chain {e : Expr} {name : String} (h : e.chain.1 = .ident name) :
    Admitted s e := by
  induction e using Expr.nodeInduction with
  | ident name =>
    intro function target args h
    simp [nodes] at h
  | select operand field ih =>
    intro function target args hcall
    rw [chain_select] at h
    simp only [nodes, List.mem_cons, reduceCtorEq, false_or] at hcall
    exact ih h _ _ _ hcall
  | _ => cases h

end Expr

/-- **Every call in a tree that was rendered is enabled and has a form in SQL.** -/
theorem Rendered.admitted {s : Settings} {e : Expr} {cs : List Char} (h : Rendered s e cs) :
    e.Admitted s := by
  have hnone : ∀ t ∈ (none : Option Expr), t.Admitted s := by simp
  induction h with
  | token _ => exact Expr.admitted_literal _
  | string text => exact Expr.admitted_literal _
  | field h => exact Expr.admitted_of_chain (Expr.fieldPath_eq_ok_iff.1 h).1
  | @binary op left right a b enabled _ _ ihl ihr =>
    exact Expr.admitted_call (b := .binary op) enabled hnone (by simp [ihl, ihr])
  | @unary op operand a enabled _ ih =>
    exact Expr.admitted_call (b := .unary op) enabled hnone (by simp [ih])
  | @like f content target text a enabled hf _ ih =>
    exact Expr.admitted_call enabled (by simp [ih]) (by simp [Expr.admitted_literal])
  | timestamp enabled _ => exact Expr.admitted_call enabled hnone (by simp [Expr.admitted_literal])
  | seconds enabled _ => exact Expr.admitted_call enabled hnone (by simp [Expr.admitted_literal])

/-! ## Converters of a session -/

namespace Session

open Converter.Plan (lastSwitch?)

/-- **The gates agree, and nothing disabled becomes SQL.**  Take any converter of a session and the
changes along its lineage.  A function is enabled if the last change that mentions it enables it, or
none does and it is enabled from the start; the scope has it if it is enabled or declared by one of
the changes; and whatever is called in a tree that has SQL, at any depth, is enabled, has a form in
SQL and is in the scope. -/
theorem gates_of_get? [Calendar.ZoneTable] {steps : List Step} {name : String} {c : Converter}
    (hc : (run steps).get? name = some c) :
    ∃ changes, lineage steps name = some changes ∧
      (∀ function,
        (c.settings.isEnabled function = true ↔ lastSwitch? function changes = some true ∨
          lastSwitch? function changes = none ∧ function ∈ Builtin.names) ∧
        (c.scope.hasFunction function = true ↔ c.settings.isEnabled function = true ∨
          ∃ f, .function f ∈ changes ∧ f.name = function)) ∧
      ∀ e sql, c.generate e = .ok sql →
        ∀ function target args, .call function target args ∈ e.nodes →
          c.settings.isEnabled function = true ∧ (∃ b : Builtin, b.name = function) ∧
            c.scope.hasFunction function = true := by
  obtain ⟨changes, hchanges, hassemble⟩ := (tracks_run steps).exists_assemble hc
  obtain ⟨happly, hbuild⟩ := Converter.Plan.assemble_eq_ok_iff.1 hassemble
  refine ⟨changes, hchanges, fun function ↦ ⟨?_, ?_⟩, ?_⟩
  · rw [Converter.settings, Converter.Plan.isEnabled_of_applyAll happly]
    cases lastSwitch? function changes with
    | none => simp [Converter.Plan.default, Settings.default, Settings.isEnabled]
    | some enabled => simp
  · have hdeclared : c.plan.functions = changes.filterMap Converter.Plan.Step.declared? :=
      Converter.Plan.functions_of_applyAll happly
    rw [Converter.hasFunction_iff hbuild, hdeclared]
    simp only [Converter.Plan.Step.mem_filterMap_declared?]
  · intro e sql hsql function target args hcall
    have hadmitted := (Settings.generate_eq_ok_iff.1 hsql).admitted
    obtain ⟨henabled, hform⟩ := hadmitted function target args hcall
    exact ⟨henabled, hform, (Converter.hasFunction_iff hbuild).2 (.inl henabled)⟩

/-- What the first step disables the second enables, and the other way round. -/
theorem gates_of_get?_toggled :
    ∃ c, (run [.build "a" [.disable "_%_", .enable "size", .function ⟨"lower", []⟩],
        .extend "a" "b" [.enable "_%_", .disable "size"]]).get? "b" = some c ∧
      c.settings.isEnabled "_%_" = true ∧ ¬ c.settings.isEnabled "size" = true ∧
      ¬ c.scope.hasFunction "size" = true ∧ c.scope.hasFunction "lower" = true := by
  have hlineage : lineage [.build "a" [.disable "_%_", .enable "size", .function ⟨"lower", []⟩],
      .extend "a" "b" [.enable "_%_", .disable "size"]] "b" =
        some [.disable "_%_", .enable "size", .function ⟨"lower", []⟩, .enable "_%_",
          .disable "size"] := by
    decide +kernel
  obtain ⟨c, hc, -⟩ := (tracks_run _).exists_get? hlineage
  obtain ⟨changes, hchanges, hgates, -⟩ := gates_of_get? hc
  obtain rfl := Option.some.inj (hlineage.symm.trans hchanges)
  have hsize : ¬ c.settings.isEnabled "size" = true := fun h ↦
    absurd ((hgates "size").1.1 h) (by decide)
  refine ⟨c, hc, (hgates "_%_").1.2 (by decide), hsize, fun h ↦ ?_, (hgates "lower").2.2 (.inr ?_)⟩
  · rcases (hgates "size").2.1 h with henabled | ⟨f, hf, hname⟩
    · exact hsize henabled
    · simp only [List.mem_cons, reduceCtorEq, Converter.Plan.Step.function.injEq, false_or,
        List.not_mem_nil, or_false] at hf
      subst hf
      exact absurd hname (by decide)
  · exact ⟨⟨"lower", []⟩, by simp, rfl⟩

end Session

end WhereClause
