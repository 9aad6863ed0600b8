import WhereClause.Proofs.Converter
import WhereClause.Proofs.Scope.Built
import WhereClause.Proofs.Scope.Check

/-!
# The check and the renderer

A converter looks at a tree twice: the check compares it with the scope, and the renderer compares
it with the settings.  They share the names that are enabled and the name of the subject, and that
is enough for two statements.

* The check refuses nothing that could have been rendered (`Converter.check_of_rendered`): a
  converter could go without it and would give the same SQL.
* What passes the check can still fail to render, but only for reasons the check does not look at
  (`Converter.residual_of_refused`), as long as the plan declares nothing of its own.
-/

set_option autoImplicit false

namespace WhereClause

namespace Converter

variable {p : Plan} {c : Converter}

/-- The scope of a converter allows what the settings enable. -/
theorem Plan.scope_of_build (hc : p.build = .ok c) :
    ∃ q : Scope.Plan, q.build = .ok c.scope ∧ q.subject = c.settings.subject ∧
      (∀ name, q.allowed.contains name = c.settings.isEnabled name) ∧
      q.functions = p.functions ∧ q.bindings = p.bindings := by
  obtain ⟨-, hscope, rfl⟩ := Plan.build_eq_ok_iff.1 hc
  exact ⟨c.plan.scopePlan, hscope, rfl, fun _ ↦ rfl, rfl, rfl⟩

/-! ## The check refuses nothing that can be rendered -/

/-- A call of an enabled function in its proper form passes the check. -/
theorem checkCall_of_isEnabled (hc : p.build = .ok c) {b : Builtin}
    (enabled : c.settings.isEnabled b.name = true) :
    c.scope.checkCall b.name b.arity b.isMember = .ok () := by
  obtain ⟨q, hq, -, hallowed, -, -⟩ := Plan.scope_of_build hc
  rw [← hallowed] at enabled
  obtain ⟨f, hf, hname, g, hg, hoverloads⟩ := Scope.Plan.exists_function? hq enabled
  have haccepts : f.accepts b.arity b.isMember = true :=
    (Standard.accepts_iff hf hname).2 ⟨rfl, rfl⟩
  obtain ⟨o, ho, hshape⟩ := List.any_eq_true.1 haccepts
  exact Scope.checkCall_eq_ok_iff.2 ⟨g, hg, List.any_eq_true.2 ⟨o, hoverloads o ho, hshape⟩⟩

theorem check_of_fieldPath (hc : p.build = .ok c) {e : Expr} {path : String}
    (h : e.fieldPath c.settings.subject = .ok path) : c.scope.check e = .ok () := by
  obtain ⟨q, hq, hsubject, -, -, -⟩ := Plan.scope_of_build hc
  rw [← Scope.check_chain, (Expr.fieldPath_eq_ok_iff.1 h).1, Scope.check_ident_iff, ← hsubject,
    Scope.Plan.typeOf?_subject hq]
  rfl

/-- **What can be rendered passes the check.** -/
theorem check_of_rendered (hc : p.build = .ok c) {e : Expr} {cs : List Char}
    (h : Rendered c.settings e cs) : c.scope.check e = .ok () := by
  have hliteral : ∀ v : Value, c.scope.check (.literal v) = .ok () := by
    intro v
    rw [Scope.check]
  induction h with
  | token _ => exact hliteral _
  | string text => exact hliteral _
  | field h => exact check_of_fieldPath hc h
  | @binary op left right a b enabled _ _ ihl ihr =>
    refine Scope.check_globalCall ?_ (by simp [ihl, ihr])
    exact checkCall_of_isEnabled hc (b := .binary op) enabled
  | @unary op operand a enabled _ ih =>
    refine Scope.check_globalCall ?_ (by simp [ih])
    exact checkCall_of_isEnabled hc (b := .unary op) enabled
  | @like f content target text a enabled hf _ ih =>
    refine Scope.check_call_iff.2 ⟨?_, by simp [ih], by simp [hliteral]⟩
    have hcall := checkCall_of_isEnabled hc enabled
    cases f with
    | startsWith => exact hcall
    | endsWith => exact hcall
    | _ => cases hf
  | timestamp enabled _ =>
    refine Scope.check_globalCall ?_ (by simp [hliteral])
    exact checkCall_of_isEnabled hc (b := .timestamp) enabled
  | seconds enabled _ =>
    refine Scope.check_globalCall ?_ (by simp [hliteral])
    exact checkCall_of_isEnabled hc (b := .timestamp) enabled

/-- **The check never refuses what can be rendered**, so that a filter has SQL exactly if its text
has a tree and the tree has SQL. -/
theorem convert_iff_generate (hc : p.build = .ok c) :
    (∀ e sql, c.generate e = .ok sql → c.scope.check e = .ok ()) ∧
      ∀ text sql, c.convert text = .ok sql ↔
        ∃ e, parse text = .ok e ∧ c.generate e = .ok sql := by
  have hcheck : ∀ e sql, c.generate e = .ok sql → c.scope.check e = .ok () :=
    fun e sql h ↦ check_of_rendered hc (Settings.generate_eq_ok_iff.1 h)
  refine ⟨hcheck, fun text sql ↦ ?_⟩
  rw [convert_eq_ok_iff]
  constructor
  · rintro ⟨e, hparse, -, hgenerate⟩
    exact ⟨e, hparse, hgenerate⟩
  · rintro ⟨e, hparse, hgenerate⟩
    exact ⟨e, hparse, hcheck e sql hgenerate, hgenerate⟩

/-- A variable and overloads declared besides, one of them for a function that is rendered. -/
theorem convert_iff_generate_declared :
    ∃ c e, Plan.build { Plan.default with
        functions := [⟨"startsWith", [⟨"starts_with_at", [.string, .string, .int], .bool, true⟩]⟩]
        bindings := [("me", .string)] } = .ok c ∧
      parse "i.name.startsWith('a') || !(i.n >= 2u)" = .ok e ∧
      c.generate e = .ok "((name LIKE \"a%\") OR (NOT (n >= 2)))" ∧ c.scope.check e = .ok () := by
  obtain ⟨c, hc, hconvert⟩ := Plan.exists_build
    (P := fun c ↦ (c.convert "i.name.startsWith('a') || !(i.n >= 2u)").toOption =
      some "((name LIKE \"a%\") OR (NOT (n >= 2)))")
    { Plan.default with
      functions := [⟨"startsWith", [⟨"starts_with_at", [.string, .string, .int], .bool, true⟩]⟩]
      bindings := [("me", .string)] } (by decide +kernel)
  have hconvert := Except.toOption_eq_some_iff.1 hconvert
  obtain ⟨e, hparse, hgenerate⟩ := ((convert_iff_generate hc).2 _ _).1 hconvert
  exact ⟨c, e, hc, hparse, hgenerate, (convert_iff_generate hc).1 e _ hgenerate⟩

end Converter

/-! ## What the check leaves to the renderer -/

/-- The reasons not to render a tree that are not for the check to find: a pattern that is a literal
but not a string, an enabled function without a form in SQL, and a field of something that is not a
variable.  Of the other errors nothing is said. -/
def Residual (s : Settings) (e : Expr) : RenderError → Prop
  | .invalidArguments function fault =>
    (function = Builtin.startsWith.name ∨ function = Builtin.endsWith.name) ∧
      ∃ target v, Expr.method target function [.literal v] ∈ e.nodes ∧
        (∀ text, v ≠ .string text) ∧ fault = .notString v.typeName
  | .unsupportedFunction name =>
    s.isEnabled name = true ∧ (∀ b : Builtin, b.name ≠ name) ∧
      ∃ target args, Expr.call name target args ∈ e.nodes
  | .invalidSubject expected found =>
    expected = s.subject ∧ ∃ operand field, Expr.select operand field ∈ e.nodes ∧
      (∀ name, (Expr.select operand field).chain.1 ≠ .ident name) ∧
      found = (Expr.select operand field).chain.1.text
  | _ => True

/-- What is wrong with a part of a tree is wrong with the tree. -/
theorem Residual.mono {s : Settings} {e e' : Expr} {error : RenderError} (h : Residual s e error)
    (hnodes : ∀ x ∈ e.nodes, x ∈ e'.nodes) : Residual s e' error := by
  cases error with
  | invalidArguments function fault =>
    obtain ⟨hfunction, target, v, hnode, hv⟩ := h
    exact ⟨hfunction, target, v, hnodes _ hnode, hv⟩
  | unsupportedFunction name =>
    obtain ⟨henabled, hname, target, args, hnode⟩ := h
    exact ⟨henabled, hname, target, args, hnodes _ hnode⟩
  | invalidSubject expected found =>
    obtain ⟨hexpected, operand, field, hnode, hroot⟩ := h
    exact ⟨hexpected, operand, field, hnodes _ hnode, hroot⟩
  | _ => trivial

/-- A pattern that is no string literal. -/
theorem residual_of_patternText {s : Settings} {f : Builtin} {content : List Char → List Char}
    {target arg : Expr} {error : RenderError} (hf : f.likeContent? = some content)
    (h : arg.patternText f.name = .error error) :
    Residual s (.method target f.name [arg]) error := by
  have hname : f.name = Builtin.startsWith.name ∨ f.name = Builtin.endsWith.name := by
    cases f with
    | startsWith => exact .inl rfl
    | endsWith => exact .inr rfl
    | _ => cases hf
  cases arg with
  | literal v =>
    cases v with
    | string text => cases h
    | _ =>
      cases h
      exact ⟨hname, target, _, Expr.self_mem_nodes _, fun _ hv ↦ (nomatch hv), rfl⟩
  | _ =>
    cases h
    trivial

/-- Nothing is said of an argument that is no moment. -/
theorem residual_of_momentError? {s : Settings} {e arg : Expr} {function : String}
    {error : RenderError} (h : arg.momentError? s function = some error) : Residual s e error := by
  cases arg with
  | literal v =>
    cases v with
    | string text =>
      rw [Expr.momentError?] at h
      split at h
      · cases h
      next error' ht =>
        cases h
        rw [Expr.timestampText] at ht
        split at ht
        · cases ht
          trivial
        · split at ht
          · cases ht
          · cases ht
            trivial
    | _ => cases h <;> trivial
  | _ =>
    cases h
    trivial

namespace Converter

variable {p : Plan} {c : Converter}

/-- **What passed the check is refused only for reasons that the check leaves to the renderer.** -/
theorem residual_of_refused (hc : p.build = .ok c) (hfunctions : p.functions = [])
    (hbindings : p.bindings = []) {e : Expr} {error : RenderError}
    (h : Refused c.settings e error) (hcheck : c.scope.check e = .ok ()) :
    Residual c.settings e error := by
  obtain ⟨q, hq, hsubject, hallowed, hqf, hqb⟩ := Plan.scope_of_build hc
  rw [hfunctions] at hqf
  rw [hbindings] at hqb
  induction h with
  | ident name => trivial
  | list elements => trivial
  | nonFinite h => trivial
  | @field operand name error h =>
    obtain ⟨root, hroot, hne⟩ | ⟨hroot, rfl⟩ := Expr.fieldPath_eq_error h
    · rw [← Scope.check_chain, hroot, Scope.check_ident_iff] at hcheck
      exact absurd ((Scope.Plan.eq_subject_of_typeOf? hq hqb hcheck).trans hsubject) hne
    · exact ⟨rfl, operand, name, Expr.self_mem_nodes _, hroot, rfl⟩
  | @function name target args error h =>
    obtain ⟨rfl, hform⟩ := Expr.resolve_eq_error h
    obtain ⟨hcall, -, -⟩ := Scope.check_call_iff.1 hcheck
    obtain ⟨f, hf, -⟩ := Scope.checkCall_eq_ok_iff.1 hcall
    obtain ⟨-, -, henabled⟩ := Scope.Plan.mem_table_of_function? hq hqf hf
    rw [hallowed] at henabled
    refine ⟨henabled, ?_, target, args, Expr.self_mem_nodes _⟩
    rintro b rfl
    have hnone := hform henabled
    rw [Builtin.ofName?_name] at hnone
    cases hnone
  | @shape f target args fault enabled h =>
    -- An overload accepts the call, and all overloads have the shape the renderer asks for.
    obtain ⟨hcall, -, -⟩ := Scope.check_call_iff.1 hcheck
    obtain ⟨g, hg, haccepts⟩ := Scope.checkCall_eq_ok_iff.1 hcall
    obtain ⟨hmem, hname, -⟩ := Scope.Plan.mem_table_of_function? hq hqf hg
    have hshape : f.shapeFault? target.isSome args.length = none :=
      Builtin.shapeFault?_eq_none_iff.2 ((Standard.accepts_iff hmem hname).1 haccepts)
    rw [hshape] at h
    cases h
  | pattern enabled hf h => exact residual_of_patternText hf h
  | moment enabled h => exact residual_of_momentError? h
  | @left op left right error enabled _ ih =>
    obtain ⟨-, -, hargs⟩ := Scope.check_call_iff.1 hcheck
    exact (ih (hargs left (by simp))).mono fun x hx ↦ Expr.mem_nodes_of_arg (by simp) hx
  | @right op left right a error enabled _ _ ih =>
    obtain ⟨-, -, hargs⟩ := Scope.check_call_iff.1 hcheck
    exact (ih (hargs right (by simp))).mono fun x hx ↦ Expr.mem_nodes_of_arg (by simp) hx
  | @operand op operand error enabled _ ih =>
    obtain ⟨-, -, hargs⟩ := Scope.check_call_iff.1 hcheck
    exact (ih (hargs operand (by simp))).mono fun x hx ↦ Expr.mem_nodes_of_arg (by simp) hx
  | @receiver f content target text error enabled hf _ ih =>
    obtain ⟨-, htarget, -⟩ := Scope.check_call_iff.1 hcheck
    exact (ih (htarget target rfl)).mono fun x hx ↦ Expr.mem_nodes_of_target hx

/-- **Checking first leaves few errors to rendering.**  If a plan declares no functions and
variables of its own, then a tree that passed the check never fails to render because of a receiver
or the number of arguments, nor because a function is disabled, nor because a field is selected from
another variable. -/
theorem residual_of_check (hc : p.build = .ok c) (hfunctions : p.functions = [])
    (hbindings : p.bindings = []) {e : Expr} (hcheck : c.scope.check e = .ok ())
    {error : RenderError} (h : c.generate e = .error error) : Residual c.settings e error :=
  residual_of_refused hc hfunctions hbindings (Settings.generate_eq_error_iff.1 h) hcheck

/-- `size` enabled: the check knows it, the renderer does not. -/
theorem residual_of_check_size :
    ∃ c, Plan.build
        { Plan.default with settings.functions := Builtin.names.insert "size" } = .ok c ∧
      c.scope.check (.globalCall "size" [.select (.ident "i") "tags"]) = .ok () ∧
      c.generate (.globalCall "size" [.select (.ident "i") "tags"]) =
        .error (.unsupportedFunction "size") ∧
      c.settings.isEnabled "size" = true ∧ ∀ b : Builtin, b.name ≠ "size" := by
  obtain ⟨c, hc, hcheck⟩ := Plan.exists_build
    (P := fun c ↦
      (c.scope.check (.globalCall "size" [.select (.ident "i") "tags"])).toOption = some ())
    { Plan.default with settings.functions := Builtin.names.insert "size" } (by decide +kernel)
  have hcheck := Except.toOption_eq_some_iff.1 hcheck
  obtain ⟨-, -, hplan⟩ := Plan.build_eq_ok_iff.1 hc
  have hgenerate : c.generate (.globalCall "size" [.select (.ident "i") "tags"]) =
      .error (.unsupportedFunction "size") := by
    rw [generate, settings, hplan]
    rfl
  obtain ⟨henabled, hnone, -⟩ := residual_of_check hc rfl rfl hcheck hgenerate
  exact ⟨c, hc, hcheck, hgenerate, henabled, hnone⟩

end Converter

end WhereClause
