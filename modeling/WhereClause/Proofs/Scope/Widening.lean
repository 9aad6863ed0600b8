import WhereClause.Calendar.Zone.Known
import WhereClause.Proofs.Converter
import WhereClause.Proofs.Scope.Built
import WhereClause.Proofs.Scope.Check

/-!
# Widening a converter

Enabling functions, declaring functions and declaring variables can only let more filters through.
That is not quite obvious: to enable a standard function brings its overloads in *before* those
that were declared for it, so the scope is not the old one with something added at the end, and a
declaration that was fine before may now clash.  But if there is a wider converter at all, then it
treats every filter that had SQL as before.

Two relations say what is kept.  `Settings.Widened` is for the renderer: more functions are enabled
and nothing else differs, which is enough for the same text (`Rendered.widen`).  `Scope.Widened` is
for the check: every overload is still there under its name, in whatever order, and every variable
is still declared (`Scope.Widened.check`).
-/

set_option autoImplicit false

namespace WhereClause

/-! ## Rendering -/

/-- Settings that enable at least the same functions, and are the same otherwise. -/
structure Settings.Widened (s t : Settings) : Prop where
  subject : t.subject = s.subject
  columns : t.columns = s.columns
  zone : t.zone = s.zone
  timeFormat : t.timeFormat = s.timeFormat
  functions : ∀ name ∈ s.functions, name ∈ t.functions

namespace Settings.Widened

variable {s t : Settings}

theorem isEnabled (h : Widened s t) {name : String} (enabled : s.isEnabled name = true) :
    t.isEnabled name = true :=
  NameSet.contains_iff.2 (h.functions name (NameSet.contains_iff.1 enabled))

theorem column_eq (h : Widened s t) (path : String) : t.column path = s.column path := by
  rw [column, column, mapped?, mapped?, h.columns]

theorem timestampText_eq (h : Widened s t) (text : String) :
    Expr.timestampText t text = Expr.timestampText s text := by
  rw [Expr.timestampText, Expr.timestampText, h.zone, h.timeFormat]

end Settings.Widened

/-- **Wider settings render a tree to the same text.** -/
theorem Rendered.widen {s t : Settings} (hst : s.Widened t) {e : Expr} {cs : List Char}
    (h : Rendered s e cs) : Rendered t e cs := by
  induction h with
  | token h => exact .token h
  | string text => exact .string text
  | field h =>
    rw [← hst.column_eq]
    rw [← hst.subject] at h
    exact .field h
  | binary enabled _ _ ihl ihr => exact .binary (hst.isEnabled enabled) ihl ihr
  | unary enabled _ ih => exact .unary (hst.isEnabled enabled) ih
  | like enabled hf _ ih => exact .like (hst.isEnabled enabled) hf ih
  | timestamp enabled h =>
    rw [← hst.timestampText_eq] at h
    exact .timestamp (hst.isEnabled enabled) h
  | seconds enabled h => exact .seconds (hst.isEnabled enabled) h

/-! ## Checking -/

namespace Scope

/-- A call passes if there is an entry for it. -/
theorem Coherent.checkCall_iff {s : Scope} (hs : Coherent s.functions) {function : String}
    {args : Nat} {member : Bool} : s.checkCall function args member = .ok () ↔
      ∃ o, (function, o) ∈ entries s.functions ∧ o.accepts args member = true := by
  rw [checkCall_eq_ok_iff]
  constructor
  · rintro ⟨f, hf, haccepts⟩
    obtain ⟨hmem, rfl⟩ := hs.declared?_eq_some_iff.1 hf
    obtain ⟨o, ho, hshape⟩ := List.any_eq_true.1 haccepts
    exact ⟨o, (hs.mem_overloads_iff hmem).1 ho, hshape⟩
  · rintro ⟨o, ho, hshape⟩
    obtain ⟨f, hmem, hname, hoverload⟩ := mem_entries.1 ho
    exact ⟨f, hs.declared?_eq_some_iff.2 ⟨hmem, hname⟩,
      List.any_eq_true.2 ⟨o, hoverload, hshape⟩⟩

/-- A scope in which every overload and every variable of another can be found. -/
structure Widened (s t : Scope) : Prop where
  overloads : ∀ x ∈ entries s.functions, x ∈ entries t.functions
  bound : ∀ name, (s.typeOf? name).isSome = true → (t.typeOf? name).isSome = true

/-- **A wider scope passes every tree that passed.** -/
theorem Widened.check {s t : Scope} (h : Widened s t) (hs : Coherent s.functions)
    (ht : Coherent t.functions) {e : Expr} (hcheck : s.check e = .ok ()) : t.check e = .ok () := by
  induction e using Expr.nodeInduction with
  | literal v => rw [Scope.check]
  | ident name => exact check_ident_iff.2 (h.bound name (check_ident_iff.1 hcheck))
  | select operand field ih =>
    rw [Scope.check] at hcheck ⊢
    exact ih hcheck
  | call function target args iht iha =>
    obtain ⟨hcall, htarget, hargs⟩ := check_call_iff.1 hcheck
    obtain ⟨o, ho, hshape⟩ := hs.checkCall_iff.1 hcall
    exact check_call_iff.2 ⟨ht.checkCall_iff.2 ⟨o, h.overloads _ ho, hshape⟩,
      fun t ht ↦ iht t ht (htarget t ht), fun a ha ↦ iha a ha (hargs a ha)⟩
  | list elements ih =>
    rw [Scope.check] at hcheck ⊢
    have helements := checkAll_eq_ok_iff.1 hcheck
    exact checkAll_eq_ok_iff.2 fun e he ↦ ih e he (helements e he)

theorem typeOf?_isSome_iff {s : Scope} {name : String} :
    (s.typeOf? name).isSome = true ↔ name ∈ s.bindings.map Prod.fst :=
  isSome_lookup_iff

end Scope

/-! ## Plans -/

namespace Converter.Plan

/-- A change that takes nothing away: a function is enabled, or something is declared. -/
inductive Step.Widens : Step → Prop
  | enable (function : String) : Widens (.enable function)
  | function (f : FunctionDecl) : Widens (.function f)
  | binding (name : String) (ty : Ty) : Widens (.variable name ty)

/-- A plan with wider settings that declares at least the same. -/
structure Widened (p q : Plan) : Prop where
  settings : p.settings.Widened q.settings
  functions : ∀ f ∈ p.functions, f ∈ q.functions
  bindings : ∀ v ∈ p.bindings, v ∈ q.bindings

variable {p q : Plan}

theorem Widened.refl (p : Plan) : Widened p p :=
  ⟨⟨rfl, rfl, rfl, rfl, fun _ h ↦ h⟩, fun _ h ↦ h, fun _ h ↦ h⟩

/-- One more change widens a plan. -/
theorem Widened.apply [Calendar.ZoneTable] (h : Widened p q) {step : Step} (hstep : step.Widens)
    {q' : Plan} (hq' : q.apply step = .ok q') : Widened p q' := by
  cases hstep with
  | enable function =>
    cases hq'
    exact ⟨{ h.settings with
      functions := fun name hname ↦ NameSet.mem_insert.2 (.inr (h.settings.functions name hname)) },
      h.functions, h.bindings⟩
  | function f =>
    cases hq'
    exact ⟨h.settings, fun g hg ↦ List.mem_append_left _ (h.functions g hg), h.bindings⟩
  | binding name ty =>
    cases hq'
    exact ⟨h.settings, h.functions, fun v hv ↦ List.mem_append_left _ (h.bindings v hv)⟩

/-- So do any number of them. -/
theorem widened_of_applyAll [Calendar.ZoneTable] {changes : List Step}
    (hchanges : ∀ step ∈ changes, step.Widens) (h : p.applyAll changes = .ok q) : Widened p q :=
  Except.foldlM_induction (fun step hstep _ _ ha h ↦ ha.apply (hchanges step hstep) h)
    (Widened.refl p) h

/-- **A wider plan has a wider scope**, if it has one. -/
theorem Widened.scope (h : Widened p q) {s t : Scope} (hs : p.scopePlan.build = .ok s)
    (ht : q.scopePlan.build = .ok t) : s.Widened t := by
  obtain ⟨-, -, hes, -, hbs, -⟩ := Scope.Plan.contents_of_build hs
  obtain ⟨-, -, het, -, hbt, -⟩ := Scope.Plan.contents_of_build ht
  constructor
  · intro x hx
    rw [hes, Scope.mem_entries, Scope.mem_entries] at hx
    rw [het, Scope.mem_entries, Scope.mem_entries]
    rcases hx with ⟨f, hf, hx⟩ | ⟨f, hf, hx⟩
    · obtain ⟨htable, hallowed⟩ := List.mem_filter.1 hf
      exact .inl ⟨f, List.mem_filter.2 ⟨htable, h.settings.isEnabled hallowed⟩, hx⟩
    · exact .inr ⟨f, h.functions f hf, hx⟩
  · intro name hname
    rw [Scope.typeOf?_isSome_iff, hbs] at hname
    rw [Scope.typeOf?_isSome_iff, hbt]
    rcases List.mem_cons.1 hname with hsubject | hdeclared
    · have hsame : q.scopePlan.subject = p.scopePlan.subject := h.settings.subject
      exact List.mem_cons.2 (.inl (hsubject.trans hsame.symm))
    · obtain ⟨v, hv, hv'⟩ := List.mem_map.1 hdeclared
      exact List.mem_cons_of_mem _ (List.mem_map.2 ⟨v, h.bindings v hv, hv'⟩)

end Converter.Plan

/-! ## Converters -/

namespace Converter

/-- **Widening a converter never changes a filter that worked.**  If a converter is extended by
enabling functions, declaring functions and declaring variables, and the result can be built, then
every filter that had SQL has the same SQL, every tree that passed the check passes it, and every
tree that was rendered is rendered to the same text. -/
theorem convert_of_widened [Calendar.ZoneTable] {p q : Plan} {a b : Converter}
    {changes : List Plan.Step} (ha : p.build = .ok a) (hchanges : ∀ step ∈ changes, step.Widens)
    (hq : a.extend.applyAll changes = .ok q) (hb : q.build = .ok b) :
    (∀ text sql, a.convert text = .ok sql → b.convert text = .ok sql) ∧
      ∀ e, (a.scope.check e = .ok () → b.scope.check e = .ok ()) ∧
        ∀ sql, a.generate e = .ok sql → b.generate e = .ok sql := by
  obtain ⟨-, hscopea, rfl⟩ := Plan.build_eq_ok_iff.1 ha
  obtain ⟨-, hscopeb, rfl⟩ := Plan.build_eq_ok_iff.1 hb
  have hwidened : a.plan.Widened b.plan := Plan.widened_of_applyAll hchanges hq
  have hcheck : ∀ e, a.scope.check e = .ok () → b.scope.check e = .ok () := fun e he ↦
    (hwidened.scope hscopea hscopeb).check (Scope.Plan.contents_of_build hscopea).1
      (Scope.Plan.contents_of_build hscopeb).1 he
  have hgenerate : ∀ e sql, a.generate e = .ok sql → b.generate e = .ok sql := fun e sql he ↦
    Settings.generate_eq_ok_iff.2 ((Settings.generate_eq_ok_iff.1 he).widen hwidened.settings)
  refine ⟨fun text sql h ↦ ?_, fun e ↦ ⟨hcheck e, hgenerate e⟩⟩
  obtain ⟨e, hparse, he, hsql⟩ := convert_eq_ok_iff.1 h
  exact convert_eq_ok_iff.2 ⟨e, hparse, hcheck e he, hgenerate e sql hsql⟩

/-- An overload was declared for `contains`, and then the standard ones come in before it. -/
theorem convert_of_widened_contains :
    ∃ a b q, Plan.build { Plan.default with
        functions := [⟨"contains", [⟨"contains_int", [.string, .int], .bool, true⟩]⟩] } = .ok a ∧
      a.extend.applyAll [.enable "contains", .variable "me" .string] = .ok q ∧ q.build = .ok b ∧
      b.convert "i.n == 1" = .ok "(n == 1)" ∧
      b.scope.check (.method (.ident "i") "contains" [.literal (.int 1)]) = .ok () := by
  obtain ⟨a, ha, hconvert, hcheck⟩ := Plan.exists_build
    (P := fun c ↦ (c.convert "i.n == 1").toOption = some "(n == 1)" ∧
      (c.scope.check (.method (.ident "i") "contains" [.literal (.int 1)])).toOption = some ())
    { Plan.default with
      functions := [⟨"contains", [⟨"contains_int", [.string, .int], .bool, true⟩]⟩] }
    (by decide +kernel)
  have hplan := (Plan.build_eq_ok_iff.1 ha).2.2
  obtain ⟨b, hb, -⟩ := Plan.exists_build (P := fun _ ↦ True)
    { Plan.default with
      settings.functions := Builtin.names.insert "contains"
      functions := [⟨"contains", [⟨"contains_int", [.string, .int], .bool, true⟩]⟩]
      bindings := [("me", .string)] } (by decide +kernel)
  have hq : a.extend.applyAll [.enable "contains", .variable "me" .string] = .ok
      { Plan.default with
        settings.functions := Builtin.names.insert "contains"
        functions := [⟨"contains", [⟨"contains_int", [.string, .int], .bool, true⟩]⟩]
        bindings := [("me", .string)] } := by
    rw [extend, hplan]
    rfl
  have hwidens : ∀ step ∈ [Plan.Step.enable "contains", .variable "me" .string], step.Widens := by
    simp [Plan.Step.Widens.enable, Plan.Step.Widens.binding]
  obtain ⟨hconverts, htrees⟩ := convert_of_widened ha hwidens hq hb
  exact ⟨a, b, _, ha, hq, hb, hconverts _ _ (Except.toOption_eq_some_iff.1 hconvert),
    (htrees _).1 (Except.toOption_eq_some_iff.1 hcheck)⟩

end Converter

end WhereClause
