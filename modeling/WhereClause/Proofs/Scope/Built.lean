import WhereClause.Proofs.Scope.Registry
import WhereClause.Proofs.Sql.Rendered

/-!
# What a scope holds once it is built

A scope starts from the standard functions that are allowed, and everything after that only adds to
it.  So whatever is declared besides, a standard function that is allowed keeps all its overloads
(`Scope.Plan.exists_function?`), and the subject stays bound (`Scope.Plan.typeOf?_subject`).

The other half is about the table of standard functions.  Those with a form in SQL have overloads of
a single shape, and it is the shape the renderer asks for (`Standard.accepts_iff`): the two were
written down separately, and here is where they meet.
-/

set_option autoImplicit false

namespace WhereClause

/-! ## The standard functions -/

namespace Standard

/-- Every standard function has overloads, and if it has a form in SQL, all are of the shape of it.
-/
theorem overloads_shape : ∀ f ∈ table, f.overloads ≠ [] ∧
    ∀ b ∈ Builtin.ofName? f.name, ∀ o ∈ f.overloads,
      o.member = b.isMember ∧ o.params.length = b.arity + (if b.isMember then 1 else 0) := by
  decide

theorem exists_mem_table (b : Builtin) : ∃ f ∈ table, f.name = b.name := by
  have hall : ∀ b ∈ Builtin.all, ∃ f ∈ table, f.name = b.name := by decide
  exact hall b (Builtin.mem_all b)

/-- **A standard function with a form in SQL accepts exactly the calls that have this form.** -/
theorem accepts_iff {f : FunctionDecl} (hf : f ∈ table) {b : Builtin} (hb : f.name = b.name)
    {args : Nat} {member : Bool} :
    f.accepts args member = true ↔ member = b.isMember ∧ args = b.arity := by
  obtain ⟨hne, hshape⟩ := overloads_shape f hf
  rw [hb, Builtin.ofName?_name] at hshape
  have hshape := hshape b rfl
  rw [FunctionDecl.accepts, List.any_eq_true]
  constructor
  · rintro ⟨o, ho, haccepts⟩
    obtain ⟨hmember, hcount⟩ := Overload.accepts_iff.1 haccepts
    obtain ⟨hmember', hcount'⟩ := hshape o ho
    rw [hmember] at hmember'
    rw [hcount, hmember'] at hcount'
    exact ⟨hmember', Nat.add_right_cancel hcount'⟩
  · rintro ⟨rfl, rfl⟩
    obtain ⟨o, ho⟩ := List.exists_mem_of_ne_nil _ hne
    exact ⟨o, ho, Overload.accepts_iff.2 (hshape o ho)⟩

end Standard

namespace Scope

/-! ## Declarations are only ever added to -/

/-- Every function of the first declarations is among the second, with all its overloads. -/
def Extends (fs gs : List FunctionDecl) : Prop :=
  ∀ name f, declared? fs name = some f →
    ∃ g, declared? gs name = some g ∧ ∀ o ∈ f.overloads, o ∈ g.overloads

theorem Extends.refl (fs : List FunctionDecl) : Extends fs fs :=
  fun _ f hf ↦ ⟨f, hf, fun _ ho ↦ ho⟩

theorem Extends.trans {fs gs hs : List FunctionDecl} (h : Extends fs gs) (h' : Extends gs hs) :
    Extends fs hs := by
  intro name f hf
  obtain ⟨g, hg, hfg⟩ := h name f hf
  obtain ⟨k, hk, hgk⟩ := h' name g hg
  exact ⟨k, hk, fun o ho ↦ hgk o (hfg o ho)⟩

theorem extends_ensure (fs : List FunctionDecl) (name : String) : Extends fs (ensure fs name) := by
  intro n f hf
  refine ⟨f, ?_, fun _ ho ↦ ho⟩
  rw [ensure]
  split
  · exact hf
  · rw [declared?, List.find?_append, ← declared?, hf, Option.some_or]

theorem declared?_appendOverload (fs : List FunctionDecl) (name n : String) (o : Overload) :
    declared? (appendOverload fs name o) n = (declared? fs n).map fun f ↦
      if f.name == name then { f with overloads := f.overloads ++ [o] } else f := by
  have hname : ∀ f : FunctionDecl,
      (if f.name == name then { f with overloads := f.overloads ++ [o] } else f).name = f.name := by
    intro f
    split <;> rfl
  simp only [declared?, appendOverload, List.find?_map, Function.comp_def, hname]

theorem extends_appendOverload (fs : List FunctionDecl) (name : String) (o : Overload) :
    Extends fs (appendOverload fs name o) := by
  intro n f hf
  rw [declared?_appendOverload, hf]
  refine ⟨_, rfl, fun o' ho' ↦ ?_⟩
  dsimp only
  split
  · exact List.mem_append_left _ ho'
  · exact ho'

theorem extends_of_addOverload {fs gs : List FunctionDecl} {name : String} {o : Overload}
    (h : addOverload name fs o = .ok gs) : Extends fs gs := by
  rw [addOverload] at h
  obtain ⟨-, -, h⟩ := Except.bind_eq_ok_iff.1 h
  split at h
  · cases h
    exact .refl fs
  · split at h
    · cases h
    · cases h
      exact extends_appendOverload fs name o

/-- One declaration adds to what is there. -/
theorem extends_of_declare {fs gs : List FunctionDecl} {f : FunctionDecl}
    (h : declare fs f = .ok gs) : Extends fs gs :=
  Except.foldlM_induction (fun _ _ _ _ ha h ↦ ha.trans (extends_of_addOverload h))
    (extends_ensure fs f.name) h

/-- **All declarations together add to what is there.** -/
theorem extends_of_foldlM_declare {fs gs ds : List FunctionDecl}
    (h : ds.foldlM declare fs = .ok gs) : Extends fs gs :=
  Except.foldlM_induction (fun _ _ _ _ ha h ↦ ha.trans (extends_of_declare h)) (.refl fs) h

/-- A variable stays bound when others are. -/
theorem lookup_of_foldlM_declareVariable {vs ws xs : List (String × Ty)} {name : String} {ty : Ty}
    (hbound : vs.lookup name = some ty) (h : xs.foldlM declareVariable vs = .ok ws) :
    ws.lookup name = some ty := by
  refine Except.foldlM_induction (P := fun bs ↦ bs.lookup name = some ty)
    (fun x _ a b ha hstep ↦ ?_) hbound h
  rw [declareVariable] at hstep
  split at hstep
  · cases hstep
  · cases hstep
    rw [List.lookup_append, ha, Option.some_or]

/-! ## Built scopes -/

namespace Plan

variable {p : Plan} {s : Scope}

/-- A scope is built by declaring everything, and there is nothing allowed that was not declared. -/
theorem build_eq_ok_iff : p.build = .ok s ↔
    p.functions.foldlM declare p.visible = .ok s.functions ∧
      (∀ name ∈ p.allowed, declares s.functions name = true) ∧
      p.bindings.foldlM declareVariable [(p.subject, .dyn)] = .ok s.bindings ∧
      s.subject = p.subject := by
  have hallowed : ∀ fs : List FunctionDecl,
      (p.allowed.names.find? fun name ↦ !declares fs name) = none ↔
        ∀ name ∈ p.allowed, declares fs name = true := by
    intro fs
    simp [List.find?_eq_none, NameSet.mem_def]
  rw [build_eq, Except.bind_eq_ok_iff]
  constructor
  · rintro ⟨functions, hfunctions, h⟩
    rw [complete] at h
    split at h
    · cases h
    next hfind =>
      obtain ⟨bindings, hbindings, ⟨⟩⟩ := Except.bind_eq_ok_iff.1 h
      exact ⟨Except.mapError_eq_ok_iff.1 hfunctions, (hallowed _).1 hfind, hbindings, rfl⟩
  · rintro ⟨hfunctions, hdeclared, hbindings, hsubject⟩
    refine ⟨s.functions, Except.mapError_eq_ok_iff.2 hfunctions, ?_⟩
    rw [complete, (hallowed _).2 hdeclared]
    refine Except.bind_eq_ok_iff.2 ⟨s.bindings, hbindings, ?_⟩
    rw [← hsubject]
    rfl

/-- **An allowed standard function keeps its overloads**, whatever else is declared. -/
theorem exists_function? (h : p.build = .ok s) {b : Builtin}
    (hb : p.allowed.contains b.name = true) :
    ∃ f ∈ Standard.table, f.name = b.name ∧
      ∃ g, s.function? b.name = some g ∧ ∀ o ∈ f.overloads, o ∈ g.overloads := by
  obtain ⟨hfunctions, -, -, -⟩ := build_eq_ok_iff.1 h
  obtain ⟨f₀, hf₀, hname₀⟩ := Standard.exists_mem_table b
  have hsome : (declared? p.visible b.name).isSome = true := by
    rw [declared?, List.find?_isSome]
    refine ⟨f₀, List.mem_filter.2 ⟨hf₀, ?_⟩, ?_⟩
    · rw [hname₀]
      exact hb
    · rw [hname₀]
      exact beq_self_eq_true _
  obtain ⟨f, hf⟩ := Option.isSome_iff_exists.1 hsome
  have hmem : f ∈ p.visible := List.mem_of_find?_eq_some hf
  have hname : f.name = b.name := by simpa using List.find?_some hf
  exact ⟨f, (List.mem_filter.1 hmem).1, hname, extends_of_foldlM_declare hfunctions b.name f hf⟩

/-- **The subject is bound**, whatever else is. -/
theorem typeOf?_subject (h : p.build = .ok s) : s.typeOf? p.subject = some .dyn := by
  obtain ⟨-, -, hbindings, -⟩ := build_eq_ok_iff.1 h
  exact lookup_of_foldlM_declareVariable List.lookup_cons_self hbindings

/-! Without further declarations there is nothing else in a scope. -/

theorem mem_table_of_function? (h : p.build = .ok s) (hplain : p.functions = []) {name : String}
    {f : FunctionDecl} (hf : s.function? name = some f) :
    f ∈ Standard.table ∧ f.name = name ∧ p.allowed.contains name = true := by
  obtain ⟨hfunctions, -, -, -⟩ := build_eq_ok_iff.1 h
  rw [hplain] at hfunctions
  have hvisible : p.visible = s.functions := Except.ok.inj hfunctions
  have hmem : f ∈ p.visible := hvisible ▸ List.mem_of_find?_eq_some hf
  obtain ⟨hmem, hallowed⟩ := List.mem_filter.1 hmem
  have hname : f.name = name := by simpa using List.find?_some hf
  exact ⟨hmem, hname, hname ▸ hallowed⟩

theorem eq_subject_of_typeOf? (h : p.build = .ok s) (hplain : p.bindings = []) {name : String}
    (hname : (s.typeOf? name).isSome = true) : name = p.subject := by
  obtain ⟨-, -, hbindings, -⟩ := build_eq_ok_iff.1 h
  rw [hplain] at hbindings
  have honly : [(p.subject, Ty.dyn)] = s.bindings := Except.ok.inj hbindings
  rw [typeOf?, ← honly, List.lookup_cons] at hname
  split at hname
  next heq => exact eq_of_beq heq
  next => cases hname

/-! ## What it takes, and what it comes to -/

/-- **When there is a scope**: overloads are well formed and go together, what is allowed is
declared, and variables have names of their own. -/
theorem exists_build_iff : (∃ s, p.build = .ok s) ↔
    ((∀ x ∈ entries p.functions, x.2.fault? = none) ∧
      Compatible (entries p.visible ++ entries p.functions)) ∧
      (∀ name ∈ p.allowed, name ∈ p.visible.map FunctionDecl.name ∨
        name ∈ p.functions.map FunctionDecl.name) ∧
      (p.subject :: p.bindings.map Prod.fst).Nodup := by
  have hcoherent := p.coherent_visible
  have hvariables : ∀ ws, p.bindings.foldlM declareVariable [(p.subject, .dyn)] = .ok ws ↔
      (p.subject :: p.bindings.map Prod.fst).Nodup ∧ ws = (p.subject, .dyn) :: p.bindings :=
    fun ws ↦ foldlM_declareVariable_eq_ok_iff (by simp)
  rw [← exists_foldlM_declare_iff hcoherent]
  constructor
  · rintro ⟨s, hs⟩
    obtain ⟨hfunctions, hallowed, hbindings, -⟩ := build_eq_ok_iff.1 hs
    refine ⟨⟨s.functions, hfunctions⟩, fun name hname ↦ ?_, ((hvariables _).1 hbindings).1⟩
    rw [← mem_names_of_foldlM_declare hcoherent hfunctions]
    exact declares_iff.1 (hallowed name hname)
  · rintro ⟨⟨gs, hgs⟩, hallowed, hnodup⟩
    refine ⟨⟨p.subject, (p.subject, .dyn) :: p.bindings, gs⟩, build_eq_ok_iff.2
      ⟨hgs, fun name hname ↦ ?_, (hvariables _).2 ⟨hnodup, rfl⟩, rfl⟩⟩
    rw [declares_iff, mem_names_of_foldlM_declare hcoherent hgs]
    exact hallowed name hname

/-- **What is in a scope**: what was visible and what was declared. -/
theorem contents_of_build (h : p.build = .ok s) :
    Coherent s.functions ∧
      (∀ name, name ∈ s.functions.map FunctionDecl.name ↔
        name ∈ p.visible.map FunctionDecl.name ∨ name ∈ p.functions.map FunctionDecl.name) ∧
      (∀ x, x ∈ entries s.functions ↔ x ∈ entries p.visible ∨ x ∈ entries p.functions) ∧
      (s.bindings.map Prod.fst).Nodup ∧ s.bindings = (p.subject, .dyn) :: p.bindings ∧
      s.subject = p.subject := by
  obtain ⟨hfunctions, -, hbindings, hsubject⟩ := build_eq_ok_iff.1 h
  obtain ⟨hcoherent, hentries⟩ := foldlM_declare_entries p.coherent_visible hfunctions
  obtain ⟨hnodup, hs⟩ := (foldlM_declareVariable_eq_ok_iff (by simp)).1 hbindings
  exact ⟨hcoherent, mem_names_of_foldlM_declare p.coherent_visible hfunctions, hentries,
    hs ▸ hnodup, hs, hsubject⟩

end Plan

end Scope

end WhereClause
