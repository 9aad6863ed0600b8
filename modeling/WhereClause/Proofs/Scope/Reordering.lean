import WhereClause.Proofs.Scope.Built
import WhereClause.Proofs.Scope.Check

/-!
# The order of declarations

A scope lists its functions and their overloads in the order in which they were declared, so two
plans that declare the same things in another order have different scopes.  But nobody who asks a
scope for a function, for a variable or for its opinion of a tree can tell.

`Scope.Alike` says what two such scopes have in common, and `Scope.Alike.check_eq` that it is enough
for the check, down to the error.  **Plans with the same declarations in any order, any of them
repeated, have scopes that are alike**, or none has a scope at all: a scope is settled by the
entries of its functions, whatever their order (`Scope.alike_of_entries`).  Variables may be
reordered too, though not repeated, since a variable declared twice is an error.
-/

set_option autoImplicit false

namespace WhereClause.Scope

/-- The same functions with the same overloads, and the same variables, in any order. -/
structure Alike (s t : Scope) : Prop where
  subject : s.subject = t.subject
  names : (s.functions.map FunctionDecl.name).Perm (t.functions.map FunctionDecl.name)
  /-- A function is in both or in neither, with the same overloads. -/
  functions : ∀ name, Option.Rel (fun f g ↦ f.overloads.Perm g.overloads)
    (s.function? name) (t.function? name)
  bindings : s.bindings.Perm t.bindings
  /-- A variable is in both or in neither, with the same type. -/
  types : ∀ name, s.typeOf? name = t.typeOf? name

/-! ## The check -/

namespace Alike

variable {s t : Scope}

theorem checkCall_eq (h : Alike s t) (function : String) (args : Nat) (member : Bool) :
    s.checkCall function args member = t.checkCall function args member := by
  have hfunctions := h.functions function
  rw [checkCall, checkCall]
  generalize s.function? function = f, t.function? function = g at hfunctions
  cases hfunctions with
  | none => rfl
  | @some f g hperm =>
    have haccepts : f.accepts args member = g.accepts args member := by
      rw [FunctionDecl.accepts, FunctionDecl.accepts, hperm.any_eq]
    simp only [haccepts]

/-- **Scopes that are alike judge every tree alike.** -/
theorem check_eq (h : Alike s t) (e : Expr) : s.check e = t.check e := by
  have hall : ∀ es : List Expr, (∀ e ∈ es, s.check e = t.check e) →
      s.checkAll es = t.checkAll es := by
    intro es hes
    induction es with
    | nil => rw [checkAll, checkAll]
    | cons e es ih =>
      rw [List.forall_mem_cons] at hes
      rw [checkAll, checkAll, hes.1, ih hes.2]
  induction e using Expr.nodeInduction with
  | literal v => rw [check, check]
  | ident name => rw [check, check, h.types name]
  | select operand field ih => rw [check, check, ih]
  | call function target args iht iha =>
    have htarget : s.checkTarget target = t.checkTarget target := by
      cases target with
      | none => rw [checkTarget, checkTarget]
      | some r => rw [checkTarget, checkTarget, iht r rfl]
    rw [check, check, h.checkCall_eq, htarget, hall args iha]
  | list elements ih => rw [check, check, hall elements ih]

end Alike

/-! ## Plans with the same declarations -/

/-- Scopes with the same names, the same entries and the same variables are alike. -/
theorem alike_of_entries {s t : Scope} (hs : Coherent s.functions) (ht : Coherent t.functions)
    (hnames : ∀ name, name ∈ s.functions.map FunctionDecl.name ↔
      name ∈ t.functions.map FunctionDecl.name)
    (hentries : ∀ x, x ∈ entries s.functions ↔ x ∈ entries t.functions)
    (hnodup : (s.bindings.map Prod.fst).Nodup) (hbindings : s.bindings.Perm t.bindings)
    (hsubject : s.subject = t.subject) : Alike s t := by
  refine ⟨hsubject, (List.perm_ext_iff_of_nodup hs.names ht.names).2 hnames, fun name ↦ ?_,
    hbindings, fun name ↦ ?_⟩
  · cases hf : s.function? name with
    | none =>
      cases hg : t.function? name with
      | none => exact .none
      | some g =>
        obtain ⟨hmem, hname⟩ := ht.declared?_eq_some_iff.1 hg
        obtain ⟨f, hfmem, hfname⟩ :=
          List.mem_map.1 ((hnames name).2 (List.mem_map.2 ⟨g, hmem, hname⟩))
        have hsome : declared? s.functions name = some f :=
          hs.declared?_eq_some_iff.2 ⟨hfmem, hfname⟩
        rw [function?, hsome] at hf
        cases hf
    | some f =>
      obtain ⟨hfmem, rfl⟩ := hs.declared?_eq_some_iff.1 hf
      obtain ⟨g, hgmem, hgname⟩ := List.mem_map.1 ((hnames f.name).1 (List.mem_map_of_mem hfmem))
      have hg : t.function? f.name = some g := ht.declared?_eq_some_iff.2 ⟨hgmem, hgname⟩
      rw [hg]
      refine .some ((List.perm_ext_iff_of_nodup (hs.overloads_nodup hfmem)
        (ht.overloads_nodup hgmem)).2 fun o ↦ ?_)
      rw [hs.mem_overloads_iff hfmem, hentries, ht.mem_overloads_iff hgmem, hgname]
  · have hnodup' : (t.bindings.map Prod.fst).Nodup := (hbindings.map _).nodup_iff.1 hnodup
    refine Option.ext fun ty ↦ ?_
    rw [typeOf?, typeOf?, lookup_eq_some_iff_mem hnodup, lookup_eq_some_iff_mem hnodup',
      hbindings.mem_iff]

namespace Plan

variable {p q : Plan}

/-- **The order of declarations does not matter**, nor how often each function is declared.  Plans
with the same subject, the same allowed names, the same function declarations and the same variables
have scopes that are alike and judge every tree alike, or neither has a scope. -/
theorem alike_of_reordered (hsubject : p.subject = q.subject) (hallowed : p.allowed = q.allowed)
    (hfunctions : ∀ f, f ∈ p.functions ↔ f ∈ q.functions)
    (hbindings : p.bindings.Perm q.bindings) :
    ((∃ s, p.build = .ok s) ↔ ∃ t, q.build = .ok t) ∧
      ∀ s t, p.build = .ok s → q.build = .ok t → Alike s t ∧ ∀ e, s.check e = t.check e := by
  have hvisible : p.visible = q.visible := by rw [visible, visible, hallowed]
  have hentries : ∀ x, x ∈ entries p.functions ↔ x ∈ entries q.functions := by
    intro x
    simp only [mem_entries, hfunctions]
  have hnames : ∀ name, name ∈ p.functions.map FunctionDecl.name ↔
      name ∈ q.functions.map FunctionDecl.name := by
    intro name
    simp only [List.mem_map, hfunctions]
  constructor
  · have hcompatible : Compatible (entries p.visible ++ entries p.functions) ↔
        Compatible (entries q.visible ++ entries q.functions) := by
      simp only [Compatible, List.mem_append, hentries, hvisible]
    have hnodup : (p.subject :: p.bindings.map Prod.fst).Nodup ↔
        (q.subject :: q.bindings.map Prod.fst).Nodup := by
      rw [hsubject]
      exact ((hbindings.map _).cons _).nodup_iff
    rw [exists_build_iff, exists_build_iff, hcompatible, hnodup, hallowed, hvisible]
    simp only [hentries, hnames]
  · intro s t hs ht
    obtain ⟨hcs, hns, hes, hds, hbs, hss⟩ := contents_of_build hs
    obtain ⟨hct, hnt, het, -, hbt, hst⟩ := contents_of_build ht
    have halike : Alike s t := by
      refine alike_of_entries hcs hct (fun name ↦ ?_) (fun x ↦ ?_) hds ?_ ?_
      · rw [hns, hnt, hvisible, hnames]
      · rw [hes, het, hvisible, hentries]
      · rw [hbs, hbt, hsubject]
        exact hbindings.cons _
      · rw [hss, hst, hsubject]
    exact ⟨halike, halike.check_eq⟩

/-- A function in two parts, one of them declared twice, and two variables.  The scopes differ, but
are alike. -/
theorem alike_of_reordered_parts :
    ∃ s t,
      build { Plan.default with
        functions := [⟨"near", [⟨"near_int", [.int, .int], .bool, true⟩]⟩,
          ⟨"near", [⟨"near_text", [.string, .string, .int], .bool, true⟩]⟩,
          ⟨"near", [⟨"near_int", [.int, .int], .bool, true⟩]⟩]
        bindings := [("me", .string), ("now", .timestamp)] } = .ok s ∧
      build { Plan.default with
        functions := [⟨"near", [⟨"near_text", [.string, .string, .int], .bool, true⟩]⟩,
          ⟨"near", [⟨"near_int", [.int, .int], .bool, true⟩]⟩]
        bindings := [("now", .timestamp), ("me", .string)] } = .ok t ∧
      s ≠ t ∧ Alike s t ∧ ∀ e, s.check e = t.check e := by
  have hsame := alike_of_reordered
    (p := { Plan.default with
      functions := [⟨"near", [⟨"near_int", [.int, .int], .bool, true⟩]⟩,
        ⟨"near", [⟨"near_text", [.string, .string, .int], .bool, true⟩]⟩,
        ⟨"near", [⟨"near_int", [.int, .int], .bool, true⟩]⟩]
      bindings := [("me", .string), ("now", .timestamp)] })
    (q := { Plan.default with
      functions := [⟨"near", [⟨"near_text", [.string, .string, .int], .bool, true⟩]⟩,
        ⟨"near", [⟨"near_int", [.int, .int], .bool, true⟩]⟩]
      bindings := [("now", .timestamp), ("me", .string)] })
    rfl rfl (by simp) (List.Perm.swap _ _ _)
  obtain ⟨t, ht⟩ : ∃ t, build { Plan.default with
      functions := [⟨"near", [⟨"near_text", [.string, .string, .int], .bool, true⟩]⟩,
        ⟨"near", [⟨"near_int", [.int, .int], .bool, true⟩]⟩]
      bindings := [("now", .timestamp), ("me", .string)] } = .ok t := by
    rw [build_eq]
    exact Except.exists_eq_ok (by decide +kernel)
  obtain ⟨s, hs⟩ := hsame.1.2 ⟨t, ht⟩
  refine ⟨s, t, hs, ht, ?_, hsame.2 s t hs ht⟩
  rintro rfl
  have hbs := (contents_of_build hs).2.2.2.2.1
  rw [(contents_of_build ht).2.2.2.2.1] at hbs
  revert hbs
  decide

end Plan

end WhereClause.Scope
