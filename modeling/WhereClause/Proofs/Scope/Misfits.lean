import WhereClause.Proofs.Scope.Check

/-!
# The first node that does not fit

`Scope.check` goes down into a tree and comes back with one error at most.  Here the tree is laid
out as the list of its nodes, and `Scope.Misfits` says what can be wrong with a node whatever its
operands are.  **The error of the check is that of the first node in the list with something wrong**
(`Scope.failure?_check`), so that the check passes the trees in which every node fits.
-/

set_option autoImplicit false

namespace WhereClause

open WhereClause.Expr

namespace Scope

variable {s : Scope}

/-- What is wrong with a node of a tree, whatever its operands are. -/
inductive Misfits (s : Scope) : Expr → CheckError → Prop
  /-- A name that no variable has. -/
  | reference {name : String} (hname : s.typeOf? name = none) :
    Misfits s (ident name) (.undeclaredReference name)
  /-- A call of a function that is not there. -/
  | function {function : String} {target : Option Expr} {args : List Expr}
      (hfunction : s.function? function = none) :
    Misfits s (call function target args) (.undeclaredFunction function)
  /-- A call of a function none of whose overloads is called in the same way and has a parameter for
  every argument and one more for a receiver. -/
  | overload {function : String} {target : Option Expr} {args : List Expr} {f : FunctionDecl}
      (hfunction : s.function? function = some f)
      (hoverloads : ¬ ∃ o ∈ f.overloads, o.member = target.isSome ∧
        o.params.length = args.length + if target.isSome then 1 else 0) :
    Misfits s (call function target args)
      (.noMatchingOverload function args.length target.isSome)

/-- What is wrong with a node of a tree, found without looking at its operands. -/
def nodeFault? (s : Scope) : Expr → Option CheckError
  | .ident name => if (s.typeOf? name).isSome then none else some (.undeclaredReference name)
  | .call function target args => (s.checkCall function args.length target.isSome).failure?
  | _ => none

theorem accepts_iff_exists {f : FunctionDecl} {args : Nat} {member : Bool} :
    f.accepts args member = true ↔ ∃ o ∈ f.overloads, o.member = member ∧
      o.params.length = args + if member then 1 else 0 := by
  rw [FunctionDecl.accepts, List.any_eq_true]
  exact exists_congr fun o ↦ and_congr_right fun _ ↦ Overload.accepts_iff

theorem nodeFault?_eq_some_iff {e : Expr} {error : CheckError} :
    s.nodeFault? e = some error ↔ s.Misfits e error := by
  constructor
  · intro h
    cases e with
    | ident name =>
      rw [nodeFault?] at h
      split at h
      · cases h
      next hname =>
        cases h
        exact .reference (by simpa using hname)
    | call function target args =>
      rw [nodeFault?, Except.failure?_eq_some_iff, checkCall] at h
      split at h
      next hfunction =>
        cases h
        exact .function hfunction
      next f hfunction =>
        split at h
        · cases h
        next haccepts =>
          cases h
          exact .overload hfunction fun ho ↦ haccepts (accepts_iff_exists.2 ho)
    | _ => cases h
  · intro h
    cases h with
    | reference hname => simp [nodeFault?, hname]
    | function hfunction =>
      simp [nodeFault?, checkCall, hfunction, Except.failure?_eq_some_iff]
    | overload hfunction hoverloads =>
      rw [← accepts_iff_exists, Bool.not_eq_true] at hoverloads
      simp [nodeFault?, checkCall, hfunction, hoverloads, Except.failure?_eq_some_iff]

theorem nodeFault?_eq_none_iff {e : Expr} :
    s.nodeFault? e = none ↔ ∀ error, ¬ s.Misfits e error := by
  simp only [Option.eq_none_iff_forall_ne_some, ne_eq, nodeFault?_eq_some_iff]

theorem nodeFault?_ident_eq_none_iff {name : String} :
    s.nodeFault? (ident name) = none ↔ ∃ ty, s.typeOf? name = some ty := by
  rw [nodeFault?, ← Option.isSome_iff_exists]
  split <;> simp_all

theorem nodeFault?_call_eq_none_iff {function : String} {target : Option Expr} {args : List Expr} :
    s.nodeFault? (call function target args) = none ↔
      ∃ f, s.function? function = some f ∧ ∃ o ∈ f.overloads, o.member = target.isSome ∧
        o.params.length = args.length + if target.isSome then 1 else 0 := by
  rw [nodeFault?, Except.failure?_eq_none_iff, checkCall_eq_ok_iff]
  simp only [accepts_iff_exists]

theorem failure?_checkAll {es : List Expr}
    (h : ∀ e ∈ es, (s.check e).failure? = e.nodes.findSome? s.nodeFault?) :
    (s.checkAll es).failure? = (nodesAll es).findSome? s.nodeFault? := by
  induction es with
  | nil =>
    rw [checkAll, nodesAll]
    rfl
  | cons e es ih =>
    rw [List.forall_mem_cons] at h
    rw [checkAll, nodesAll, List.findSome?_append, Except.failure?_bind fun _ ↦ ih h.2, h.1]

/-- **The check finds the first node at fault.** -/
theorem failure?_check (s : Scope) (e : Expr) :
    (s.check e).failure? = e.nodes.findSome? s.nodeFault? := by
  induction e using Expr.nodeInduction with
  | literal value =>
    rw [check, nodes]
    rfl
  | ident name =>
    rw [check, nodes, List.findSome?_singleton, nodeFault?]
    split <;> rfl
  | select operand field ih =>
    rw [check, nodes, ih, List.findSome?_cons]
    rfl
  | call function target args iht iha =>
    have htarget : (s.checkTarget target).failure? =
        (targetNodes target).findSome? s.nodeFault? := by
      cases target with
      | none =>
        rw [checkTarget, targetNodes]
        rfl
      | some t => rw [checkTarget, targetNodes, iht t rfl]
    have hoperands : (do s.checkTarget target; s.checkAll args).failure? =
        (targetNodes target ++ nodesAll args).findSome? s.nodeFault? := by
      rw [List.findSome?_append, ← htarget]
      exact Except.failure?_bind fun _ ↦ failure?_checkAll iha
    rw [check, nodes, List.findSome?_cons, Except.failure?_bind fun _ ↦ hoperands, ← nodeFault?]
    cases s.nodeFault? (call function target args) <;> rfl
  | list elements ih =>
    rw [check, nodes, failure?_checkAll ih, List.findSome?_cons]
    rfl

end Scope

end WhereClause
