import WhereClause.Proofs.Expr.Nodes
import WhereClause.Proofs.Sequencing
import WhereClause.Scope.Check
import WhereClause.Sql.Rendering

/-!
# When a tree passes the check

`Scope.check` stops at the first node it does not like.  The lemmas here say what it means that it
liked them all, one for each kind of node, so that nobody else has to look into its `do` blocks.
-/

set_option autoImplicit false

namespace WhereClause.Scope

open WhereClause.Expr

variable {s : Scope}

/-- A call passes if its function is known and accepts it. -/
theorem checkCall_eq_ok_iff {function : String} {args : Nat} {member : Bool} :
    s.checkCall function args member = .ok () ↔
      ∃ f, s.function? function = some f ∧ f.accepts args member = true := by
  rw [checkCall]
  cases s.function? function with
  | none => simp
  | some f => cases h : f.accepts args member <;> simp [h]

theorem check_ident_iff {name : String} :
    s.check (ident name) = .ok () ↔ (s.typeOf? name).isSome = true := by
  rw [check]
  split <;> simp_all

theorem checkTarget_eq_ok_iff {target : Option Expr} :
    s.checkTarget target = .ok () ↔ ∀ t ∈ target, s.check t = .ok () := by
  cases target <;> simp [checkTarget]

theorem checkAll_eq_ok_iff {es : List Expr} :
    s.checkAll es = .ok () ↔ ∀ e ∈ es, s.check e = .ok () := by
  induction es with
  | nil => simp [checkAll]
  | cons e es ih =>
    rw [checkAll, Except.bind_eq_ok_iff, List.forall_mem_cons, ← ih]
    exact ⟨fun ⟨_, he, hes⟩ ↦ ⟨he, hes⟩, fun ⟨he, hes⟩ ↦ ⟨(), he, hes⟩⟩

/-- **A call passes if its function accepts it and its parts pass.** -/
theorem check_call_iff {function : String} {target : Option Expr} {args : List Expr} :
    s.check (call function target args) = .ok () ↔
      s.checkCall function args.length target.isSome = .ok () ∧
        (∀ t ∈ target, s.check t = .ok ()) ∧ ∀ a ∈ args, s.check a = .ok () := by
  rw [check, Except.bind_eq_ok_iff, ← checkTarget_eq_ok_iff, ← checkAll_eq_ok_iff]
  constructor
  · rintro ⟨⟨⟩, hcall, h⟩
    obtain ⟨⟨⟩, htarget, hargs⟩ := Except.bind_eq_ok_iff.1 h
    exact ⟨hcall, htarget, hargs⟩
  · rintro ⟨hcall, htarget, hargs⟩
    exact ⟨(), hcall, Except.bind_eq_ok_iff.2 ⟨(), htarget, hargs⟩⟩

theorem check_globalCall {function : String} {args : List Expr}
    (hcall : s.checkCall function args.length false = .ok ())
    (hargs : ∀ a ∈ args, s.check a = .ok ()) : s.check (globalCall function args) = .ok () :=
  check_call_iff.2 ⟨hcall, fun _ ht ↦ (nomatch ht), hargs⟩

/-- Of a chain of field selections only what it starts from matters. -/
theorem check_chain (e : Expr) : s.check e.chain.1 = s.check e := by
  induction e using Expr.nodeInduction with
  | select operand field ih => rw [chain_select, ih, check]
  | _ => rfl

end WhereClause.Scope
