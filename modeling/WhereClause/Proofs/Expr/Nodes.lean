import WhereClause.Expr

/-!
# The nodes of a tree

A call holds its receiver in an option and its arguments in a list, so the induction that comes with
`Expr` speaks of three types at once.  `Expr.nodeInduction` is the one to use: a hypothesis for the
receiver, if there is one, and a hypothesis for every argument.  Where all kinds of nodes are
treated alike, `Expr.operandInduction` has one case, with a hypothesis for every operand.

Two lists are read off a tree.

* `Expr.nodes` — every node, a call before its receiver and the receiver before the arguments.
* `Expr.chains` — the chains of field selections, each taken as a whole: `i.a.b` is one chain, and
  `i.a` inside it is not another.
-/

set_option autoImplicit false

namespace WhereClause.Expr

/-- **Induction over trees**, with a hypothesis for every operand of a node. -/
@[elab_as_elim]
theorem nodeInduction {motive : Expr → Prop}
    (literal : ∀ value, motive (.literal value))
    (ident : ∀ name, motive (.ident name))
    (select : ∀ operand field, motive operand → motive (.select operand field))
    (call : ∀ function target args, (∀ t ∈ target, motive t) → (∀ a ∈ args, motive a) →
      motive (.call function target args))
    (list : ∀ elements, (∀ e ∈ elements, motive e) → motive (.list elements)) (e : Expr) :
    motive e := by
  refine @Expr.rec motive (fun target ↦ ∀ t ∈ target, motive t) (fun es ↦ ∀ e ∈ es, motive e)
    literal ident select call list ?_ ?_ ?_ ?_ e
  · intro t ht
    cases ht
  · intro target h t ht
    cases ht
    exact h
  · intro e he
    cases he
  · intro e es h hes x hx
    rcases List.mem_cons.1 hx with rfl | hx
    · exact h
    · exact hes x hx

/-- The operands of the node at the root of a tree. -/
def operands : Expr → List Expr
  | .literal _ => []
  | .ident _ => []
  | .select operand _ => [operand]
  | .call _ target args => target.toList ++ args
  | .list elements => elements

/-- Induction over trees that treats all kinds of nodes alike. -/
@[elab_as_elim]
theorem operandInduction {motive : Expr → Prop}
    (node : ∀ e : Expr, (∀ x ∈ e.operands, motive x) → motive e) (e : Expr) : motive e := by
  induction e using nodeInduction with
  | literal value => exact node _ (by simp [operands])
  | ident name => exact node _ (by simp [operands])
  | select operand field h => exact node _ (by simpa [operands] using h)
  | call function target args htarget hargs =>
    refine node _ fun x hx ↦ ?_
    rcases List.mem_append.1 hx with hx | hx
    · exact htarget x (Option.mem_toList.1 hx)
    · exact hargs x hx
  | list elements h => exact node _ h

/-! ## All nodes -/

mutual

/-- All nodes of a tree, from the root and from left to right. -/
def nodes : Expr → List Expr
  | .literal value => [.literal value]
  | .ident name => [.ident name]
  | .select operand field => .select operand field :: operand.nodes
  | .call function target args =>
    .call function target args :: (targetNodes target ++ nodesAll args)
  | .list elements => .list elements :: nodesAll elements

/-- All nodes of a receiver. -/
def targetNodes : Option Expr → List Expr
  | none => []
  | some target => target.nodes

/-- All nodes of several trees. -/
def nodesAll : List Expr → List Expr
  | [] => []
  | e :: es => e.nodes ++ nodesAll es

end

theorem self_mem_nodes (e : Expr) : e ∈ e.nodes := by
  cases e <;> simp [nodes]

theorem mem_nodesAll {x : Expr} {es : List Expr} : x ∈ nodesAll es ↔ ∃ e ∈ es, x ∈ e.nodes := by
  induction es with
  | nil => simp [nodesAll]
  | cons e es ih => simp [nodesAll, ih]

theorem mem_nodes_call {x : Expr} {function : String} {target : Option Expr} {args : List Expr} :
    x ∈ (call function target args).nodes ↔
      x = call function target args ∨ (∃ t ∈ target, x ∈ t.nodes) ∨ ∃ a ∈ args, x ∈ a.nodes := by
  cases target <;> simp [nodes, targetNodes, mem_nodesAll]

/-- The nodes of a tree are its root and the nodes of its operands. -/
theorem mem_nodes_iff {x e : Expr} : x ∈ e.nodes ↔ x = e ∨ ∃ y ∈ e.operands, x ∈ y.nodes := by
  cases e with
  | literal value => simp [nodes, operands]
  | ident name => simp [nodes, operands]
  | select operand field => simp [nodes, operands]
  | call function target args =>
    simp only [mem_nodes_call, operands, List.mem_append, Option.mem_toList, Option.mem_def,
      or_and_right, exists_or]
  | list elements => simp [nodes, operands, mem_nodesAll]

/-- What is in a part of a tree is in the tree. -/
theorem nodes_trans {x y e : Expr} (hx : x ∈ y.nodes) (hy : y ∈ e.nodes) : x ∈ e.nodes := by
  induction e using operandInduction with
  | node e ih =>
    rcases mem_nodes_iff.1 hy with rfl | ⟨z, hz, hy⟩
    · exact hx
    · exact mem_nodes_iff.2 (.inr ⟨z, hz, ih z hz hy⟩)

theorem mem_nodes_of_target {x t : Expr} {function : String} {args : List Expr} (h : x ∈ t.nodes) :
    x ∈ (call function (some t) args).nodes :=
  mem_nodes_call.2 (.inr (.inl ⟨t, rfl, h⟩))

theorem mem_nodes_of_arg {x a : Expr} {function : String} {target : Option Expr} {args : List Expr}
    (ha : a ∈ args) (h : x ∈ a.nodes) : x ∈ (call function target args).nodes :=
  mem_nodes_call.2 (.inr (.inr ⟨a, ha, h⟩))

/-! ## Chains of field selections -/

mutual

/-- The chains of field selections in a tree; with `inside`, the tree is itself the operand of a
selection, so that a selection at its root only continues a chain. -/
def chainsFrom (inside : Bool) : Expr → List Expr
  | .literal _ => []
  | .ident _ => []
  | .select operand field =>
    (if inside then [] else [.select operand field]) ++ operand.chainsFrom true
  | .call _ target args => targetChains target ++ chainsAll args
  | .list elements => chainsAll elements

/-- The chains of field selections in a receiver. -/
def targetChains : Option Expr → List Expr
  | none => []
  | some target => target.chainsFrom false

/-- The chains of field selections in several trees. -/
def chainsAll : List Expr → List Expr
  | [] => []
  | e :: es => e.chainsFrom false ++ chainsAll es

end

/-- The chains of field selections in a tree. -/
def chains (e : Expr) : List Expr :=
  e.chainsFrom false

theorem chainsAll_eq_flatMap (es : List Expr) : chainsAll es = es.flatMap chains := by
  induction es with
  | nil => simp [chainsAll]
  | cons e es ih => simp [chainsAll, ih, chains]

@[simp] theorem chains_call (function : String) (target : Option Expr) (args : List Expr) :
    (call function target args).chains = (target.map chains).getD [] ++ args.flatMap chains := by
  cases target <;> simp [chains, chainsFrom, targetChains, chainsAll_eq_flatMap]

theorem select_mem_chains (operand : Expr) (field : String) :
    select operand field ∈ (select operand field).chains := by
  simp [chains, chainsFrom]

/-- A chain is the tree itself, if that is a selection, or a chain of one of the operands. -/
theorem eq_or_mem_operands_of_mem_chainsFrom {x e : Expr} {inside : Bool}
    (h : x ∈ e.chainsFrom inside) :
    (x = e ∧ ∃ operand field, x = select operand field) ∨
      ∃ y ∈ e.operands, ∃ within, x ∈ y.chainsFrom within := by
  cases e with
  | literal value => simp [chainsFrom] at h
  | ident name => simp [chainsFrom] at h
  | select operand field =>
    rw [chainsFrom, List.mem_append] at h
    rcases h with h | h
    · cases inside with
      | true => cases h
      | false =>
        have hx : x = select operand field := List.mem_singleton.1 h
        exact .inl ⟨hx, operand, field, hx⟩
    · exact .inr ⟨operand, List.mem_singleton_self _, true, h⟩
  | call function target args =>
    rw [chainsFrom, List.mem_append, chainsAll_eq_flatMap, List.mem_flatMap] at h
    rcases h with h | ⟨a, ha, h⟩
    · cases target with
      | none => simp [targetChains] at h
      | some t => exact .inr ⟨t, List.mem_append_left _ (List.mem_singleton_self t), false, h⟩
    · exact .inr ⟨a, List.mem_append_right _ ha, false, h⟩
  | list elements =>
    rw [chainsFrom, chainsAll_eq_flatMap, List.mem_flatMap] at h
    obtain ⟨y, hy, h⟩ := h
    exact .inr ⟨y, hy, false, h⟩

/-- Every chain is a selection somewhere in the tree. -/
theorem exists_select_of_mem_chains {x e : Expr} (h : x ∈ e.chains) :
    x ∈ e.nodes ∧ ∃ operand field, x = select operand field := by
  rw [chains] at h
  generalize false = inside at h
  induction e using operandInduction generalizing inside with
  | node e ih =>
    rcases eq_or_mem_operands_of_mem_chainsFrom h with ⟨rfl, hselect⟩ | ⟨y, hy, within, h⟩
    · exact ⟨self_mem_nodes x, hselect⟩
    · obtain ⟨hx, hselect⟩ := ih y hy within h
      exact ⟨mem_nodes_iff.2 (.inr ⟨y, hy, hx⟩), hselect⟩

end WhereClause.Expr
