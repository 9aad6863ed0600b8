import WhereClause.Proofs.Sequencing
import WhereClause.Filter.Lowering

/-!
# Lowering keeps the meaning of a filter

An `Interpretation` makes sense of trees in any way it likes: it says what literals and names mean,
and what a selection, a call and a list mean given the meanings of their parts.  The same
interpretation makes sense of a filter as it is written, before there is a tree
(`Term.interpret?`), once it is said which function each operator calls and that a doubled sign is
the sign twice.  **The two agree** (`Term.interpret?_eq`), so it makes no difference whether a
filter is understood as written or as lowered.

There is one thing that lowering does on its own account: a minus sign in front of a number is taken
into the number.  An interpretation has to allow for that (`Interpretation.FoldsSigns`), though not
for the smallest integer, whose negative is no integer of 64 bits; that sign stays where it is, and
no other negation leaves the range.
-/

set_option autoImplicit false

universe u

namespace WhereClause

/-! ## Trees -/

/-- A way to make sense of trees: a meaning for each kind of node, given those of its parts. -/
structure Interpretation (M : Type u) where
  literal : Value → M
  ident : String → M
  select : M → String → M
  /-- A call, from the name of the function, the receiver and the arguments. -/
  call : String → Option M → List M → M
  list : List M → M

variable {M : Type u}

mutual

/-- The meaning of a tree. -/
def Expr.interpret (I : Interpretation M) : Expr → M
  | .literal value => I.literal value
  | .ident name => I.ident name
  | .select operand field => I.select (operand.interpret I) field
  | .call function target args => I.call function (interpretTarget I target) (interpretAll I args)
  | .list elements => I.list (interpretAll I elements)

/-- The meaning of a receiver. -/
def interpretTarget (I : Interpretation M) : Option Expr → Option M
  | none => none
  | some target => some (target.interpret I)

/-- The meanings of several trees. -/
def interpretAll (I : Interpretation M) : List Expr → List M
  | [] => []
  | e :: es => e.interpret I :: interpretAll I es

end

theorem interpretAll_eq_map (I : Interpretation M) (es : List Expr) :
    interpretAll I es = es.map (Expr.interpret I) := by
  induction es with
  | nil => rw [interpretAll, List.map_nil]
  | cons e es ih => rw [interpretAll, ih, List.map_cons]

theorem interpret_globalCall (I : Interpretation M) (function : String) (args : List Expr) :
    (Expr.globalCall function args).interpret I =
      I.call function none (args.map (Expr.interpret I)) := by
  rw [Expr.globalCall, Expr.interpret, interpretTarget, interpretAll_eq_map]

/-- The meaning of a minus sign in front of a number is the number with its sign turned around,
unless that is out of range. -/
structure Interpretation.FoldsSigns (I : Interpretation M) : Prop where
  int : ∀ i : Int64, i ≠ Int64.minValue →
    I.call "-_" none [I.literal (.int i)] = I.literal (.int (-i))
  double : ∀ d : Binary64, I.call "-_" none [I.literal (.double d)] = I.literal (.double (-d))

/-- Only the smallest integer has no negative. -/
theorem Decimal.int64?_neg (i : Int64) :
    Decimal.int64? (-i.toInt) = if i = Int64.minValue then none else some (-i) := by
  have hle : i.toInt ≤ Int64.maxValue.toInt := i.toInt_le
  have hlt : -2 ^ 63 ≤ i.toInt := i.le_toInt
  rw [Int64.toInt_maxValue] at hle
  rw [Decimal.int64?, Int64.toInt_minValue, Int64.toInt_maxValue]
  by_cases hmin : i = Int64.minValue
  · rw [if_pos hmin, if_neg]
    rw [hmin, Int64.toInt_minValue]
    omega
  · have hne : i.toInt ≠ -2 ^ 63 := by
      rw [← Int64.toInt_minValue]
      exact fun h ↦ hmin (Int64.toInt_inj.1 h)
    rw [if_neg hmin, if_pos (by omega), Int64.ofInt_neg, Int64.ofInt_toInt]

/-- Whole numbers and their sums and products; nothing else means anything. -/
def Interpretation.integers : Interpretation (Option Int) where
  literal
    | .int i => some i.toInt
    | _ => none
  ident _ := none
  select _ _ := none
  call
    | "-_", none, [m] => m.map fun a ↦ -a
    | "_+_", none, [m, n] => do return (← m) + (← n)
    | "_-_", none, [m, n] => do return (← m) - (← n)
    | "_*_", none, [m, n] => do return (← m) * (← n)
    | _, _, _ => none
  list _ := none

theorem Interpretation.integers_foldsSigns : integers.FoldsSigns where
  int i hmin := by
    have hfits : Decimal.int64? (-i.toInt) = some (-i) := by rw [Decimal.int64?_neg, if_neg hmin]
    exact congrArg some (Decimal.toInt_of_int64? hfits).symm
  double _ := rfl

namespace Filter

/-! ## Filters as written -/

/-- The function a sum or a product calls. -/
def Arithmetic.callee : Arithmetic → String
  | .add => "_+_"
  | .subtract => "_-_"
  | .multiply => "_*_"
  | .divide => "_/_"
  | .modulo => "_%_"

/-- The function a comparison calls, or a test for membership. -/
def Relation.callee : Relation → String
  | .lessThan => "_<_"
  | .lessOrEqual => "_<=_"
  | .greaterThan => "_>_"
  | .greaterOrEqual => "_>=_"
  | .equal => "_==_"
  | .notEqual => "_!=_"
  | .member => "@in"

/-- The meaning of a literal; byte strings have none. -/
def Atom.interpret? (I : Interpretation M) : Atom → Option M
  | .null => some (I.literal .null)
  | .bool b => some (I.literal (.bool b))
  | .int i => some (I.literal (.int i))
  | .uint u => some (I.literal (.uint u))
  | .float d => some (I.literal (.double d))
  | .string s => some (I.literal (.string s))
  | .bytes _ => none

/-- The meaning of a sign in front of an operand. -/
def Sign.interpret (I : Interpretation M) (m : M) : Sign → M
  | .not => I.call "!_" none [m]
  | .notNot => I.call "!_" none [I.call "!_" none [m]]
  | .minus => I.call "-_" none [m]
  | .minusMinus => I.call "-_" none [I.call "-_" none [m]]

mutual

/-- The meaning of a filter as it is written, in terms of the meanings of its parts.  There is none
if the filter has a map, a byte string, a message or a call of anything but a name in it. -/
def Term.interpret? (I : Interpretation M) : Term → Option M
  | .atom a => a.interpret? I
  | .ident name => some (I.ident name)
  | .attribute operand name => do return I.select (← operand.interpret? I) name
  | .index operand key => do
    return I.call "_[_]" none [← operand.interpret? I, ← key.interpret? I]
  | .message _ _ => none
  | .call (.ident function) none args => do return I.call function none (← interpretAll? I args)
  | .call (.ident function) (some target) args => do
    return I.call function (some (← target.interpret? I)) (← interpretAll? I args)
  | .call _ _ _ => none
  | .arithmetic op left right => do
    return I.call op.callee none [← left.interpret? I, ← right.interpret? I]
  | .relation op left right => do
    return I.call op.callee none [← left.interpret? I, ← right.interpret? I]
  | .and left right => do
    return I.call "_&&_" none [← left.interpret? I, ← right.interpret? I]
  | .or left right => do
    return I.call "_||_" none [← left.interpret? I, ← right.interpret? I]
  | .unary sign operand => do return sign.interpret I (← operand.interpret? I)
  | .ternary condition yes no => do
    return I.call "_?_:_" none
      [← condition.interpret? I, ← yes.interpret? I, ← no.interpret? I]
  | .list elements => do return I.list (← interpretAll? I elements)
  | .map _ => none

/-- The meanings of several filters. -/
def interpretAll? (I : Interpretation M) : List Term → Option (List M)
  | [] => some []
  | t :: ts => do return (← t.interpret? I) :: (← interpretAll? I ts)

end

/-! ## Signs -/

/-- The sign of an integer is turned around in the integers, and only if the result fits. -/
theorem negated_int (i : Int64) :
    negated (.literal (.int i)) = match Decimal.int64? (-i.toInt) with
      | some j => .literal (.int j)
      | none => .unary .negate (.literal (.int i)) := by
  rw [negated, Decimal.int64?_neg]
  by_cases hmin : i = Int64.minValue
  · rw [if_pos hmin, if_pos hmin]
  · rw [if_neg hmin, if_neg hmin]

theorem interpret_unary (I : Interpretation M) (op : UnaryOp) (e : Expr) :
    (Expr.unary op e).interpret I = I.call op.name none [e.interpret I] :=
  interpret_globalCall I op.name [e]

theorem negated_interpret {I : Interpretation M} (hI : I.FoldsSigns) (e : Expr) :
    (negated e).interpret I = I.call "-_" none [e.interpret I] := by
  rw [negated.eq_def]
  split
  next i =>
    split
    · exact interpret_unary I .negate _
    next hmin => rw [Expr.interpret, Expr.interpret, hI.int i hmin]
  next d => rw [Expr.interpret, Expr.interpret, hI.double d]
  next => exact interpret_unary I .negate _

/-- A sign means the same before and after it is applied. -/
theorem Sign.interpret_apply {I : Interpretation M} (hI : I.FoldsSigns) (sign : Sign) (e : Expr) :
    (sign.apply e).interpret I = sign.interpret I (e.interpret I) := by
  cases sign with
  | not => exact interpret_unary I .not e
  | notNot =>
    rw [Sign.apply, interpret_unary, interpret_unary]
    rfl
  | minus => exact negated_interpret hI e
  | minusMinus =>
    rw [Sign.apply, interpret_unary, interpret_unary]
    rfl

/-! ## Terms -/

/-- **Induction over terms**, with a hypothesis for every operand.  There is none for what stands
inside messages and maps, of which no tree is ever made. -/
@[elab_as_elim]
theorem Term.partInduction {motive : Term → Prop}
    (atom : ∀ a, motive (.atom a))
    (ident : ∀ name, motive (.ident name))
    (field : ∀ operand name, motive operand → motive (.attribute operand name))
    (index : ∀ operand key, motive operand → motive key → motive (.index operand key))
    (message : ∀ operand fields, motive operand → motive (.message operand fields))
    (call : ∀ function target args, motive function → (∀ t ∈ target, motive t) →
      (∀ a ∈ args, motive a) → motive (.call function target args))
    (arithmetic : ∀ op left right, motive left → motive right → motive (.arithmetic op left right))
    (relation : ∀ op left right, motive left → motive right → motive (.relation op left right))
    (and : ∀ left right, motive left → motive right → motive (.and left right))
    (or : ∀ left right, motive left → motive right → motive (.or left right))
    (unary : ∀ sign operand, motive operand → motive (.unary sign operand))
    (ternary : ∀ condition yes no, motive condition → motive yes → motive no →
      motive (.ternary condition yes no))
    (list : ∀ elements, (∀ t ∈ elements, motive t) → motive (.list elements))
    (map : ∀ entries, motive (.map entries)) (t : Term) : motive t := by
  refine @Term.rec motive (fun _ ↦ True) (fun target ↦ ∀ t ∈ target, motive t)
    (fun ts ↦ ∀ t ∈ ts, motive t) (fun _ ↦ True) (fun _ ↦ True) (fun _ ↦ True)
    atom ident field index (fun operand fields h _ ↦ message operand fields h) call arithmetic
    relation and or unary ternary list (fun entries _ ↦ map entries) ?_ ?_ ?_ ?_ ?_ ?_ ?_ ?_ ?_ ?_ t
  · trivial
  · intros
    trivial
  · intro t ht
    cases ht
  · intro t h t' ht
    cases ht
    exact h
  · intro t ht
    cases ht
  · intro t ts h hts t' ht
    rcases List.mem_cons.1 ht with rfl | ht
    · exact h
    · exact hts t' ht
  · trivial
  · intros
    trivial
  · intros
    trivial
  · intros
    trivial

variable {I : Interpretation M}

/-- The meaning of a literal is that of its value. -/
theorem Atom.interpret?_eq (I : Interpretation M) (a : Atom) :
    a.interpret? I = a.value.toOption.map I.literal := by
  cases a <;> rfl

theorem Arithmetic.callee_eq (op : Arithmetic) : op.callee = op.binaryOp.name := by
  cases op <;> rfl

theorem Relation.callee_eq (op : Relation) : op.callee = op.function := by
  cases op <;> rfl

/-- What is made of a part that keeps its meaning keeps its meaning. -/
theorem interpret?_map {α : Type} {β : Type u} {x : Except Construct α} {m : Option β} {g : α → β}
    {f : α → Expr} {k : β → M} (hm : m = x.toOption.map g)
    (hk : ∀ a, k (g a) = (f a).interpret I) :
    (do return k (← m)) =
      (do return f (← x) : Except Construct Expr).toOption.map (Expr.interpret I) := by
  subst hm
  cases x with
  | error c => rfl
  | ok a => exact congrArg some (hk a)

/-- Two operands that keep their meaning make a call that does. -/
theorem interpret?_pair {x y : Except Construct Expr} {m n : Option M} (function : String)
    (hx : m = x.toOption.map (Expr.interpret I)) (hy : n = y.toOption.map (Expr.interpret I)) :
    (do return I.call function none [← m, ← n]) =
      (do return .globalCall function [← x, ← y] : Except Construct Expr).toOption.map
        (Expr.interpret I) := by
  subst hx
  cases x with
  | error c => rfl
  | ok l => exact interpret?_map hy fun r ↦ (interpret_globalCall I function [l, r]).symm

theorem interpretAll?_eq {ts : List Term}
    (h : ∀ t ∈ ts, t.interpret? I = t.lower.toOption.map (Expr.interpret I)) :
    interpretAll? I ts = (lowerAll ts).toOption.map (interpretAll I) := by
  induction ts with
  | nil =>
    rw [interpretAll?, lowerAll]
    exact congrArg some (by rw [interpretAll])
  | cons t ts ih =>
    rw [List.forall_mem_cons] at h
    rw [interpretAll?, lowerAll, h.1, ih h.2]
    cases t.lower with
    | error c => rfl
    | ok e =>
      cases lowerAll ts with
      | error c => rfl
      | ok es => exact congrArg some (by rw [interpretAll])

/-- **A term has a meaning if it has a tree, and it is that of the tree.** -/
theorem Term.interpret?_eq (hI : I.FoldsSigns) (t : Term) :
    t.interpret? I = t.lower.toOption.map (Expr.interpret I) := by
  induction t using Term.partInduction with
  | atom a =>
    rw [Term.interpret?, Term.lower, Atom.interpret?_eq]
    cases a.value with
    | error c => rfl
    | ok v => exact congrArg some (by rw [Expr.interpret])
  | ident name =>
    rw [Term.interpret?, Term.lower]
    exact congrArg some (by rw [Expr.interpret])
  | field operand name ih =>
    rw [Term.interpret?, Term.lower]
    exact interpret?_map ih fun e ↦ by rw [Expr.interpret]
  | index operand key iho ihk =>
    rw [Term.interpret?, Term.lower]
    exact interpret?_pair _ iho ihk
  | message operand fields ih =>
    rw [Term.interpret?, Term.lower]
    cases operand.lower <;> rfl
  | call function target args _ iht iha =>
    have hargs := interpretAll?_eq iha
    cases function with
    | ident name =>
      cases target with
      | none =>
        rw [Term.interpret?, Term.lower]
        exact interpret?_map hargs fun es ↦ by rw [interpret_globalCall, interpretAll_eq_map]
      | some t =>
        rw [Term.interpret?, Term.lower, iht t rfl]
        cases t.lower with
        | error c => rfl
        | ok e =>
          exact interpret?_map hargs fun es ↦ by rw [Expr.method, Expr.interpret, interpretTarget]
    | _ => simp [Term.interpret?, Term.lower, Except.toOption]
  | arithmetic op left right ihl ihr =>
    rw [Term.interpret?, Term.lower, op.callee_eq]
    exact interpret?_pair _ ihl ihr
  | relation op left right ihl ihr =>
    rw [Term.interpret?, Term.lower, op.callee_eq]
    exact interpret?_pair _ ihl ihr
  | and left right ihl ihr =>
    rw [Term.interpret?, Term.lower]
    exact interpret?_pair _ ihl ihr
  | or left right ihl ihr =>
    rw [Term.interpret?, Term.lower]
    exact interpret?_pair _ ihl ihr
  | unary sign operand ih =>
    rw [Term.interpret?, Term.lower]
    exact interpret?_map ih fun e ↦ (sign.interpret_apply hI e).symm
  | ternary condition yes no ihc ihy ihn =>
    rw [Term.interpret?, Term.lower, ihc, ihy]
    cases condition.lower with
    | error c => rfl
    | ok c =>
      cases yes.lower with
      | error c => rfl
      | ok y => exact interpret?_map ihn fun n ↦ (interpret_globalCall I _ [c, y, n]).symm
  | list elements ih =>
    rw [Term.interpret?, Term.lower]
    exact interpret?_map (interpretAll?_eq ih) fun es ↦ by rw [Expr.interpret]
  | map entries =>
    rw [Term.interpret?, Term.lower]
    rfl

/-- **Lowering keeps the meaning of a filter**, whatever the interpretation, and turns around the
sign of an integer only if the result is an integer of 64 bits. -/
theorem Term.interpret_of_lower (I : Interpretation M) (hI : I.FoldsSigns) :
    (∀ (t : Term) (e : Expr), t.lower = .ok e → t.interpret? I = some (e.interpret I)) ∧
      ∀ (operand : Term) (i : Int64), operand.lower = .ok (.literal (.int i)) →
        (Term.unary .minus operand).lower = .ok (match Decimal.int64? (-i.toInt) with
          | some j => .literal (.int j)
          | none => .unary .negate (.literal (.int i))) := by
  refine ⟨fun t e h ↦ ?_, fun operand i h ↦ ?_⟩
  · rw [t.interpret?_eq hI, h]
    rfl
  · rw [Term.lower, h, ← negated_int]
    rfl

/-- `2 - -(-(7))`, where one sign taken into a number makes room for the next. -/
theorem Term.interpret_of_lower_twice :
    (Term.arithmetic .subtract (.atom (.int 2))
        (.unary .minus (.unary .minus (.atom (.int 7))))).lower =
        .ok (.binary .subtract (.literal (.int 2)) (.literal (.int 7))) ∧
      (Term.arithmetic .subtract (.atom (.int 2))
        (.unary .minus (.unary .minus (.atom (.int 7))))).interpret? Interpretation.integers =
        some ((Expr.binary .subtract (.literal (.int 2)) (.literal (.int 7))).interpret
          Interpretation.integers) ∧
      (Expr.binary .subtract (.literal (.int 2)) (.literal (.int 7))).interpret
        Interpretation.integers = some (-5) ∧
      (Term.unary .minus (.unary .minus (.atom (.int 7)))).lower = .ok (.literal (.int 7)) := by
  have hmeaning := Term.interpret_of_lower _ Interpretation.integers_foldsSigns
  have hlower : (Term.arithmetic .subtract (.atom (.int 2))
      (.unary .minus (.unary .minus (.atom (.int 7))))).lower =
      .ok (.binary .subtract (.literal (.int 2)) (.literal (.int 7))) := rfl
  exact ⟨hlower, hmeaning.1 _ _ hlower, rfl,
    hmeaning.2 (.unary .minus (.atom (.int 7))) (-7) rfl⟩

end Filter

end WhereClause
