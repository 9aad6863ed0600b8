import WhereClause.Proofs.Filter.Meaning

/-!
# The first construct without a tree

`Term.lower` stops at the first part of a filter that has no place in a tree, and does not look any
further; not even into that part itself.  Here a term is laid out as the list of all its parts,
those included that are never lowered (`Term.parts`), in the order in which lowering comes to them.
**The error is the first construct in the list that trees do not have** (`Term.failure?_lower`).
Since a part that is skipped is always inside such a construct, skipping it makes no difference.
-/

set_option autoImplicit false

namespace WhereClause

namespace Filter

mutual

/-- All parts of a term, the term itself and what is inside maps and messages included, in the order
in which a filter is read: a part comes before its own parts, except that a message comes after what
it is a message of. -/
def Term.parts : Term → List Term
  | .atom a => [.atom a]
  | .ident name => [.ident name]
  | .attribute operand name => .attribute operand name :: operand.parts
  | .index operand key => .index operand key :: (operand.parts ++ key.parts)
  | .message operand fields => operand.parts ++ .message operand fields :: fieldParts fields
  | .call function target args =>
    .call function target args :: (function.parts ++ (targetParts target ++ partsAll args))
  | .arithmetic op left right => .arithmetic op left right :: (left.parts ++ right.parts)
  | .relation op left right => .relation op left right :: (left.parts ++ right.parts)
  | .and left right => .and left right :: (left.parts ++ right.parts)
  | .or left right => .or left right :: (left.parts ++ right.parts)
  | .unary sign operand => .unary sign operand :: operand.parts
  | .ternary condition yes no =>
    .ternary condition yes no :: (condition.parts ++ (yes.parts ++ no.parts))
  | .list elements => .list elements :: partsAll elements
  | .map entries => .map entries :: entryParts entries

/-- All parts of a receiver. -/
def targetParts : Option Term → List Term
  | none => []
  | some target => target.parts

/-- All parts of several terms. -/
def partsAll : List Term → List Term
  | [] => []
  | t :: ts => t.parts ++ partsAll ts

/-- All parts of the values of a message. -/
def fieldParts : List (String × Term) → List Term
  | [] => []
  | (_, t) :: fields => t.parts ++ fieldParts fields

/-- All parts of the keys and values of a map. -/
def entryParts : List (Term × Term) → List Term
  | [] => []
  | (key, value) :: entries => key.parts ++ (value.parts ++ entryParts entries)

end

/-- A term is a construct that trees do not have, whatever its parts are. -/
inductive Term.Unsupported : Term → Construct → Prop
  | mapLiteral (entries : List (Term × Term)) : Unsupported (.map entries) .mapLiteral
  | bytesLiteral (bytes : List UInt8) : Unsupported (.atom (.bytes bytes)) .bytesLiteral
  | message (operand : Term) (fields : List (String × Term)) :
    Unsupported (.message operand fields) .message
  /-- A call of anything but a name. -/
  | computedCall {function : Term} (target : Option Term) (args : List Term)
      (hfunction : ∀ name, function ≠ .ident name) :
    Unsupported (.call function target args) .computedCall

/-- The construct a term is, if trees do not have it. -/
def Term.construct? : Term → Option Construct
  | .map _ => some .mapLiteral
  | .atom (.bytes _) => some .bytesLiteral
  | .message _ _ => some .message
  | .call (.ident _) _ _ => none
  | .call _ _ _ => some .computedCall
  | _ => none

theorem Term.construct?_call {function : Term} (hfunction : ∀ name, function ≠ .ident name)
    (target : Option Term) (args : List Term) :
    (call function target args).construct? = some .computedCall := by
  cases function with
  | ident name => exact absurd rfl (hfunction name)
  | _ => rfl

theorem Term.lower_call {function : Term} (hfunction : ∀ name, function ≠ .ident name)
    (target : Option Term) (args : List Term) :
    (call function target args).lower = .error .computedCall := by
  rw [lower]
  · exact fun name h ↦ absurd h (hfunction name)
  · exact fun name _ h ↦ absurd h (hfunction name)

theorem Term.construct?_eq_some_iff {t : Term} {c : Construct} :
    t.construct? = some c ↔ t.Unsupported c := by
  constructor
  · intro h
    rw [construct?.eq_def] at h
    split at h
    next => cases h; exact .mapLiteral _
    next => cases h; exact .bytesLiteral _
    next => cases h; exact .message _ _
    next => cases h
    next hfunction => cases h; exact .computedCall _ _ hfunction
    next => cases h
  · intro h
    cases h with
    | mapLiteral => rfl
    | bytesLiteral => rfl
    | message => rfl
    | computedCall target args hfunction => exact construct?_call hfunction target args

theorem Term.construct?_eq_none_iff {t : Term} :
    t.construct? = none ↔ ∀ c, ¬ t.Unsupported c := by
  simp only [Option.eq_none_iff_forall_ne_some, ne_eq, construct?_eq_some_iff]

/-! ## Lowering -/

theorem failure?_lowerAll {ts : List Term}
    (h : ∀ t ∈ ts, t.lower.failure? = t.parts.findSome? Term.construct?) :
    (lowerAll ts).failure? = (partsAll ts).findSome? Term.construct? := by
  induction ts with
  | nil =>
    rw [lowerAll, partsAll]
    rfl
  | cons t ts ih =>
    rw [List.forall_mem_cons] at h
    rw [lowerAll, partsAll, List.findSome?_append, ← h.1, ← ih h.2]
    exact Except.failure?_pair _ _ List.cons

/-- A term made of two operands fails where they do. -/
theorem failure?_operands {left right : Term} (f : Expr → Expr → Expr)
    (hl : left.lower.failure? = left.parts.findSome? Term.construct?)
    (hr : right.lower.failure? = right.parts.findSome? Term.construct?) :
    (do return f (← left.lower) (← right.lower) : Except Construct Expr).failure? =
      (left.parts ++ right.parts).findSome? Term.construct? := by
  rw [Except.failure?_pair, List.findSome?_append, hl, hr]

theorem Term.failure?_lower (t : Term) : t.lower.failure? = t.parts.findSome? construct? := by
  induction t using Term.partInduction with
  | atom a =>
    rw [lower, parts, Except.failure?_map]
    cases a <;> rfl
  | ident name =>
    rw [lower, parts]
    rfl
  | field operand name ih =>
    rw [lower, parts, Except.failure?_map, ih]
    rfl
  | index operand key iho ihk =>
    rw [lower, parts]
    exact failure?_operands (fun a b ↦ .globalCall indexFunction [a, b]) iho ihk
  | message operand fields ih =>
    -- What the fields are made of does not matter: the message is found before them.
    rw [lower, parts, List.findSome?_append, ← ih]
    exact Except.failure?_bind fun _ ↦ rfl
  | call function target args _ iht iha =>
    by_cases hfunction : ∀ name, function ≠ .ident name
    · rw [lower_call hfunction, parts, List.findSome?_cons, construct?_call hfunction]
      rfl
    · obtain ⟨name, hname⟩ := Classical.not_forall.1 hfunction
      obtain rfl := Classical.not_not.1 hname
      have hargs := failure?_lowerAll iha
      cases target with
      | none =>
        rw [lower, parts, Except.failure?_map, hargs, targetParts, parts]
        rfl
      | some t =>
        rw [lower, parts, targetParts, parts]
        refine (Except.failure?_pair _ _ fun e es ↦ Expr.method e name es).trans ?_
        rw [iht t rfl, hargs, ← List.findSome?_append]
        rfl
  | arithmetic op left right ihl ihr =>
    rw [lower, parts]
    exact failure?_operands _ ihl ihr
  | relation op left right ihl ihr =>
    rw [lower, parts]
    exact failure?_operands (fun a b ↦ .globalCall op.function [a, b]) ihl ihr
  | and left right ihl ihr =>
    rw [lower, parts]
    exact failure?_operands _ ihl ihr
  | or left right ihl ihr =>
    rw [lower, parts]
    exact failure?_operands _ ihl ihr
  | unary sign operand ih =>
    rw [lower, parts, Except.failure?_map, ih]
    rfl
  | ternary condition yes no ihc ihy ihn =>
    rw [lower, parts, List.findSome?_cons, List.findSome?_append, ← ihc]
    exact Except.failure?_bind fun c ↦
      failure?_operands (fun y n ↦ .globalCall conditionalFunction [c, y, n]) ihy ihn
  | list elements ih =>
    rw [lower, parts, Except.failure?_map, failure?_lowerAll ih]
    rfl
  | map entries =>
    rw [lower, parts]
    rfl

theorem parse_eq_error_iff {text : String} {t : Term} (h : Term.parse text = .ok t)
    {error : ParseError} :
    parse text = .error error ↔ ∃ c, t.lower = .error c ∧ error = .unsupported c := by
  rw [parse, h]
  dsimp only
  cases t.lower with
  | error c => simp [eq_comm]
  | ok e => simp

/-- **Lowering fails exactly on constructs that trees do not have**, and with the first of them. -/
theorem Term.lower_verdict (t : Term) :
    ((∃ c, t.lower = .error c) ↔ ∃ u ∈ t.parts, ∃ c, u.Unsupported c) ∧
    (∀ c, t.lower = .error c ↔ ∃ before u after, t.parts = before ++ u :: after ∧
      u.Unsupported c ∧ ∀ x ∈ before, ∀ c', ¬ x.Unsupported c') ∧
    ∀ text, Term.parse text = .ok t → ∀ error, WhereClause.parse text = .error error ↔
      ∃ c, t.lower = .error c ∧ error = .unsupported c := by
  refine ⟨?_, fun c ↦ ?_, fun text h error ↦ parse_eq_error_iff h⟩
  · simp only [← Except.failure?_eq_some_iff, failure?_lower, ← construct?_eq_some_iff,
      ← Option.isSome_iff_exists, List.findSome?_isSome_iff]
  · rw [← Except.failure?_eq_some_iff, failure?_lower, List.findSome?_eq_some_iff]
    simp only [construct?_eq_some_iff, construct?_eq_none_iff]

/-- A byte string stands in front of the map, and inside a call. -/
theorem Term.lower_verdict_bytes :
    ∃ t, Term.parse "[i.f(b'x', 1), {2: 3}]" = .ok t ∧
      WhereClause.parse "[i.f(b'x', 1), {2: 3}]" = .error (.unsupported .bytesLiteral) ∧
      t.lower = .error .bytesLiteral := by
  have hfailure : (WhereClause.parse "[i.f(b'x', 1), {2: 3}]").failure? =
      some (.unsupported .bytesLiteral) := by
    decide +kernel
  have herror := Except.failure?_eq_some_iff.1 hfailure
  obtain ⟨t, ht⟩ : ∃ t, Term.parse "[i.f(b'x', 1), {2: 3}]" = .ok t :=
    Except.exists_eq_ok (by decide +kernel)
  obtain ⟨c, hc, ⟨⟩⟩ := ((lower_verdict t).2.2 _ ht _).1 herror
  exact ⟨t, ht, herror, hc⟩

end Filter

end WhereClause
