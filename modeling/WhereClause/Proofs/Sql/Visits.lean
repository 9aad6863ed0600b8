import WhereClause.Proofs.Sql.Violations

/-!
# The nodes that a renderer comes to

Rendering goes through a tree from the root and from the left: a call is looked at first, and then
its operands are rendered one after the other.  `Expr.visits` lists the nodes in this order.  Every
node comes with the calls around it, as a list of frames: a `Frame` is a call with one operand
missing, so a `Visit` knows the whole tree, and another node can be put in its place
(`Visit.replace`).

What is wrong with a node itself, and not with something below it, is `Expr.ownFault?`; nothing is
rendered below such a node.  In a tree that has a text there is none (`Rendered.visits`).
`Expr.StopsAt` says which is the first in a tree, and what was come to before it.
-/

set_option autoImplicit false

namespace WhereClause

/-! ## The nodes that are rendered -/

/-- A call around an operand that is rendered: everything in the call but this operand. -/
inductive Frame where
  /-- The operand is the left one of an operator. -/
  | leftOf (op : BinaryOp) (right : Expr)
  /-- The operand is the right one of an operator. -/
  | rightOf (op : BinaryOp) (left : Expr)
  /-- The operand is the only one of an operator. -/
  | behind (op : UnaryOp)
  /-- The operand is the receiver of a test for the start or the end of a string. -/
  | receiverOf (f : Builtin) (text : String)

namespace Frame

/-- The call with an operand in its place. -/
def plug : Frame → Expr → Expr
  | .leftOf op right, e => .binary op e right
  | .rightOf op left, e => .binary op left e
  | .behind op, e => .unary op e
  | .receiverOf f text, e => .method e f.name [.literal (.string text)]

/-- What is written of a call before the operand. -/
def opening (s : Settings) : Frame → List Char
  | .leftOf _ _ => ['(']
  | .rightOf op left =>
    '(' :: ((s.written left).1.toList ++ ' ' :: ((Sql.binaryToken op).toList ++ [' ']))
  | .behind op => '(' :: ((Sql.unaryToken op).toList ++ [' '])
  | .receiverOf _ _ => ['(']

/-- The frames of the operands that a call renders, from left to right. -/
def ofCall : Builtin → List Expr → List Frame
  | .binary op, [left, right] => [.leftOf op right, .rightOf op left]
  | .unary op, [_] => [.behind op]
  | .startsWith, [.literal (.string text)] => [.receiverOf .startsWith text]
  | .endsWith, [.literal (.string text)] => [.receiverOf .endsWith text]
  | _, _ => []

end Frame

/-- A node and its way from the root: the calls around it, the outermost first. -/
structure Visit where
  frames : List Frame
  node : Expr

namespace Visit

/-- The whole tree with something else in place of the node. -/
def replace (v : Visit) (e : Expr) : Expr :=
  v.frames.foldr Frame.plug e

/-- What is written before the node. -/
def opening (s : Settings) (v : Visit) : List Char :=
  v.frames.flatMap (Frame.opening s)

/-- The visit in one more call. -/
def within (frame : Frame) (v : Visit) : Visit :=
  ⟨frame :: v.frames, v.node⟩

@[simp] theorem node_within (frame : Frame) (v : Visit) : (v.within frame).node = v.node :=
  rfl

end Visit

namespace Expr

/-- The error of a timestamp that cannot be written. -/
def formatFault? (s : Settings) (function : String) (args : List Expr) : Option RenderError :=
  if function = Builtin.timestamp.name then args.findSome? (momentError? s function) else none

/-- What is wrong with the node at the root of a tree itself. -/
def ownFault? (s : Settings) : Expr → Option RenderError
  | .call function target args =>
    (callFault? s function target args).or (formatFault? s function args)
  | e => (e.violations s).head?

/-- Nodes in the frames they belong to. -/
def inFrames (frames : List Frame) (visits : List (List Visit)) : List Visit :=
  (frames.zipWith (fun frame vs ↦ vs.map (.within frame)) visits).flatten

mutual

/-- The nodes of a tree that are rendered, in the order in which a renderer comes to them.  Below a
node that is at fault itself nothing is rendered. -/
def visits (s : Settings) : Expr → List Visit
  | .call function target args =>
    ⟨[], .call function target args⟩ ::
      match ownFault? s (.call function target args), Builtin.ofName? function with
      | none, some f => inFrames (Frame.ofCall f args) (targetVisits s target ++ visitsAll s args)
      | _, _ => []
  | e => [⟨[], e⟩]

/-- The nodes of a receiver. -/
def targetVisits (s : Settings) : Option Expr → List (List Visit)
  | none => []
  | some target => [target.visits s]

/-- The nodes of several trees. -/
def visitsAll (s : Settings) : List Expr → List (List Visit)
  | [] => []
  | e :: es => e.visits s :: visitsAll s es

end

/-- Rendering a tree comes to `v` after `before`, and `v` is the first node at fault. -/
structure StopsAt (s : Settings) (e : Expr) (before : List Visit) (v : Visit)
    (error : RenderError) : Prop where
  visits : ∃ after, e.visits s = before ++ v :: after
  before : ∀ x ∈ before, x.node.ownFault? s = none
  fault : v.node.ownFault? s = some error

variable {s : Settings}

/-! ## Nodes that are at fault themselves -/

theorem ownFault?_of_ne_call {e : Expr}
    (he : ∀ function target args, e ≠ .call function target args) :
    e.ownFault? s = (e.violations s).head? := by
  rw [ownFault?]
  exact he

theorem formatFault?_of_ne {f : Builtin} (hf : f ≠ .timestamp) (args : List Expr) :
    formatFault? s f.name args = none := by
  refine if_neg fun hname ↦ hf ?_
  have hfound := Builtin.ofName?_name f
  rw [hname, Builtin.ofName?_name] at hfound
  exact (Option.some.inj hfound).symm

theorem ownFault?_call {f : Builtin} (hf : f ≠ .timestamp) (target : Option Expr)
    (args : List Expr) :
    ownFault? s (.call f.name target args) = callFault? s f.name target args := by
  rw [ownFault?, formatFault?_of_ne hf, Option.or_none]

theorem ownFault?_binary {op : BinaryOp} (enabled : s.isEnabled op.name = true)
    (left right : Expr) : ownFault? s (.binary op left right) = none :=
  (ownFault?_call (f := .binary op) (by simp) _ _).trans
    (callFault?_of_isEnabled (f := .binary op) enabled _ _)

theorem ownFault?_unary {op : UnaryOp} (enabled : s.isEnabled op.name = true) (operand : Expr) :
    ownFault? s (.unary op operand) = none :=
  (ownFault?_call (f := .unary op) (by simp) _ _).trans
    (callFault?_of_isEnabled (f := .unary op) enabled _ _)

theorem ne_timestamp_of_likeContent? {f : Builtin} {content : List Char → List Char}
    (hf : f.likeContent? = some content) : f ≠ .timestamp := by
  rintro rfl
  cases hf

theorem ownFault?_like {f : Builtin} {content : List Char → List Char}
    (enabled : s.isEnabled f.name = true) (hf : f.likeContent? = some content) (target arg : Expr) :
    ownFault? s (.method target f.name [arg]) = patternFault? f.name arg :=
  (ownFault?_call (ne_timestamp_of_likeContent? hf) _ _).trans (callFault?_like enabled hf _ _)

/-- A timestamp that cannot be read cannot be written. -/
theorem momentError?_of_momentFault? {function : String} {arg : Expr} {error : RenderError}
    (h : momentFault? function arg = some error) : arg.momentError? s function = some error := by
  cases arg with
  | literal v =>
    cases v with
    | string text =>
      rw [momentFault?] at h
      rw [momentError?, timestampText]
      cases ht : Calendar.Instant.ofTimestamp text with
      | ok t =>
        rw [ht] at h
        cases h
      | error e =>
        rw [ht] at h
        exact h
    | _ => exact h
  | _ => exact h

theorem ownFault?_timestamp (enabled : s.isEnabled Builtin.timestamp.name = true) (arg : Expr) :
    ownFault? s (.globalCall Builtin.timestamp.name [arg]) =
      arg.momentError? s Builtin.timestamp.name := by
  have hformat : formatFault? s Builtin.timestamp.name [arg] =
      arg.momentError? s Builtin.timestamp.name :=
    (if_pos rfl).trans List.findSome?_singleton
  rw [globalCall, ownFault?, callFault?_timestamp enabled, hformat]
  cases hfault : momentFault? Builtin.timestamp.name arg with
  | none => rfl
  | some error => rw [momentError?_of_momentFault? hfault]; rfl

/-! ## The nodes of a call -/

/-- Nothing is rendered below a node that is at fault itself. -/
theorem visits_of_ownFault? {e : Expr} {error : RenderError} (h : e.ownFault? s = some error) :
    e.visits s = [⟨[], e⟩] := by
  cases e with
  | call function target args => rw [visits, h]
  | _ => rw [visits]; rintro _ _ _ ⟨⟩

theorem visits_binary {op : BinaryOp} (enabled : s.isEnabled op.name = true) (left right : Expr) :
    (binary op left right).visits s = ⟨[], binary op left right⟩ ::
      ((left.visits s).map (.within (.leftOf op right)) ++
        (right.visits s).map (.within (.rightOf op left))) := by
  have hfault := ownFault?_binary enabled left right
  have hname : Builtin.ofName? op.name = some (.binary op) := Builtin.ofName?_name (.binary op)
  rw [binary] at hfault ⊢
  rw [visits, hfault, hname]
  simp [Frame.ofCall, targetVisits, visitsAll, inFrames]

theorem visits_unary {op : UnaryOp} (enabled : s.isEnabled op.name = true) (operand : Expr) :
    (unary op operand).visits s =
      ⟨[], unary op operand⟩ :: (operand.visits s).map (.within (.behind op)) := by
  have hfault := ownFault?_unary enabled operand
  have hname : Builtin.ofName? op.name = some (.unary op) := Builtin.ofName?_name (.unary op)
  rw [unary] at hfault ⊢
  rw [visits, hfault, hname]
  simp [Frame.ofCall, targetVisits, visitsAll, inFrames]

theorem visits_like {f : Builtin} {content : List Char → List Char}
    (enabled : s.isEnabled f.name = true) (hf : f.likeContent? = some content) (target : Expr)
    (text : String) : (method target f.name [.literal (.string text)]).visits s =
      ⟨[], method target f.name [.literal (.string text)]⟩ ::
        (target.visits s).map (.within (.receiverOf f text)) := by
  have hfault : ownFault? s (.method target f.name [.literal (.string text)]) = none :=
    ownFault?_like enabled hf _ _
  rw [method] at hfault ⊢
  rw [visits, hfault, Builtin.ofName?_name]
  cases f with
  | startsWith => simp [Frame.ofCall, targetVisits, visitsAll, inFrames]
  | endsWith => simp [Frame.ofCall, targetVisits, visitsAll, inFrames]
  | _ => cases hf

/-- The argument of a timestamp is read and not rendered. -/
theorem visits_timestamp (args : List Expr) :
    (globalCall Builtin.timestamp.name args).visits s =
      [⟨[], globalCall Builtin.timestamp.name args⟩] := by
  rw [globalCall, visits, Builtin.ofName?_name]
  cases ownFault? s (.call Builtin.timestamp.name none args) <;> simp [Frame.ofCall, inFrames]

end Expr

variable {s : Settings}

theorem Rendered.ownFault?_eq_none {e : Expr} {cs : List Char} (h : Rendered s e cs) :
    e.ownFault? s = none := by
  have hleaf (he : ∀ function target args, e ≠ .call function target args) :
      e.ownFault? s = none := by
    rw [Expr.ownFault?_of_ne_call he, h.violations_eq_nil, List.head?_nil]
  cases h with
  | token _ => exact hleaf (by rintro _ _ _ ⟨⟩)
  | string _ => exact hleaf (by rintro _ _ _ ⟨⟩)
  | field _ => exact hleaf (by rintro _ _ _ ⟨⟩)
  | binary enabled _ _ => exact Expr.ownFault?_binary enabled _ _
  | unary enabled _ => exact Expr.ownFault?_unary enabled _
  | like enabled hf _ => exact Expr.ownFault?_like enabled hf _ _
  | timestamp enabled h =>
    rw [Expr.ownFault?_timestamp enabled, Expr.momentError?, h]
  | @seconds v n enabled h =>
    rw [Expr.ownFault?_timestamp enabled]
    cases v with
    | int i => rfl
    | uint u => rfl
    | _ => cases h

/-- Nothing in a tree that is rendered is at fault. -/
theorem Rendered.visits {e : Expr} {cs : List Char} (h : Rendered s e cs) :
    ∀ v ∈ e.visits s, v.node.ownFault? s = none := by
  have hown := h.ownFault?_eq_none
  induction h with
  | token h => simpa [Expr.visits] using hown
  | string text => simpa [Expr.visits] using hown
  | field h => simpa [Expr.visits] using hown
  | binary enabled hl hr ihl ihr =>
    simp only [Expr.visits_binary enabled, List.forall_mem_cons, List.forall_mem_append,
      List.forall_mem_map]
    exact ⟨hown, ihl hl.ownFault?_eq_none, ihr hr.ownFault?_eq_none⟩
  | unary enabled ha ih =>
    simp only [Expr.visits_unary enabled, List.forall_mem_cons, List.forall_mem_map]
    exact ⟨hown, ih ha.ownFault?_eq_none⟩
  | like enabled hf ha ih =>
    simp only [Expr.visits_like enabled hf, List.forall_mem_cons, List.forall_mem_map]
    exact ⟨hown, ih ha.ownFault?_eq_none⟩
  | timestamp enabled h => simpa [Expr.visits_timestamp] using hown
  | seconds enabled h => simpa [Expr.visits_timestamp] using hown

/-! ## Where rendering stops -/

namespace Expr

theorem StopsAt.takeWhile_visits {e : Expr} {before : List Visit} {v : Visit} {error : RenderError}
    (h : e.StopsAt s before v error) :
    (e.visits s).takeWhile (fun x ↦ (x.node.ownFault? s).isNone) = before := by
  obtain ⟨after, hafter⟩ := h.visits
  rw [hafter, List.takeWhile_append_of_pos fun x hx ↦ by simp [h.before x hx],
    List.takeWhile_cons_of_neg (by simp [h.fault]), List.append_nil]

/-- The first node at fault, and what comes before it, are known from the tree. -/
theorem StopsAt.unique {e : Expr} {before before' : List Visit} {v v' : Visit}
    {error error' : RenderError} (h : e.StopsAt s before v error)
    (h' : e.StopsAt s before' v' error') : before = before' ∧ v = v' ∧ error = error' := by
  have hbefore : before = before' := h.takeWhile_visits.symm.trans h'.takeWhile_visits
  obtain ⟨after, hafter⟩ := h.visits
  obtain ⟨after', hafter'⟩ := h'.visits
  rw [hafter, hbefore] at hafter'
  obtain ⟨rfl, -⟩ := List.cons.inj (List.append_cancel_left hafter')
  have hfault := h.fault.symm.trans h'.fault
  exact ⟨hbefore, rfl, Option.some.inj hfault⟩

/-- The first node at fault in an operand is the first in the call, if there is none before the
operand. -/
theorem StopsAt.within {e x : Expr} {frame : Frame} {earlier later before : List Visit} {v : Visit}
    {error : RenderError} (h : x.StopsAt s before v error) (he : e.ownFault? s = none)
    (hearlier : ∀ y ∈ earlier, y.node.ownFault? s = none)
    (hvisits : e.visits s = ⟨[], e⟩ :: (earlier ++ ((x.visits s).map (.within frame) ++ later))) :
    e.StopsAt s (⟨[], e⟩ :: (earlier ++ before.map (.within frame))) (v.within frame) error where
  visits := by
    obtain ⟨after, hafter⟩ := h.visits
    exact ⟨after.map (.within frame) ++ later, by rw [hvisits, hafter]; simp⟩
  before := by
    simp only [List.forall_mem_cons, List.forall_mem_append, List.forall_mem_map]
    exact ⟨he, hearlier, h.before⟩
  fault := h.fault

end Expr

end WhereClause
