import Mathlib.Data.List.Basic
import WhereClause.Proofs.Decimal.Text
import WhereClause.Proofs.Expr.Nodes
import WhereClause.Sql.Rendering

/-!
# How the rendering of a tree ends

`Expr.render` is a computation on a buffer that may stop anywhere.  Two relations say how it ends,
each with a rule for every way there is, and each rule naming everything the renderer has looked at
on its way: `Rendered s e cs` if it goes through and writes `cs`, and `Refused s e error` if it
stops with `error`.  Every tree is in exactly one of them, so `Settings.generate_eq_ok_iff` and
`Settings.generate_eq_error_iff` hold in both directions, and a property of the text or of the error
is proved by induction over the rules without opening the renderer.

## What is here

* `Render.Ends` — how a computation ends whatever the buffer holds, and how endings compose.
* `Builtin.shapeFault?` — what is wrong with the receiver or the number of arguments of a call.
* `Rendered`, `Refused` — the rules.
* `Settings.generate_eq_ok_iff`, `Settings.generate_eq_error_iff` — the renderer follows the rules.
-/

set_option autoImplicit false

namespace WhereClause

/-! ## Endings -/

namespace Render

theorem runOn_bind {α β : Type} (x : Render α) (f : α → Render β) (buffer : String) :
    (x >>= f).runOn buffer = match x.runOn buffer with
      | (.ok a, after) => (f a).runOn after
      | (.error error, after) => (.error error, after) := by
  show (ExceptT.run (x >>= f)).run buffer = _
  rw [ExceptT.run_bind]
  show (let (r, after) := (ExceptT.run x).run buffer; _) = _
  rcases h : (ExceptT.run x).run buffer with ⟨r, after⟩
  cases r <;> simp [runOn, h] <;> rfl

/-- A computation ends in the same way on every buffer, and appends the same text to it. -/
def Ends (x : Render Unit) (r : Except RenderError Unit) (cs : List Char) : Prop :=
  ∀ buffer, x.runOn buffer = (r, buffer ++ String.ofList cs)

theorem ends_write (cs : List Char) : Ends (write cs) (.ok ()) cs :=
  fun _ ↦ rfl

theorem ends_throw (error : RenderError) : Ends (throw error) (.error error) [] := by
  intro buffer
  rw [String.ofList_nil, String.append_empty]
  rfl

variable {x y : Render Unit} {r : Except RenderError Unit} {a b : List Char}

theorem Ends.bind (hx : Ends x (.ok ()) a) (hy : Ends y r b) :
    Ends (x >>= fun _ ↦ y) r (a ++ b) := by
  intro buffer
  rw [runOn_bind, hx buffer]
  show y.runOn _ = _
  rw [hy, String.append_assoc, String.ofList_append]

theorem Ends.bind_error {error : RenderError} {f : Unit → Render Unit}
    (hx : Ends x (.error error) a) : Ends (x >>= f) (.error error) a := by
  intro buffer
  rw [runOn_bind, hx buffer]

/-- Writing, and then a second computation. -/
theorem Ends.write_bind (cs : List Char) (hy : Ends y r b) :
    Ends (write cs >>= fun _ ↦ y) r (cs ++ b) :=
  (ends_write cs).bind hy

end Render

open Render

/-! ## What a call is looked at for -/

namespace Builtin

/-- Whether a function is called as a method. -/
def isMember : Builtin → Bool
  | .startsWith => true
  | .endsWith => true
  | _ => false

/-- The number of arguments of a function, not counting a receiver. -/
def arity : Builtin → Nat
  | .binary _ => 2
  | _ => 1

/-- What is wrong with the receiver or the number of arguments of a call, the receiver first. -/
def shapeFault? (f : Builtin) (receiver : Bool) (args : Nat) : Option ArgumentFault :=
  if receiver && !f.isMember then some .unexpectedReceiver
  else if !receiver && f.isMember then some .missingReceiver
  else if args = f.arity then none
  else some (.count f.arity args)

/-- The pattern a test for the start or the end of a string is made with. -/
def likeContent? : Builtin → Option (List Char → List Char)
  | .startsWith => some fun cs ↦ Sql.escapeLike cs ++ ['%']
  | .endsWith => some fun cs ↦ '%' :: Sql.escapeLike cs
  | _ => none

theorem shapeFault?_eq_none_iff {f : Builtin} {receiver : Bool} {args : Nat} :
    f.shapeFault? receiver args = none ↔ receiver = f.isMember ∧ args = f.arity := by
  cases receiver <;> cases h : f.isMember <;> simp [shapeFault?, h]

/-- A function that is not called as a method has no receiver. -/
theorem target_eq_none {f : Builtin} {target : Option Expr} (h : target.isSome = f.isMember)
    (hf : f.isMember = false) : target = none := by
  rw [hf] at h
  exact Option.not_isSome_iff_eq_none.1 (Bool.eq_false_iff.1 h)

theorem count_of_shapeFault? {f : Builtin} {args : Nat} {fault : ArgumentFault}
    (h : f.shapeFault? f.isMember args = some fault) :
    args ≠ f.arity ∧ ArgumentFault.count f.arity args = fault := by
  cases hm : f.isMember <;> simpa [shapeFault?, hm] using h

end Builtin

/-- The SQL text of a literal that is not a string. -/
def Value.token? : Value → Option (List Char)
  | .null => some "NULL".toList
  | .bool true => some "true".toList
  | .bool false => some "false".toList
  | .int i => some (Decimal.intText i.toInt)
  | .uint u => some (Decimal.natText u.toNat)
  | .double d => if d.isFinite then some (d.text .sql).toList else none
  | .string _ => none

/-- A literal that is not a string is one of three words or a number. -/
theorem Value.token?_cases {v : Value} {cs : List Char} (h : v.token? = some cs) :
    cs = "NULL".toList ∨ cs = "true".toList ∨ cs = "false".toList ∨ Decimal.IsNumeric cs := by
  cases v with
  | null =>
    cases h
    exact .inl rfl
  | bool b =>
    cases b with
    | true =>
      cases h
      exact .inr (.inl rfl)
    | false =>
      cases h
      exact .inr (.inr (.inl rfl))
  | int i =>
    cases h
    exact .inr (.inr (.inr (Decimal.isNumeric_intText _)))
  | uint u =>
    cases h
    exact .inr (.inr (.inr (Decimal.isNumeric_natText _)))
  | double d =>
    rw [Value.token?] at h
    split at h
    next hd =>
      cases h
      exact .inr (.inr (.inr (Binary64.isNumeric_text_sql hd)))
    next => cases h
  | string text => cases h

/-- The number of seconds an integer literal stands for. -/
def Value.seconds? : Value → Option Int
  | .int i => some i.toInt
  | .uint u => some u.toNat
  | _ => none

/-- The name of the function and its argument in parentheses. -/
theorem Sql.fromUnixTime_eq (seconds : List Char) :
    fromUnixTime seconds = "FROM_UNIXTIME".toList ++ '(' :: (seconds ++ [')']) := by
  have hopen : "FROM_UNIXTIME(".toList = "FROM_UNIXTIME".toList ++ ['('] := by decide
  calc fromUnixTime seconds
      = "FROM_UNIXTIME(".toList ++ seconds ++ [')'] := rfl
    _ = "FROM_UNIXTIME".toList ++ ['('] ++ seconds ++ [')'] :=
        congrArg (· ++ seconds ++ [')']) hopen
    _ = _ := by simp only [List.append_assoc, List.cons_append, List.nil_append]

theorem Decimal.intText_natCast (n : Nat) : Decimal.intText n = Decimal.natText n := by
  simp [Decimal.intText]

namespace Expr

theorem resolve_eq_ok_iff {s : Settings} {function : String} {f : Builtin} :
    resolve s function = .ok f ↔ function = f.name ∧ s.isEnabled function = true := by
  constructor
  · intro h
    rw [resolve] at h
    cases hf : Builtin.ofName? function with
    | none => simp [hf] at h
    | some g =>
      rw [hf] at h
      simp only at h
      split at h
      next hen =>
        cases h
        exact ⟨(Builtin.name_of_ofName? hf).symm, hen⟩
      next => cases h
  · rintro ⟨rfl, hen⟩
    rw [resolve, Builtin.ofName?_name]
    simp [hen]

/-- A call is not resolved if its function is disabled or has no form in SQL. -/
theorem resolve_eq_error {s : Settings} {function : String} {error : RenderError}
    (h : resolve s function = .error error) : error = .unsupportedFunction function ∧
      (s.isEnabled function = true → Builtin.ofName? function = none) := by
  rw [resolve] at h
  cases hf : Builtin.ofName? function with
  | none =>
    rw [hf] at h
    cases h
    exact ⟨rfl, fun _ ↦ rfl⟩
  | some f =>
    rw [hf] at h
    dsimp only at h
    split at h
    next => cases h
    next hdisabled =>
      cases h
      exact ⟨rfl, fun henabled ↦ absurd henabled hdisabled⟩

/-- A chain has a path if it starts from the subject. -/
theorem fieldPath_eq_ok_iff {subject path : String} {e : Expr} :
    e.fieldPath subject = .ok path ↔ e.chain.1 = .ident subject ∧ path = dotted e.chain.2 := by
  rw [fieldPath.eq_def]
  split
  next name fields hchain =>
    rw [hchain]
    split
    next heq =>
      subst heq
      simp [eq_comm]
    next hne => simp [hne]
  next root fields hne hchain =>
    rw [hchain]
    simp only [reduceCtorEq, false_iff, not_and]
    intro hroot
    exact absurd hroot (hne subject)

/-- A chain without a path starts from another variable or from no variable at all. -/
theorem fieldPath_eq_error {subject : String} {e : Expr} {error : RenderError}
    (h : e.fieldPath subject = .error error) :
    (∃ name, e.chain.1 = .ident name ∧ name ≠ subject) ∨
      (∀ name, e.chain.1 ≠ .ident name) ∧ error = .invalidSubject subject e.chain.1.text := by
  rw [fieldPath.eq_def] at h
  split at h
  next name fields hchain =>
    split at h
    next => cases h
    next hne => exact .inl ⟨name, by rw [hchain], hne⟩
  next root fields hne hchain =>
    cases h
    rw [hchain]
    exact .inr ⟨hne, rfl⟩

/-- The fields of a chain are fields of the tree. -/
theorem exists_select_of_mem_chain {e : Expr} {field : String} (h : field ∈ e.chain.2) :
    ∃ operand, select operand field ∈ e.nodes := by
  induction e using nodeInduction with
  | select operand name ih =>
    rw [chain_select] at h
    rcases List.mem_append.1 h with h | h
    · obtain ⟨x, hx⟩ := ih h
      exact ⟨x, mem_nodes_iff.2 (.inr ⟨operand, List.mem_singleton_self operand, hx⟩)⟩
    · obtain rfl := List.mem_singleton.1 h
      exact ⟨operand, self_mem_nodes _⟩
  | _ => cases h

/-- Why an argument of `timestamp` is no moment, if it is none. -/
def momentError? (s : Settings) (function : String) : Expr → Option RenderError
  | .literal (.string text) => match timestampText s text with
    | .ok _ => none
    | .error e => some e
  | .literal (.int _) => none
  | .literal (.uint _) => none
  | .literal v => some (.unsupportedTimestampLiteral function v.typeName)
  | e => some (.literalRequired function e.text)

end Expr

/-! ## The rules -/

/-- Rendering a tree goes through and writes a text. -/
inductive Rendered (s : Settings) : Expr → List Char → Prop
  | token {v : Value} {cs : List Char} (h : v.token? = some cs) : Rendered s (.literal v) cs
  | string (text : String) : Rendered s (.literal (.string text)) (Sql.quote text.toList)
  | field {operand : Expr} {name path : String}
      (h : (Expr.select operand name).fieldPath s.subject = .ok path) :
      Rendered s (.select operand name) (s.column path).toList
  | binary {op : BinaryOp} {left right : Expr} {a b : List Char}
      (enabled : s.isEnabled op.name = true) (hl : Rendered s left a) (hr : Rendered s right b) :
      Rendered s (.binary op left right)
        ('(' :: (a ++ ' ' :: ((Sql.binaryToken op).toList ++ ' ' :: (b ++ [')']))))
  | unary {op : UnaryOp} {operand : Expr} {a : List Char}
      (enabled : s.isEnabled op.name = true) (ha : Rendered s operand a) :
      Rendered s (.unary op operand) ('(' :: ((Sql.unaryToken op).toList ++ ' ' :: (a ++ [')'])))
  | like {f : Builtin} {content : List Char → List Char} {target : Expr} {text : String}
      {a : List Char} (enabled : s.isEnabled f.name = true) (hf : f.likeContent? = some content)
      (ha : Rendered s target a) :
      Rendered s (.method target f.name [.literal (.string text)])
        ('(' :: (a ++ (" LIKE ".toList ++
          (Sql.quote (content (Expr.trimQuotes text.toList)) ++ [')']))))
  | timestamp {text : String} {cs : List Char} (enabled : s.isEnabled Builtin.timestamp.name = true)
      (h : Expr.timestampText s text = .ok cs) :
      Rendered s (.globalCall Builtin.timestamp.name [.literal (.string text)]) (Sql.quote cs)
  | seconds {v : Value} {n : Int} (enabled : s.isEnabled Builtin.timestamp.name = true)
      (h : v.seconds? = some n) :
      Rendered s (.globalCall Builtin.timestamp.name [.literal v])
        (Sql.fromUnixTime (Decimal.intText n))

/-- Rendering a tree stops with an error. -/
inductive Refused (s : Settings) : Expr → RenderError → Prop
  | ident (name : String) : Refused s (.ident name) (.unsupportedKind (.ident name))
  | list (elements : List Expr) : Refused s (.list elements) (.unsupportedKind .list)
  | nonFinite {d : Binary64} (h : d.isFinite = false) :
      Refused s (.literal (.double d)) (.unsupportedKind (.nonFinite d))
  | field {operand : Expr} {name : String} {error : RenderError}
      (h : (Expr.select operand name).fieldPath s.subject = .error error) :
      Refused s (.select operand name) error
  | function {name : String} {target : Option Expr} {args : List Expr} {error : RenderError}
      (h : Expr.resolve s name = .error error) : Refused s (.call name target args) error
  | shape {f : Builtin} {target : Option Expr} {args : List Expr} {fault : ArgumentFault}
      (enabled : s.isEnabled f.name = true)
      (h : f.shapeFault? target.isSome args.length = some fault) :
      Refused s (.call f.name target args) (.invalidArguments f.name fault)
  | pattern {f : Builtin} {content : List Char → List Char} {target arg : Expr}
      {error : RenderError} (enabled : s.isEnabled f.name = true)
      (hf : f.likeContent? = some content) (h : arg.patternText f.name = .error error) :
      Refused s (.method target f.name [arg]) error
  | moment {arg : Expr} {error : RenderError} (enabled : s.isEnabled Builtin.timestamp.name = true)
      (h : arg.momentError? s Builtin.timestamp.name = some error) :
      Refused s (.globalCall Builtin.timestamp.name [arg]) error
  | left {op : BinaryOp} {left right : Expr} {error : RenderError}
      (enabled : s.isEnabled op.name = true) (hl : Refused s left error) :
      Refused s (.binary op left right) error
  | right {op : BinaryOp} {left right : Expr} {a : List Char} {error : RenderError}
      (enabled : s.isEnabled op.name = true) (hl : Rendered s left a) (hr : Refused s right error) :
      Refused s (.binary op left right) error
  | operand {op : UnaryOp} {operand : Expr} {error : RenderError}
      (enabled : s.isEnabled op.name = true) (ha : Refused s operand error) :
      Refused s (.unary op operand) error
  | receiver {f : Builtin} {content : List Char → List Char} {target : Expr} {text : String}
      {error : RenderError} (enabled : s.isEnabled f.name = true)
      (hf : f.likeContent? = some content) (ha : Refused s target error) :
      Refused s (.method target f.name [.literal (.string text)]) error

variable {s : Settings}

/-! ## The renderer follows the rules -/

theorem Value.ends_render {v : Value} {cs : List Char} (h : v.token? = some cs) :
    Ends v.render (.ok ()) cs := by
  cases v with
  | double d =>
    rw [Value.token?] at h
    split at h
    next hd =>
      cases h
      rw [Value.render, if_pos hd]
      exact ends_write _
    next => cases h
  | bool b => cases b <;> (cases h; exact ends_write _)
  | string text => cases h
  | _ => cases h; exact ends_write _

namespace Expr

/-! Each enabled function is rendered by the form it has. -/

theorem render_binary {op : BinaryOp} (enabled : s.isEnabled op.name = true)
    (target : Option Expr) (args : List Expr) : render s (.call op.name target args) =
      renderBinary op.name op (target.map (render s)) (args.map (render s)) := by
  have hf : resolve s op.name = .ok (.binary op) := resolve_eq_ok_iff.2 ⟨rfl, enabled⟩
  rw [render, renderCall, hf, targetRender_eq_map, renders_eq_map]

theorem render_unary {op : UnaryOp} (enabled : s.isEnabled op.name = true)
    (target : Option Expr) (args : List Expr) : render s (.call op.name target args) =
      renderUnary op.name op (target.map (render s)) (args.map (render s)) := by
  have hf : resolve s op.name = .ok (.unary op) := resolve_eq_ok_iff.2 ⟨rfl, enabled⟩
  rw [render, renderCall, hf, targetRender_eq_map, renders_eq_map]

theorem render_like {f : Builtin} {content : List Char → List Char}
    (enabled : s.isEnabled f.name = true) (hf : f.likeContent? = some content)
    (target : Option Expr) (args : List Expr) : render s (.call f.name target args) =
      renderLike f.name (fun cs ↦ Sql.quote (content cs)) (target.map (render s)) args := by
  rw [render, renderCall, resolve_eq_ok_iff.2 ⟨rfl, enabled⟩, targetRender_eq_map]
  cases f with
  | startsWith => cases hf; rfl
  | endsWith => cases hf; rfl
  | _ => cases hf

theorem render_timestamp (enabled : s.isEnabled Builtin.timestamp.name = true)
    (target : Option Expr) (args : List Expr) :
    render s (.call Builtin.timestamp.name target args) =
      renderTimestamp s Builtin.timestamp.name (target.map (render s)) args := by
  rw [render, renderCall, resolve_eq_ok_iff.2 ⟨rfl, enabled⟩, targetRender_eq_map]

theorem renderBinary_of_length_ne {function : String} {op : BinaryOp}
    {operands : List (Render Unit)} (h : operands.length ≠ 2) :
    renderBinary function op none operands =
      throw (.invalidArguments function (.count 2 operands.length)) := by
  match operands, h with
  | [], _ => rfl
  | [_], _ => rfl
  | [_, _], h => exact absurd rfl h
  | _ :: _ :: _ :: _, _ => rfl

theorem renderUnary_of_length_ne {function : String} {op : UnaryOp}
    {operands : List (Render Unit)} (h : operands.length ≠ 1) :
    renderUnary function op none operands =
      throw (.invalidArguments function (.count 1 operands.length)) := by
  match operands, h with
  | [], _ => rfl
  | [_], h => exact absurd rfl h
  | _ :: _ :: _, _ => rfl

theorem renderLike_of_length_ne {function : String} {pattern : List Char → List Char}
    {receiver : Render Unit} {args : List Expr} (h : args.length ≠ 1) :
    renderLike function pattern (some receiver) args =
      throw (.invalidArguments function (.count 1 args.length)) := by
  match args, h with
  | [], _ => rfl
  | [_], h => exact absurd rfl h
  | _ :: _ :: _, _ => rfl

theorem renderTimestamp_of_length_ne {function : String} {args : List Expr}
    (h : args.length ≠ 1) : renderTimestamp s function none args =
      throw (.invalidArguments function (.count 1 args.length)) := by
  match args, h with
  | [], _ => rfl
  | [_], h => exact absurd rfl h
  | _ :: _ :: _, _ => rfl

/-- A call of the wrong shape writes nothing. -/
theorem ends_of_shapeFault? {f : Builtin} {target : Option Expr} {args : List Expr}
    {fault : ArgumentFault} (enabled : s.isEnabled f.name = true)
    (h : f.shapeFault? target.isSome args.length = some fault) :
    Ends (render s (.call f.name target args)) (.error (.invalidArguments f.name fault)) [] := by
  -- A receiver that should not be there, or a missing one, is found before anything is counted.
  by_cases hreceiver : target.isSome = f.isMember
  · rw [hreceiver] at h
    obtain ⟨hne, rfl⟩ := Builtin.count_of_shapeFault? h
    have hlike : ∀ {content}, f.likeContent? = some content → f.isMember = true → f.arity = 1 →
        Ends (render s (.call f.name target args))
          (.error (.invalidArguments f.name (.count f.arity args.length))) [] := by
      intro content hf hmember harity
      obtain ⟨t, rfl⟩ := Option.isSome_iff_exists.1 (hreceiver.trans hmember)
      rw [harity] at hne ⊢
      rw [render_like enabled hf, Option.map_some, renderLike_of_length_ne hne]
      exact ends_throw _
    cases f with
    | binary op =>
      obtain rfl := Builtin.target_eq_none hreceiver rfl
      rw [Builtin.name, render_binary enabled, Option.map_none,
        renderBinary_of_length_ne (by rw [List.length_map]; exact hne), List.length_map]
      exact ends_throw _
    | unary op =>
      obtain rfl := Builtin.target_eq_none hreceiver rfl
      rw [Builtin.name, render_unary enabled, Option.map_none,
        renderUnary_of_length_ne (by rw [List.length_map]; exact hne), List.length_map]
      exact ends_throw _
    | startsWith => exact hlike rfl rfl rfl
    | endsWith => exact hlike rfl rfl rfl
    | timestamp =>
      obtain rfl := Builtin.target_eq_none hreceiver rfl
      rw [render_timestamp enabled, Option.map_none, renderTimestamp_of_length_ne hne]
      exact ends_throw _
  · cases target with
    | some t =>
      cases f with
      | binary op => rw [Builtin.name, render_binary enabled]; cases h; exact ends_throw _
      | unary op => rw [Builtin.name, render_unary enabled]; cases h; exact ends_throw _
      | timestamp => rw [render_timestamp enabled]; cases h; exact ends_throw _
      | _ => exact absurd rfl hreceiver
    | none =>
      cases f with
      | startsWith => rw [render_like enabled rfl]; cases h; exact ends_throw _
      | endsWith => rw [render_like enabled rfl]; cases h; exact ends_throw _
      | _ => exact absurd rfl hreceiver

/-- An argument that is no moment writes nothing. -/
theorem ends_of_momentError? {arg : Expr} {function : String} {error : RenderError}
    (h : arg.momentError? s function = some error) :
    Ends (renderMoment s function arg) (.error error) [] := by
  cases arg with
  | literal v =>
    cases v with
    | string text =>
      rw [momentError?] at h
      rw [renderMoment]
      cases ht : timestampText s text with
      | ok cs => simp [ht] at h
      | error e =>
        rw [ht] at h
        cases h
        exact ends_throw _
    | _ => cases h <;> exact ends_throw _
  | _ => cases h; exact ends_throw _

/-! Every other node that is at fault itself writes nothing either. -/

theorem ends_of_isFinite {d : Binary64} (h : d.isFinite = false) :
    Ends (render s (.literal (.double d))) (.error (.unsupportedKind (.nonFinite d))) [] := by
  rw [render, Value.render, h]
  exact ends_throw _

theorem ends_of_fieldPath {operand : Expr} {name : String} {error : RenderError}
    (h : (select operand name).fieldPath s.subject = .error error) :
    Ends (render s (.select operand name)) (.error error) [] := by
  rw [render, renderField, h]
  exact ends_throw _

theorem ends_of_resolve {name : String} {error : RenderError} (h : resolve s name = .error error)
    (target : Option Expr) (args : List Expr) :
    Ends (render s (.call name target args)) (.error error) [] := by
  rw [render, renderCall, h]
  exact ends_throw _

theorem ends_of_patternText {f : Builtin} {content : List Char → List Char} {arg : Expr}
    {error : RenderError} (enabled : s.isEnabled f.name = true) (hf : f.likeContent? = some content)
    (h : arg.patternText f.name = .error error) (target : Expr) :
    Ends (render s (.method target f.name [arg])) (.error error) [] := by
  rw [method, render_like enabled hf, Option.map_some, renderLike, h]
  exact ends_throw _

theorem ends_timestamp_of_momentError? {arg : Expr} {error : RenderError}
    (enabled : s.isEnabled Builtin.timestamp.name = true)
    (h : arg.momentError? s Builtin.timestamp.name = some error) :
    Ends (render s (.globalCall Builtin.timestamp.name [arg])) (.error error) [] := by
  rw [globalCall, render_timestamp enabled]
  exact ends_of_momentError? h

end Expr

/-- **The text of a tree is what the rules say**, and it is appended to whatever the buffer holds.
-/
theorem Rendered.ends {e : Expr} {cs : List Char} (h : Rendered s e cs) :
    Ends (e.render s) (.ok ()) cs := by
  induction h with
  | token h =>
    rw [Expr.render]
    exact Value.ends_render h
  | string text =>
    rw [Expr.render]
    exact ends_write _
  | field h =>
    rw [Expr.render, Expr.renderField, h]
    exact ends_write _
  | @binary op left right a b enabled _ _ ihl ihr =>
    rw [Expr.binary, Expr.render_binary enabled]
    simpa [Expr.renderBinary] using (ihl.bind ((ihr.bind (ends_write [')'])).write_bind
      (' ' :: ((Sql.binaryToken op).toList ++ [' '])))).write_bind ['(']
  | @unary op operand a enabled _ ih =>
    rw [Expr.unary, Expr.render_unary enabled]
    simpa [Expr.renderUnary] using (ih.bind (ends_write [')'])).write_bind
      ('(' :: ((Sql.unaryToken op).toList ++ [' ']))
  | @like f content target text a enabled hf _ ih =>
    rw [Expr.method, Expr.render_like enabled hf]
    simpa [Expr.renderLike, Expr.patternText] using (ih.bind (ends_write (" LIKE ".toList ++
      Sql.quote (content (Expr.trimQuotes text.toList)) ++ [')']))).write_bind ['(']
  | timestamp enabled h =>
    rw [Expr.globalCall, Expr.render_timestamp enabled, Option.map_none, Expr.renderTimestamp,
      Expr.renderMoment, h]
    exact ends_write _
  | @seconds v n enabled h =>
    rw [Expr.globalCall, Expr.render_timestamp enabled]
    cases v with
    | int i => cases h; exact ends_write _
    | uint u =>
      cases h
      rw [Decimal.intText_natCast]
      exact ends_write _
    | _ => cases h

/-- **The error of a tree is what the rules say.** -/
theorem Refused.ends {e : Expr} {error : RenderError} (h : Refused s e error) :
    ∃ cs, Ends (e.render s) (.error error) cs := by
  induction h with
  | ident name => exact ⟨[], by rw [Expr.render]; exact ends_throw _⟩
  | list elements => exact ⟨[], by rw [Expr.render]; exact ends_throw _⟩
  | nonFinite h => exact ⟨[], Expr.ends_of_isFinite h⟩
  | field h => exact ⟨[], Expr.ends_of_fieldPath h⟩
  | function h => exact ⟨[], Expr.ends_of_resolve h _ _⟩
  | shape enabled h => exact ⟨[], Expr.ends_of_shapeFault? enabled h⟩
  | pattern enabled hf h => exact ⟨[], Expr.ends_of_patternText enabled hf h _⟩
  | moment enabled h => exact ⟨[], Expr.ends_timestamp_of_momentError? enabled h⟩
  | @left op left right error enabled _ ih =>
    obtain ⟨cs, hcs⟩ := ih
    rw [Expr.binary, Expr.render_binary enabled]
    exact ⟨_, hcs.bind_error.write_bind ['(']⟩
  | @right op left right a error enabled hl _ ih =>
    obtain ⟨cs, hcs⟩ := ih
    rw [Expr.binary, Expr.render_binary enabled]
    exact ⟨_, (hl.ends.bind (hcs.bind_error.write_bind _)).write_bind ['(']⟩
  | @operand op operand error enabled _ ih =>
    obtain ⟨cs, hcs⟩ := ih
    rw [Expr.unary, Expr.render_unary enabled]
    exact ⟨_, hcs.bind_error.write_bind _⟩
  | @receiver f content target text error enabled hf _ ih =>
    obtain ⟨cs, hcs⟩ := ih
    rw [Expr.method, Expr.render_like enabled hf]
    exact ⟨_, hcs.bind_error.write_bind ['(']⟩

/-! ## The rules leave nothing out -/

theorem Value.token?_or_refused (v : Value) : (∃ cs, Rendered s (.literal v) cs) ∨
    ∃ error, Refused s (.literal v) error := by
  cases v with
  | string text => exact .inl ⟨_, .string text⟩
  | double d =>
    cases hd : d.isFinite with
    | true => exact .inl ⟨_, .token (by rw [Value.token?, if_pos hd])⟩
    | false => exact .inr ⟨_, .nonFinite hd⟩
  | bool b => cases b <;> exact .inl ⟨_, .token rfl⟩
  | _ => exact .inl ⟨_, .token rfl⟩

theorem Expr.moment_or_refused (enabled : s.isEnabled Builtin.timestamp.name = true) (arg : Expr) :
    (∃ cs, Rendered s (.globalCall Builtin.timestamp.name [arg]) cs) ∨
      ∃ error, Refused s (.globalCall Builtin.timestamp.name [arg]) error := by
  cases h : arg.momentError? s Builtin.timestamp.name with
  | some error => exact .inr ⟨error, .moment enabled h⟩
  | none =>
    refine .inl ?_
    cases arg with
    | literal v =>
      cases v with
      | string text =>
        rw [momentError?] at h
        cases ht : timestampText s text with
        | ok cs => exact ⟨_, .timestamp enabled ht⟩
        | error e => simp [ht] at h
      | int i => exact ⟨_, .seconds enabled rfl⟩
      | uint u => exact ⟨_, .seconds enabled rfl⟩
      | _ => cases h
    | _ => cases h

theorem Expr.like_or_refused {f : Builtin} {content : List Char → List Char} {target : Expr}
    (enabled : s.isEnabled f.name = true) (hf : f.likeContent? = some content)
    (ht : (∃ cs, Rendered s target cs) ∨ ∃ error, Refused s target error) (arg : Expr) :
    (∃ cs, Rendered s (.method target f.name [arg]) cs) ∨
      ∃ error, Refused s (.method target f.name [arg]) error := by
  cases h : arg.patternText f.name with
  | error error => exact .inr ⟨error, .pattern enabled hf h⟩
  | ok cs =>
    obtain ⟨text, rfl⟩ : ∃ text, arg = .literal (.string text) := by
      cases arg with
      | literal v =>
        cases v with
        | string text => exact ⟨text, rfl⟩
        | _ => cases h
      | _ => cases h
    rcases ht with ⟨a, ha⟩ | ⟨error, he⟩
    · exact .inl ⟨_, .like enabled hf ha⟩
    · exact .inr ⟨error, .receiver enabled hf he⟩

/-- **Every tree has a text or an error.** -/
theorem rendered_or_refused (s : Settings) (e : Expr) :
    (∃ cs, Rendered s e cs) ∨ ∃ error, Refused s e error := by
  induction e using Expr.nodeInduction with
  | literal v => exact Value.token?_or_refused v
  | ident name => exact .inr ⟨_, .ident name⟩
  | list elements => exact .inr ⟨_, .list elements⟩
  | select operand name =>
    cases h : (Expr.select operand name).fieldPath s.subject with
    | ok path => exact .inl ⟨_, .field h⟩
    | error error => exact .inr ⟨error, .field h⟩
  | call name target args iht iha =>
    cases hres : Expr.resolve s name with
    | error error => exact .inr ⟨error, .function hres⟩
    | ok f =>
      obtain ⟨rfl, enabled⟩ := Expr.resolve_eq_ok_iff.1 hres
      cases hshape : f.shapeFault? target.isSome args.length with
      | some fault => exact .inr ⟨_, .shape enabled hshape⟩
      | none =>
        obtain ⟨hreceiver, hcount⟩ := Builtin.shapeFault?_eq_none_iff.1 hshape
        have hlike : ∀ {content}, f.likeContent? = some content → f.isMember = true →
            f.arity = 1 → (∃ cs, Rendered s (.call f.name target args) cs) ∨
              ∃ error, Refused s (.call f.name target args) error := by
          intro content hf hmember harity
          obtain ⟨t, rfl⟩ := Option.isSome_iff_exists.1 (hreceiver.trans hmember)
          obtain ⟨arg, rfl⟩ := List.length_eq_one_iff.1 (hcount.trans harity)
          exact Expr.like_or_refused enabled hf (iht t rfl) arg
        cases f with
        | binary op =>
          obtain rfl := Builtin.target_eq_none hreceiver rfl
          obtain ⟨left, right, rfl⟩ := List.length_eq_two.1 hcount
          rcases iha left (by simp) with ⟨a, ha⟩ | ⟨error, he⟩
          · rcases iha right (by simp) with ⟨b, hb⟩ | ⟨error, he⟩
            · exact .inl ⟨_, .binary enabled ha hb⟩
            · exact .inr ⟨error, .right enabled ha he⟩
          · exact .inr ⟨error, .left enabled he⟩
        | unary op =>
          obtain rfl := Builtin.target_eq_none hreceiver rfl
          obtain ⟨operand, rfl⟩ := List.length_eq_one_iff.1 hcount
          rcases iha operand (by simp) with ⟨a, ha⟩ | ⟨error, he⟩
          · exact .inl ⟨_, .unary enabled ha⟩
          · exact .inr ⟨error, .operand enabled he⟩
        | startsWith => exact hlike rfl rfl rfl
        | endsWith => exact hlike rfl rfl rfl
        | timestamp =>
          obtain rfl := Builtin.target_eq_none hreceiver rfl
          obtain ⟨arg, rfl⟩ := List.length_eq_one_iff.1 hcount
          exact Expr.moment_or_refused enabled arg

namespace Settings

theorem generate_of_ends {e : Expr} {r : Except RenderError Unit} {cs : List Char}
    (h : Ends (e.render s) r cs) : s.generate e = r.map fun _ ↦ String.ofList cs := by
  rw [generate, written, h ""]
  cases r <;> simp [Except.map]

/-- **A tree has SQL text exactly if the rules give it one.** -/
theorem generate_eq_ok_iff {e : Expr} {sql : String} :
    s.generate e = .ok sql ↔ Rendered s e sql.toList := by
  constructor
  · intro h
    rcases rendered_or_refused s e with ⟨cs, hcs⟩ | ⟨error, he⟩
    · rw [generate_of_ends hcs.ends] at h
      cases h
      simpa using hcs
    · obtain ⟨cs, hcs⟩ := he.ends
      rw [generate_of_ends hcs] at h
      cases h
  · intro h
    rw [generate_of_ends h.ends]
    simp [Except.map]

/-- **A tree has an error exactly if the rules give it one.** -/
theorem generate_eq_error_iff {e : Expr} {error : RenderError} :
    s.generate e = .error error ↔ Refused s e error := by
  constructor
  · intro h
    rcases rendered_or_refused s e with ⟨cs, hcs⟩ | ⟨error, he⟩
    · rw [generate_of_ends hcs.ends] at h
      cases h
    · obtain ⟨cs, hcs⟩ := he.ends
      rw [generate_of_ends hcs] at h
      cases h
      exact he
  · intro h
    obtain ⟨cs, hcs⟩ := h.ends
    rw [generate_of_ends hcs]
    rfl

end Settings

end WhereClause
