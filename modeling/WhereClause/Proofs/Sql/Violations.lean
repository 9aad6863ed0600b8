import WhereClause.Proofs.Sql.Rendered

/-!
# Everything that is wrong with a tree

The renderer stops at the first node that has no SQL text, so its error says nothing about the rest
of the tree.  `Expr.violations` goes on: it lists an error for every node that could not be
rendered, in the order in which a renderer would come to them.  A call that cannot be rendered
itself hides what is inside it, and parts that are never rendered, such as the argument of a
timestamp, are not looked into.

The list is put together without rendering anything, from what the settings say about names and from
the shapes of calls.  **Rendering goes through exactly if the list is empty, and otherwise it fails
with the first error of the list** (`Rendered.violations_eq_nil`, `Refused.violations_eq_cons`).
This is for settings that can write every timestamp (`Settings.WritesTimestamps`); with other
settings a timestamp may fail for a reason that is not in the tree.
-/

set_option autoImplicit false

namespace WhereClause

/-! ## Settings that can write every timestamp -/

/-- Every timestamp that can be read can be written in the zone and the format of the settings. -/
def Settings.WritesTimestamps (s : Settings) : Prop :=
  ∀ text t, Calendar.Instant.ofTimestamp text = .ok t →
    ∃ cs, Calendar.Format.parse? s.timeFormat >>=
      Calendar.Format.print? (s.zone.localize t.truncate) = some cs

namespace Calendar

/-- Only the offset in any form cannot be written. -/
theorem Reading.exists_item? (r : Reading) {item : Item} (h : item ≠ .looseOffset) :
    ∃ cs, r.item? item = some cs := by
  cases item with
  | looseOffset => exact absurd rfl h
  | _ => exact ⟨_, rfl⟩

theorem Format.exists_print? (r : Reading) {items : List Item} (h : Item.looseOffset ∉ items) :
    ∃ cs, Format.print? r items = some cs := by
  induction items with
  | nil => exact ⟨[], rfl⟩
  | cons item items ih =>
    rw [List.mem_cons, not_or] at h
    obtain ⟨cs, hcs⟩ := r.exists_item? (Ne.symm h.1)
    obtain ⟨rest, hrest⟩ := ih h.2
    exact ⟨cs ++ rest, by rw [Format.print?, hcs, hrest]; rfl⟩

end Calendar

/-- A format with nothing in it that is for reading only writes every timestamp. -/
theorem Settings.writesTimestamps_of_parse? {s : Settings} {items : List Calendar.Item}
    (hformat : Calendar.Format.parse? s.timeFormat = some items)
    (hitems : Calendar.Item.looseOffset ∉ items) : s.WritesTimestamps := by
  intro text t _
  rw [hformat]
  exact Calendar.Format.exists_print? _ hitems

/-- With settings that write timestamps, what is read is written. -/
theorem Expr.exists_timestampText {s : Settings} (hs : s.WritesTimestamps) {text : String}
    {t : Calendar.Instant} (h : Calendar.Instant.ofTimestamp text = .ok t) :
    ∃ cs, Expr.timestampText s text = .ok cs := by
  obtain ⟨cs, hcs⟩ := hs text t h
  refine ⟨cs, ?_⟩
  rw [Expr.timestampText, h]
  dsimp only
  rw [hcs]

/-! ## The violations of a node -/

namespace Expr

/-- What a chain of field selections starts from. -/
def root : Expr → Expr
  | .select operand _ => operand.root
  | e => e

/-- The error of a chain of field selections by what it starts from, unless that is the subject. -/
def rootViolations (subject : String) : Expr → List RenderError
  | .ident name => if name = subject then [] else [.invalidSubject subject name]
  | e => [.invalidSubject subject e.text]

/-- Why a tree is no string to make a pattern of. -/
def patternFault? (function : String) : Expr → Option RenderError
  | .literal (.string _) => none
  | .literal v => some (.invalidArguments function (.notString v.typeName))
  | e => some (.literalRequired function e.text)

/-- Why a tree is no moment: it has to be a timestamp that can be read or a whole number. -/
def momentFault? (function : String) : Expr → Option RenderError
  | .literal (.string text) => match Calendar.Instant.ofTimestamp text with
    | .ok _ => none
    | .error e => some (.invalidTimestamp text e)
  | .literal (.int _) => none
  | .literal (.uint _) => none
  | .literal v => some (.unsupportedTimestampLiteral function v.typeName)
  | e => some (.literalRequired function e.text)

/-- What is wrong with the arguments of a call, besides their number. -/
def argumentFault? (f : Builtin) (args : List Expr) : Option RenderError :=
  match f with
  | .startsWith => args.findSome? (patternFault? f.name)
  | .endsWith => args.findSome? (patternFault? f.name)
  | .timestamp => args.findSome? (momentFault? f.name)
  | _ => none

/-- What is wrong with a call itself: with its name, or else with its receiver or the number of its
arguments, or else with an argument that has to be a literal. -/
def callFault? (s : Settings) (function : String) (target : Option Expr) (args : List Expr) :
    Option RenderError :=
  match Builtin.ofName? function with
  | none => some (.unsupportedFunction function)
  | some f =>
    if s.isEnabled function = false then some (.unsupportedFunction function)
    else match f.shapeFault? target.isSome args.length with
      | some fault => some (.invalidArguments function fault)
      | none => argumentFault? f args

mutual

/-- All that is wrong with a tree, in the order in which it is rendered.  Each violation is given by
its error. -/
def violations (s : Settings) : Expr → List RenderError
  | .literal (.double d) => if d.isFinite then [] else [.unsupportedKind (.nonFinite d)]
  | .literal _ => []
  | .ident name => [.unsupportedKind (.ident name)]
  | .list _ => [.unsupportedKind .list]
  | .select operand _ => rootViolations s.subject operand.root
  | .call function target args =>
    match callFault? s function target args, Builtin.ofName? function with
    | some error, _ => [error]
    | none, some .startsWith => targetViolations s target
    | none, some .endsWith => targetViolations s target
    | none, some .timestamp => []
    | none, _ => violationsAll s args

/-- All that is wrong with a receiver. -/
def targetViolations (s : Settings) : Option Expr → List RenderError
  | none => []
  | some target => target.violations s

/-- All that is wrong with several trees, from left to right. -/
def violationsAll (s : Settings) : List Expr → List RenderError
  | [] => []
  | e :: es => e.violations s ++ violationsAll s es

end

variable {s : Settings}

theorem violations_of_isFinite {d : Binary64} (h : d.isFinite = false) :
    (literal (.double d)).violations s = [.unsupportedKind (.nonFinite d)] :=
  if_neg (Bool.eq_false_iff.1 h)

/-! ### Chains -/

theorem chain_fst (e : Expr) : e.chain.1 = e.root := by
  induction e using nodeInduction with
  | select operand field ih => rw [chain_select, root, ih]
  | _ => rfl

theorem violations_select (operand : Expr) (field : String) :
    (select operand field).violations s = rootViolations s.subject operand.root :=
  rfl

theorem violations_select_of_ok {operand : Expr} {field path : String}
    (h : (select operand field).fieldPath s.subject = .ok path) :
    (select operand field).violations s = [] := by
  have hroot : (select operand field).root = .ident s.subject := by
    rw [← chain_fst]
    exact (fieldPath_eq_ok_iff.1 h).1
  rw [root] at hroot
  rw [violations_select, hroot, rootViolations, if_pos rfl]

theorem violations_select_of_error {operand : Expr} {field : String} {error : RenderError}
    (h : (select operand field).fieldPath s.subject = .error error) :
    (select operand field).violations s = [error] := by
  have hroot : (select operand field).chain.1 = operand.root := by rw [chain_fst, root]
  rw [violations_select]
  rw [fieldPath.eq_def] at h
  split at h
  next name fields hchain =>
    rw [hchain] at hroot
    rw [← hroot, rootViolations]
    split at h
    · cases h
    next hne =>
      cases h
      rw [if_neg hne]
  next start fields hne hchain =>
    rw [hchain] at hroot
    cases h
    rw [← hroot, rootViolations]
    exact hne

/-! ### Calls -/

/-- A call whose name is disabled or has no form in SQL. -/
theorem callFault?_of_resolve {function : String} {error : RenderError}
    (h : resolve s function = .error error) (target : Option Expr) (args : List Expr) :
    callFault? s function target args = some error := by
  rw [resolve] at h
  rw [callFault?]
  cases hf : Builtin.ofName? function with
  | none =>
    rw [hf] at h
    cases h
    rfl
  | some f =>
    rw [hf] at h
    cases hen : s.isEnabled function with
    | true => simp [hen] at h
    | false =>
      simp only [hen] at h
      cases h
      simp

theorem callFault?_of_isEnabled {f : Builtin} (enabled : s.isEnabled f.name = true)
    (target : Option Expr) (args : List Expr) : callFault? s f.name target args =
      match f.shapeFault? target.isSome args.length with
      | some fault => some (.invalidArguments f.name fault)
      | none => argumentFault? f args := by
  rw [callFault?, Builtin.ofName?_name]
  simp [enabled]

theorem violations_call (function : String) (target : Option Expr) (args : List Expr) :
    (call function target args).violations s =
      match callFault? s function target args, Builtin.ofName? function with
      | some error, _ => [error]
      | none, some .startsWith => targetViolations s target
      | none, some .endsWith => targetViolations s target
      | none, some .timestamp => []
      | none, _ => violationsAll s args :=
  rfl

theorem violations_of_callFault? {function : String} {target : Option Expr} {args : List Expr}
    {error : RenderError} (h : callFault? s function target args = some error) :
    (call function target args).violations s = [error] := by
  rw [violations_call, h]

/-- An operator between two operands is as wrong as they are, from left to right. -/
theorem violations_binary {op : BinaryOp} (enabled : s.isEnabled op.name = true)
    (left right : Expr) :
    (binary op left right).violations s = left.violations s ++ right.violations s := by
  have hfault : callFault? s op.name none [left, right] = none :=
    callFault?_of_isEnabled (f := .binary op) enabled _ _
  have hname : Builtin.ofName? op.name = some (.binary op) := Builtin.ofName?_name (.binary op)
  rw [binary, violations_call, hfault, hname]
  exact congrArg (left.violations s ++ ·) (List.append_nil _)

/-- An operator in front of an operand is as wrong as the operand. -/
theorem violations_unary {op : UnaryOp} (enabled : s.isEnabled op.name = true) (operand : Expr) :
    (unary op operand).violations s = operand.violations s := by
  have hfault : callFault? s op.name none [operand] = none :=
    callFault?_of_isEnabled (f := .unary op) enabled _ _
  have hname : Builtin.ofName? op.name = some (.unary op) := Builtin.ofName?_name (.unary op)
  rw [unary, violations_call, hfault, hname]
  exact List.append_nil _

theorem callFault?_like {f : Builtin} {content : List Char → List Char}
    (enabled : s.isEnabled f.name = true) (hf : f.likeContent? = some content)
    (target arg : Expr) :
    callFault? s f.name (some target) [arg] = patternFault? f.name arg := by
  rw [callFault?_of_isEnabled enabled]
  cases f with
  | startsWith => exact List.findSome?_singleton
  | endsWith => exact List.findSome?_singleton
  | _ => cases hf

/-- A test for the start or the end of a string is as wrong as the receiver. -/
theorem violations_like {f : Builtin} {content : List Char → List Char}
    (enabled : s.isEnabled f.name = true) (hf : f.likeContent? = some content) (target : Expr)
    (text : String) :
    (method target f.name [.literal (.string text)]).violations s = target.violations s := by
  have hfault : callFault? s f.name (some target) [.literal (.string text)] = none := by
    rw [callFault?_like enabled hf, patternFault?]
  rw [method, violations_call, hfault, Builtin.ofName?_name]
  cases f with
  | startsWith => rfl
  | endsWith => rfl
  | _ => cases hf

theorem patternFault?_of_error {function : String} {arg : Expr} {error : RenderError}
    (h : arg.patternText function = .error error) : patternFault? function arg = some error := by
  cases arg with
  | literal v =>
    cases v with
    | string text => cases h
    | _ => cases h; rfl
  | _ => cases h; rfl

theorem callFault?_timestamp (enabled : s.isEnabled Builtin.timestamp.name = true) (arg : Expr) :
    callFault? s Builtin.timestamp.name none [arg] =
      momentFault? Builtin.timestamp.name arg := by
  rw [callFault?_of_isEnabled enabled]
  exact List.findSome?_singleton

theorem violations_timestamp (enabled : s.isEnabled Builtin.timestamp.name = true) {arg : Expr}
    (h : momentFault? Builtin.timestamp.name arg = none) :
    (globalCall Builtin.timestamp.name [arg]).violations s = [] := by
  rw [globalCall, violations_call, callFault?_timestamp enabled, h, Builtin.ofName?_name]

/-- With settings that write timestamps, only the tree can be to blame for a timestamp. -/
theorem momentFault?_of_momentError? (hs : s.WritesTimestamps) {function : String} {arg : Expr}
    {error : RenderError} (h : arg.momentError? s function = some error) :
    momentFault? function arg = some error := by
  cases arg with
  | literal v =>
    cases v with
    | string text =>
      rw [momentError?] at h
      rw [momentFault?]
      cases ht : Calendar.Instant.ofTimestamp text with
      | ok t =>
        obtain ⟨cs, hcs⟩ := exists_timestampText hs ht
        rw [hcs] at h
        cases h
      | error e =>
        have htext : timestampText s text = .error (.invalidTimestamp text e) := by
          rw [timestampText, ht]
        rw [htext] at h
        exact h
    | _ => exact h
  | _ => exact h

end Expr

/-! ## The whole tree -/

variable {s : Settings}

/-- A tree that is rendered has no violations. -/
theorem Rendered.violations_eq_nil {e : Expr} {cs : List Char} (h : Rendered s e cs) :
    e.violations s = [] := by
  induction h with
  | @token v cs h =>
    cases v with
    | double d =>
      rw [Value.token?] at h
      split at h
      next hd => exact if_pos hd
      next => cases h
    | _ => rfl
  | string text => rfl
  | field h => exact Expr.violations_select_of_ok h
  | binary enabled _ _ ihl ihr => rw [Expr.violations_binary enabled, ihl, ihr, List.append_nil]
  | unary enabled _ ih => rw [Expr.violations_unary enabled, ih]
  | like enabled hf _ ih => rw [Expr.violations_like enabled hf, ih]
  | @timestamp text cs enabled h =>
    refine Expr.violations_timestamp enabled ?_
    rw [Expr.timestampText] at h
    rw [Expr.momentFault?]
    split at h
    · cases h
    next t ht => rw [ht]
  | @seconds v n enabled h =>
    refine Expr.violations_timestamp enabled ?_
    cases v with
    | int i => rfl
    | uint u => rfl
    | _ => cases h

/-- The error of a tree that is refused is the first of its violations. -/
theorem Refused.violations_eq_cons (hs : s.WritesTimestamps) {e : Expr} {error : RenderError}
    (h : Refused s e error) : ∃ rest, e.violations s = error :: rest := by
  induction h with
  | ident name => exact ⟨[], rfl⟩
  | list elements => exact ⟨[], rfl⟩
  | nonFinite h => exact ⟨[], Expr.violations_of_isFinite h⟩
  | field h => exact ⟨[], Expr.violations_select_of_error h⟩
  | function h => exact ⟨[], Expr.violations_of_callFault? (Expr.callFault?_of_resolve h _ _)⟩
  | shape enabled h =>
    refine ⟨[], Expr.violations_of_callFault? ?_⟩
    rw [Expr.callFault?_of_isEnabled enabled, h]
  | pattern enabled hf h =>
    refine ⟨[], Expr.violations_of_callFault? ?_⟩
    rw [Expr.callFault?_like enabled hf, Expr.patternFault?_of_error h]
  | moment enabled h =>
    refine ⟨[], Expr.violations_of_callFault? ?_⟩
    rw [Expr.callFault?_timestamp enabled, Expr.momentFault?_of_momentError? hs h]
  | @left op left right error enabled _ ih =>
    obtain ⟨rest, hrest⟩ := ih
    exact ⟨rest ++ right.violations s, by rw [Expr.violations_binary enabled, hrest]; rfl⟩
  | right enabled hl _ ih =>
    -- The left operand was rendered, so it has nothing to put in front.
    obtain ⟨rest, hrest⟩ := ih
    exact ⟨rest, by rw [Expr.violations_binary enabled, hl.violations_eq_nil, hrest]; rfl⟩
  | operand enabled _ ih =>
    obtain ⟨rest, hrest⟩ := ih
    exact ⟨rest, by rw [Expr.violations_unary enabled, hrest]⟩
  | receiver enabled hf _ ih =>
    obtain ⟨rest, hrest⟩ := ih
    exact ⟨rest, by rw [Expr.violations_like enabled hf, hrest]⟩

namespace Settings

/-- **A tree has SQL text exactly if it has no violations, and otherwise the error is the first of
them.** -/
theorem generate_iff_violations (hs : s.WritesTimestamps) (e : Expr) :
    ((∃ sql, s.generate e = .ok sql) ↔ e.violations s = []) ∧
      ∀ error rest, e.violations s = error :: rest → s.generate e = .error error := by
  rcases rendered_or_refused s e with ⟨cs, hcs⟩ | ⟨error, he⟩
  · have hok : s.generate e = .ok (String.ofList cs) :=
      generate_eq_ok_iff.2 (by rwa [String.toList_ofList])
    refine ⟨⟨fun _ ↦ hcs.violations_eq_nil, fun _ ↦ ⟨_, hok⟩⟩, fun error rest h ↦ ?_⟩
    rw [hcs.violations_eq_nil] at h
    cases h
  · have herror : s.generate e = .error error := generate_eq_error_iff.2 he
    obtain ⟨rest, hrest⟩ := he.violations_eq_cons hs
    rw [herror, hrest]
    refine ⟨⟨?_, ?_⟩, ?_⟩
    · rintro ⟨sql, ⟨⟩⟩
    · rintro ⟨⟩
    · rintro _ _ ⟨⟩
      rfl

/-- Two faults: the field of a stranger and, to its right, a call with a receiver it should not
have. -/
theorem generate_iff_violations_stranger :
    Settings.default.WritesTimestamps ∧
      Expr.violations .default (.binary .and (.unary .not (.select (.ident "me") "name"))
        (.method (.ident "i") "timestamp" [.literal (.int 0)])) =
        [.invalidSubject "i" "me", .invalidArguments "timestamp" .unexpectedReceiver] ∧
      Settings.default.generate (.binary .and (.unary .not (.select (.ident "me") "name"))
        (.method (.ident "i") "timestamp" [.literal (.int 0)])) =
        .error (.invalidSubject "i" "me") := by
  obtain ⟨items, hformat, hitems⟩ : ∃ items,
      Calendar.Format.parse? Settings.default.timeFormat = some items ∧
        Calendar.Item.looseOffset ∉ items := ⟨_, rfl, by decide⟩
  have hs : Settings.default.WritesTimestamps := writesTimestamps_of_parse? hformat hitems
  have hviolations : Expr.violations .default
      (.binary .and (.unary .not (.select (.ident "me") "name"))
        (.method (.ident "i") "timestamp" [.literal (.int 0)])) =
      [.invalidSubject "i" "me", .invalidArguments "timestamp" .unexpectedReceiver] := rfl
  exact ⟨hs, hviolations, (generate_iff_violations hs _).2 _ _ hviolations⟩

end Settings

end WhereClause
