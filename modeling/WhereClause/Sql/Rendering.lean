import WhereClause.Calendar.Timestamp
import WhereClause.Expr
import WhereClause.Sql.Quoting
import WhereClause.Sql.Settings

/-!
# Rendering a tree as SQL

`Expr.render` writes a tree to a buffer, from left to right.  Every operator is put in parentheses,
so the text does not depend on how tightly SQL binds them.  Rendering stops at the first node that
has no SQL text; what was written before stays in the buffer.

## What is here

* `RenderError` — why a node has no SQL text.
* `Render` — the monad: a buffer that survives an error.
* `Expr.render` — the renderer.
* `Settings.generate` — the SQL text of a whole tree, or the error.
-/

set_option autoImplicit false

namespace WhereClause

/-! ## Errors -/

/-- A node that never has SQL text. -/
inductive UnsupportedKind where
  /-- An identifier that no field is selected from. -/
  | ident (name : String)
  | list
  /-- An infinite or undefined number. -/
  | nonFinite (d : Binary64)
deriving DecidableEq

/-- The node in words. -/
def UnsupportedKind.description : UnsupportedKind → String
  | .ident name => "ident `" ++ name ++ "`"
  | .list => "list"
  | .nonFinite d => "non-finite double `" ++ d.text .sql ++ "`"

/-- What is wrong with the arguments of a call. -/
inductive ArgumentFault where
  | unexpectedReceiver
  | missingReceiver
  | count (expected got : Nat)
  | notString (typeName : String)
deriving DecidableEq

/-- The fault in words. -/
def ArgumentFault.message : ArgumentFault → String
  | .unexpectedReceiver => "unexpected receiver"
  | .missingReceiver => "missing receiver"
  | .count expected got =>
    "expected " ++ toString expected ++ " argument(s), got " ++ toString got
  | .notString typeName => "expected a string literal, got " ++ typeName

/-- Why a node has no SQL text. -/
inductive RenderError where
  | unsupportedKind (kind : UnsupportedKind)
  /-- A field is selected from something else than the subject. -/
  | invalidSubject (expected found : String)
  | unsupportedFunction (name : String)
  | literalRequired (function found : String)
  | invalidTimestamp (value : String) (e : Calendar.TimestampError)
  | unsupportedTimestampLiteral (function typeName : String)
  | invalidArguments (function : String) (fault : ArgumentFault)
  /-- The time format cannot be written. -/
  | unwritableFormat (format : String)
deriving DecidableEq

/-- The reason in words. -/
def RenderError.message : RenderError → String
  | .unsupportedKind kind => "Unsupported expression kind: " ++ kind.description
  | .invalidSubject expected found =>
    "Expected identifier `" ++ expected ++ "`, found `" ++ found ++ "`"
  | .unsupportedFunction name => "Unsupported function `" ++ name ++ "`"
  | .literalRequired function found =>
    "Expected a literal argument in `" ++ function ++ "`, found `" ++ found ++ "`"
  | .invalidTimestamp value e => "Invalid timestamp `" ++ value ++ "`: " ++ e.message
  | .unsupportedTimestampLiteral function typeName =>
    "Unsupported " ++ typeName ++ " literal in `" ++ function ++ "`"
  | .invalidArguments function fault =>
    "Invalid arguments for `" ++ function ++ "`: " ++ fault.message
  | .unwritableFormat format => "Failed to format timestamp with `" ++ format ++ "`"

/-! ## Writing -/

/-- Computations that write to a buffer and may stop with an error, leaving what they wrote. -/
abbrev Render (α : Type) : Type := ExceptT RenderError (StateM String) α

namespace Render

/-- Appends to the buffer. -/
def write (cs : List Char) : Render Unit :=
  modify (· ++ String.ofList cs)

/-- Runs a computation on a buffer, and gives what it ended with and the buffer after it. -/
def runOn {α : Type} (x : Render α) (buffer : String) : Except RenderError α × String :=
  (ExceptT.run x).run buffer

end Render

open Render

/-! ## Leaves -/

/-- Writes a literal value. -/
def Value.render : Value → Render Unit
  | .null => write "NULL".toList
  | .bool true => write "true".toList
  | .bool false => write "false".toList
  | .int i => write (Decimal.intText i.toInt)
  | .uint u => write (Decimal.natText u.toNat)
  | .double d =>
    if d.isFinite then write (d.text .sql).toList
    else throw (.unsupportedKind (.nonFinite d))
  | .string s => write (Sql.quote s.toList)

namespace Expr

/-- What a chain of field selections starts from, and the fields in order. -/
def chain : Expr → Expr × List String
  | .select operand field =>
    let (root, fields) := operand.chain
    (root, fields ++ [field])
  | e => (e, [])

theorem chain_select (operand : Expr) (field : String) :
    (select operand field).chain = (operand.chain.1, operand.chain.2 ++ [field]) :=
  rfl

/-- Field names with dots between them. -/
def dotted (fields : List String) : String :=
  String.ofList (['.'].intercalate (fields.map String.toList))

/-- The path of a chain of field selections from the subject. -/
def fieldPath (subject : String) (e : Expr) : Except RenderError String :=
  match e.chain with
  | (.ident name, fields) =>
    if name = subject then .ok (dotted fields) else .error (.invalidSubject subject name)
  | (root, _) => .error (.invalidSubject subject root.text)

/-- Writes the column of a chain of field selections. -/
def renderField (s : Settings) (e : Expr) : Render Unit :=
  match e.fieldPath s.subject with
  | .ok path => write (s.column path).toList
  | .error e => throw e

/-- The text without the quotes at its ends. -/
def trimQuotes (cs : List Char) : List Char :=
  ((cs.dropWhile (· == '"')).reverse.dropWhile (· == '"')).reverse

/-- The string a pattern is made of: a literal, without quotes at its ends. -/
def patternText (function : String) : Expr → Except RenderError (List Char)
  | .literal (.string s) => .ok (trimQuotes s.toList)
  | .literal v => .error (.invalidArguments function (.notString v.typeName))
  | e => .error (.literalRequired function e.text)

/-- Writes a comparison of what the receiver writes with the pattern of the only argument. -/
def renderLike (function : String) (pattern : List Char → List Char) :
    Option (Render Unit) → List Expr → Render Unit
  | none, _ => throw (.invalidArguments function .missingReceiver)
  | some receiver, [arg] => match patternText function arg with
    | .ok cs => do
      write ['(']
      receiver
      write (" LIKE ".toList ++ pattern cs ++ [')'])
    | .error e => throw e
  | some _, args => throw (.invalidArguments function (.count 1 args.length))

/-- The text of a timestamp in the zone and the format of the settings. -/
def timestampText (s : Settings) (text : String) : Except RenderError (List Char) :=
  match Calendar.Instant.ofTimestamp text with
  | .error e => .error (.invalidTimestamp text e)
  | .ok t =>
    match Calendar.Format.parse? s.timeFormat >>=
        Calendar.Format.print? (s.zone.localize t.truncate) with
    | some cs => .ok cs
    | none => .error (.unwritableFormat s.timeFormat)

/-- Writes the moment a literal stands for. -/
def renderMoment (s : Settings) (function : String) : Expr → Render Unit
  | .literal (.string text) => match timestampText s text with
    | .ok cs => write (Sql.quote cs)
    | .error e => throw e
  | .literal (.int i) => write (Sql.fromUnixTime (Decimal.intText i.toInt))
  | .literal (.uint u) => write (Sql.fromUnixTime (Decimal.natText u.toNat))
  | .literal v => throw (.unsupportedTimestampLiteral function v.typeName)
  | e => throw (.literalRequired function e.text)

/-- Writes a timestamp. -/
def renderTimestamp (s : Settings) (function : String) :
    Option (Render Unit) → List Expr → Render Unit
  | some _, _ => throw (.invalidArguments function .unexpectedReceiver)
  | none, [arg] => renderMoment s function arg
  | none, args => throw (.invalidArguments function (.count 1 args.length))

/-! ## Operators -/

/-- Writes an operator between what its operands write. -/
def renderBinary (function : String) (op : BinaryOp) :
    Option (Render Unit) → List (Render Unit) → Render Unit
  | some _, _ => throw (.invalidArguments function .unexpectedReceiver)
  | none, [left, right] => do
    write ['(']
    left
    write (' ' :: ((Sql.binaryToken op).toList ++ [' ']))
    right
    write [')']
  | none, operands => throw (.invalidArguments function (.count 2 operands.length))

/-- Writes an operator in front of what its operand writes. -/
def renderUnary (function : String) (op : UnaryOp) :
    Option (Render Unit) → List (Render Unit) → Render Unit
  | some _, _ => throw (.invalidArguments function .unexpectedReceiver)
  | none, [operand] => do
    write ('(' :: ((Sql.unaryToken op).toList ++ [' ']))
    operand
    write [')']
  | none, operands => throw (.invalidArguments function (.count 1 operands.length))

/-! ## Trees -/

/-- The function a call renders, if it has a form in SQL and is enabled. -/
def resolve (s : Settings) (function : String) : Except RenderError Builtin :=
  match Builtin.ofName? function with
  | some b => if s.isEnabled function then .ok b else .error (.unsupportedFunction function)
  | none => .error (.unsupportedFunction function)

/-- Writes a call, given what its receiver and its arguments write. -/
def renderCall (s : Settings) (function : String) (target : Option (Render Unit))
    (operands : List (Render Unit)) (args : List Expr) : Render Unit :=
  match resolve s function with
  | .error e => throw e
  | .ok (.binary op) => renderBinary function op target operands
  | .ok (.unary op) => renderUnary function op target operands
  | .ok .startsWith => renderLike function Sql.startPattern target args
  | .ok .endsWith => renderLike function Sql.endPattern target args
  | .ok .timestamp => renderTimestamp s function target args

mutual

/-- Writes a tree. -/
def render (s : Settings) : Expr → Render Unit
  | .literal v => v.render
  | .ident name => throw (.unsupportedKind (.ident name))
  | .select operand field => renderField s (.select operand field)
  | .list _ => throw (.unsupportedKind .list)
  | .call function target args =>
    renderCall s function (targetRender s target) (renders s args) args

/-- Writes a receiver. -/
def targetRender (s : Settings) : Option Expr → Option (Render Unit)
  | none => none
  | some target => some (target.render s)

/-- Write several trees, one each. -/
def renders (s : Settings) : List Expr → List (Render Unit)
  | [] => []
  | e :: es => e.render s :: renders s es

end

theorem targetRender_eq_map (s : Settings) (target : Option Expr) :
    targetRender s target = target.map (render s) := by
  cases target <;> simp [targetRender]

theorem renders_eq_map (s : Settings) (es : List Expr) : renders s es = es.map (render s) := by
  induction es with
  | nil => simp [renders]
  | cons e es ih => simp [renders, ih]

end Expr

namespace Settings

/-- What rendering a tree writes, and the error it stops with, if it does. -/
def written (s : Settings) (e : Expr) : String × Option RenderError :=
  match (e.render s).runOn "" with
  | (.ok (), text) => (text, none)
  | (.error error, text) => (text, some error)

/-- The SQL text of a tree. -/
def generate (s : Settings) (e : Expr) : Except RenderError String :=
  match s.written e with
  | (text, none) => .ok text
  | (_, some error) => .error error

end Settings

end WhereClause
