import WhereClause.Filter.Token

/-!
# The grammar of filters

A filter is read by a machine with a stack.  The stack holds what has been opened and not yet
closed: operators waiting for their right operand, parentheses, lists, calls, conditionals.  `step`
takes one token; it either finds a place for it, or the token cannot continue any filter that starts
with the tokens before it.  So the first token refused is the first one that is wrong, and nothing
has to be undone.

From loosest to tightest the operators are the conditional, `||`, `&&`, the relations, sums,
products, and the signs in front of an operand.  All but the relations may be chained and group to
the left, the conditional to the right.  A sign goes in front of a member, not of another sign.

## What is here

* `Frame`, `Phase`, `State` — the stack and what may come next.
* `step`, `finish` — the machine.
* `Term.parse` — the term of a whole text, or the first place where it goes wrong.
-/

set_option autoImplicit false

namespace WhereClause.Filter

/-- The operators between two operands. -/
inductive Infix where
  | or | and
  | relation (op : Relation)
  | arithmetic (op : Arithmetic)
deriving DecidableEq

namespace Infix

/-- How tightly an operator binds. -/
def level : Infix → Nat
  | .or => 1
  | .and => 2
  | .relation _ => 3
  | .arithmetic .add => 4
  | .arithmetic .subtract => 4
  | .arithmetic _ => 5

/-- Whether an operator may take the result of another one of its level as its left operand. -/
def chains : Infix → Bool
  | .relation _ => false
  | _ => true

/-- The term of an operator and its operands. -/
def term : Infix → Term → Term → Term
  | .or => .or
  | .and => .and
  | .relation op => .relation op
  | .arithmetic op => .arithmetic op

/-- The operator a token can stand for between two operands. -/
def ofToken? : Token → Option Infix
  | .or => some .or
  | .and => some .and
  | .relation op => some (.relation op)
  | .plus => some (.arithmetic .add)
  | .minus => some (.arithmetic .subtract)
  | .times => some (.arithmetic .multiply)
  | .over => some (.arithmetic .divide)
  | .percent => some (.arithmetic .modulo)
  | _ => none

end Infix

/-- The sign a token can stand for in front of an operand. -/
def Sign.ofToken? : Token → Option Sign
  | .bang => some .not
  | .bangBang => some .notNot
  | .minus => some .minus
  | .minusMinus => some .minusMinus
  | _ => none

/-! ## States -/

/-- Something opened and not yet closed.  Parts already complete are kept last first. -/
inductive Frame where
  /-- A sign waits for its operand. -/
  | sign (s : Sign)
  /-- An operator waits for its right operand. -/
  | pending (left : Term) (op : Infix)
  /-- A condition waits for its first branch. -/
  | yes (condition : Term)
  /-- A condition and its first branch wait for the second. -/
  | no (condition yes : Term)
  /-- A parenthesis. -/
  | group
  /-- A list. -/
  | list (done : List Term)
  /-- The arguments of a call. -/
  | args (target : Option Term) (function : String) (done : List Term)
  /-- An index. -/
  | index (operand : Term)
  /-- A key of a map. -/
  | key (done : List (Term × Term))
  /-- The value of a map entry. -/
  | value (done : List (Term × Term)) (key : Term)
  /-- The value of a message field. -/
  | field (operand : Term) (done : List (String × Term)) (name : String)

/-- What may come next. -/
inductive Phase where
  /-- An operand, or, if `mayClose`, the end of the innermost list. -/
  | operand (mayClose : Bool)
  /-- A name, after a dot. -/
  | name (target : Option Term)
  /-- Anything after a name; in particular the arguments of a call. -/
  | named (target : Option Term) (name : String)
  /-- Anything after a complete member. -/
  | after (t : Term)
  /-- The name of a message field, or the end of the message. -/
  | fieldName (operand : Term) (done : List (String × Term))
  /-- The colon after the name of a message field. -/
  | fieldColon (operand : Term) (done : List (String × Term)) (name : String)

/-- A state of the machine. -/
structure State where
  phase : Phase
  stack : List Frame

/-- The state before the first token. -/
def State.initial : State := ⟨.operand false, []⟩

/-- Why a token is refused. -/
inductive Refusal where
  /-- It cannot stand here. -/
  | unexpected
  /-- It is a literal without a value. -/
  | illegalLiteral
deriving DecidableEq

/-! ## Closing what a token ends -/

/-- The term of a name, with the operand before the dot. -/
def namedTerm : Option Term → String → Term
  | none, name => .ident name
  | some target, name => .attribute target name

/-- Applies the sign that waits for a member. -/
def closeSign (t : Term) : List Frame → Term × List Frame
  | .sign s :: stack => (.unary s t, stack)
  | stack => (t, stack)

/-- Applies the operators that bind at least as tightly as `level`. -/
def closeInfix (level : Nat) (t : Term) : List Frame → Term × List Frame
  | .pending left op :: stack =>
    if level ≤ op.level then closeInfix level (op.term left t) stack else (t, .pending left op :: stack)
  | stack => (t, stack)

/-- Completes the conditionals that wait for their second branch. -/
def closeTernary (t : Term) : List Frame → Term × List Frame
  | .no condition yes :: stack => closeTernary (.ternary condition yes t) stack
  | stack => (t, stack)

/-- Completes everything up to the innermost bracket. -/
def closeAll (t : Term) (stack : List Frame) : Term × List Frame :=
  let (t, stack) := closeSign t stack
  let (t, stack) := closeInfix 0 t stack
  closeTernary t stack

/-! ## One token -/

/-- The state after an operator between operands.  A relation on top of another is refused. -/
def stepInfix (op : Infix) (t : Term) (stack : List Frame) : Except Refusal State :=
  let (t, stack) := closeSign t stack
  let (t, stack) := closeInfix (if op.chains then op.level else op.level + 1) t stack
  match op.chains, stack with
  | false, .pending left above :: rest =>
    if above.level = op.level then .error .unexpected
    else .ok ⟨.operand false, .pending t op :: .pending left above :: rest⟩
  | _, stack => .ok ⟨.operand false, .pending t op :: stack⟩

/-- The state after the end of a list, once its last element is complete. -/
def stepClose (token : Token) (t : Term) (stack : List Frame) : Except Refusal State :=
  match token, closeAll t stack with
  | .closeParen, (t, .group :: stack) => .ok ⟨.after t, stack⟩
  | .closeParen, (t, .args target function done :: stack) =>
    .ok ⟨.after (.call (.ident function) target (t :: done).reverse), stack⟩
  | .closeBracket, (t, .list done :: stack) => .ok ⟨.after (.list (t :: done).reverse), stack⟩
  | .closeBracket, (t, .index operand :: stack) => .ok ⟨.after (.index operand t), stack⟩
  | .closeBrace, (t, .value done key :: stack) =>
    .ok ⟨.after (.map ((key, t) :: done).reverse), stack⟩
  | .closeBrace, (t, .field operand done name :: stack) =>
    .ok ⟨.after (.message operand ((name, t) :: done).reverse), stack⟩
  | _, _ => .error .unexpected

/-- The state after a comma. -/
def stepComma (t : Term) (stack : List Frame) : Except Refusal State :=
  match closeAll t stack with
  | (t, .list done :: stack) => .ok ⟨.operand true, .list (t :: done) :: stack⟩
  | (t, .args target function done :: stack) =>
    .ok ⟨.operand true, .args target function (t :: done) :: stack⟩
  | (t, .value done key :: stack) => .ok ⟨.operand true, .key ((key, t) :: done) :: stack⟩
  | (t, .field operand done name :: stack) =>
    .ok ⟨.fieldName operand ((name, t) :: done), stack⟩
  | _ => .error .unexpected

/-- The state after a question mark.  The first branch of a conditional is no conditional. -/
def stepQuestion (t : Term) (stack : List Frame) : Except Refusal State :=
  let (t, stack) := closeSign t stack
  match closeInfix 0 t stack with
  | (_, .yes _ :: _) => .error .unexpected
  | (t, stack) => .ok ⟨.operand false, .yes t :: stack⟩

/-- The state after a colon: between the branches of a conditional or after a key. -/
def stepColon (t : Term) (stack : List Frame) : Except Refusal State :=
  match closeAll t stack with
  | (t, .yes condition :: stack) => .ok ⟨.operand false, .no condition t :: stack⟩
  | (t, .key done :: stack) => .ok ⟨.operand false, .value done t :: stack⟩
  | _ => .error .unexpected

/-- The state after a token that follows a complete member. -/
def stepAfter (t : Term) (stack : List Frame) (token : Token) : Except Refusal State :=
  match token with
  | .dot => .ok ⟨.name (some t), stack⟩
  | .openBracket => .ok ⟨.operand false, .index t :: stack⟩
  | .openBrace => .ok ⟨.fieldName t [], stack⟩
  | .question => stepQuestion t stack
  | .colon => stepColon t stack
  | .comma => stepComma t stack
  | token => match Infix.ofToken? token with
    | some op => stepInfix op t stack
    | none => stepClose token t stack

/-- The state after the end of a list that has no element, or whose last element was followed by a
comma. -/
def stepEmpty (token : Token) (stack : List Frame) : Except Refusal State :=
  match token, stack with
  | .closeBracket, .list done :: stack => .ok ⟨.after (.list done.reverse), stack⟩
  | .closeParen, .args target function done :: stack =>
    .ok ⟨.after (.call (.ident function) target done.reverse), stack⟩
  | .closeBrace, .key done :: stack => .ok ⟨.after (.map done.reverse), stack⟩
  | _, _ => .error .unexpected

/-- The state after a token where an operand may start. -/
def stepOperand (mayClose : Bool) (stack : List Frame) (token : Token) : Except Refusal State :=
  match token with
  | .literal l => match l.atom? with
    | some a => .ok ⟨.after (.atom a), stack⟩
    | none => .error .illegalLiteral
  | .ident name => .ok ⟨.named none name, stack⟩
  | .dot => .ok ⟨.name none, stack⟩
  | .openParen => .ok ⟨.operand false, .group :: stack⟩
  | .openBracket => .ok ⟨.operand true, .list [] :: stack⟩
  | .openBrace => .ok ⟨.operand true, .key [] :: stack⟩
  | token => match Sign.ofToken? token, stack with
    | some _, .sign _ :: _ => .error .unexpected
    | some s, stack => .ok ⟨.operand false, .sign s :: stack⟩
    | none, stack => if mayClose then stepEmpty token stack else .error .unexpected

/-- Takes one token. -/
def step (s : State) (token : Token) : Except Refusal State :=
  match s.phase, token with
  | .operand mayClose, token => stepOperand mayClose s.stack token
  | .name target, .ident name => .ok ⟨.named target name, s.stack⟩
  | .named target name, .openParen => .ok ⟨.operand true, .args target name [] :: s.stack⟩
  | .named target name, token => stepAfter (namedTerm target name) s.stack token
  | .after t, token => stepAfter t s.stack token
  | .fieldName operand done, .ident name => .ok ⟨.fieldColon operand done name, s.stack⟩
  | .fieldName operand done, .closeBrace => .ok ⟨.after (.message operand done.reverse), s.stack⟩
  | .fieldColon operand done name, .colon =>
    .ok ⟨.operand false, .field operand done name :: s.stack⟩
  | _, _ => .error .unexpected

/-- The term that is complete if the text ends here. -/
def finish (s : State) : Option Term :=
  let complete? := match s.phase with
    | .named target name => some (namedTerm target name)
    | .after t => some t
    | _ => none
  match complete?.map (closeAll · s.stack) with
  | some (t, []) => some t
  | _ => none

/-! ## The whole text -/

/-- What is wrong with a text that is no filter. -/
inductive SyntaxError where
  /-- No token starts here. -/
  | invalidToken (place : Position)
  /-- A token that cannot continue what stands before it. -/
  | unexpectedToken (text : String) (start stop : Position)
  /-- The text ends where something must follow. -/
  | unexpectedEnd (place : Position)
  /-- A literal that has no value. -/
  | illegalLiteral (text : String)
deriving DecidableEq

/-- What is wrong, and where. -/
def SyntaxError.message : SyntaxError → String
  | .invalidToken place => "invalid token at " ++ place.text
  | .unexpectedToken text start stop =>
    "unrecognized token: '" ++ text ++ "' at " ++ start.text ++ "->" ++ stop.text
  | .unexpectedEnd place => "unrecognized eof at " ++ place.text
  | .illegalLiteral text => "illegal literal: " ++ text

/-- The error of refusing a lexeme. -/
def SyntaxError.ofRefusal (l : Lexeme) : Refusal → SyntaxError
  | .unexpected => .unexpectedToken (String.ofList l.text) l.start l.stop
  | .illegalLiteral => .illegalLiteral (String.ofList l.text)

/-- Runs the machine over lexemes; `last` is where the text read so far ends. -/
def run (s : State) (last : Position) (stuck? : Option Position) :
    List Lexeme → Except SyntaxError Term
  | [] => match stuck?, finish s with
    | some place, _ => .error (.invalidToken place)
    | none, some t => .ok t
    | none, none => .error (.unexpectedEnd last)
  | l :: ls => match step s l.token with
    | .ok s => run s l.stop stuck? ls
    | .error r => .error (.ofRefusal l r)

/-- The term of a filter text. -/
def Term.parse (text : String) : Except SyntaxError Term :=
  let s := scan text.toList
  run .initial .start s.stuck? s.lexemes

end WhereClause.Filter
