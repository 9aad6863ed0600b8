import WhereClause.Filter.Term
import WhereClause.Text.Blank

/-!
# Tokens

`scan` cuts filter text into tokens.  At each place the longest token is taken, so a sign that
touches a number belongs to it and `in` is a word of its own only if no letter follows.  Blanks, and
comments from `//` to the end of the line, separate tokens and are dropped.  The cut stops at the
first place where no token starts; what was found up to there is kept.
-/

set_option autoImplicit false

namespace WhereClause.Filter

/-- A token. -/
inductive Token where
  | literal (l : Literal)
  | ident (name : String)
  | question | colon | comma | dot
  | openBracket | closeBracket | openParen | closeParen | openBrace | closeBrace
  | or | and
  | relation (op : Relation)
  | plus | minus | times | over | percent
  | bang | bangBang | minusMinus
deriving DecidableEq

/-! ## Names and numbers -/

/-- A letter of the ASCII alphabet or an underscore. -/
def isNameStart (c : Char) : Bool :=
  c.isAlpha || c == '_'

/-- A character that can continue a name. -/
def isNamePart (c : Char) : Bool :=
  c.isAlphanum || c == '_'

/-- The token of a word: one of the four reserved words, or a name. -/
def wordToken (word : List Char) : Token :=
  match String.ofList word with
  | "in" => .relation .member
  | "true" => .literal (.bool true)
  | "false" => .literal (.bool false)
  | "null" => .literal .null
  | name => .ident name

/-- A digit in base sixteen. -/
def isHexDigit (c : Char) : Bool :=
  c.isDigit || ('a' ≤ c && c ≤ 'f') || ('A' ≤ c && c ≤ 'F')

/-- The mark of an unsigned integer. -/
def isUnsignedMark (c : Char) : Bool :=
  c == 'u' || c == 'U'

/-- The number at the front of a text whose sign, if any, has been read already, with what follows.
A plus sign goes only with a number that has a fraction or an exponent, and no sign at all with a
decimal unsigned integer. -/
def scanNumber? (sign : Option Char) (cs : List Char) : Option (Literal × List Char) :=
  let negative := sign == some '-'
  let whole := Numeral.leading cs
  let integer? :=
    if whole.isEmpty || sign == some '+' then none
    else some (.int negative 10 whole, Numeral.trailing cs)
  match Numeral.trailing cs with
  | [] => integer?
  | '.' :: tail =>
    match Numeral.leading tail with
    | [] => integer?
    | fraction =>
      match Numeral.scanExponent? (Numeral.trailing tail) with
      | some (e, rest) => some (.float (Numeral.ofParts negative whole fraction e), rest)
      | none => some (.float (Numeral.ofParts negative whole fraction 0), Numeral.trailing tail)
  | c :: tail =>
    if whole.isEmpty then none
    else match Numeral.scanExponent? (c :: tail) with
      | some (e, rest) => some (.float (Numeral.ofParts negative whole [] e), rest)
      | none =>
        if isUnsignedMark c && sign.isNone then some (.uint false 10 whole, tail)
        else if (c == 'x' || c == 'X') && whole == ['0'] && sign != some '+' then
          match tail.takeWhile isHexDigit, tail.dropWhile isHexDigit with
          | [], _ => integer?
          | digits, u :: rest =>
            if isUnsignedMark u then some (.uint negative 16 digits, rest)
            else some (.int negative 16 digits, u :: rest)
          | digits, [] => some (.int negative 16 digits, [])
        else integer?

/-! ## Quoted literals -/

/-- The characters up to the closing quote, and what follows it.  A backslash takes the next
character with it, which must not be the end of the line. -/
def scanQuoted? (quote : Char) : List Char → Option (List Char × List Char)
  | [] => none
  | '\\' :: c :: rest =>
    if c = '\n' then none
    else (scanQuoted? quote rest).map fun (body, rest) ↦ ('\\' :: c :: body, rest)
  | c :: rest =>
    if c = quote then some ([], rest)
    else if c = '\\' then none
    else (scanQuoted? quote rest).map fun (body, rest) ↦ (c :: body, rest)

/-- The characters of a byte string up to its closing quote, and what follows it.  A quote right
after a backslash is passed over if the line has a closing quote further on. -/
def scanBytes? (quote : Char) : (afterBackslash : Bool) → List Char →
    Option (List Char × List Char)
  | _, [] => none
  | afterBackslash, c :: rest =>
    if c = '\n' then none
    else if c = quote then
      match afterBackslash, scanBytes? quote false rest with
      | true, some (body, rest) => some (quote :: body, rest)
      | _, _ => some ([], rest)
    else (scanBytes? quote (c == '\\') rest).map fun (body, rest) ↦ (c :: body, rest)

/-- Either kind of quote. -/
def isQuote (c : Char) : Bool :=
  c == '"' || c == '\x27'

/-- A word, or a literal that starts with a letter: a raw string or a byte string. -/
def scanWord (c : Char) (cs : List Char) : Token × List Char :=
  let word := (wordToken (c :: cs.takeWhile isNamePart), cs.dropWhile isNamePart)
  match cs with
  | quote :: rest =>
    if !isQuote quote then word
    else if c == 'r' || c == 'R' then
      match scanQuoted? quote rest with
      | some (body, rest) => (.literal (.rawString quote body), rest)
      | none => word
    else if c == 'b' || c == 'B' then
      match scanBytes? quote false rest with
      | some (body, rest) => (.literal (.bytes body), rest)
      | none => word
    else word
  | [] => word

/-! ## One token -/

/-- A number whose sign has been read, or else the token of the sign. -/
def scanSigned (sign : Char) (alone : Token × List Char) (cs : List Char) : Token × List Char :=
  match scanNumber? (some sign) cs with
  | some (number, rest) => (.literal number, rest)
  | none => alone

/-- The token made of signs at the front of a text, with what follows. -/
def scanSymbol? : List Char → Option (Token × List Char)
  | '|' :: '|' :: rest => some (.or, rest)
  | '&' :: '&' :: rest => some (.and, rest)
  | '<' :: '=' :: rest => some (.relation .lessOrEqual, rest)
  | '<' :: rest => some (.relation .lessThan, rest)
  | '>' :: '=' :: rest => some (.relation .greaterOrEqual, rest)
  | '>' :: rest => some (.relation .greaterThan, rest)
  | '=' :: '=' :: rest => some (.relation .equal, rest)
  | '!' :: '=' :: rest => some (.relation .notEqual, rest)
  | '!' :: '!' :: rest => some (.bangBang, rest)
  | '!' :: rest => some (.bang, rest)
  | '-' :: '-' :: rest => some (.minusMinus, rest)
  | '-' :: rest => some (scanSigned '-' (.minus, rest) rest)
  | '+' :: rest => some (scanSigned '+' (.plus, rest) rest)
  | '*' :: rest => some (.times, rest)
  | '/' :: rest => some (.over, rest)
  | '%' :: rest => some (.percent, rest)
  | '?' :: rest => some (.question, rest)
  | ':' :: rest => some (.colon, rest)
  | ',' :: rest => some (.comma, rest)
  | '[' :: rest => some (.openBracket, rest)
  | ']' :: rest => some (.closeBracket, rest)
  | '(' :: rest => some (.openParen, rest)
  | ')' :: rest => some (.closeParen, rest)
  | '\x7b' :: rest => some (.openBrace, rest)
  | '\x7d' :: rest => some (.closeBrace, rest)
  | _ => none

/-- The token at the front of a text, with what follows. -/
def scanToken? : List Char → Option (Token × List Char)
  | [] => none
  | c :: cs =>
    if isNameStart c then some (scanWord c cs)
    else if isQuote c then
      (scanQuoted? c cs).map fun (body, rest) ↦ (.literal (.string c body), rest)
    else match scanNumber? none (c :: cs) with
      | some (number, rest) => some (.literal number, rest)
      | none => if c = '.' then some (.dot, cs) else scanSymbol? (c :: cs)

/-! ## The whole text -/

/-- A place in a text: the number of line ends before it, and of bytes since the last of them. -/
structure Position where
  line : Nat
  column : Nat
deriving DecidableEq

namespace Position

/-- The start of a text. -/
def start : Position := ⟨0, 0⟩

/-- The place after one more character. -/
def next (p : Position) (c : Char) : Position :=
  if c = '\n' then ⟨p.line + 1, 0⟩ else ⟨p.line, p.column + c.utf8Size⟩

/-- The place after more text. -/
def advance (p : Position) (cs : List Char) : Position :=
  cs.foldl next p

/-- A place as line and column in brackets. -/
def text (p : Position) : String :=
  "[" ++ toString p.line ++ ":" ++ toString p.column ++ "]"

end Position

/-- A token with the text it was read from and where that text stands. -/
structure Lexeme where
  token : Token
  text : List Char
  start : Position
  stop : Position
deriving DecidableEq

/-- A text cut into tokens. -/
structure Scan where
  /-- The tokens, in order. -/
  lexemes : List Lexeme
  /-- The place where no token starts, if the cut stopped before the end of the text. -/
  stuck? : Option Position
deriving DecidableEq

/-- Puts a lexeme in front. -/
def Scan.cons (l : Lexeme) (s : Scan) : Scan :=
  { s with lexemes := l :: s.lexemes }

/-- Cuts a text that stands at `p`, in at most `fuel` steps of one token, blank or comment. -/
def scanFrom : (fuel : Nat) → (p : Position) → List Char → Scan
  | 0, _, _ => ⟨[], none⟩
  | _ + 1, _, [] => ⟨[], none⟩
  | fuel + 1, p, c :: cs =>
    if Text.isBlank c then scanFrom fuel (p.next c) cs
    else if c = '/' && cs.head? == some '/' then
      let comment := (c :: cs).takeWhile fun c ↦ c != '\n' && c != '\r'
      scanFrom fuel (p.advance comment) ((c :: cs).dropWhile fun c ↦ c != '\n' && c != '\r')
    else match scanToken? (c :: cs) with
      | none => ⟨[], some p⟩
      | some (token, rest) =>
        let text := (c :: cs).take ((c :: cs).length - rest.length)
        let stop := p.advance text
        (scanFrom fuel stop rest).cons ⟨token, text, p, stop⟩

/-- Cuts a text into tokens.  Every step takes at least one character. -/
def scan (cs : List Char) : Scan :=
  scanFrom cs.length .start cs

end WhereClause.Filter
