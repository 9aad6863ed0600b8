import WhereClause.Json

/-!
# Reading JSON text

`Json.parse?` reads one document: a value with nothing but space around it.  Escapes of surrogate
pairs are joined; a lone surrogate is refused.
-/

set_option autoImplicit false

namespace WhereClause.Json

/-- The characters allowed between tokens. -/
def isSpace (c : Char) : Bool :=
  c == ' ' || c == '\t' || c == '\n' || c == '\r'

/-- Drops the space at the front. -/
def skipSpace (cs : List Char) : List Char :=
  cs.dropWhile isSpace

/-- The value of a hexadecimal digit. -/
def hexValue? (c : Char) : Option Nat :=
  if c.isDigit then some (c.toNat - '0'.toNat)
  else if 'a' ≤ c ∧ c ≤ 'f' then some (c.toNat - 'a'.toNat + 10)
  else if 'A' ≤ c ∧ c ≤ 'F' then some (c.toNat - 'A'.toNat + 10)
  else none

/-- Four hexadecimal digits and what follows them. -/
def scanHex4? : List Char → Option (Nat × List Char)
  | a :: b :: c :: d :: rest => do
    let a ← hexValue? a
    let b ← hexValue? b
    let c ← hexValue? c
    let d ← hexValue? d
    return (((a * 16 + b) * 16 + c) * 16 + d, rest)
  | _ => none

/-- The code point after `\u`, which takes a second escape if the first is a leading surrogate. -/
def scanCodePoint? (cs : List Char) : Option (Char × List Char) := do
  let (high, rest) ← scanHex4? cs
  if 0xd800 ≤ high ∧ high < 0xdc00 then
    match rest with
    | '\\' :: 'u' :: rest =>
      let (low, rest) ← scanHex4? rest
      if 0xdc00 ≤ low ∧ low < 0xe000 then
        return (Char.ofNat (0x10000 + (high - 0xd800) * 0x400 + (low - 0xdc00)), rest)
      else none
    | _ => none
  else if 0xdc00 ≤ high ∧ high < 0xe000 then none
  else return (Char.ofNat high, rest)

/-- The character of a one-letter escape. -/
def escapeChar? : Char → Option Char
  | '"' => some '"'
  | '\\' => some '\\'
  | '/' => some '/'
  | 'b' => some '\x08'
  | 'f' => some '\x0c'
  | 'n' => some '\n'
  | 'r' => some '\r'
  | 't' => some '\t'
  | _ => none

/-- The rest of a string whose opening quote has been read, with what follows the closing one. -/
def scanString? : (fuel : Nat) → List Char → List Char → Option (String × List Char)
  | 0, _, _ => none
  | fuel + 1, seen, cs => match cs with
    | [] => none
    | '"' :: rest => some (String.ofList seen.reverse, rest)
    | '\\' :: 'u' :: rest => do
      let (c, rest) ← scanCodePoint? rest
      scanString? fuel (c :: seen) rest
    | '\\' :: e :: rest => do
      let c ← escapeChar? e
      scanString? fuel (c :: seen) rest
    | c :: rest => if c.toNat < 0x20 then none else scanString? fuel (c :: seen) rest

/-- A number at the front of a text.  A zero in front of other digits is refused. -/
def scanNumber? (cs : List Char) : Option (Number × List Char) :=
  let (negative, body) := match cs with
    | '-' :: cs => (true, cs)
    | cs => (false, cs)
  let whole := Numeral.leading body
  if whole.isEmpty || (whole.head? == some '0' && 1 < whole.length) then none
  else
    let rest := Numeral.trailing body
    let (fraction, afterFraction) := match rest with
      | '.' :: cs => (Numeral.leading cs, Numeral.trailing cs)
      | cs => ([], cs)
    if rest.head? == some '.' && fraction.isEmpty then none
    else match Numeral.scanExponent? afterFraction with
      | some (e, rest) => some (.decimal (Numeral.ofParts negative whole fraction e), rest)
      | none =>
        if afterFraction.head? == some 'e' || afterFraction.head? == some 'E' then none
        else if fraction.isEmpty then
          some (.integer negative (Numeral.ofDigits whole), afterFraction)
        else some (.decimal (Numeral.ofParts negative whole fraction 0), afterFraction)

mutual

/-- A value at the front of a text. -/
def scanValue? : (fuel : Nat) → List Char → Option (Json × List Char)
  | 0, _ => none
  | fuel + 1, cs => match skipSpace cs with
    | 'n' :: 'u' :: 'l' :: 'l' :: rest => some (.null, rest)
    | 't' :: 'r' :: 'u' :: 'e' :: rest => some (.bool true, rest)
    | 'f' :: 'a' :: 'l' :: 's' :: 'e' :: rest => some (.bool false, rest)
    | '"' :: rest => do
      let (s, rest) ← scanString? (rest.length + 1) [] rest
      return (.string s, rest)
    | '[' :: rest => match skipSpace rest with
      | ']' :: rest => some (.array [], rest)
      | rest => scanElements? fuel [] rest
    | '\x7b' :: rest => match skipSpace rest with
      | '\x7d' :: rest => some (.object [], rest)
      | rest => scanFields? fuel [] rest
    | rest => do
      let (n, rest) ← scanNumber? rest
      return (.number n, rest)

/-- The elements of an array up to its closing bracket. -/
def scanElements? : (fuel : Nat) → List Json → List Char → Option (Json × List Char)
  | 0, _, _ => none
  | fuel + 1, seen, cs => do
    let (element, rest) ← scanValue? fuel cs
    match skipSpace rest with
    | ',' :: rest => scanElements? fuel (element :: seen) rest
    | ']' :: rest => return (.array (element :: seen).reverse, rest)
    | _ => none

/-- The fields of an object up to its closing brace. -/
def scanFields? : (fuel : Nat) → List (String × Json) → List Char → Option (Json × List Char)
  | 0, _, _ => none
  | fuel + 1, seen, cs => match skipSpace cs with
    | '"' :: rest => do
      let (name, rest) ← scanString? (rest.length + 1) [] rest
      match skipSpace rest with
      | ':' :: rest =>
        let (value, rest) ← scanValue? fuel rest
        match skipSpace rest with
        | ',' :: rest => scanFields? fuel ((name, value) :: seen) rest
        | '\x7d' :: rest => return (.object ((name, value) :: seen).reverse, rest)
        | _ => none
      | _ => none
    | _ => none

end

/-- Reads a document. -/
def parse? (text : String) : Option Json := do
  let cs := text.toList
  let (value, rest) ← scanValue? (2 * cs.length + 2) cs
  if (skipSpace rest).isEmpty then return value else none

end WhereClause.Json
