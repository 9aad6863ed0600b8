import WhereClause.Text.Concealed

/-!
# Quoted text

The form a string literal takes when an expression is shown: between double quotes, with a
backslash before a quote or a backslash, short escapes for the common controls, and the code point
in braces for every other concealed character.
-/

set_option autoImplicit false

namespace WhereClause.Text

/-- A code point in hexadecimal, between `\u` and braces. -/
def codePointEscape (c : Char) : List Char :=
  '\\' :: 'u' :: '\x7b' :: (Nat.toDigits 16 c.toNat ++ ['\x7d'])

/-- How a character is written between quotes. -/
def quotedChar (c : Char) : List Char :=
  if c = '"' ∨ c = '\\' then ['\\', c]
  else if c = '\n' then ['\\', 'n']
  else if c = '\r' then ['\\', 'r']
  else if c = '\t' then ['\\', 't']
  else if c = '\x00' then ['\\', '0']
  else if isConcealed c then codePointEscape c
  else [c]

/-- A text between quotes. -/
def quoted (cs : List Char) : List Char :=
  '"' :: (cs.flatMap quotedChar ++ ['"'])

/-- Printable ASCII other than the quote and the backslash is written as it stands. -/
theorem quotedChar_of_isPrintableAscii {c : Char} (h : isPrintableAscii c = true)
    (hq : c ≠ '"') (hb : c ≠ '\\') : quotedChar c = [c] := by
  have hne : ∀ d : Char, isPrintableAscii d = false → c ≠ d := by
    rintro d hd rfl
    simp [h] at hd
  simp [quotedChar, hq, hb, hne '\n' (by decide), hne '\r' (by decide), hne '\t' (by decide),
    hne '\x00' (by decide), isConcealed_eq_false_of_isPrintableAscii h]

end WhereClause.Text
