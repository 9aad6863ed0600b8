/-!
# Texts as bytes

The UTF-8 form of a text is made of the codes of its characters, one after the other.  A character
of ASCII is a single byte, so a text that has no other characters is read off its bytes one by one.
-/

set_option autoImplicit false

namespace WhereClause.Text

/-- The UTF-8 form of a text. -/
def utf8 (cs : List Char) : List UInt8 :=
  cs.flatMap String.utf8EncodeChar

/-- The code of an ASCII character. -/
def ascii (c : Char) : UInt8 := c.toUInt8

theorem utf8_cons (c : Char) (cs : List Char) :
    utf8 (c :: cs) = String.utf8EncodeChar c ++ utf8 cs :=
  List.flatMap_cons

theorem utf8_append (cs ds : List Char) : utf8 (cs ++ ds) = utf8 cs ++ utf8 ds :=
  List.flatMap_append

theorem toNat_ascii {c : Char} (h : c.toNat ≤ 127) : (ascii c).toNat = c.toNat := by
  have hmod : (ascii c).toNat = c.toNat % 256 := UInt32.toNat_toUInt8 c.val
  omega

/-- A character of ASCII is a single byte. -/
theorem utf8EncodeChar_eq {c : Char} (h : c.toNat ≤ 127) : String.utf8EncodeChar c = [ascii c] := by
  have hsize : c.utf8Size = 1 := Char.utf8Size_eq_one_iff.2 (UInt32.le_iff_toNat_le.2 h)
  exact String.utf8EncodeChar_eq_singleton hsize

theorem utf8_cons_ascii {c : Char} (h : c.toNat ≤ 127) (cs : List Char) :
    utf8 (c :: cs) = ascii c :: utf8 cs := by
  rw [utf8_cons, utf8EncodeChar_eq h]
  rfl

end WhereClause.Text
