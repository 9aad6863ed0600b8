import Mathlib.Data.List.Chain
import WhereClause.Proofs.Converter
import WhereClause.Proofs.Filter.Names
import WhereClause.Proofs.Sql.Literal
import WhereClause.Proofs.Sql.Rendered

/-!
# What a filter cannot do to the SQL around it

The text of a filter reaches SQL in many places: string literals, patterns, timestamps, numbers and
the names of columns.  All of it that could be mistaken for SQL is inside string literals, and all
string literals are closed.

What stands outside them is `Tidy`: made of a few harmless characters, with balanced parentheses and
without the two pairs of characters that start a comment.  A text is `Sealed` if what stands outside
its literals is tidy.  Tidiness survives the two ways in which texts are put together, a blank
between them and parentheses around one of them, so `Sealed` goes through by induction over the
rules of rendering, once the names of columns are known to be words.
-/

set_option autoImplicit false

namespace WhereClause

namespace Sql

/-! ## Characters outside literals -/

/-- A letter, a digit, an underscore or a point. -/
def isWordChar (c : Char) : Bool :=
  c.isAlphanum || c == '_' || c == '.'

/-- The characters that may stand outside string literals. -/
def isBareChar (c : Char) : Bool :=
  isWordChar c || " ()=!<>+-*/%".toList.contains c

/-- A word of letters, digits, underscores and points that starts with a letter or an underscore. -/
def isDottedWord : List Char → Bool
  | [] => false
  | c :: cs => (c.isAlpha || c == '_') && cs.all isWordChar

/-- How many parentheses are open after a text if `depth` were open before it; nothing if one is
closed that was not open. -/
def parenDepth? : Nat → List Char → Option Nat
  | depth, [] => some depth
  | depth, c :: cs =>
    if c = '(' then parenDepth? (depth + 1) cs
    else if c = ')' then if depth = 0 then none else parenDepth? (depth - 1) cs
    else parenDepth? depth cs

/-- Two characters in a row that do not start a comment. -/
def Apart (a b : Char) : Prop :=
  ¬(a = '-' ∧ b = '-') ∧ ¬(a = '/' ∧ b = '*')

instance (a b : Char) : Decidable (Apart a b) :=
  inferInstanceAs (Decidable (_ ∧ _))

/-- Only harmless characters, balanced parentheses, and no start of a comment. -/
structure Tidy (out : List Char) : Prop where
  bare : ∀ c ∈ out, isBareChar c = true
  balanced : parenDepth? 0 out = some 0
  apart : out.IsChain Apart

/-! ### Words -/

theorem ne_paren_of_isWordChar {c : Char} (h : isWordChar c = true) : c ≠ '(' ∧ c ≠ ')' := by
  refine ⟨?_, ?_⟩ <;> rintro rfl <;> exact absurd h (by decide)

theorem apart_of_isWordChar {a b : Char} (h : isWordChar b = true) : Apart a b := by
  refine ⟨?_, ?_⟩ <;> rintro ⟨_, rfl⟩ <;> exact absurd h (by decide)

theorem parenDepth?_of_word {cs : List Char} (h : ∀ c ∈ cs, isWordChar c = true) (depth : Nat) :
    parenDepth? depth cs = some depth := by
  induction cs with
  | nil => rfl
  | cons c cs ih =>
    obtain ⟨hc, hcs⟩ := List.forall_mem_cons.1 h
    obtain ⟨hopen, hclose⟩ := ne_paren_of_isWordChar hc
    rw [parenDepth?, if_neg hopen, if_neg hclose]
    exact ih hcs

theorem tidy_of_word {cs : List Char} (h : ∀ c ∈ cs, isWordChar c = true) : Tidy cs where
  bare c hc := by rw [isBareChar, h c hc, Bool.true_or]
  balanced := parenDepth?_of_word h 0
  apart := by
    induction cs with
    | nil => exact .nil
    | cons c cs ih =>
      obtain ⟨_, hcs⟩ := List.forall_mem_cons.1 h
      refine List.isChain_cons.2 ⟨fun d hd ↦ ?_, ih hcs⟩
      exact apart_of_isWordChar (hcs d (List.mem_of_mem_head? hd))

/-- A number may start with a minus sign. -/
theorem tidy_of_isNumeric {cs : List Char} (h : Decimal.IsNumeric cs) : Tidy cs := by
  obtain ⟨body, -, hbody, hcs⟩ := h
  have hword : ∀ c ∈ body, isWordChar c = true := by
    intro c hc
    rcases hbody c hc with hdigit | rfl
    · simp [isWordChar, Char.isAlphanum, hdigit]
    · decide
  have htidy : Tidy body := tidy_of_word hword
  rcases hcs with rfl | rfl
  · exact htidy
  · refine ⟨List.forall_mem_cons.2 ⟨by decide, htidy.bare⟩, htidy.balanced, ?_⟩
    refine List.isChain_cons.2 ⟨fun d hd ↦ ?_, htidy.apart⟩
    exact apart_of_isWordChar (hword d (List.mem_of_mem_head? hd))

theorem tidy_binaryToken (op : BinaryOp) : Tidy (binaryToken op).toList := by
  cases op <;> exact ⟨List.all_eq_true.1 (by decide), by decide, by decide⟩

theorem tidy_unaryToken (op : UnaryOp) : Tidy (unaryToken op).toList := by
  cases op <;> exact ⟨List.all_eq_true.1 (by decide), by decide, by decide⟩

/-! ### Putting texts together -/

theorem parenDepth?_append (depth : Nat) (a b : List Char) :
    parenDepth? depth (a ++ b) = (parenDepth? depth a).bind fun d ↦ parenDepth? d b := by
  fun_induction parenDepth? depth a with
  | case1 depth => rfl
  | case2 depth cs ih => simpa [parenDepth?] using ih
  | case3 cs h => simp [parenDepth?]
  | case4 depth cs hdepth h ih => simpa [parenDepth?, hdepth] using ih
  | case5 depth c cs hopen hclose ih => simpa [parenDepth?, hopen, hclose] using ih

/-- Parentheses that are balanced are balanced inside others. -/
theorem parenDepth?_add {depth d : Nat} {a : List Char} (h : parenDepth? depth a = some d)
    (k : Nat) : parenDepth? (depth + k) a = some (d + k) := by
  fun_induction parenDepth? depth a with
  | case1 depth => cases h; rfl
  | case2 depth cs ih =>
    rw [parenDepth?, if_pos rfl, Nat.add_right_comm]
    exact ih h
  | case3 cs hne => cases h
  | case4 depth cs hdepth hne ih =>
    rw [parenDepth?, if_neg hne, if_pos rfl, if_neg (by omega), Nat.sub_add_comm (by omega)]
    exact ih h
  | case5 depth c cs hopen hclose ih =>
    rw [parenDepth?, if_neg hopen, if_neg hclose]
    exact ih h

/-- A character of no comment start keeps what is before it apart from what is after it. -/
theorem isChain_apart_join {c : Char} (hc : c ≠ '-' ∧ c ≠ '/' ∧ c ≠ '*') {a b : List Char}
    (ha : a.IsChain Apart) (hb : b.IsChain Apart) : (a ++ c :: b).IsChain Apart := by
  obtain ⟨hdash, hslash, hstar⟩ := hc
  refine ha.append (List.isChain_cons.2 ⟨fun d _ ↦ ?_, hb⟩) fun d _ x hx ↦ ?_
  · exact ⟨fun h ↦ hdash h.1, fun h ↦ hslash h.1⟩
  · cases hx
    exact ⟨fun h ↦ hdash h.2, fun h ↦ hstar h.2⟩

variable {a b : List Char}

theorem Tidy.space (ha : Tidy a) (hb : Tidy b) : Tidy (a ++ ' ' :: b) where
  bare c hc := by
    rcases List.mem_append.1 hc with hc | hc
    · exact ha.bare c hc
    · rcases List.mem_cons.1 hc with rfl | hc
      · decide
      · exact hb.bare c hc
  balanced := by
    rw [parenDepth?_append, ha.balanced]
    exact hb.balanced
  apart := isChain_apart_join (by decide) ha.apart hb.apart

theorem Tidy.paren (ha : Tidy a) (hb : Tidy b) : Tidy (a ++ '(' :: (b ++ [')'])) where
  bare c hc := by
    simp only [List.mem_append, List.mem_cons, List.not_mem_nil, or_false] at hc
    rcases hc with hc | rfl | hc | rfl
    · exact ha.bare c hc
    · decide
    · exact hb.bare c hc
    · decide
  balanced := by
    have hinner : parenDepth? 1 (b ++ [')']) = some 0 := by
      rw [parenDepth?_append, parenDepth?_add hb.balanced 1]
      rfl
    rw [parenDepth?_append, ha.balanced]
    exact hinner
  apart :=
    isChain_apart_join (by decide) ha.apart (isChain_apart_join (by decide) hb.apart .nil)

/-! ## Sealed texts -/

/-- All string literals of a text are closed, and what stands outside them is tidy. -/
def Sealed (cs : List Char) : Prop :=
  ∃ out, outside? cs = some out ∧ Tidy out

theorem ne_quote_of_isBareChar {c : Char} (h : isBareChar c = true) : c ≠ '"' := by
  rintro rfl
  exact absurd h (by decide)

theorem outside?_of_bare (h : ∀ c ∈ a, isBareChar c = true) : outside? a = some a :=
  outside?_of_noQuote fun c hc ↦ ne_quote_of_isBareChar (h c hc)

theorem Tidy.sealed (h : Tidy a) : Sealed a :=
  ⟨a, outside?_of_bare h.bare, h⟩

theorem sealed_nil : Sealed [] :=
  Tidy.sealed ⟨by simp, rfl, .nil⟩

theorem sealed_quote (cs : List Char) : Sealed (quote cs) :=
  ⟨[], outside?_quote cs, by simp, rfl, .nil⟩

theorem Sealed.space (ha : Sealed a) (hb : Sealed b) : Sealed (a ++ ' ' :: b) := by
  obtain ⟨x, hx, htidy⟩ := ha
  obtain ⟨y, hy, htidy'⟩ := hb
  have hblank : outside? (' ' :: b) = some (' ' :: y) :=
    outside?_append (outside?_of_bare (a := [' ']) (List.all_eq_true.1 (by decide))) hy
  exact ⟨x ++ ' ' :: y, outside?_append hx hblank, htidy.space htidy'⟩

theorem Sealed.paren (ha : Sealed a) (hb : Sealed b) : Sealed (a ++ '(' :: (b ++ [')'])) := by
  obtain ⟨x, hx, htidy⟩ := ha
  obtain ⟨y, hy, htidy'⟩ := hb
  have hclose : outside? (b ++ [')']) = some (y ++ [')']) :=
    outside?_append hy (outside?_of_bare (List.all_eq_true.1 (by decide)))
  have hopen : outside? ('(' :: (b ++ [')'])) = some ('(' :: (y ++ [')'])) :=
    outside?_append (outside?_of_bare (a := ['(']) (List.all_eq_true.1 (by decide))) hclose
  exact ⟨x ++ '(' :: (y ++ [')']), outside?_append hx hopen, htidy.paren htidy'⟩

/-- Parentheses around a sealed text. -/
theorem Sealed.enclosed (ha : Sealed a) : Sealed ('(' :: (a ++ [')'])) :=
  sealed_nil.paren ha

theorem sealed_fromUnixTime (ha : Tidy a) : Sealed (fromUnixTime a) := by
  have hname : Sealed "FROM_UNIXTIME".toList :=
    (tidy_of_word (List.all_eq_true.1 (by decide))).sealed
  rw [fromUnixTime_eq]
  exact hname.paren ha.sealed

end Sql

open Sql

/-! ## Columns -/

theorem isDottedWord_of_isName {cs : List Char} (h : Filter.isName cs = true) :
    isDottedWord cs = true := by
  cases cs with
  | nil => cases h
  | cons d cs =>
    simp only [Filter.isName, Bool.and_eq_true, List.all_eq_true] at h
    obtain ⟨hstart, hparts⟩ := h
    rw [isDottedWord, ← Filter.isNameStart, hstart, Bool.true_and, List.all_eq_true]
    intro c hc
    rw [isWordChar, ← Filter.isNamePart, hparts c hc, Bool.true_or]

theorem isWordChar_of_isDottedWord {cs : List Char} (h : isDottedWord cs = true) :
    ∀ c ∈ cs, isWordChar c = true := by
  cases cs with
  | nil => cases h
  | cons d cs =>
    simp only [isDottedWord, Bool.and_eq_true, List.all_eq_true] at h
    refine List.forall_mem_cons.2 ⟨?_, h.2⟩
    rcases Bool.or_eq_true _ _ ▸ h.1 with hd | hd <;> simp [isWordChar, Char.isAlphanum, hd]

theorem mem_dotted {fields : List String} {c : Char} (h : c ∈ (Expr.dotted fields).toList) :
    c = '.' ∨ ∃ field ∈ fields, c ∈ field.toList := by
  rw [Expr.dotted, String.toList_ofList] at h
  induction fields with
  | nil => simp at h
  | cons field fields ih =>
    cases fields with
    | nil => exact .inr ⟨field, List.mem_singleton_self field, by simpa using h⟩
    | cons next fields =>
      rw [List.map_cons, List.map_cons, List.intercalate_cons_cons, ← List.map_cons] at h
      simp only [List.append_assoc, List.mem_append, List.mem_singleton] at h
      rcases h with h | h | h
      · exact .inr ⟨field, List.mem_cons_self, h⟩
      · exact .inl h
      · obtain hdot | ⟨f, hf, hc⟩ := ih h
        · exact .inl hdot
        · exact .inr ⟨f, List.mem_cons_of_mem _ hf, hc⟩

variable {s : Settings}

/-- The column of a chain is a word, whether it is mapped or not. -/
theorem isWordChar_of_mem_column (hcolumns : ∀ path column, s.mapped? path = some column →
    isDottedWord column.toList = true) {e : Expr} {path : String} (he : e.FieldsNamed)
    (h : e.fieldPath s.subject = .ok path) : ∀ c ∈ (s.column path).toList, isWordChar c = true := by
  rw [Settings.column]
  cases hmapped : s.mapped? path with
  | some column => exact isWordChar_of_isDottedWord (hcolumns path column hmapped)
  | none =>
    intro c hc
    rw [Option.getD_none, (Expr.fieldPath_eq_ok_iff.1 h).2] at hc
    obtain rfl | ⟨field, hfield, hc⟩ := mem_dotted hc
    · decide
    · obtain ⟨operand, hselect⟩ := Expr.exists_select_of_mem_chain hfield
      exact isWordChar_of_isDottedWord (isDottedWord_of_isName (he operand field hselect)) c hc

/-! ## Rendered trees -/

theorem tidy_of_token? {v : Value} {cs : List Char} (h : v.token? = some cs) : Tidy cs := by
  rcases Value.token?_cases h with rfl | rfl | rfl | hnumeric
  · exact tidy_of_word (List.all_eq_true.1 (by decide))
  · exact tidy_of_word (List.all_eq_true.1 (by decide))
  · exact tidy_of_word (List.all_eq_true.1 (by decide))
  · exact tidy_of_isNumeric hnumeric

/-- **Whatever a tree says, its SQL text is sealed.** -/
theorem Rendered.sealed (hcolumns : ∀ path column, s.mapped? path = some column →
    isDottedWord column.toList = true) {e : Expr} {cs : List Char} (h : Rendered s e cs)
    (he : e.FieldsNamed) : Sealed cs := by
  induction h with
  | token h => exact (tidy_of_token? h).sealed
  | string text => exact sealed_quote _
  | field h => exact (tidy_of_word (isWordChar_of_mem_column hcolumns he h)).sealed
  | @binary op left right a b _ _ _ ihl ihr =>
    obtain ⟨-, hargs⟩ := Expr.fieldsNamed_call.1 he
    have hl : Sealed a := ihl (hargs left (by simp))
    have hr : Sealed b := ihr (hargs right (by simp))
    simpa using (hl.space ((tidy_binaryToken op).sealed.space hr)).enclosed
  | @unary op operand a _ _ ih =>
    obtain ⟨-, hargs⟩ := Expr.fieldsNamed_call.1 he
    have ha : Sealed a := ih (hargs operand (by simp))
    simpa using ((tidy_unaryToken op).sealed.space ha).enclosed
  | @like f content target text a _ _ _ ih =>
    obtain ⟨htarget, -⟩ := Expr.fieldsNamed_call.1 he
    have ha : Sealed a := ih (htarget target rfl)
    have hlike : Sealed "LIKE".toList := (tidy_of_word (List.all_eq_true.1 (by decide))).sealed
    simpa using (ha.space (hlike.space (sealed_quote _))).enclosed
  | timestamp _ _ => exact sealed_quote _
  | @seconds v n _ _ => exact sealed_fromUnixTime (tidy_of_isNumeric (Decimal.isNumeric_intText n))

/-! ## Converted filters -/

/-- A pair of characters that starts a comment does not occur. -/
theorem Sql.Tidy.noPair {out : List Char} (h : Tidy out) {x y : Char} (hxy : ¬Apart x y) :
    ¬[x, y] <:+: out :=
  fun hpair ↦ hxy (List.isChain_pair.1 ( List.IsChain.infix h.apart hpair))

/-- **A filter cannot reach out of its string literals.**  If the columns that fields are mapped to
are words, then in the SQL of every filter all string literals are closed; outside them stand only
words, blanks, parentheses and operators; the parentheses are balanced; and nothing starts a
comment, ends a statement or opens a string of another kind. -/
theorem Converter.outside_of_convert {c : Converter}
    (hcolumns : ∀ path column, c.settings.mapped? path = some column →
      isDottedWord column.toList = true)
    {text sql : String} (h : c.convert text = .ok sql) :
    ∃ out, outside? sql.toList = some out ∧ (∀ x ∈ out, isBareChar x = true) ∧
      parenDepth? 0 out = some 0 ∧ ¬['-', '-'] <:+: out ∧ ¬['/', '*'] <:+: out ∧
      ∀ x ∈ "#;'`\n".toList, x ∉ out := by
  obtain ⟨e, hparse, -, hgenerate⟩ := convert_eq_ok_iff.1 h
  have hrendered : Rendered c.settings e sql.toList := Settings.generate_eq_ok_iff.1 hgenerate
  obtain ⟨out, hout, htidy⟩ := hrendered.sealed hcolumns (fieldsNamed_of_parse hparse)
  refine ⟨out, hout, htidy.bare, htidy.balanced, htidy.noPair (by decide),
    htidy.noPair (by decide), fun x hx hmem ↦ ?_⟩
  have hbad : "#;'`\n".toList.all (fun x ↦ !isBareChar x) = true := by decide
  have hx : (!isBareChar x) = true := List.all_eq_true.1 hbad x hx
  rw [htidy.bare x hmem] at hx
  cases hx

/-- A mapped column, a negative number after a minus sign, and a string that tries to get out. -/
theorem Converter.outside_of_convert_hostile :
    ∃ c sql, Plan.build { Plan.default with settings.columns := [("a.b", "t.c")] } = .ok c ∧
      c.convert "i.a.b == '\" OR 1=1; -- ' && i.n - -5 > 0" = .ok sql ∧
      sql = "((t.c == \"\\\" OR 1=1; -- \") AND ((n - -5) > 0))" ∧
      ∃ out, outside? sql.toList = some out ∧ (∀ x ∈ out, isBareChar x = true) ∧
        parenDepth? 0 out = some 0 ∧ ¬['-', '-'] <:+: out ∧ ¬['/', '*'] <:+: out ∧
        ∀ x ∈ "#;'`\n".toList, x ∉ out := by
  obtain ⟨c, hbuild, hconvert⟩ := Plan.exists_build
    (P := fun c ↦ (c.convert "i.a.b == '\" OR 1=1; -- ' && i.n - -5 > 0").toOption =
      some "((t.c == \"\\\" OR 1=1; -- \") AND ((n - -5) > 0))")
    { Plan.default with settings.columns := [("a.b", "t.c")] } (by decide +kernel)
  have hconvert := Except.toOption_eq_some_iff.1 hconvert
  refine ⟨c, _, hbuild, hconvert, rfl, outside_of_convert (fun path column h ↦ ?_) hconvert⟩
  obtain ⟨-, -, hplan⟩ := Plan.build_eq_ok_iff.1 hbuild
  rw [settings, hplan, Settings.mapped?, List.lookup_cons] at h
  split at h
  · cases h
    decide
  · cases h

end WhereClause
