import Mathlib.Data.List.Forall2
import WhereClause.Proofs.Filter.Names

/-!
# Text put together from tokens

The scanner takes the longest token it can find, so what a piece of text is cut into depends on what
follows it: `a` is a name in front of `.b` and half a name in front of `b`.  `Cuts cs ts rest` says
that `cs` becomes the tokens `ts` when `rest` follows, and that the scanner then goes on with `rest`
as if it had started there.  Pieces are put together by `Cuts.append`, and what is left to check for
each kind of token is that the character after it cannot continue it.

The lists `operandEnds`, `primaryEnds` and `wordEnds` hold the characters that follow an operand, an
operand that a dot may follow, and a name.  None of them continues a word or a number.
-/

set_option autoImplicit false

namespace WhereClause

/-- The token of an operator between two operands. -/
def BinaryOp.token : BinaryOp → Filter.Token
  | .add => .plus
  | .subtract => .minus
  | .multiply => .times
  | .divide => .over
  | .modulo => .percent
  | .equal => .relation .equal
  | .notEqual => .relation .notEqual
  | .greaterThan => .relation .greaterThan
  | .lessThan => .relation .lessThan
  | .greaterOrEqual => .relation .greaterOrEqual
  | .lessOrEqual => .relation .lessOrEqual
  | .and => .and
  | .or => .or

/-- The token of an operator in front of an operand. -/
def UnaryOp.token : UnaryOp → Filter.Token
  | .not => .bang
  | .negate => .minus

namespace Filter

/-! ## Cuts -/

/-- Puts lexemes in front. -/
def Scan.prepend (ls : List Lexeme) (s : Scan) : Scan :=
  { s with lexemes := ls ++ s.lexemes }

/-- The text `cs` is cut into the tokens `ts` when `rest` follows, wherever the text stands.  There
is fuel for every character before the cut and still is after it. -/
def Cuts (cs : List Char) (ts : List Token) (rest : List Char) : Prop :=
  ∀ fuel p, (cs ++ rest).length ≤ fuel → ∃ fuel' p' ls, rest.length ≤ fuel' ∧
    ls.map Lexeme.token = ts ∧ scanFrom fuel p (cs ++ rest) = (scanFrom fuel' p' rest).prepend ls

variable {cs ds rest : List Char} {ts us : List Token}

theorem Cuts.nil (rest : List Char) : Cuts [] [] rest :=
  fun fuel p h ↦ ⟨fuel, p, [], h, rfl, rfl⟩

theorem Cuts.append (h : Cuts cs ts (ds ++ rest)) (k : Cuts ds us rest) :
    Cuts (cs ++ ds) (ts ++ us) rest := by
  intro fuel p hfuel
  rw [List.append_assoc] at hfuel ⊢
  obtain ⟨fuel₁, p₁, ls, hfuel₁, rfl, hscan⟩ := h fuel p hfuel
  obtain ⟨fuel₂, p₂, ms, hfuel₂, rfl, hscan'⟩ := k fuel₁ p₁ hfuel₁
  refine ⟨fuel₂, p₂, ls ++ ms, hfuel₂, List.map_append, ?_⟩
  rw [hscan, hscan']
  simp [Scan.prepend]

theorem Cuts.cons {c : Char} {token : Token} (h : Cuts [c] [token] (ds ++ rest))
    (k : Cuts ds us rest) : Cuts (c :: ds) (token :: us) rest :=
  h.append k

/-- A blank is dropped. -/
theorem Cuts.blank (h : Cuts cs ts rest) : Cuts (' ' :: cs) ts rest := by
  have hblank : Cuts [' '] [] (cs ++ rest) := by
    intro fuel p hfuel
    obtain ⟨fuel, rfl⟩ := Nat.exists_eq_add_one.2 (Nat.zero_lt_of_lt hfuel)
    exact ⟨fuel, p.next ' ', [], Nat.le_of_succ_le_succ hfuel, rfl, rfl⟩
  exact hblank.append h

/-- One token, which does not start like a blank or a comment. -/
theorem Cuts.token {c : Char} {token : Token} (hblank : Text.isBlank c = false)
    (hcomment : (c = '/' && (cs ++ rest).head? == some '/') = false)
    (h : scanToken? (c :: (cs ++ rest)) = some (token, rest)) : Cuts (c :: cs) [token] rest := by
  intro fuel p hfuel
  obtain ⟨fuel, rfl⟩ := Nat.exists_eq_add_one.2 (Nat.zero_lt_of_lt hfuel)
  have hrest : rest.length ≤ fuel := by
    simp only [List.cons_append, List.length_cons, List.length_append] at hfuel
    omega
  let text := (c :: (cs ++ rest)).take ((c :: (cs ++ rest)).length - rest.length)
  refine ⟨fuel, p.advance text, [⟨token, text, p, p.advance text⟩], hrest, rfl, ?_⟩
  rw [List.cons_append, scanFrom, hblank, if_neg Bool.false_ne_true, hcomment,
    if_neg Bool.false_ne_true, h]
  rfl

/-- A text cut to its end. -/
theorem Cuts.scan_eq (h : Cuts cs ts []) :
    (scan cs).stuck? = none ∧ (scan cs).lexemes.map Lexeme.token = ts := by
  obtain ⟨fuel, p, ls, -, hls, hscan⟩ := h cs.length .start (by simp)
  have hend : scanFrom fuel p [] = ⟨[], none⟩ := by cases fuel <;> rfl
  rw [hend, List.append_nil] at hscan
  rw [scan, hscan]
  simpa [Scan.prepend] using hls

/-! ## What may follow -/

/-- The text is empty or starts with one of these characters. -/
def StartsIn (marks : List Char) (rest : List Char) : Prop :=
  ∀ c ∈ rest.head?, c ∈ marks

/-- The characters that follow an operand. -/
def operandEnds : List Char := [' ', ',', ')', ']']

/-- The characters that follow an operand that may be taken a field of. -/
def primaryEnds : List Char := '.' :: operandEnds

/-- The characters that follow a name. -/
def wordEnds : List Char := '(' :: primaryEnds

/-- The text is cut into these tokens in front of any of these characters, and at the end. -/
def CutsBefore (marks cs : List Char) (ts : List Token) : Prop :=
  ∀ rest, StartsIn marks rest → Cuts cs ts rest

theorem startsIn_nil (marks : List Char) : StartsIn marks [] := by
  rintro c ⟨⟩

theorem startsIn_cons {marks : List Char} {c : Char} (h : c ∈ marks) (rest : List Char) :
    StartsIn marks (c :: rest) := by
  intro d hd
  cases hd
  exact h

theorem StartsIn.mono {marks marks' : List Char} (h : StartsIn marks rest)
    (hsub : marks ⊆ marks') : StartsIn marks' rest :=
  fun c hc ↦ hsub (h c hc)

/-- A test that fails on all the marks fails on the first character. -/
theorem StartsIn.eq_false {marks : List Char} {p : Char → Bool} (h : StartsIn marks rest)
    (hp : (marks.all fun c ↦ !p c) = true) : ∀ c ∈ rest.head?, p c = false := by
  intro c hc
  simpa using List.all_eq_true.1 hp c (h c hc)

/-- A run of characters that pass a test ends where one fails it. -/
theorem takeWhile_run {p : Char → Bool} (hcs : ∀ c ∈ cs, p c = true)
    (hrest : ∀ c ∈ rest.head?, p c = false) : (cs ++ rest).takeWhile p = cs := by
  have hnil : rest.takeWhile p = [] := by
    cases rest with
    | nil => rfl
    | cons c rest => rw [List.takeWhile_cons, hrest c rfl, if_neg Bool.false_ne_true]
  rw [List.takeWhile_append_of_pos hcs, hnil, List.append_nil]

theorem dropWhile_run {p : Char → Bool} (hcs : ∀ c ∈ cs, p c = true)
    (hrest : ∀ c ∈ rest.head?, p c = false) : (cs ++ rest).dropWhile p = rest := by
  have hall := List.takeWhile_append_dropWhile (p := p) (l := cs ++ rest)
  rw [takeWhile_run hcs hrest] at hall
  exact List.append_cancel_left hall

/-! ## Words -/

theorem toNat_of_isNameStart {c : Char} (h : isNameStart c = true) :
    65 ≤ c.toNat ∧ c.toNat ≤ 122 := by
  change ((decide ('A'.val ≤ c.val ∧ c.val ≤ 'Z'.val) ||
    (decide ('a'.val ≤ c.val) && decide (c.val ≤ 'z'.val))) || c == '_') = true at h
  simp only [Bool.or_eq_true, Bool.and_eq_true, decide_eq_true_eq, beq_iff_eq,
    UInt32.le_iff_toNat_le] at h
  rcases h with (⟨h₁, h₂⟩ | ⟨h₁, h₂⟩) | rfl
  · exact ⟨h₁, Nat.le_trans h₂ (by decide)⟩
  · exact ⟨Nat.le_trans (by decide) h₁, h₂⟩
  · decide

theorem toNat_of_isDigit {c : Char} (h : c.isDigit = true) : 48 ≤ c.toNat ∧ c.toNat ≤ 57 :=
  Char.isDigit_iff_toNat.1 h

theorem isDigit_eq_false_of_isNameStart {c : Char} (h : isNameStart c = true) :
    c.isDigit = false := by
  rw [Bool.eq_false_iff]
  intro hdigit
  have hstart := toNat_of_isNameStart h
  have hrange := toNat_of_isDigit hdigit
  omega

theorem isQuote_eq_false_of_isNamePart {c : Char} (h : isNamePart c = true) :
    isQuote c = false := by
  rw [isQuote, Bool.or_eq_false_iff, beq_eq_false_iff_ne, beq_eq_false_iff_ne]
  constructor
  · rintro rfl
    exact absurd h (by decide)
  · rintro rfl
    exact absurd h (by decide)

theorem isBlank_eq_false_of_toNat {c : Char} (hlow : 0x20 < c.toNat) (hhigh : c.toNat < 0x7f) :
    Text.isBlank c = false := by
  simp only [Text.isBlank, Text.blankRanges, List.any_cons, List.any_nil, Bool.or_eq_false_iff,
    Bool.and_eq_false_iff, decide_eq_false_iff_not, and_true]
  omega

theorem scanWord_append {c : Char} (hcs : ∀ d ∈ cs, isNamePart d = true)
    (hrest : StartsIn wordEnds rest) : scanWord c (cs ++ rest) = (wordToken (c :: cs), rest) := by
  have hpart := hrest.eq_false (p := isNamePart) (by decide)
  -- A quote right after the first letter could make a raw string or a byte string of it.
  have hquote : ∀ d ∈ (cs ++ rest).head?, isQuote d = false := by
    cases cs with
    | nil => exact hrest.eq_false (by decide)
    | cons d cs =>
      rintro _ ⟨⟩
      exact isQuote_eq_false_of_isNamePart (hcs d List.mem_cons_self)
  simp only [scanWord, takeWhile_run hcs hpart, dropWhile_run hcs hpart]
  split
  next d tail heq =>
    rw [heq] at hquote
    simp [hquote d rfl]
  next => rfl

/-- **A word is cut off whole** where no letter, digit or quote follows. -/
theorem Cuts.word (hcs : isName cs = true) (hrest : StartsIn wordEnds rest) :
    Cuts cs [wordToken cs] rest := by
  cases cs with
  | nil => exact absurd hcs Bool.false_ne_true
  | cons c cs =>
    rw [isName, Bool.and_eq_true, List.all_eq_true] at hcs
    have hc := toNat_of_isNameStart hcs.1
    refine Cuts.token (isBlank_eq_false_of_toNat (by omega) (by omega)) ?_ ?_
    · have hslash : c ≠ '/' := by
        rintro rfl
        exact absurd hcs.1 (by decide)
      simp [hslash]
    · rw [scanToken?, if_pos hcs.1, scanWord_append hcs.2 hrest]

/-! ## Signs -/

/-- The tokens of one character that no other character can join. -/
def markToken? : Char → Option Token
  | '(' => some .openParen
  | ')' => some .closeParen
  | '[' => some .openBracket
  | ']' => some .closeBracket
  | ',' => some .comma
  | _ => none

theorem Cuts.mark {c : Char} {token : Token} (h : markToken? c = some token) (rest : List Char) :
    Cuts [c] [token] rest := by
  unfold markToken? at h
  split at h
  all_goals cases h
  all_goals exact Cuts.token rfl rfl rfl

/-- Pieces that can stand in front of a comma, with commas between them. -/
theorem CutsBefore.commaJoin {pieces : List (List Char)} {tss : List (List Token)}
    (h : List.Forall₂ (CutsBefore operandEnds) pieces tss) :
    CutsBefore operandEnds (Expr.commaJoin pieces) ([Token.comma].intercalate tss) := by
  intro rest hrest
  induction h with
  | nil => exact Cuts.nil rest
  | @cons cs ts pieces tss hpiece htail ih =>
    cases htail with
    | nil => simpa [Expr.commaJoin] using hpiece rest hrest
    | @cons ds us =>
      rw [Expr.commaJoin, List.intercalate_cons_cons, List.intercalate_cons_cons, List.append_assoc,
        List.append_assoc]
      refine (hpiece _ (startsIn_cons (c := ',') (by decide) _)).append ?_
      exact (Cuts.mark rfl _).cons ih.blank

/-- A text between two marks, the second of which may follow an operand. -/
theorem CutsBefore.between {opener closer : Char} {first last : Token}
    (h : CutsBefore operandEnds cs ts) (hopener : markToken? opener = some first)
    (hcloser : markToken? closer = some last) (hmem : closer ∈ operandEnds) (rest : List Char) :
    Cuts (opener :: (cs ++ [closer])) (first :: (ts ++ [last])) rest :=
  (Cuts.mark hopener _).cons ((h _ (startsIn_cons hmem rest)).append (Cuts.mark hcloser rest))

theorem Cuts.arguments {pieces : List (List Char)} {tss : List (List Token)}
    (h : List.Forall₂ (CutsBefore operandEnds) pieces tss) (rest : List Char) :
    Cuts ('(' :: (Expr.commaJoin pieces ++ [')']))
      (.openParen :: ([Token.comma].intercalate tss ++ [.closeParen])) rest :=
  (CutsBefore.commaJoin h).between rfl rfl (by decide) rest

/-- No number starts with a character that is neither a digit nor a point. -/
theorem scanNumber?_eq_none {sign : Option Char} {c : Char} (hc : c.isDigit = false)
    (hpoint : c ≠ '.') (cs : List Char) : scanNumber? sign (c :: cs) = none := by
  have hleading : Numeral.leading (c :: cs) = [] := by
    rw [Numeral.leading, List.takeWhile_cons, hc, if_neg Bool.false_ne_true]
  have htrailing : Numeral.trailing (c :: cs) = c :: cs := by
    rw [Numeral.trailing, List.dropWhile_cons, hc, if_neg Bool.false_ne_true]
  simp [scanNumber?, hleading, htrailing]

/-- A point in front of a name is a token of its own. -/
theorem Cuts.dot (hcs : isName cs = true) (rest : List Char) : Cuts ['.'] [.dot] (cs ++ rest) := by
  cases cs with
  | nil => exact absurd hcs Bool.false_ne_true
  | cons c cs =>
    rw [isName, Bool.and_eq_true] at hcs
    have hc := isDigit_eq_false_of_isNameStart hcs.1
    have hnumber : scanNumber? none ('.' :: c :: (cs ++ rest)) = none := by
      simp [scanNumber?, Numeral.trailing, Numeral.leading, hc]
    refine Cuts.token rfl rfl ?_
    rw [List.nil_append, List.cons_append, scanToken?, hnumber]
    rfl

/-- An operator in front of a blank. -/
theorem Cuts.binaryOp (op : BinaryOp) (rest : List Char) :
    Cuts op.symbol.toList [op.token] (' ' :: rest) := by
  cases op
  all_goals exact Cuts.token rfl rfl rfl

/-- A character that a primary starts with. -/
def isPrimaryStart (c : Char) : Bool :=
  isNameStart c || c == '(' || c == '['

theorem isDigit_eq_false_of_isPrimaryStart {c : Char} (h : isPrimaryStart c = true) :
    c.isDigit = false := by
  simp only [isPrimaryStart, Bool.or_eq_true, beq_iff_eq] at h
  rcases h with (h | rfl) | rfl
  · exact isDigit_eq_false_of_isNameStart h
  · rfl
  · rfl

/-- An operator in front of a primary.  Neither a second sign nor a number can follow it there. -/
theorem Cuts.unaryOp (op : UnaryOp) {c : Char} (hc : isPrimaryStart c = true) (cs : List Char) :
    Cuts op.symbol.toList [op.token] (c :: cs) := by
  have hne : ∀ d, isPrimaryStart d = false → c ≠ d := by
    rintro d hd rfl
    exact absurd hc (by simp [hd])
  cases op with
  | not =>
    show Cuts ['!'] [.bang] (c :: cs)
    refine Cuts.token rfl rfl ?_
    show scanSymbol? ('!' :: c :: cs) = some (.bang, c :: cs)
    rw [scanSymbol?]
    · exact fun rest heq ↦ hne '=' (by decide) (List.cons.inj heq).1
    · exact fun rest heq ↦ hne '!' (by decide) (List.cons.inj heq).1
  | negate =>
    show Cuts ['-'] [.minus] (c :: cs)
    refine Cuts.token rfl rfl ?_
    show scanSymbol? ('-' :: c :: cs) = some (.minus, c :: cs)
    rw [scanSymbol?, scanSigned, scanNumber?_eq_none (isDigit_eq_false_of_isPrimaryStart hc)
      (hne '.' (by decide))]
    exact fun rest heq ↦ hne '-' (by decide) (List.cons.inj heq).1

end Filter

end WhereClause
