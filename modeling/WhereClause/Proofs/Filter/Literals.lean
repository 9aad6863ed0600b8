import WhereClause.Proofs.Decimal.Text
import WhereClause.Proofs.Filter.Scanning

/-!
# Literals read back

A literal is written in front of something that cannot continue it, cut off again by the scanner and
given its value.  `Spells cs a` says that this works out: wherever an operand may end after `cs`,
the scanner finds one literal there, and its value is `a`.  It holds of null, of the truth values, of
every integer, and of every string of printable ASCII, whatever quotes and backslashes are in it.
-/

set_option autoImplicit false

namespace WhereClause

namespace Filter

variable {cs rest : List Char}

/-! ## Numbers -/

theorem leading_append (hcs : ∀ c ∈ cs, c.isDigit = true)
    (hrest : ∀ c ∈ rest.head?, c.isDigit = false) : Numeral.leading (cs ++ rest) = cs :=
  takeWhile_run hcs hrest

theorem trailing_append (hcs : ∀ c ∈ cs, c.isDigit = true)
    (hrest : ∀ c ∈ rest.head?, c.isDigit = false) : Numeral.trailing (cs ++ rest) = rest :=
  dropWhile_run hcs hrest

/-- A run of digits is an integer where nothing follows that a number could go on with. -/
theorem scanNumber?_digits (sign : Option Char) (hcs : ∀ c ∈ cs, c.isDigit = true) (hne : cs ≠ [])
    (hsign : sign ≠ some '+') (hrest : StartsIn operandEnds rest) :
    scanNumber? sign (cs ++ rest) = some (.int (sign == some '-') 10 cs, rest) := by
  have hdigit := hrest.eq_false (p := Char.isDigit) (by decide)
  simp only [scanNumber?, leading_append hcs hdigit, trailing_append hcs hdigit]
  cases rest with
  | nil => simp [hne, hsign]
  | cons c rest =>
    have hc : c ∈ operandEnds := hrest c rfl
    simp only [operandEnds, List.mem_cons, List.not_mem_nil, or_false] at hc
    rcases hc with rfl | rfl | rfl | rfl
    all_goals simp [hne, hsign, Numeral.scanExponent?, isUnsignedMark]

/-- A run of digits and the mark of an unsigned integer. -/
theorem scanNumber?_unsigned (hcs : ∀ c ∈ cs, c.isDigit = true) (hne : cs ≠ [])
    (rest : List Char) : scanNumber? none (cs ++ 'u' :: rest) = some (.uint false 10 cs, rest) := by
  have hdigit : ∀ c ∈ ('u' :: rest).head?, c.isDigit = false := by
    rintro c ⟨⟩
    rfl
  simp [scanNumber?, leading_append hcs hdigit, trailing_append hcs hdigit, hne,
    Numeral.scanExponent?, isUnsignedMark]

/-- What starts with a digit is a number. -/
theorem scanToken?_number {c : Char} {number : Literal} (hc : c.isDigit = true)
    (h : scanNumber? none (c :: cs) = some (number, rest)) :
    scanToken? (c :: cs) = some (.literal number, rest) := by
  have hname : isNameStart c = false := by
    rw [Bool.eq_false_iff]
    intro hstart
    exact absurd hc (by simp [isDigit_eq_false_of_isNameStart hstart])
  have hquote : isQuote c = false :=
    isQuote_eq_false_of_isNamePart (by simp [isNamePart, Char.isAlphanum, hc])
  rw [scanToken?, hname, if_neg Bool.false_ne_true, hquote, if_neg Bool.false_ne_true, h]

/-- A number that starts with a digit; `ds` is what it has after its digits. -/
theorem Cuts.number {number : Literal} (ds : List Char) (hcs : ∀ c ∈ cs, c.isDigit = true)
    (hne : cs ≠ []) (h : scanNumber? none (cs ++ (ds ++ rest)) = some (number, rest)) :
    Cuts (cs ++ ds) [.literal number] rest := by
  cases cs with
  | nil => exact absurd rfl hne
  | cons c cs =>
    have hc := hcs c List.mem_cons_self
    have hrange := toNat_of_isDigit hc
    have hslash : c ≠ '/' := by
      rintro rfl
      exact absurd hc (by decide)
    rw [List.cons_append]
    refine Cuts.token (isBlank_eq_false_of_toNat (by omega) (by omega)) (by simp [hslash]) ?_
    rw [List.append_assoc]
    exact scanToken?_number hc h

/-- A minus sign that touches a digit belongs to the number. -/
theorem Cuts.negative (hcs : ∀ c ∈ cs, c.isDigit = true) (hne : cs ≠ [])
    (hrest : StartsIn operandEnds rest) : Cuts ('-' :: cs) [.literal (.int true 10 cs)] rest := by
  refine Cuts.token rfl rfl ?_
  have hscan : scanNumber? (some '-') (cs ++ rest) = some (.int true 10 cs, rest) :=
    scanNumber?_digits (some '-') hcs hne (by decide) hrest
  cases cs with
  | nil => exact absurd rfl hne
  | cons c cs =>
    show scanSymbol? ('-' :: c :: (cs ++ rest)) = some (.literal (.int true 10 (c :: cs)), rest)
    rw [scanSymbol?, scanSigned, ← List.cons_append, hscan]
    -- A second minus sign would make another token of the two, but a digit follows.
    intro tail heq
    rw [(List.cons.inj heq).1] at hcs
    exact absurd (hcs '-' List.mem_cons_self) (by decide)

/-! ## Values of numbers -/

theorem digitsFrom?_of_isDigit (hcs : ∀ c ∈ cs, c.isDigit = true) (n : Nat) :
    digitsFrom? 10 n cs = some (cs.foldl (fun n c ↦ 10 * n + Numeral.digitValue c) n) := by
  induction cs generalizing n with
  | nil => rfl
  | cons c cs ih =>
    have hc := hcs c List.mem_cons_self
    have hrange := toNat_of_isDigit hc
    have hdigit : digit? 10 c = some (Numeral.digitValue c) := by
      have hzero : '0'.toNat = 48 := rfl
      rw [digit?, Numeral.digitValue, if_pos hc, if_pos hc]
      exact Option.filter_some_pos (by simp; omega)
    rw [digitsFrom?, hdigit]
    exact ih (fun d hd ↦ hcs d (List.mem_cons_of_mem c hd)) _

theorem digits?_natText (n : Nat) : digits? 10 (Decimal.natText n) = some n := by
  rw [digits?, digitsFrom?_of_isDigit fun _ hc ↦ Decimal.isDigit_of_mem_natText hc]
  · exact congrArg some (Decimal.ofDigits_natText n)
  · exact Decimal.natText_ne_nil n

/-! ## Strings -/

theorem quotedChar_cases {c : Char} (h : Text.isPrintableAscii c = true) :
    (c = '"' ∨ c = '\\') ∧ Text.quotedChar c = ['\\', c] ∨
      (c ≠ '"' ∧ c ≠ '\\') ∧ Text.quotedChar c = [c] := by
  by_cases hspecial : c = '"' ∨ c = '\\'
  · exact .inl ⟨hspecial, by rw [Text.quotedChar, if_pos hspecial]⟩
  · rw [not_or] at hspecial
    exact .inr ⟨hspecial, Text.quotedChar_of_isPrintableAscii h hspecial.1 hspecial.2⟩

/-- The scanner stops at the closing quote and at no other. -/
theorem scanQuoted?_quoted (hcs : ∀ c ∈ cs, Text.isPrintableAscii c = true) (rest : List Char) :
    scanQuoted? '"' (cs.flatMap Text.quotedChar ++ '"' :: rest) =
      some (cs.flatMap Text.quotedChar, rest) := by
  induction cs with
  | nil => rfl
  | cons c cs ih =>
    have ih := ih fun d hd ↦ hcs d (List.mem_cons_of_mem c hd)
    rw [List.flatMap_cons]
    obtain ⟨hc, hquoted⟩ | ⟨hc, hquoted⟩ := quotedChar_cases (hcs c List.mem_cons_self)
    · rw [hquoted]
      rcases hc with rfl | rfl
      · simp [scanQuoted?, ih]
      · simp [scanQuoted?, ih]
    · rw [hquoted]
      simp [scanQuoted?, ih, hc.1, hc.2]

theorem unescape?_backslash {c : Char} (hc : c = '"' ∨ c = '\\') (cs : List Char) :
    unescape? '"' ('\\' :: c :: cs) = (unescape? '"' cs).map (c :: ·) := by
  have hmap : (unescape? '"' cs).map (c :: ·) = (unescape? '"' cs).bind fun kept ↦ some (c :: kept) :=
    Option.map_eq_bind
  rw [hmap]
  -- An octal escape looks two characters ahead, so the equations tell apart how many are left.
  rcases cs with _ | ⟨a, _ | ⟨b, cs⟩⟩
  all_goals rcases hc with rfl | rfl
  all_goals simp [unescape?, isOctalLead, controlEscape?]

theorem unescape?_quoted (hcs : ∀ c ∈ cs, Text.isPrintableAscii c = true) :
    unescape? '"' (cs.flatMap Text.quotedChar) = some cs := by
  induction cs with
  | nil => rfl
  | cons c cs ih =>
    have ih := ih fun d hd ↦ hcs d (List.mem_cons_of_mem c hd)
    rw [List.flatMap_cons]
    obtain ⟨hc, hquoted⟩ | ⟨hc, hquoted⟩ := quotedChar_cases (hcs c List.mem_cons_self)
    · rw [hquoted]
      show unescape? '"' ('\\' :: c :: cs.flatMap Text.quotedChar) = some (c :: cs)
      rw [unescape?_backslash hc, ih, Option.map_some]
    · rw [hquoted]
      simp [unescape?, ih, hc.2]

/-! ## Spelling a value -/

/-- Where an operand may end after `cs`, the scanner finds one literal in it, whose value is `a`. -/
def Spells (cs : List Char) (a : Atom) : Prop :=
  ∃ l : Literal, l.atom? = some a ∧ CutsBefore operandEnds cs [.literal l]

theorem spells_null : Spells "null".toList .null :=
  ⟨.null, rfl, fun _ hrest ↦ .word rfl (hrest.mono (by decide))⟩

theorem spells_bool (b : Bool) : Spells (Value.bool b).source (.bool b) := by
  refine ⟨.bool b, rfl, fun _ hrest ↦ ?_⟩
  cases b with
  | true => exact .word rfl (hrest.mono (by decide))
  | false => exact .word rfl (hrest.mono (by decide))

theorem spells_int (i : Int64) : Spells (Decimal.intText i.toInt) (.int i) := by
  have hdigits : ∀ c ∈ Decimal.natText i.toInt.natAbs, c.isDigit = true :=
    fun _ hc ↦ Decimal.isDigit_of_mem_natText hc
  have hne := Decimal.natText_ne_nil i.toInt.natAbs
  refine ⟨.int (i.toInt < 0) 10 (Decimal.natText i.toInt.natAbs), ?_, fun rest hrest ↦ ?_⟩
  · have hsigned : (if i.toInt < 0 then -(i.toInt.natAbs : Int) else i.toInt.natAbs) = i.toInt := by
      omega
    rw [Literal.atom?, digits?_natText, Option.bind_eq_bind, Option.bind_some]
    simp only [decide_eq_true_eq, hsigned, Decimal.int64?_toInt]
    rfl
  · rw [Decimal.intText]
    split
    next hneg =>
      simpa [hneg] using Cuts.negative hdigits hne hrest
    next hneg =>
      have hscan := scanNumber?_digits none hdigits hne (by decide) hrest
      simpa [hneg] using Cuts.number [] hdigits hne hscan

theorem spells_uint (u : UInt64) : Spells (Decimal.natText u.toNat ++ ['u']) (.uint u) := by
  have hdigits : ∀ c ∈ Decimal.natText u.toNat, c.isDigit = true :=
    fun _ hc ↦ Decimal.isDigit_of_mem_natText hc
  have hne := Decimal.natText_ne_nil u.toNat
  refine ⟨.uint false 10 (Decimal.natText u.toNat), ?_, fun rest _ ↦ ?_⟩
  · rw [Literal.atom?, digits?_natText, Option.bind_eq_bind, Option.bind_some,
      if_neg Bool.false_ne_true, Decimal.uint64?_toNat]
    rfl
  · exact Cuts.number ['u'] hdigits hne (scanNumber?_unsigned hdigits hne rest)

theorem spells_string {s : String} (hs : ∀ c ∈ s.toList, Text.isPrintableAscii c = true) :
    Spells (Text.quoted s.toList) (.string s) := by
  refine ⟨.string '"' (s.toList.flatMap Text.quotedChar), ?_, fun rest _ ↦ ?_⟩
  · simp [Literal.atom?, unescape?_quoted hs]
  · refine Cuts.token rfl rfl ?_
    rw [List.append_assoc, List.singleton_append]
    show (scanQuoted? '"' _).map _ = _
    rw [scanQuoted?_quoted hs rest]
    rfl

end Filter

end WhereClause
