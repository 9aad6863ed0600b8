import WhereClause.Sql.Quoting

/-!
# String literals in SQL text

Two readers of SQL text, both from left to right.  `readLiteral?` reads the string literal at the
front of a text: what it stands for, and what follows it.  `outside?` goes through a whole text and
keeps only what stands outside its literals; it fails if the last literal is not closed.  For both a
backslash inside a literal takes the next character with it, whatever it is.

A quoted string is one literal for either of them: `readLiteral?` gives back what was quoted
(`readLiteral?_quote_append`), and `outside?` passes over it (`outside?_quote`).

What a literal is, `IsLiteral` says without reading anything.  The first reader finds the literals
in this sense and nothing else (`readLiteral?_eq_some_iff`), and since it has one answer, no text
starts with two of them (`IsLiteral.cancel`).
-/

set_option autoImplicit false

namespace WhereClause.Sql

/-! ## Reading one literal -/

/-- What a literal stands for whose opening quote has been read, and what follows it. -/
def readBody? : List Char → Option (List Char × List Char)
  | [] => none
  | '"' :: rest => some ([], rest)
  | '\\' :: c :: rest => (readBody? rest).map fun (cs, rest) ↦ (c :: cs, rest)
  | c :: rest => (readBody? rest).map fun (cs, rest) ↦ (c :: cs, rest)

/-- What the literal at the front of a text stands for, and what follows it. -/
def readLiteral? : List Char → Option (List Char × List Char)
  | '"' :: rest => readBody? rest
  | _ => none

/-! ### What a literal is -/

/-- What a text between quotes stands for.  A quote and a backslash have a backslash before them,
and any other character may have one. -/
inductive IsBody : List Char → List Char → Prop
  | nil : IsBody [] []
  | plain {c : Char} {cs text : List Char} (hc : isQuoteSpecial c = false) (h : IsBody cs text) :
    IsBody (c :: cs) (c :: text)
  | escaped (c : Char) {cs text : List Char} (h : IsBody cs text) :
    IsBody (c :: cs) ('\\' :: c :: text)

/-- A text is a string literal, and this is what it stands for. -/
def IsLiteral (content literal : List Char) : Prop :=
  ∃ body, IsBody content body ∧ literal = '"' :: (body ++ ['"'])

theorem readBody?_cons {c : Char} (hc : isQuoteSpecial c = false) (rest : List Char) :
    readBody? (c :: rest) = (readBody? rest).map fun (cs, rest) ↦ (c :: cs, rest) := by
  simp only [isQuoteSpecial, Bool.or_eq_false_iff, beq_eq_false_iff_ne] at hc
  rw [readBody?]
  · exact fun h ↦ absurd h hc.1
  · exact fun _ _ h _ ↦ absurd h hc.2

theorem IsBody.readBody?_append {cs text : List Char} (h : IsBody cs text) (rest : List Char) :
    readBody? (text ++ '"' :: rest) = some (cs, rest) := by
  induction h with
  | nil => rfl
  | plain hc _ ih => rw [List.cons_append, readBody?_cons hc, ih, Option.map_some]
  | escaped c _ ih => rw [List.cons_append, List.cons_append, readBody?, ih, Option.map_some]

/-- **A literal is read up to the first quote without a backslash**, and up to there it is one. -/
theorem readBody?_eq_some_iff {text cs rest : List Char} : readBody? text = some (cs, rest) ↔
    ∃ body, IsBody cs body ∧ text = body ++ '"' :: rest := by
  constructor
  · intro h
    fun_induction readBody? text generalizing cs with
    | case1 => cases h
    | case2 rest =>
      cases h
      exact ⟨[], .nil, rfl⟩
    | case3 c text ih =>
      obtain ⟨⟨ds, _⟩, hread, ⟨⟩⟩ := Option.map_eq_some_iff.1 h
      obtain ⟨body, hbody, rfl⟩ := ih hread
      exact ⟨'\\' :: c :: body, hbody.escaped c, rfl⟩
    | case4 c text hquote hescape ih =>
      obtain ⟨⟨ds, _⟩, hread, ⟨⟩⟩ := Option.map_eq_some_iff.1 h
      obtain ⟨body, hbody, rfl⟩ := ih hread
      refine ⟨c :: body, .plain ?_ hbody, rfl⟩
      have hne : body ++ '"' :: rest ≠ [] := by simp
      obtain ⟨d, more, htext⟩ := List.exists_cons_of_ne_nil hne
      have hslash : c ≠ '\\' := fun hc ↦ hescape d more hc htext
      rw [isQuoteSpecial, beq_eq_false_iff_ne.2 hquote, beq_eq_false_iff_ne.2 hslash, Bool.or_self]
  · rintro ⟨body, hbody, rfl⟩
    exact hbody.readBody?_append rest

theorem readLiteral?_eq_some_iff {text cs rest : List Char} :
    readLiteral? text = some (cs, rest) ↔
      ∃ literal, IsLiteral cs literal ∧ text = literal ++ rest := by
  constructor
  · intro h
    rw [readLiteral?.eq_def] at h
    split at h
    next text =>
      obtain ⟨body, hbody, rfl⟩ := readBody?_eq_some_iff.1 h
      exact ⟨_, ⟨body, hbody, rfl⟩, by simp⟩
    next => cases h
  · rintro ⟨_, ⟨body, hbody, rfl⟩, rfl⟩
    simpa [readLiteral?] using hbody.readBody?_append rest

theorem isLiteral_iff {cs literal : List Char} :
    IsLiteral cs literal ↔ readLiteral? literal = some (cs, []) := by
  simp [readLiteral?_eq_some_iff]

/-- **A text starts with one literal at most**, and this literal stands for one thing only. -/
theorem IsLiteral.cancel {v w a b r t : List Char} (ha : IsLiteral v a) (hb : IsLiteral w b)
    (h : a ++ r = b ++ t) : v = w ∧ a = b ∧ r = t := by
  have hv : readLiteral? (a ++ r) = some (v, r) := readLiteral?_eq_some_iff.2 ⟨a, ha, rfl⟩
  have hw : readLiteral? (b ++ t) = some (w, t) := readLiteral?_eq_some_iff.2 ⟨b, hb, rfl⟩
  rw [h, hw] at hv
  cases hv
  exact ⟨rfl, List.append_cancel_right h, rfl⟩

/-! ### Quoted strings -/

theorem isBody_escape (cs : List Char) : IsBody cs (escape isQuoteSpecial cs) := by
  induction cs with
  | nil => exact .nil
  | cons c cs ih =>
    rw [escape]
    split
    next => exact ih.escaped c
    next hc => exact .plain (Bool.eq_false_iff.2 hc) ih

theorem isLiteral_quote (cs : List Char) : IsLiteral cs (quote cs) :=
  ⟨_, isBody_escape cs, rfl⟩

/-- **A quoted string reads back**, whatever follows it. -/
theorem readLiteral?_quote_append (cs rest : List Char) :
    readLiteral? (quote cs ++ rest) = some (cs, rest) :=
  readLiteral?_eq_some_iff.2 ⟨_, isLiteral_quote cs, rfl⟩

/-- A literal is not closed before its last character. -/
theorem IsLiteral.readLiteral?_eq_none {v a b : List Char} (h : IsLiteral v (a ++ b))
    (hb : b ≠ []) : readLiteral? a = none := by
  cases hread : readLiteral? a with
  | none => rfl
  | some found =>
    obtain ⟨literal, hliteral, ha⟩ := readLiteral?_eq_some_iff.1 hread
    have hsplit : a ++ b ++ [] = literal ++ (found.2 ++ b) := by
      rw [ha, List.append_nil, List.append_assoc]
    obtain ⟨-, -, hrest⟩ := h.cancel hliteral hsplit
    exact absurd (List.append_eq_nil_iff.1 hrest.symm).2 hb

/-! ## What stands outside the literals -/

/-- Where a character stands. -/
inductive Region where
  | outside
  | inside
  /-- Inside a literal, after a backslash. -/
  | escaped
deriving DecidableEq

/-- Where the character after this one stands. -/
def Region.next : Region → Char → Region
  | .outside, c => if c = '"' then .inside else .outside
  | .inside, c => if c = '"' then .outside else if c = '\\' then .escaped else .inside
  | .escaped, _ => .inside

/-- The characters outside the literals of a text that starts in a region, if all literals are
closed. -/
def outsideFrom (r : Region) : List Char → Option (List Char)
  | [] => if r = .outside then some [] else none
  | c :: cs =>
    if r = .outside ∧ c ≠ '"' then (outsideFrom (r.next c) cs).map (c :: ·)
    else outsideFrom (r.next c) cs

/-- The characters outside the literals of a text, if all literals are closed. -/
def outside? (cs : List Char) : Option (List Char) :=
  outsideFrom .outside cs

theorem outsideFrom_append {r : Region} {a b out : List Char} (h : outsideFrom r a = some out) :
    outsideFrom r (a ++ b) = (outside? b).map (out ++ ·) := by
  induction a generalizing r out with
  | nil =>
    rw [outsideFrom] at h
    split at h
    next hr =>
      cases h
      cases hr
      simp [outside?]
    next => cases h
  | cons c a ih =>
    rw [outsideFrom] at h
    rw [List.cons_append, outsideFrom]
    split at h
    next hr =>
      obtain ⟨out', hout, rfl⟩ := Option.map_eq_some_iff.1 h
      rw [if_pos hr, ih hout, Option.map_map]
      rfl
    next hr => rw [if_neg hr, ih h]

/-- The texts outside two pieces, put together. -/
theorem outside?_append {a b x y : List Char} (ha : outside? a = some x)
    (hb : outside? b = some y) : outside? (a ++ b) = some (x ++ y) := by
  rw [outside?, outsideFrom_append ha, hb, Option.map_some]

/-- A text without quotes stands outside as a whole. -/
theorem outside?_of_noQuote {a : List Char} (h : ∀ c ∈ a, c ≠ '"') : outside? a = some a := by
  induction a with
  | nil => rfl
  | cons c a ih =>
    have hc : c ≠ '"' := h c List.mem_cons_self
    have ha : outside? a = some a := ih fun d hd ↦ h d (List.mem_cons_of_mem c hd)
    rw [outside?, outsideFrom, if_pos ⟨rfl, hc⟩, Region.next, if_neg hc, ← outside?, ha,
      Option.map_some]

theorem outsideFrom_inside_escape_append (cs rest : List Char) :
    outsideFrom .inside (escape isQuoteSpecial cs ++ rest) = outsideFrom .inside rest := by
  induction cs with
  | nil => rfl
  | cons c cs ih =>
    rw [escape]
    split
    next => simpa [outsideFrom, Region.next] using ih
    next hc =>
      simp only [isQuoteSpecial, Bool.or_eq_true, beq_iff_eq, not_or] at hc
      simpa [outsideFrom, Region.next, hc.1, hc.2] using ih

/-- **A quoted string is one closed literal**: nothing of it stands outside. -/
theorem outside?_quote (cs : List Char) : outside? (quote cs) = some [] := by
  rw [quote, outside?, outsideFrom, if_neg (by simp)]
  exact outsideFrom_inside_escape_append cs ['"']

/-! ## Quoted strings are delimited by themselves -/

/-- **A quoted string is one literal, and shows by itself where it ends.**  Whatever is quoted and
whatever follows, a reader takes all of the quoted string and nothing else, and gets back what was
quoted.  No other literal stands at the front of the text, so two different strings are quoted
differently; up to its last character the literal is not closed; and what follows is read as if the
quoted string were not there. -/
theorem quote_delimits (v rest : List Char) :
    readLiteral? (quote v ++ rest) = some (v, rest) ∧
      (∀ w literal after, IsLiteral w literal → literal ++ after = quote v ++ rest →
        w = v ∧ literal = quote v ∧ after = rest) ∧
      (∀ w, quote w = quote v → w = v) ∧
      (∀ a b, quote v = a ++ b → b ≠ [] → readLiteral? a = none) ∧
      outside? (quote v ++ rest) = outside? rest := by
  have hv : IsLiteral v (quote v) := isLiteral_quote v
  refine ⟨readLiteral?_quote_append v rest, ?_, ?_, ?_, ?_⟩
  · intro w literal after hw h
    exact hw.cancel hv h
  · intro w h
    exact ((isLiteral_quote w).cancel hv (congrArg (· ++ rest) h)).1
  · intro a b h hb
    rw [h] at hv
    exact hv.readLiteral?_eq_none hb
  · rw [outside?, outsideFrom_append (outside?_quote v)]
    simp

/-- What is quoted has a quote in it and ends in a backslash, and what follows starts with a quote.
Neither the first quote inside nor the one after the end is taken for the end. -/
theorem quote_delimits_backslash :
    quote "a\"\\".toList = "\"a\\\"\\\\\"".toList ∧
      IsLiteral "a\"\\".toList "\"a\\\"\\\\\"".toList ∧
      readLiteral? (quote "a\"\\".toList ++ "\" OR 1".toList) =
        some ("a\"\\".toList, "\" OR 1".toList) ∧
      readLiteral? "\"a\\\"".toList = none := by
  obtain ⟨hread, -, -, hopen, -⟩ := quote_delimits "a\"\\".toList "\" OR 1".toList
  have hquote : quote "a\"\\".toList = "\"a\\\"\\\\\"".toList := by decide
  refine ⟨hquote, hquote ▸ isLiteral_quote _, hread, ?_⟩
  exact hopen "\"a\\\"".toList "\\\\\"".toList (by decide) (by decide)

end WhereClause.Sql
