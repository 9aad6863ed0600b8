import Mathlib.Data.List.Infix
import WhereClause.Sql.Quoting

/-!
# What a pattern matches

A pattern reaches the database as a string literal, so it is decoded twice before anything is
compared.  `unquote?` takes the quotes off the literal, and with them one layer of backslashes;
`readPattern` then reads the wildcards, and takes off the other layer.  What is left is a list of
`Wildcard`s, and `fits` holds a text against them.

The three stages are kept apart because a pattern is made in the same three stages, from the inside
out: each of them is undone by one lemma (`unquote?_quote`, `readPattern_escapeLike_append`,
`fits_map_exact_append`), and the backslash, which is special for two of them, is met in one
layer at a time.

**The pattern of a start matches exactly the texts with this start, and the pattern of an end those
with this end**, whatever wildcards, backslashes and quotes the text itself has.
-/

set_option autoImplicit false

namespace WhereClause.Sql

/-! ## Taking the quotes off -/

/-- What a literal stands for whose opening quote has been read.  A quote ends it, and only a quote
or a backslash can stand after a backslash. -/
def unquoteBody? : List Char → Option (List Char)
  | [] => none
  | ['"'] => some []
  | '"' :: _ => none
  | '\\' :: '"' :: rest => (unquoteBody? rest).map ('"' :: ·)
  | '\\' :: '\\' :: rest => (unquoteBody? rest).map ('\\' :: ·)
  | '\\' :: _ => none
  | c :: rest => (unquoteBody? rest).map (c :: ·)

/-- What a string literal stands for, if the text is one. -/
def unquote? : List Char → Option (List Char)
  | '"' :: rest => unquoteBody? rest
  | _ => none

theorem unquoteBody?_cons {c : Char} (hc : isQuoteSpecial c = false) (rest : List Char) :
    unquoteBody? (c :: rest) = (unquoteBody? rest).map (c :: ·) := by
  simp only [isQuoteSpecial, Bool.or_eq_false_iff, beq_eq_false_iff_ne] at hc
  rw [unquoteBody?.eq_def]
  split <;> simp_all

theorem unquoteBody?_escape (cs : List Char) :
    unquoteBody? (escape isQuoteSpecial cs ++ ['"']) = some cs := by
  induction cs with
  | nil => rfl
  | cons c cs ih =>
    rw [escape]
    split
    next hc =>
      simp only [isQuoteSpecial, Bool.or_eq_true, beq_iff_eq] at hc
      rcases hc with rfl | rfl
      · simp [unquoteBody?, ih]
      · simp [unquoteBody?, ih]
    next hc =>
      rw [List.cons_append, unquoteBody?_cons (by simpa using hc), ih, Option.map_some]

/-- **A quoted text is unquoted to itself.** -/
theorem unquote?_quote (cs : List Char) : unquote? (quote cs) = some cs :=
  unquoteBody?_escape cs

/-! ## Reading the wildcards -/

/-- A part of a pattern. -/
inductive Wildcard where
  /-- Any sequence of characters. -/
  | many
  /-- Any one character. -/
  | one
  /-- This character. -/
  | exact (c : Char)
deriving DecidableEq

/-- The parts of a pattern.  A backslash makes a character of whatever follows it. -/
def readPattern : List Char → List Wildcard
  | [] => []
  | '%' :: p => .many :: readPattern p
  | '_' :: p => .one :: readPattern p
  | '\\' :: c :: p => .exact c :: readPattern p
  | c :: p => .exact c :: readPattern p

theorem readPattern_cons {c : Char} (hc : isPatternSpecial c = false) (p : List Char) :
    readPattern (c :: p) = .exact c :: readPattern p := by
  simp only [isPatternSpecial, Bool.or_eq_false_iff, beq_eq_false_iff_ne] at hc
  rw [readPattern.eq_def]
  split <;> simp_all

/-- **An escaped text has no wildcards left**: every character of it stands for itself. -/
theorem readPattern_escapeLike_append (cs p : List Char) :
    readPattern (escapeLike cs ++ p) = cs.map .exact ++ readPattern p := by
  induction cs with
  | nil => rfl
  | cons c cs ih =>
    rw [escapeLike] at ih
    rw [escapeLike, escape]
    split
    next => simp [readPattern, ih]
    next hc => rw [List.cons_append, readPattern_cons (by simpa using hc), ih]; rfl

theorem readPattern_escapeLike (cs : List Char) : readPattern (escapeLike cs) = cs.map .exact := by
  simpa [readPattern] using readPattern_escapeLike_append cs []

/-! ## Matching -/

/-- Whether a text is what the parts of a pattern stand for, one after the other. -/
def fits : List Wildcard → List Char → Bool
  | [], s => s.isEmpty
  | .many :: p, s => s.tails.any fun t ↦ fits p t
  | .one :: _, [] => false
  | .one :: p, _ :: s => fits p s
  | .exact _ :: _, [] => false
  | .exact c :: p, d :: s => c == d && fits p s

/-- Whether a text is `LIKE` a pattern. -/
def like (pattern text : List Char) : Bool :=
  fits (readPattern pattern) text

theorem fits_nil_iff {s : List Char} : fits [] s = true ↔ s = [] := by
  rw [fits, List.isEmpty_iff]

/-- Any sequence may be left out before the rest of a pattern is matched. -/
theorem fits_many_iff {p : List Wildcard} {s : List Char} :
    fits (.many :: p) s = true ↔ ∃ t, t <:+ s ∧ fits p t = true := by
  rw [fits, List.any_eq_true]
  simp only [List.mem_tails]

/-- **Characters that stand for themselves are matched by themselves only.** -/
theorem fits_map_exact_append {cs s : List Char} {p : List Wildcard} :
    fits (cs.map .exact ++ p) s = true ↔ ∃ t, s = cs ++ t ∧ fits p t = true := by
  induction cs generalizing s with
  | nil => simp
  | cons c cs ih =>
    cases s with
    | nil => simp [fits]
    | cons d s =>
      rw [List.map_cons, List.cons_append, fits, Bool.and_eq_true, beq_iff_eq, ih]
      constructor
      · rintro ⟨rfl, t, rfl, ht⟩
        exact ⟨t, rfl, ht⟩
      · rintro ⟨t, hs, ht⟩
        obtain ⟨rfl, rfl⟩ := List.cons.inj hs
        exact ⟨rfl, t, rfl, ht⟩

/-! ## Starts and ends -/

/-- An escaped text and any sequence after it. -/
theorem like_start_iff {v s : List Char} : like (escapeLike v ++ ['%']) s = true ↔ v <+: s := by
  have hrest : ∀ t, fits (readPattern ['%']) t = true := by
    intro t
    exact fits_many_iff.2 ⟨[], List.nil_suffix, rfl⟩
  rw [like, readPattern_escapeLike_append, fits_map_exact_append]
  constructor
  · rintro ⟨t, rfl, -⟩
    exact List.prefix_append v t
  · rintro ⟨t, rfl⟩
    exact ⟨t, rfl, hrest t⟩

/-- Any sequence and an escaped text after it. -/
theorem like_end_iff {v s : List Char} : like ('%' :: escapeLike v) s = true ↔ v <:+ s := by
  have hself : ∀ t, fits (readPattern (escapeLike v)) t = true ↔ t = v := by
    intro t
    rw [readPattern_escapeLike, ← List.append_nil (v.map _), fits_map_exact_append]
    simp [fits_nil_iff]
  rw [like, readPattern, fits_many_iff]
  simp only [hself]
  constructor
  · rintro ⟨t, ht, rfl⟩
    exact ht
  · exact fun h ↦ ⟨v, h, rfl⟩

/-! Nothing of a text is lost on its way into a pattern. -/

theorem quote_injective : Function.Injective quote := fun v w h ↦ by
  simpa [unquote?_quote] using congrArg unquote? h

theorem escapeLike_injective : Function.Injective escapeLike := fun v w h ↦ by
  have hread := congrArg readPattern h
  rw [readPattern_escapeLike, readPattern_escapeLike] at hread
  exact List.map_injective_iff.2 (fun _ _ ↦ Wildcard.exact.inj) hread

theorem startPattern_injective : Function.Injective startPattern := fun _ _ h ↦
  escapeLike_injective (List.append_cancel_right (quote_injective h))

theorem endPattern_injective : Function.Injective endPattern := fun _ _ h ↦
  escapeLike_injective (List.cons.inj (quote_injective h)).2

/-- **Patterns mean starts and ends.**  The literal made for a start stands for a pattern that the
texts with this start are like, and no others; and so does the literal made for an end. -/
theorem pattern_like_iff (v : List Char) :
    (∃ p, unquote? (startPattern v) = some p ∧ ∀ s, like p s = true ↔ v <+: s) ∧
      ∃ p, unquote? (endPattern v) = some p ∧ ∀ s, like p s = true ↔ v <:+ s :=
  ⟨⟨_, unquote?_quote _, fun _ ↦ like_start_iff⟩, ⟨_, unquote?_quote _, fun _ ↦ like_end_iff⟩⟩

/-- The last backslash stands for itself and does not take the wildcard with it. -/
example : (unquote? (startPattern "5%\\".toList)).map readPattern =
    some [.exact '5', .exact '%', .exact '\\', .many] := by
  decide

end WhereClause.Sql
