import Mathlib.Data.List.DropRight
import WhereClause.Proofs.Sql.Literal
import WhereClause.Proofs.Sql.Rendered
import WhereClause.Text.Blank

/-!
# SQL text can be read in one way only

Every operator of a rendered tree stands in parentheses of its own, so its text can be read without
knowing how tightly operators bind.  This file says what such a reading is and that there is only
one.

* `BinaryOp.word`, `UnaryOp.word` — the words SQL has for the operators, one by one.
* `Sql.Skeleton` — what can be read off SQL text: which operators stand where, and the leaves.
* `Sql.Reads` — the grammar.  A text reads as a skeleton if it is built by these rules; nothing in
  them says which of two rules comes first, and nothing in them is taken from the renderer.
* `Sql.Reads.cancel` — the grammar is unambiguous, even for a text that goes on after its end.
* `Expr.skeleton?` — the skeleton of a tree, which does not look at the text.

The text of a tree reads as the skeleton of the tree (`Rendered.reads`), provided that the columns
it names are tokens: a column with a blank in it would be read as two.
-/

set_option autoImplicit false

namespace WhereClause

/-! ## Words -/

/-- The word that stands between the operands of an operator. -/
def BinaryOp.word : BinaryOp → String
  | and => "AND"
  | or => "OR"
  | equal => "=="
  | notEqual => "!="
  | lessThan => "<"
  | lessOrEqual => "<="
  | greaterThan => ">"
  | greaterOrEqual => ">="
  | add => "+"
  | subtract => "-"
  | multiply => "*"
  | divide => "/"
  | modulo => "%"

/-- The word that stands in front of the operand of an operator. -/
def UnaryOp.word : UnaryOp → String
  | not => "NOT"
  | negate => "-"

namespace Sql

theorem binaryToken_eq_word (op : BinaryOp) : binaryToken op = op.word := by
  cases op <;> rfl

theorem unaryToken_eq_word (op : UnaryOp) : unaryToken op = op.word := by
  cases op <;> rfl

/-! ## Tokens -/

/-- A character that can stand in a token: no blank, parenthesis or quote. -/
def isTokenChar (c : Char) : Bool :=
  !(Text.isBlank c || c == '(' || c == ')' || c == '"')

/-- Whether a text is one token. -/
def isToken (cs : List Char) : Bool :=
  !cs.isEmpty && cs.all isTokenChar

/-- A text that does not continue a token. -/
def StopsToken (rest : List Char) : Prop :=
  ∀ c ∈ rest.head?, isTokenChar c = false

theorem isToken_iff {cs : List Char} :
    isToken cs = true ↔ cs ≠ [] ∧ ∀ c ∈ cs, isTokenChar c = true := by
  simp [isToken]

theorem takeWhile_token_append {w rest : List Char} (hw : isToken w = true)
    (hrest : StopsToken rest) : (w ++ rest).takeWhile isTokenChar = w := by
  have hnil : rest.takeWhile isTokenChar = [] := by
    cases rest with
    | nil => rfl
    | cons c rest => simp [hrest c rfl]
  rw [List.takeWhile_append_of_pos (isToken_iff.1 hw).2, hnil, List.append_nil]

/-- Where a token ends is seen from what follows it. -/
theorem token_cancel {v w r t : List Char} (hv : isToken v = true) (hw : isToken w = true)
    (hr : StopsToken r) (ht : StopsToken t) (h : v ++ r = w ++ t) : v = w ∧ r = t := by
  have hvw : v = w := by
    rw [← takeWhile_token_append hv hr, h, takeWhile_token_append hw ht]
  rw [hvw] at h
  exact ⟨hvw, List.append_cancel_left h⟩

/-- A token starts with one of its characters. -/
theorem token_append_ne_cons {w r x : List Char} {c : Char} (hw : isToken w = true)
    (hc : isTokenChar c = false) : w ++ r ≠ c :: x := by
  obtain ⟨hne, hall⟩ := isToken_iff.1 hw
  cases w with
  | nil => exact absurd rfl hne
  | cons d w =>
    rintro ⟨⟩
    exact Bool.false_ne_true (hc.symm.trans (hall c List.mem_cons_self))

theorem stopsToken_cons {c : Char} {x : List Char} (hc : isTokenChar c = false) :
    StopsToken (c :: x) := by
  rintro d ⟨⟩
  exact hc

theorem isToken_binaryWord (op : BinaryOp) : isToken op.word.toList = true := by
  cases op <;> decide

theorem isToken_unaryWord (op : UnaryOp) : isToken op.word.toList = true := by
  cases op <;> decide

theorem isTokenChar_of_isDigit {c : Char} (h : c.isDigit = true) : isTokenChar c = true := by
  have hlow : 48 ≤ c.toNat := (Char.isDigit_iff_toNat.1 h).1
  have hhigh : c.toNat ≤ 57 := (Char.isDigit_iff_toNat.1 h).2
  have hblank : Text.isBlank c = false := by
    simp only [Text.isBlank, Text.blankRanges, List.any_cons, List.any_nil, Bool.or_false,
      Bool.or_eq_false_iff, Bool.and_eq_false_iff, decide_eq_false_iff_not]
    omega
  have hne : ∀ d : Char, d.toNat < 48 → (c == d) = false := by
    intro d hd
    rw [beq_eq_false_iff_ne]
    rintro rfl
    omega
  rw [isTokenChar, hblank, hne '(' (by decide), hne ')' (by decide), hne '"' (by decide)]
  rfl

theorem isToken_of_isNumeric {cs : List Char} (h : Decimal.IsNumeric cs) : isToken cs = true := by
  obtain ⟨body, hne, hbody, hcs⟩ := h
  have hchars : ∀ c ∈ body, isTokenChar c = true := by
    intro c hc
    rcases hbody c hc with hdigit | rfl
    · exact isTokenChar_of_isDigit hdigit
    · decide
  rcases hcs with rfl | rfl
  · exact isToken_iff.2 ⟨hne, hchars⟩
  · exact isToken_iff.2 ⟨by simp, List.forall_mem_cons.2 ⟨by decide, hchars⟩⟩

theorem isToken_of_readNat? {cs : List Char} {n : Nat} (h : Decimal.readNat? cs = some n) :
    isToken cs = true := by
  rw [Decimal.readNat?] at h
  split at h
  next hcs =>
    simp only [Bool.and_eq_true, Bool.not_eq_true', List.isEmpty_eq_false_iff,
      List.all_eq_true] at hcs
    exact isToken_iff.2 ⟨hcs.1, fun c hc ↦ isTokenChar_of_isDigit (hcs.2 c hc)⟩
  next => cases h

theorem isToken_of_readInt? {cs : List Char} {n : Int} (h : Decimal.readInt? cs = some n) :
    isToken cs = true := by
  have hsign : ∀ {c : Char} {cs : List Char} {m : Nat}, isTokenChar c = true →
      Decimal.readNat? cs = some m → isToken (c :: cs) = true := by
    intro c cs m hc hcs
    obtain ⟨-, hall⟩ := isToken_iff.1 (isToken_of_readNat? hcs)
    exact isToken_iff.2 ⟨by simp, List.forall_mem_cons.2 ⟨hc, hall⟩⟩
  rw [Decimal.readInt?.eq_def] at h
  split at h
  · obtain ⟨_, hm, -⟩ := Option.map_eq_some_iff.1 h
    obtain ⟨m, hm, -⟩ := Option.bind_eq_some_iff.1 hm
    exact hsign (by decide) hm
  · obtain ⟨m, hm, -⟩ := Option.map_eq_some_iff.1 h
    exact hsign (by decide) hm
  · obtain ⟨m, hm, -⟩ := Option.map_eq_some_iff.1 h
    exact isToken_of_readNat? hm

/-! ## The grammar -/

/-- What can be read off SQL text. -/
inductive Skeleton where
  /-- An operator between two operands. -/
  | binary (op : String) (left right : Skeleton)
  /-- An operator in front of an operand. -/
  | unary (op : String) (operand : Skeleton)
  /-- A comparison with a pattern, given as the text the literal stands for. -/
  | like (receiver : Skeleton) (pattern : List Char)
  /-- A string literal, given as the text it stands for. -/
  | quoted (content : List Char)
  /-- The time at a number of seconds. -/
  | fromUnixTime (seconds : Int)
  /-- Any other leaf, as it is written. -/
  | token (text : List Char)
deriving DecidableEq

/-- An operator between two texts, in parentheses. -/
def between (a : List Char) (op : String) (b : List Char) : List Char :=
  '(' :: (a ++ ' ' :: (op.toList ++ ' ' :: (b ++ [')'])))

/-- An operator in front of a text, in parentheses. -/
def inFront (op : String) (a : List Char) : List Char :=
  '(' :: (op.toList ++ ' ' :: (a ++ [')']))

/-- A function called with a text. -/
def called (name : String) (a : List Char) : List Char :=
  name.toList ++ '(' :: (a ++ [')'])

/-- The words that stand between operands, and what they make of them. -/
inductive Joins : String → Skeleton → Skeleton → Skeleton → Prop
  | binary (op : BinaryOp) (l r : Skeleton) : Joins op.word l r (.binary op.word l r)
  | like (l : Skeleton) (p : List Char) : Joins "LIKE" l (.quoted p) (.like l p)

/-- A text reads as a skeleton. -/
inductive Reads : List Char → Skeleton → Prop
  | token {cs : List Char} (h : isToken cs = true) : Reads cs (.token cs)
  | quoted {cs content : List Char} (h : readLiteral? cs = some (content, [])) :
      Reads cs (.quoted content)
  | fromUnixTime {cs : List Char} {n : Int} (h : Decimal.readInt? cs = some n) :
      Reads (called "FROM_UNIXTIME" cs) (.fromUnixTime n)
  | between {op : String} {a b : List Char} {l r k : Skeleton} (hop : Joins op l r k)
      (ha : Reads a l) (hb : Reads b r) : Reads (between a op b) k
  | inFront (op : UnaryOp) {a : List Char} {k : Skeleton} (ha : Reads a k) :
      Reads (inFront op.word a) (.unary op.word k)

theorem Joins.isToken {op : String} {l r k : Skeleton} (h : Joins op l r k) :
    isToken op.toList = true := by
  cases h with
  | binary op => exact isToken_binaryWord op
  | like => decide

theorem binaryWord_ne_like (op : BinaryOp) : op.word ≠ "LIKE" := by
  cases op <;> decide

/-- The operator and the operands say what is made of them. -/
theorem Joins.unique {op op' : String} {l l' r r' k k' : Skeleton} (h : Joins op l r k)
    (h' : Joins op' l' r' k') (hop : op = op') (hl : l = l') (hr : r = r') : k = k' := by
  cases h with
  | binary op =>
    cases h' with
    | binary op' => rw [hop, hl, hr]
    | like => exact absurd hop (binaryWord_ne_like op)
  | like =>
    cases h' with
    | binary op' => exact absurd hop.symm (binaryWord_ne_like op')
    | like =>
      cases hr
      rw [hl]

/-! ## Nothing can be read in two ways -/

/-- What can follow a text inside a larger one: a blank, a closing parenthesis, or nothing. -/
def Ended (rest : List Char) : Prop :=
  ∀ c ∈ rest.head?, c = ' ' ∨ c = ')'

theorem ended_space (x : List Char) : Ended (' ' :: x) := by
  rintro c ⟨⟩
  exact .inl rfl

theorem ended_close (x : List Char) : Ended (')' :: x) := by
  rintro c ⟨⟩
  exact .inr rfl

theorem Ended.stopsToken {rest : List Char} (h : Ended rest) : StopsToken rest := by
  intro c hc
  rcases h c hc with rfl | rfl <;> decide

variable {a b r t : List Char} {k l : Skeleton}

theorem called_append (name : String) (cs : List Char) :
    called name cs ++ r = name.toList ++ '(' :: (cs ++ ')' :: r) := by
  simp [called]

/-- A text that starts like a token and ends reads as that token. -/
theorem Reads.cancel_token (h : Reads a k) {w : List Char} (hw : isToken w = true) (hr : Ended r)
    (ht : Ended t) (heq : a ++ r = w ++ t) : k = .token w ∧ r = t := by
  cases h with
  | token ha =>
    obtain ⟨rfl, rfl⟩ := token_cancel ha hw hr.stopsToken ht.stopsToken heq
    exact ⟨rfl, rfl⟩
  | quoted ha =>
    obtain ⟨body, -, rfl⟩ := isLiteral_iff.2 ha
    exact absurd heq.symm (token_append_ne_cons hw (by decide))
  | fromUnixTime hn =>
    rw [called_append] at heq
    obtain ⟨-, rfl⟩ := token_cancel (by decide) hw (stopsToken_cons (by decide)) ht.stopsToken heq
    rcases ht '(' rfl with hparen | hparen <;> cases hparen
  | between => exact absurd heq.symm (token_append_ne_cons hw (by decide))
  | inFront => exact absurd heq.symm (token_append_ne_cons hw (by decide))

/-- A text that starts like a literal reads as that literal. -/
theorem Reads.cancel_quoted (h : Reads a k) {w v : List Char}
    (hw : readLiteral? w = some (v, [])) (heq : a ++ r = w ++ t) : k = .quoted v ∧ r = t := by
  obtain ⟨body, -, rfl⟩ := isLiteral_iff.2 hw
  cases h with
  | token ha => exact absurd heq (token_append_ne_cons ha (by decide))
  | quoted ha =>
    obtain ⟨rfl, -, rfl⟩ := (isLiteral_iff.2 ha).cancel (isLiteral_iff.2 hw) heq
    exact ⟨rfl, rfl⟩
  | fromUnixTime hn =>
    rw [called_append] at heq
    exact absurd heq (token_append_ne_cons (by decide) (by decide))
  | between => cases heq
  | inFront => cases heq

/-- A text that starts like a time in seconds reads as that time. -/
theorem Reads.cancel_fromUnixTime (h : Reads a k) {w : List Char} {n : Int}
    (hw : Decimal.readInt? w = some n) (hr : Ended r)
    (heq : a ++ r = called "FROM_UNIXTIME" w ++ t) :
    k = .fromUnixTime n ∧ r = t := by
  rw [called_append] at heq
  cases h with
  | token ha =>
    obtain ⟨-, rfl⟩ := token_cancel ha (by decide) hr.stopsToken (stopsToken_cons (by decide)) heq
    rcases hr '(' rfl with hparen | hparen <;> cases hparen
  | quoted ha =>
    obtain ⟨body, -, rfl⟩ := isLiteral_iff.2 ha
    exact absurd heq.symm (token_append_ne_cons (by decide) (by decide))
  | @fromUnixTime cs m hn =>
    rw [called_append] at heq
    have hinner : cs ++ ')' :: r = w ++ ')' :: t := (List.cons.inj (List.append_cancel_left heq)).2
    obtain ⟨rfl, hrest⟩ := token_cancel (isToken_of_readInt? hn) (isToken_of_readInt? hw)
      (stopsToken_cons (by decide)) (stopsToken_cons (by decide)) hinner
    rw [hn] at hw
    cases hw
    cases hrest
    exact ⟨rfl, rfl⟩
  | between => exact absurd heq.symm (token_append_ne_cons (by decide) (by decide))
  | inFront => exact absurd heq.symm (token_append_ne_cons (by decide) (by decide))

/-- What a text can be that starts with a parenthesis. -/
theorem Reads.cases_open (h : Reads b l) {x : List Char} (heq : b ++ t = '(' :: x) :
    (∃ op b₁ b₂ l₁ l₂, Joins op l₁ l₂ l ∧ Reads b₁ l₁ ∧ Reads b₂ l₂ ∧
      x = b₁ ++ ' ' :: (op.toList ++ ' ' :: (b₂ ++ ')' :: t))) ∨
    ∃ (op : UnaryOp) (b₁ : List Char) (l₁ : Skeleton), l = .unary op.word l₁ ∧ Reads b₁ l₁ ∧
      x = op.word.toList ++ ' ' :: (b₁ ++ ')' :: t) := by
  cases h with
  | token hb => exact absurd heq (token_append_ne_cons hb (by decide))
  | quoted hb =>
    obtain ⟨body, -, rfl⟩ := isLiteral_iff.2 hb
    cases heq
  | fromUnixTime hn =>
    rw [called_append] at heq
    exact absurd heq (token_append_ne_cons (by decide) (by decide))
  | @between op b₁ b₂ l₁ l₂ _ hop hb₁ hb₂ =>
    refine .inl ⟨op, b₁, b₂, l₁, l₂, hop, hb₁, hb₂, ?_⟩
    simpa [Sql.between, eq_comm] using heq
  | @inFront op b₁ l₁ hb =>
    refine .inr ⟨op, b₁, l₁, rfl, hb, ?_⟩
    simpa [Sql.inFront, eq_comm] using heq

/-- **The grammar is unambiguous.**  Of two texts that read as something, if they are followed by a
blank, a closing parenthesis or nothing and are then the same, both the readings and what follows
are the same. -/
theorem Reads.cancel (h : Reads a k) (h' : Reads b l) (hr : Ended r) (ht : Ended t)
    (heq : a ++ r = b ++ t) : k = l ∧ r = t := by
  induction h generalizing b l r t with
  | token ha =>
    obtain ⟨rfl, rfl⟩ := h'.cancel_token ha ht hr heq.symm
    exact ⟨rfl, rfl⟩
  | quoted ha =>
    obtain ⟨rfl, rfl⟩ := h'.cancel_quoted ha heq.symm
    exact ⟨rfl, rfl⟩
  | fromUnixTime ha =>
    obtain ⟨rfl, rfl⟩ := h'.cancel_fromUnixTime ha ht heq.symm
    exact ⟨rfl, rfl⟩
  | @between op a₁ a₂ k₁ k₂ k hop ha₁ ha₂ ih₁ ih₂ =>
    obtain ⟨op', b₁, b₂, l₁, l₂, hop', hb₁, hb₂, hx⟩ | ⟨op', b₁, l₁, rfl, hb, hx⟩ :=
      h'.cases_open heq.symm
    · have hx : a₁ ++ ' ' :: (op.toList ++ ' ' :: (a₂ ++ ')' :: r)) =
          b₁ ++ ' ' :: (op'.toList ++ ' ' :: (b₂ ++ ')' :: t)) := by simpa using hx
      obtain ⟨hleft, hrest⟩ := ih₁ hb₁ (ended_space _) (ended_space _) hx
      obtain ⟨hops, hrest⟩ := token_cancel hop.isToken hop'.isToken (stopsToken_cons (by decide))
        (stopsToken_cons (by decide)) (List.cons.inj hrest).2
      obtain ⟨hright, hrest⟩ := ih₂ hb₂ (ended_close _) (ended_close _) (List.cons.inj hrest).2
      exact ⟨hop.unique hop' (String.toList_inj.1 hops) hleft hright, (List.cons.inj hrest).2⟩
    · -- Three parts on one side, two on the other: the first of each is the same token, and then a
      -- blank stands where a parenthesis is closed.
      have hx : a₁ ++ ' ' :: (op.toList ++ ' ' :: (a₂ ++ ')' :: r)) =
          op'.word.toList ++ ' ' :: (b₁ ++ ')' :: t) := by simpa using hx
      obtain ⟨-, hrest⟩ := ha₁.cancel_token (isToken_unaryWord op') (ended_space _)
        (ended_space _) hx
      obtain ⟨-, hrest⟩ := hb.cancel_token hop.isToken (ended_close _) (ended_space _)
        (List.cons.inj hrest).2.symm
      cases hrest
  | @inFront op a₁ k₁ ha ih =>
    obtain ⟨op', b₁, b₂, l₁, l₂, hop', hb₁, hb₂, hx⟩ | ⟨op', b₁, l₁, rfl, hb, hx⟩ :=
      h'.cases_open heq.symm
    · have hx : op.word.toList ++ ' ' :: (a₁ ++ ')' :: r) =
          b₁ ++ ' ' :: (op'.toList ++ ' ' :: (b₂ ++ ')' :: t)) := by simpa using hx
      obtain ⟨-, hrest⟩ := hb₁.cancel_token (isToken_unaryWord op) (ended_space _)
        (ended_space _) hx.symm
      obtain ⟨-, hrest⟩ := ha.cancel_token hop'.isToken (ended_close _) (ended_space _)
        (List.cons.inj hrest).2.symm
      cases hrest
    · have hx : op.word.toList ++ ' ' :: (a₁ ++ ')' :: r) =
          op'.word.toList ++ ' ' :: (b₁ ++ ')' :: t) := by simpa using hx
      obtain ⟨hops, hrest⟩ := token_cancel (isToken_unaryWord op) (isToken_unaryWord op')
        (stopsToken_cons (by decide)) (stopsToken_cons (by decide)) hx
      obtain ⟨hoperand, hrest⟩ := ih hb (ended_close _) (ended_close _) (List.cons.inj hrest).2
      rw [String.toList_inj.1 hops, hoperand]
      exact ⟨rfl, (List.cons.inj hrest).2⟩

/-- **A text reads as one skeleton at most.** -/
theorem Reads.unique (h : Reads a k) (h' : Reads a l) : k = l :=
  (h.cancel (r := []) (t := []) h' (by rintro _ ⟨⟩) (by rintro _ ⟨⟩) rfl).1

end Sql

open Sql

/-! ## The skeleton of a tree -/

/-- The skeleton of a literal. -/
def Value.skeleton? : Value → Option Skeleton
  | .string text => some (.quoted text.toList)
  | v => v.token?.map .token

/-- The skeleton of the moment a literal stands for. -/
def Value.momentSkeleton? (s : Settings) : Value → Option Skeleton
  | .string text => (Expr.timestampText s text).toOption.map .quoted
  | v => v.seconds?.map .fromUnixTime

/-- The pattern of a test for the start or the end of a string: the string without the quotes at its
ends, with a backslash in front of `\\`, `%` and `_`, and a `%` for what comes after or before. -/
def Builtin.pattern? (f : Builtin) (text : String) : Option (List Char) :=
  let bare := (text.toList.dropWhile (· == '"')).rdropWhile (· == '"')
  let plain := bare.flatMap fun c ↦ if c ∈ ['\\', '%', '_'] then ['\\', c] else [c]
  match f with
  | .startsWith => some (plain ++ ['%'])
  | .endsWith => some ('%' :: plain)
  | _ => none

theorem Sql.escapeLike_eq_flatMap (cs : List Char) :
    escapeLike cs = cs.flatMap fun c ↦ if c ∈ ['\\', '%', '_'] then ['\\', c] else [c] := by
  induction cs with
  | nil => rfl
  | cons c cs ih =>
    rw [escapeLike] at ih
    rw [escapeLike, escape, List.flatMap_cons, ← ih]
    by_cases hspecial : c ∈ ['\\', '%', '_']
    · rw [if_pos (by simpa [isPatternSpecial, or_assoc] using hspecial), if_pos hspecial]
      rfl
    · rw [if_neg (by simpa [isPatternSpecial, or_assoc] using hspecial), if_neg hspecial]
      rfl

/-- The pattern is the one the renderer writes. -/
theorem Builtin.pattern?_eq {f : Builtin} {content : List Char → List Char}
    (hf : f.likeContent? = some content) (text : String) :
    f.pattern? text = some (content (Expr.trimQuotes text.toList)) := by
  have hescape := escapeLike_eq_flatMap (Expr.trimQuotes text.toList)
  cases f with
  | startsWith =>
    cases hf
    exact congrArg (fun cs ↦ some (cs ++ ['%'])) hescape.symm
  | endsWith =>
    cases hf
    exact congrArg (fun cs ↦ some ('%' :: cs)) hescape.symm
  | _ => cases hf

namespace Expr

/-- The skeleton of a call, given those of its receiver and of its arguments. -/
def callSkeleton? (s : Settings) : Builtin → Option (Option Skeleton) → List (Option Skeleton) →
    List Expr → Option Skeleton
  | .binary op, none, [some l, some r], _ => some (.binary op.word l r)
  | .unary op, none, [some k], _ => some (.unary op.word k)
  | .timestamp, none, _, [.literal v] => v.momentSkeleton? s
  | f, some (some k), _, [.literal (.string text)] => (f.pattern? text).map (.like k)
  | _, _, _, _ => none

mutual

/-- The skeleton of a tree, if it can be rendered. -/
def skeleton? (s : Settings) : Expr → Option Skeleton
  | .literal v => v.skeleton?
  | .ident _ => none
  | .select operand field =>
    ((Expr.select operand field).fieldPath s.subject).toOption.map fun path ↦
      .token (s.column path).toList
  | .call function target args =>
    (Builtin.ofName? function).bind fun f ↦
      callSkeleton? s f (targetSkeleton? s target) (skeletons? s args) args
  | .list _ => none

/-- The skeleton of a receiver. -/
def targetSkeleton? (s : Settings) : Option Expr → Option (Option Skeleton)
  | none => none
  | some target => some (target.skeleton? s)

/-- The skeletons of several trees. -/
def skeletons? (s : Settings) : List Expr → List (Option Skeleton)
  | [] => []
  | e :: es => e.skeleton? s :: skeletons? s es

end

theorem skeleton?_call (s : Settings) (f : Builtin) (target : Option Expr) (args : List Expr) :
    (call f.name target args).skeleton? s =
      callSkeleton? s f (target.map (skeleton? s)) (args.map (skeleton? s)) args := by
  have htarget : targetSkeleton? s target = target.map (skeleton? s) := by
    cases target <;> simp [targetSkeleton?]
  have hargs : ∀ es : List Expr, skeletons? s es = es.map (skeleton? s) := by
    intro es
    induction es with
    | nil => simp [skeletons?]
    | cons e es ih => simp [skeletons?, ih]
  rw [skeleton?, Builtin.ofName?_name, Option.bind_some, htarget, hargs]

/-- Every chain of field selections in a tree names a column that is one token. -/
def ColumnsAreTokens (s : Settings) (e : Expr) : Prop :=
  ∀ chain ∈ e.chains, ∀ path, chain.fieldPath s.subject = .ok path →
    isToken (s.column path).toList = true

variable {s : Settings}

theorem ColumnsAreTokens.target {function : String} {t : Expr} {args : List Expr}
    (h : (call function (some t) args).ColumnsAreTokens s) : t.ColumnsAreTokens s :=
  fun chain hchain ↦ h chain (by simp [hchain])

theorem ColumnsAreTokens.arg {function : String} {target : Option Expr} {args : List Expr}
    (h : (call function target args).ColumnsAreTokens s) {a : Expr} (ha : a ∈ args) :
    a.ColumnsAreTokens s := by
  intro chain hchain
  refine h chain ?_
  rw [chains_call]
  exact List.mem_append_right _ (List.mem_flatMap.2 ⟨a, ha, hchain⟩)

end Expr

variable {s : Settings}

theorem isToken_of_token? {v : Value} {cs : List Char} (h : v.token? = some cs) :
    isToken cs = true := by
  rcases Value.token?_cases h with rfl | rfl | rfl | hnumeric
  · decide
  · decide
  · decide
  · exact isToken_of_isNumeric hnumeric

theorem reads_quote (cs : List Char) : Reads (quote cs) (.quoted cs) := by
  refine .quoted ?_
  simpa using readLiteral?_quote_append cs []

/-- **The text of a tree reads as the skeleton of the tree.** -/
theorem Rendered.reads {e : Expr} {cs : List Char} (h : Rendered s e cs)
    (he : e.ColumnsAreTokens s) : ∃ k, e.skeleton? s = some k ∧ Reads cs k := by
  induction h with
  | @token v cs h =>
    refine ⟨.token cs, ?_, .token (isToken_of_token? h)⟩
    rw [Expr.skeleton?]
    cases v with
    | string text => cases h
    | _ => rw [Value.skeleton?, h, Option.map_some]; simp
  | string text =>
    refine ⟨.quoted text.toList, ?_, reads_quote _⟩
    rw [Expr.skeleton?, Value.skeleton?]
  | @field operand name path h =>
    refine ⟨.token (s.column path).toList, ?_, .token (he _ (Expr.select_mem_chains _ _) path h)⟩
    rw [Expr.skeleton?, h]
    rfl
  | @binary op left right a b _ _ _ ihl ihr =>
    obtain ⟨l, hl, ha⟩ := ihl (he.arg (by simp))
    obtain ⟨r, hr, hb⟩ := ihr (he.arg (by simp))
    have hread := Reads.between (.binary op l r) ha hb
    rw [← binaryToken_eq_word] at hread
    refine ⟨_, ?_, hread⟩
    rw [binaryToken_eq_word, Expr.binary, ← Builtin.name, Expr.skeleton?_call, List.map_cons,
      List.map_singleton, hl, hr]
    rfl
  | @unary op operand a _ _ ih =>
    obtain ⟨k, hk, ha⟩ := ih (he.arg (by simp))
    have hread := Reads.inFront op ha
    rw [← unaryToken_eq_word] at hread
    refine ⟨_, ?_, hread⟩
    rw [unaryToken_eq_word, Expr.unary, ← Builtin.name, Expr.skeleton?_call, List.map_singleton, hk]
    rfl
  | @like f content target text a _ hf _ ih =>
    obtain ⟨k, hk, ha⟩ := ih he.target
    refine ⟨.like k (content (Expr.trimQuotes text.toList)), ?_, ?_⟩
    · have hpattern := f.pattern?_eq hf text
      rw [Expr.method, Expr.skeleton?_call, Option.map_some, hk]
      cases f with
      | startsWith => exact congrArg (Option.map (Skeleton.like k)) hpattern
      | endsWith => exact congrArg (Option.map (Skeleton.like k)) hpattern
      | _ => cases hf
    · have hread :=
        Reads.between (.like k (content (Expr.trimQuotes text.toList))) ha (reads_quote _)
      have hlike : " LIKE ".toList = ' ' :: ("LIKE".toList ++ [' ']) := by decide
      simpa [between, hlike] using hread
  | @timestamp text cs _ h =>
    refine ⟨.quoted cs, ?_, reads_quote cs⟩
    rw [Expr.globalCall, Expr.skeleton?_call]
    show (Expr.timestampText s text).toOption.map _ = _
    rw [h]
    rfl
  | @seconds v n _ h =>
    have hread := Reads.fromUnixTime (Decimal.readInt?_intText n)
    rw [called, ← fromUnixTime_eq] at hread
    refine ⟨.fromUnixTime n, ?_, hread⟩
    rw [Expr.globalCall, Expr.skeleton?_call]
    cases v with
    | int i => cases h; rfl
    | uint u => cases h; rfl
    | _ => cases h

/-! ## Reading generated text -/

namespace Settings

/-- **Generated SQL can be read in one way, and says what the tree says.**  The text of a tree reads
as the skeleton of the tree and as nothing else, so two trees with the same text have the same
skeleton, even under different settings. -/
theorem reads_iff_of_generate {e : Expr} {sql : String} (he : e.ColumnsAreTokens s)
    (h : s.generate e = .ok sql) :
    (∃ k, e.skeleton? s = some k ∧ ∀ k', Reads sql.toList k' ↔ k' = k) ∧
      ∀ (s' : Settings) (e' : Expr), e'.ColumnsAreTokens s' → s'.generate e' = .ok sql →
        e'.skeleton? s' = e.skeleton? s := by
  obtain ⟨k, hk, hreads⟩ := (generate_eq_ok_iff.1 h).reads he
  refine ⟨⟨k, hk, fun k' ↦ ⟨fun hk' ↦ hk'.unique hreads, fun hk' ↦ hk' ▸ hreads⟩⟩, ?_⟩
  intro s' e' he' h'
  obtain ⟨k', hk', hreads'⟩ := (generate_eq_ok_iff.1 h').reads he'
  rw [hk', hk, hreads'.unique hreads]

/-- A column that looks like an operator, and two trees that differ only in the type of a number. -/
theorem reads_iff_of_generate_dash :
    let s : Settings := { default with columns := [("a", "-")] }
    let filter (v : Value) : Expr :=
      .binary .or
        (.binary .and
          (.unary .not (.binary .equal (.unary .negate (.select (.ident "i") "a")) (.literal v)))
          (.method (.select (.ident "i") "b") "startsWith" [.literal (.string "\"50%")]))
        (.binary .and
          (.binary .greaterThan (.select (.ident "i") "c")
            (.globalCall "timestamp" [.literal (.int (-7))]))
          (.binary .lessOrEqual (.select (.ident "i") "c")
            (.globalCall "timestamp" [.literal (.string "2020-01-01T00:00:00Z")])))
    let sql := "(((NOT ((- -) == 5)) AND (b LIKE \"50\\\\%%\")) OR " ++
      "((c > FROM_UNIXTIME(-7)) AND (c <= \"2020-01-01 00:00:00\")))"
    let skeleton : Skeleton :=
      .binary "OR"
        (.binary "AND"
          (.unary "NOT" (.binary "==" (.unary "-" (.token "-".toList)) (.token "5".toList)))
          (.like (.token "b".toList) "50\\%%".toList))
        (.binary "AND"
          (.binary ">" (.token "c".toList) (.fromUnixTime (-7)))
          (.binary "<=" (.token "c".toList) (.quoted "2020-01-01 00:00:00".toList)))
    s.generate (filter (.int 5)) = .ok sql ∧ (∀ k, Reads sql.toList k ↔ k = skeleton) ∧
      (filter (.uint 5)).skeleton? s = (filter (.int 5)).skeleton? s := by
  intro s filter sql skeleton
  have hcolumns : ∀ v : Value, (filter v).ColumnsAreTokens s := by
    intro v chain hchain path hpath
    have hfield : chain = .select (.ident "i") "a" ∨ chain = .select (.ident "i") "b" ∨
        chain = .select (.ident "i") "c" := by
      simpa [filter, Expr.unary, Expr.binary, Expr.method, Expr.globalCall, Expr.chains,
        Expr.chainsFrom, Expr.targetChains, Expr.chainsAll] using hchain
    rcases hfield with rfl | rfl | rfl <;> cases hpath <;> decide
  have hint : s.generate (filter (.int 5)) = .ok sql := by decide +kernel +zetaReduce
  have huint : s.generate (filter (.uint 5)) = .ok sql := by decide +kernel +zetaReduce
  obtain ⟨⟨k, hk, hreads⟩, hsame⟩ := reads_iff_of_generate (hcolumns _) hint
  refine ⟨hint, ?_, hsame _ _ (hcolumns _) huint⟩
  have hskeleton : (filter (.int 5)).skeleton? s = some skeleton := by decide +kernel +zetaReduce
  rw [hk, Option.some.injEq] at hskeleton
  rw [← hskeleton]
  exact hreads

end Settings

end WhereClause
