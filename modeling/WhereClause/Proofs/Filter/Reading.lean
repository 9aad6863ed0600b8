import Mathlib.Data.List.Forall2
import WhereClause.Filter.Grammar

/-!
# Reading by the machine

What the machine of `Filter.Grammar` does with a run of tokens that belong together.  The tokens of
a member leave the stack as it was and the term of the member on top of it, in one of two phases
(`Stands`); a name is still waiting for arguments.  The tokens of an operand may also leave a sign
behind, but no token that can follow an operand tells the difference (`Closes`).

From these two descriptions every construct is put together by a lemma of its own, for any stack
below.  Lists and the arguments of calls differ in nothing but their frames, so there is one lemma
for both, `Bracket.takes`.
-/

set_option autoImplicit false

namespace WhereClause.Filter

/-! ## Several tokens -/

/-- The machine gets from one state to another by taking tokens. -/
def Takes (s : State) (ts : List Token) (s' : State) : Prop :=
  ts.foldlM step s = .ok s'

variable {s s' s'' : State} {ts us : List Token} {token : Token} {t u : Term} {stack : List Frame}

theorem takes_single (h : step s token = .ok s') : Takes s [token] s' := by
  rw [Takes, List.foldlM_cons, h]
  rfl

theorem Takes.append (h : Takes s ts s') (k : Takes s' us s'') : Takes s (ts ++ us) s'' := by
  rw [Takes, List.foldlM_append, h]
  exact k

theorem Takes.cons (h : step s token = .ok s') (k : Takes s' ts s'') : Takes s (token :: ts) s'' :=
  (takes_single h).append k

theorem Takes.concat (h : Takes s ts s') (k : step s' token = .ok s'') :
    Takes s (ts ++ [token]) s'' :=
  h.append (takes_single k)

/-- A run that takes every token and can finish gives the term. -/
theorem Takes.run_eq {ls : List Lexeme} {last : Position}
    (h : Takes s (ls.map Lexeme.token) s') (hfinish : finish s' = some t) :
    run s last none ls = .ok t := by
  induction ls generalizing s last with
  | nil =>
    cases h
    simp only [run, hfinish]
  | cons l ls ih =>
    rw [Takes, List.map_cons, List.foldlM_cons] at h
    rw [run]
    cases hstep : step s l.token with
    | error r =>
      rw [hstep] at h
      cases h
    | ok next =>
      rw [hstep] at h
      exact ih h

/-! ## Members and operands -/

/-- The member `t` is complete, and `stack` is below it. -/
inductive Stands : State → Term → List Frame → Prop
  | after (t : Term) (stack : List Frame) : Stands ⟨.after t, stack⟩ t stack
  | named (target : Option Term) (name : String) (stack : List Frame) :
    Stands ⟨.named target name, stack⟩ (namedTerm target name) stack

theorem Stands.step_eq (h : Stands s t stack) (hne : token ≠ .openParen) :
    step s token = stepAfter t stack token := by
  cases h with
  | after => rfl
  | named target name =>
    cases token with
    | openParen => exact absurd rfl hne
    | _ => rfl

theorem Stands.finish_eq (h : Stands s t stack) : finish s = finish ⟨.after t, stack⟩ := by
  cases h <;> rfl

/-- Whether a token leaves the operand before it as it is. -/
def Token.endsOperand : Token → Bool
  | .dot | .openBracket | .openBrace | .openParen => false
  | _ => true

/-- The operand `t` is complete, and `stack` is below it: what comes next sees nothing else. -/
structure Closes (s : State) (t : Term) (stack : List Frame) : Prop where
  step_eq : ∀ {token : Token}, token.endsOperand = true → step s token = stepAfter t stack token
  finish_eq : finish s = finish ⟨.after t, stack⟩

/-- No sign waits on top. -/
def NoSign : List Frame → Prop
  | .sign _ :: _ => False
  | _ => True

theorem closeSign_of_noSign (h : NoSign stack) (t : Term) : closeSign t stack = (t, stack) := by
  unfold closeSign
  split
  · exact h.elim
  · rfl

/-- A token that ends an operand first applies the sign in front of it. -/
theorem stepAfter_congr {stack' : List Frame} (h : closeSign t stack = closeSign u stack')
    (htoken : token.endsOperand = true) :
    stepAfter t stack token = stepAfter u stack' token := by
  cases token with
  | dot => exact absurd htoken Bool.false_ne_true
  | openBracket => exact absurd htoken Bool.false_ne_true
  | openBrace => exact absurd htoken Bool.false_ne_true
  | _ =>
    simp only [stepAfter, Infix.ofToken?, stepQuestion, stepColon, stepComma, stepInfix, stepClose,
      closeAll, h]

theorem Stands.closes (h : Stands s t stack) : Closes s t stack where
  step_eq htoken := h.step_eq (by rintro rfl; exact absurd htoken Bool.false_ne_true)
  finish_eq := h.finish_eq

theorem Stands.closes_sign {sign : Sign} (h : Stands s t (.sign sign :: stack))
    (hstack : NoSign stack) : Closes s (.unary sign t) stack := by
  have hclose : closeSign t (.sign sign :: stack) = closeSign (.unary sign t) stack :=
    (closeSign_of_noSign hstack _).symm
  refine ⟨fun htoken ↦ ?_, ?_⟩
  · rw [h.closes.step_eq htoken]
    exact stepAfter_congr hclose htoken
  · rw [h.finish_eq]
    simp only [finish, Option.map_some, closeAll, hclose]

/-- The tokens are those of the member `t`, wherever an operand may start. -/
def Member (ts : List Token) (t : Term) : Prop :=
  ∀ mayClose stack, ∃ s, Takes ⟨.operand mayClose, stack⟩ ts s ∧ Stands s t stack

/-- The tokens are those of the operand `t`, wherever one with a sign may start. -/
def Operand (ts : List Token) (t : Term) : Prop :=
  ∀ mayClose stack, NoSign stack →
    ∃ s, Takes ⟨.operand mayClose, stack⟩ ts s ∧ Closes s t stack

theorem Member.operand (h : Member ts t) : Operand ts t := by
  intro mayClose stack _
  obtain ⟨s, htakes, hstands⟩ := h mayClose stack
  exact ⟨s, htakes, hstands.closes⟩

/-- The tokens of an operand are a whole filter. -/
theorem Operand.run_eq {ls : List Lexeme} (h : Operand (ls.map Lexeme.token) t) :
    run .initial .start none ls = .ok t := by
  obtain ⟨s, htakes, hcloses⟩ := h false [] trivial
  exact htakes.run_eq hcloses.finish_eq

/-! ## Constructs without brackets -/

theorem member_literal {l : Literal} {a : Atom} (h : l.atom? = some a) :
    Member [.literal l] (.atom a) := by
  intro mayClose stack
  refine ⟨_, takes_single ?_, .after _ _⟩
  show stepOperand mayClose stack (.literal l) = _
  rw [stepOperand, h]

theorem member_ident (name : String) : Member [.ident name] (.ident name) :=
  fun _ _ ↦ ⟨_, takes_single rfl, .named none name _⟩

theorem Member.attribute (h : Member ts t) (name : String) :
    Member (ts ++ [.dot, .ident name]) (.attribute t name) := by
  intro mayClose stack
  obtain ⟨s, htakes, hstands⟩ := h mayClose stack
  exact ⟨_, htakes.append (.cons (hstands.step_eq (by decide)) (takes_single rfl)),
    .named (some t) name stack⟩

/-- A sign is taken wherever no other sign waits already. -/
theorem stepOperand_sign {sign : Sign} (hsign : Sign.ofToken? token = some sign)
    (hstack : NoSign stack) (mayClose : Bool) :
    stepOperand mayClose stack token = .ok ⟨.operand false, .sign sign :: stack⟩ := by
  cases stack with
  | nil => cases token <;> cases hsign <;> rfl
  | cons frame stack =>
    cases frame with
    | sign => exact hstack.elim
    | _ => cases token <;> cases hsign <;> rfl

theorem Member.unary {sign : Sign} (h : Member ts t) (hsign : Sign.ofToken? token = some sign) :
    Operand (token :: ts) (.unary sign t) := by
  intro mayClose stack hstack
  obtain ⟨s, htakes, hstands⟩ := h false (.sign sign :: stack)
  exact ⟨s, .cons (stepOperand_sign hsign hstack mayClose) htakes, hstands.closes_sign hstack⟩

/-! ## Parentheses -/

theorem Infix.endsOperand_of_ofToken? {op : Infix} (h : Infix.ofToken? token = some op) :
    token.endsOperand = true := by
  cases token <;> first | rfl | cases h

theorem stepAfter_infix {op : Infix} (h : Infix.ofToken? token = some op) (t : Term)
    (stack : List Frame) : stepAfter t stack token = stepInfix op t stack := by
  cases token <;> cases h <;> rfl

/-- An operator between operands, in parentheses. -/
theorem Operand.grouped {op : Infix} (ht : Operand ts t) (hu : Operand us u)
    (hop : Infix.ofToken? token = some op) :
    Member (.openParen :: (ts ++ token :: (us ++ [.closeParen]))) (op.term t u) := by
  intro mayClose stack
  -- Each operand is read above what waits for it: the first above the parenthesis, the second
  -- above the first and the operator.
  obtain ⟨s, htakes, hcloses⟩ := ht false (.group :: stack) trivial
  obtain ⟨s', htakes', hcloses'⟩ := hu false (.pending t op :: .group :: stack) trivial
  have hinfix : step s token = .ok ⟨.operand false, .pending t op :: .group :: stack⟩ := by
    rw [hcloses.step_eq (Infix.endsOperand_of_ofToken? hop), stepAfter_infix hop]
    cases op <;> rfl
  have hclose : step s' .closeParen = .ok ⟨.after (op.term t u), stack⟩ := by
    rw [hcloses'.step_eq rfl]
    show stepClose .closeParen u (.pending t op :: .group :: stack) = _
    have hall : closeAll u (.pending t op :: .group :: stack) = (op.term t u, .group :: stack) := by
      simp only [closeAll, closeSign, closeInfix, Nat.zero_le, if_true, closeTernary]
    simp only [stepClose, hall]
  exact ⟨_, .cons rfl (htakes.append (.cons hinfix (htakes'.concat hclose))), .after _ _⟩

/-! ## Lists and arguments -/

/-- Something opened that takes operands between commas until it is closed, and is `whole` then. -/
structure Bracket (closer : Token) (frame : List Term → Frame) (whole : List Term → Term) :
    Prop where
  noSign : ∀ done stack, NoSign (frame done :: stack)
  endsOperand : closer.endsOperand = true
  comma : ∀ t done stack, stepAfter t (frame done :: stack) .comma =
    .ok ⟨.operand true, frame (t :: done) :: stack⟩
  close : ∀ t done stack, stepAfter t (frame done :: stack) closer =
    .ok ⟨.after (whole (t :: done).reverse), stack⟩
  empty : ∀ done stack, stepOperand true (frame done :: stack) closer =
    .ok ⟨.after (whole done.reverse), stack⟩

theorem bracket_list : Bracket .closeBracket .list .list where
  noSign _ _ := trivial
  endsOperand := rfl
  comma _ _ _ := rfl
  close _ _ _ := rfl
  empty _ _ := rfl

theorem bracket_args (target : Option Term) (function : String) :
    Bracket .closeParen (.args target function) (.call (.ident function) target) where
  noSign _ _ := trivial
  endsOperand := rfl
  comma _ _ _ := rfl
  close _ _ _ := rfl
  empty _ _ := rfl

/-- **Operands between commas are taken one by one**, in front of those that are done. -/
theorem Bracket.takes {closer : Token} {frame : List Term → Frame} {whole : List Term → Term}
    (b : Bracket closer frame whole) {tss : List (List Token)} {terms : List Term}
    (h : List.Forall₂ Operand tss terms) (done : List Term) (stack : List Frame) :
    Takes ⟨.operand true, frame done :: stack⟩ ([Token.comma].intercalate tss ++ [closer])
      ⟨.after (whole (done.reverse ++ terms)), stack⟩ := by
  induction h generalizing done with
  | nil =>
    rw [List.append_nil]
    exact takes_single (b.empty done stack)
  | @cons ts t tss terms ht hrest ih =>
    -- After the last operand comes what closes the bracket, after every other one a comma.
    obtain ⟨s, htakes, hcloses⟩ := ht true (frame done :: stack) (b.noSign done stack)
    cases hrest with
    | nil =>
      have hclose := (hcloses.step_eq b.endsOperand).trans (b.close t done stack)
      rw [List.reverse_cons] at hclose
      simpa using htakes.concat hclose
    | cons hu hrest =>
      have hcomma := (hcloses.step_eq rfl).trans (b.comma t done stack)
      have hnext := ih (t :: done)
      rw [List.reverse_cons, List.append_assoc] at hnext
      simpa [List.intercalate] using htakes.append (.cons hcomma hnext)

variable {tss : List (List Token)} {terms : List Term}

theorem member_list (h : List.Forall₂ Operand tss terms) :
    Member (.openBracket :: ([Token.comma].intercalate tss ++ [.closeBracket])) (.list terms) :=
  fun _ stack ↦ ⟨_, .cons rfl (bracket_list.takes h [] stack), .after _ _⟩

theorem member_call (name : String) (h : List.Forall₂ Operand tss terms) :
    Member (.ident name :: .openParen :: ([Token.comma].intercalate tss ++ [.closeParen]))
      (.call (.ident name) none terms) :=
  fun _ stack ↦ ⟨_, .cons rfl (.cons rfl ((bracket_args none name).takes h [] stack)), .after _ _⟩

theorem Member.call (ht : Member ts t) (name : String) (h : List.Forall₂ Operand tss terms) :
    Member (ts ++ .dot :: .ident name :: .openParen ::
      ([Token.comma].intercalate tss ++ [.closeParen])) (.call (.ident name) (some t) terms) := by
  intro mayClose stack
  obtain ⟨s, htakes, hstands⟩ := ht mayClose stack
  have hargs := (bracket_args (some t) name).takes h [] stack
  exact ⟨_, htakes.append (.cons (hstands.step_eq (by decide)) (.cons rfl (.cons rfl hargs))), .after _ _⟩

end WhereClause.Filter
