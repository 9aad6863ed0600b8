import WhereClause.Filter.Lowering
import WhereClause.Proofs.Expr.Nodes
import WhereClause.Proofs.Sequencing

/-!
# Field names in filters

A field is selected by a name, and a name is a letter or an underscore followed by letters, digits
and underscores.  That is plain for the scanner, which makes names from nothing else; this file
carries it through the machine that reads the tokens and through the lowering, up to the tree of a
whole text (`fieldsNamed_of_parse`).

The invariant is `Named`, one predicate for each kind of thing a name passes through: tokens, terms,
and the frames and phases of the machine.  It says nothing about the inside of messages and maps,
since no tree has them.
-/

set_option autoImplicit false

namespace WhereClause

namespace Filter

/-- Whether a text is a name. -/
def isName : List Char → Bool
  | [] => false
  | c :: cs => isNameStart c && cs.all isNamePart

/-! ## Tokens -/

/-- A token that is a name at most in the sense of `isName`. -/
def Token.Named : Token → Prop
  | .ident name => isName name.toList = true
  | _ => True

theorem wordToken_named {word : List Char} (h : isName word = true) : (wordToken word).Named := by
  rw [wordToken]
  split
  · trivial
  · trivial
  · trivial
  · trivial
  · simpa [Token.Named] using h

theorem scanWord_named {c : Char} (hc : isNameStart c = true) (cs : List Char) :
    (scanWord c cs).1.Named := by
  have hword : (wordToken (c :: cs.takeWhile isNamePart)).Named := by
    refine wordToken_named ?_
    rw [isName, hc, Bool.true_and]
    exact List.all_takeWhile
  simp only [scanWord]
  split
  · split
    · exact hword
    · split
      · split
        · trivial
        · exact hword
      · split
        · split
          · trivial
          · exact hword
        · exact hword
  · exact hword

theorem scanSigned_named {sign : Char} {alone : Token × List Char} (h : alone.1.Named)
    (cs : List Char) : (scanSigned sign alone cs).1.Named := by
  rw [scanSigned]
  split
  · trivial
  · exact h

theorem scanSymbol?_named {cs : List Char} {found : Token × List Char}
    (h : scanSymbol? cs = some found) : found.1.Named := by
  unfold scanSymbol? at h
  split at h <;> cases h <;> first | trivial | (apply scanSigned_named; trivial)

theorem scanToken?_named {cs : List Char} {found : Token × List Char}
    (h : scanToken? cs = some found) : found.1.Named := by
  cases cs with
  | nil => cases h
  | cons c cs =>
    rw [scanToken?] at h
    split at h
    next hc =>
      cases h
      exact scanWord_named hc cs
    next =>
      split at h
      next =>
        obtain ⟨_, _, heq⟩ := Option.map_eq_some_iff.1 h
        cases heq
        trivial
      next =>
        split at h
        · cases h
          trivial
        · split at h
          · cases h
            trivial
          · exact scanSymbol?_named h

/-- Every token the scanner finds is named. -/
theorem scanFrom_named (fuel : Nat) (p : Position) (cs : List Char) :
    ∀ l ∈ (scanFrom fuel p cs).lexemes, l.token.Named := by
  induction fuel generalizing p cs with
  | zero => simp [scanFrom]
  | succ fuel ih =>
    cases cs with
    | nil => simp [scanFrom]
    | cons c cs =>
      rw [scanFrom]
      split
      · exact ih _ _
      · split
        · exact ih _ _
        · split
          · simp
          next token rest htoken =>
            intro l hl
            rcases List.mem_cons.1 hl with rfl | hl
            · exact scanToken?_named htoken
            · exact ih _ _ l hl

/-! ## Terms -/

mutual

/-- Every field of a term is selected by a name. -/
def Term.Named : Term → Prop
  | .atom _ => True
  | .ident _ => True
  | .attribute operand name => operand.Named ∧ isName name.toList = true
  | .index operand key => operand.Named ∧ key.Named
  | .message _ _ => True
  | .call _ target args => targetNamed target ∧ allNamed args
  | .arithmetic _ left right => left.Named ∧ right.Named
  | .relation _ left right => left.Named ∧ right.Named
  | .and left right => left.Named ∧ right.Named
  | .or left right => left.Named ∧ right.Named
  | .unary _ operand => operand.Named
  | .ternary condition yes no => condition.Named ∧ yes.Named ∧ no.Named
  | .list elements => allNamed elements
  | .map _ => True

/-- Every field of a receiver is selected by a name. -/
def targetNamed : Option Term → Prop
  | none => True
  | some target => target.Named

/-- Every field of several terms is selected by a name. -/
def allNamed : List Term → Prop
  | [] => True
  | t :: ts => t.Named ∧ allNamed ts

end

theorem allNamed_iff {ts : List Term} : allNamed ts ↔ ∀ t ∈ ts, t.Named := by
  induction ts with
  | nil => simp [allNamed]
  | cons t ts ih => simp [allNamed, ih]

theorem targetNamed_iff {target : Option Term} : targetNamed target ↔ ∀ t ∈ target, t.Named := by
  cases target <;> simp [targetNamed]

theorem Infix.term_named {op : Infix} {left right : Term} (hl : left.Named) (hr : right.Named) :
    (op.term left right).Named := by
  cases op <;> exact ⟨hl, hr⟩

theorem namedTerm_named {target : Option Term} {name : String} (ht : ∀ t ∈ target, t.Named)
    (hname : isName name.toList = true) : (namedTerm target name).Named := by
  cases target with
  | none => trivial
  | some t => exact ⟨ht t rfl, hname⟩

/-! ## The machine -/

/-- Every complete part of a frame is named. -/
def Frame.Named : Frame → Prop
  | .sign _ => True
  | .pending left _ => left.Named
  | .yes condition => condition.Named
  | .no condition first => condition.Named ∧ first.Named
  | .group => True
  | .list done => ∀ t ∈ done, t.Named
  | .args target _ done => (∀ t ∈ target, t.Named) ∧ ∀ t ∈ done, t.Named
  | .index operand => operand.Named
  | .key _ => True
  | .value _ _ => True
  | .field _ _ _ => True

/-- Every complete part of a phase is named. -/
def Phase.Named : Phase → Prop
  | .operand _ => True
  | .name target => ∀ t ∈ target, t.Named
  | .named target field => (∀ t ∈ target, t.Named) ∧ isName field.toList = true
  | .after t => t.Named
  | .fieldName _ _ => True
  | .fieldColon _ _ _ => True

/-- Every frame of a stack is named. -/
def StackNamed (stack : List Frame) : Prop :=
  ∀ f ∈ stack, f.Named

theorem stackNamed_cons {f : Frame} {stack : List Frame} :
    StackNamed (f :: stack) ↔ f.Named ∧ StackNamed stack :=
  List.forall_mem_cons

/-- **The invariant of the machine.** -/
def State.Named (s : State) : Prop :=
  s.phase.Named ∧ StackNamed s.stack

variable {t : Term} {stack : List Frame}

theorem closeSign_named (ht : t.Named) (hs : StackNamed stack) :
    (closeSign t stack).1.Named ∧ StackNamed (closeSign t stack).2 := by
  rw [closeSign.eq_def]
  split
  · exact ⟨ht, (stackNamed_cons.1 hs).2⟩
  · exact ⟨ht, hs⟩

theorem closeInfix_named (level : Nat) (ht : t.Named) (hs : StackNamed stack) :
    (closeInfix level t stack).1.Named ∧ StackNamed (closeInfix level t stack).2 := by
  fun_induction closeInfix level t stack with
  | case1 t left op stack hle ih =>
    obtain ⟨hleft, hstack⟩ := stackNamed_cons.1 hs
    exact ih (Infix.term_named hleft ht) hstack
  | case2 t left op stack hle => exact ⟨ht, hs⟩
  | case3 t stack h => exact ⟨ht, hs⟩

theorem closeTernary_named (ht : t.Named) (hs : StackNamed stack) :
    (closeTernary t stack).1.Named ∧ StackNamed (closeTernary t stack).2 := by
  fun_induction closeTernary t stack with
  | case1 t condition yes stack ih =>
    obtain ⟨⟨hcondition, hyes⟩, hstack⟩ := stackNamed_cons.1 hs
    exact ih ⟨hcondition, hyes, ht⟩ hstack
  | case2 t stack h => exact ⟨ht, hs⟩

theorem closeAll_named (ht : t.Named) (hs : StackNamed stack) :
    (closeAll t stack).1.Named ∧ StackNamed (closeAll t stack).2 := by
  obtain ⟨ht, hs⟩ := closeSign_named ht hs
  obtain ⟨ht, hs⟩ := closeInfix_named 0 ht hs
  exact closeTernary_named ht hs

/-! ### One token -/

/-- A step of the machine, if it is taken, keeps the invariant. -/
def StepNamed (r : Except Refusal State) : Prop :=
  ∀ s, r = .ok s → s.Named

theorem stepNamed_ok {s : State} (h : s.Named) : StepNamed (.ok s) := by
  rintro s' ⟨⟩
  exact h

theorem stepNamed_error (refusal : Refusal) : StepNamed (.error refusal) := by
  rintro s' ⟨⟩

theorem reverse_named {done : List Term} (ht : t.Named) (hdone : ∀ u ∈ done, u.Named) :
    allNamed (t :: done).reverse :=
  allNamed_iff.2 fun _ hu ↦ List.forall_mem_cons.2 ⟨ht, hdone⟩ _ (List.mem_reverse.1 hu)

theorem stepInfix_named {op : Infix} (ht : t.Named) (hs : StackNamed stack) :
    StepNamed (stepInfix op t stack) := by
  obtain ⟨ht, hs⟩ := closeSign_named ht hs
  rw [stepInfix]
  generalize closeSign t stack = signed at ht hs ⊢
  obtain ⟨t, stack⟩ := signed
  obtain ⟨ht, hs⟩ :=
    closeInfix_named (if op.chains then op.level else op.level + 1) ht hs
  dsimp only
  generalize closeInfix (if op.chains then op.level else op.level + 1) t stack = closed at ht hs ⊢
  obtain ⟨t, stack⟩ := closed
  dsimp only
  split
  · split
    · exact stepNamed_error _
    · exact stepNamed_ok ⟨trivial, stackNamed_cons.2 ⟨ht, hs⟩⟩
  · exact stepNamed_ok ⟨trivial, stackNamed_cons.2 ⟨ht, hs⟩⟩

theorem stepClose_named {token : Token} (ht : t.Named) (hs : StackNamed stack) :
    StepNamed (stepClose token t stack) := by
  obtain ⟨ht, hs⟩ := closeAll_named ht hs
  rw [stepClose.eq_def]
  generalize closeAll t stack = closed at ht hs ⊢
  split
  · exact stepNamed_ok ⟨ht, (stackNamed_cons.1 hs).2⟩
  · obtain ⟨⟨htarget, hdone⟩, hs⟩ := stackNamed_cons.1 hs
    exact stepNamed_ok ⟨⟨targetNamed_iff.2 htarget, reverse_named ht hdone⟩, hs⟩
  · obtain ⟨hdone, hs⟩ := stackNamed_cons.1 hs
    exact stepNamed_ok ⟨reverse_named ht hdone, hs⟩
  · obtain ⟨hoperand, hs⟩ := stackNamed_cons.1 hs
    exact stepNamed_ok ⟨⟨hoperand, ht⟩, hs⟩
  · exact stepNamed_ok ⟨trivial, (stackNamed_cons.1 hs).2⟩
  · exact stepNamed_ok ⟨trivial, (stackNamed_cons.1 hs).2⟩
  · exact stepNamed_error _

theorem stepComma_named (ht : t.Named) (hs : StackNamed stack) : StepNamed (stepComma t stack) := by
  obtain ⟨ht, hs⟩ := closeAll_named ht hs
  rw [stepComma]
  generalize closeAll t stack = closed at ht hs ⊢
  split
  · obtain ⟨hdone, hs⟩ := stackNamed_cons.1 hs
    exact stepNamed_ok ⟨trivial, stackNamed_cons.2 ⟨List.forall_mem_cons.2 ⟨ht, hdone⟩, hs⟩⟩
  · obtain ⟨⟨htarget, hdone⟩, hs⟩ := stackNamed_cons.1 hs
    exact stepNamed_ok
      ⟨trivial, stackNamed_cons.2 ⟨⟨htarget, List.forall_mem_cons.2 ⟨ht, hdone⟩⟩, hs⟩⟩
  · exact stepNamed_ok ⟨trivial, stackNamed_cons.2 ⟨trivial, (stackNamed_cons.1 hs).2⟩⟩
  · exact stepNamed_ok ⟨trivial, (stackNamed_cons.1 hs).2⟩
  · exact stepNamed_error _

theorem stepQuestion_named (ht : t.Named) (hs : StackNamed stack) :
    StepNamed (stepQuestion t stack) := by
  obtain ⟨ht, hs⟩ := closeSign_named ht hs
  rw [stepQuestion]
  generalize closeSign t stack = signed at ht hs ⊢
  obtain ⟨t, stack⟩ := signed
  obtain ⟨ht, hs⟩ := closeInfix_named 0 ht hs
  dsimp only
  generalize closeInfix 0 t stack = closed at ht hs ⊢
  split
  · exact stepNamed_error _
  · exact stepNamed_ok ⟨trivial, stackNamed_cons.2 ⟨ht, hs⟩⟩

theorem stepColon_named (ht : t.Named) (hs : StackNamed stack) : StepNamed (stepColon t stack) := by
  obtain ⟨ht, hs⟩ := closeAll_named ht hs
  rw [stepColon]
  generalize closeAll t stack = closed at ht hs ⊢
  split
  · obtain ⟨hcondition, hs⟩ := stackNamed_cons.1 hs
    exact stepNamed_ok ⟨trivial, stackNamed_cons.2 ⟨⟨hcondition, ht⟩, hs⟩⟩
  · exact stepNamed_ok ⟨trivial, stackNamed_cons.2 ⟨trivial, (stackNamed_cons.1 hs).2⟩⟩
  · exact stepNamed_error _

theorem stepAfter_named {token : Token} (ht : t.Named) (hs : StackNamed stack) :
    StepNamed (stepAfter t stack token) := by
  rw [stepAfter.eq_def]
  split
  · exact stepNamed_ok ⟨fun u hu ↦ Option.some.inj hu ▸ ht, hs⟩
  · exact stepNamed_ok ⟨trivial, stackNamed_cons.2 ⟨ht, hs⟩⟩
  · exact stepNamed_ok ⟨trivial, hs⟩
  · exact stepQuestion_named ht hs
  · exact stepColon_named ht hs
  · exact stepComma_named ht hs
  · split
    · exact stepInfix_named ht hs
    · exact stepClose_named ht hs

theorem stepEmpty_named {token : Token} (hs : StackNamed stack) :
    StepNamed (stepEmpty token stack) := by
  rw [stepEmpty.eq_def]
  split
  · obtain ⟨hdone, hs⟩ := stackNamed_cons.1 hs
    exact stepNamed_ok ⟨allNamed_iff.2 fun u hu ↦ hdone u (List.mem_reverse.1 hu), hs⟩
  · obtain ⟨⟨htarget, hdone⟩, hs⟩ := stackNamed_cons.1 hs
    exact stepNamed_ok ⟨⟨targetNamed_iff.2 htarget,
      allNamed_iff.2 fun u hu ↦ hdone u (List.mem_reverse.1 hu)⟩, hs⟩
  · exact stepNamed_ok ⟨trivial, (stackNamed_cons.1 hs).2⟩
  · exact stepNamed_error _

theorem stepOperand_named {mayClose : Bool} {token : Token} (htoken : token.Named)
    (hs : StackNamed stack) : StepNamed (stepOperand mayClose stack token) := by
  rw [stepOperand.eq_def]
  split
  · split
    · exact stepNamed_ok ⟨trivial, hs⟩
    · exact stepNamed_error _
  · exact stepNamed_ok ⟨⟨fun _ hu ↦ (nomatch hu), htoken⟩, hs⟩
  · exact stepNamed_ok ⟨fun _ hu ↦ (nomatch hu), hs⟩
  · exact stepNamed_ok ⟨trivial, stackNamed_cons.2 ⟨trivial, hs⟩⟩
  · exact stepNamed_ok ⟨trivial, stackNamed_cons.2 ⟨fun _ hu ↦ (nomatch hu), hs⟩⟩
  · exact stepNamed_ok ⟨trivial, stackNamed_cons.2 ⟨trivial, hs⟩⟩
  · split
    · exact stepNamed_error _
    · exact stepNamed_ok ⟨trivial, stackNamed_cons.2 ⟨trivial, hs⟩⟩
    · split
      · exact stepEmpty_named hs
      · exact stepNamed_error _

/-- **One token keeps the invariant.** -/
theorem step_named {s : State} {token : Token} (hs : s.Named) (htoken : token.Named) :
    StepNamed (step s token) := by
  obtain ⟨phase, stack⟩ := s
  obtain ⟨hphase, hstack⟩ := hs
  rw [step.eq_def]
  dsimp only at hphase hstack ⊢
  split
  · exact stepOperand_named htoken hstack
  · exact stepNamed_ok ⟨⟨hphase, htoken⟩, hstack⟩
  · exact stepNamed_ok
      ⟨trivial, stackNamed_cons.2 ⟨⟨hphase.1, fun _ hu ↦ nomatch hu⟩, hstack⟩⟩
  · exact stepAfter_named (namedTerm_named hphase.1 hphase.2) hstack
  · exact stepAfter_named hphase hstack
  · exact stepNamed_ok ⟨trivial, hstack⟩
  · exact stepNamed_ok ⟨trivial, hstack⟩
  · exact stepNamed_ok ⟨trivial, stackNamed_cons.2 ⟨trivial, hstack⟩⟩
  · exact stepNamed_error _

/-! ### All tokens -/

theorem finish_named {s : State} (hs : s.Named) (h : finish s = some t) : t.Named := by
  have hclose : ∀ u : Term, u.Named → ∀ p, some (closeAll u s.stack) = some p → p.1.Named := by
    rintro u hu p ⟨⟩
    exact (closeAll_named hu hs.2).1
  simp only [finish] at h
  split at h
  next t' hclosed =>
    cases h
    split at hclosed
    next target name hphase =>
      have hnamed : (Phase.named target name).Named := hphase ▸ hs.1
      exact hclose _ (namedTerm_named hnamed.1 hnamed.2) _ hclosed
    next u hphase =>
      have hafter : (Phase.after u).Named := hphase ▸ hs.1
      exact hclose u hafter _ hclosed
    next => cases hclosed
  next => cases h

/-- **A whole run keeps the invariant.** -/
theorem run_named {s : State} {last : Position} {stuck? : Option Position} {ls : List Lexeme}
    (hs : s.Named) (hls : ∀ l ∈ ls, l.token.Named) (h : run s last stuck? ls = .ok t) :
    t.Named := by
  induction ls generalizing s last with
  | nil =>
    rw [run.eq_def] at h
    dsimp only at h
    split at h
    · cases h
    next hfinish =>
      cases h
      exact finish_named hs hfinish
    · cases h
  | cons l ls ih =>
    rw [run] at h
    split at h
    next s' hstep =>
      obtain ⟨hl, hls⟩ := List.forall_mem_cons.1 hls
      exact ih (step_named hs hl s' hstep) hls h
    next => cases h

theorem parse_named {text : String} (h : Term.parse text = .ok t) : t.Named :=
  run_named (s := .initial) ⟨trivial, fun _ hf ↦ (nomatch hf)⟩ (scanFrom_named _ _ _) h

end Filter

/-! ## Trees -/

/-- Every field of a tree is selected by a name. -/
def Expr.FieldsNamed (e : Expr) : Prop :=
  ∀ operand field, Expr.select operand field ∈ e.nodes → Filter.isName field.toList = true

namespace Expr

theorem fieldsNamed_literal (v : Value) : (literal v).FieldsNamed := by
  simp [FieldsNamed, nodes]

theorem fieldsNamed_ident (name : String) : (ident name).FieldsNamed := by
  simp [FieldsNamed, nodes]

theorem fieldsNamed_select {operand : Expr} {field : String} :
    (select operand field).FieldsNamed ↔
      operand.FieldsNamed ∧ Filter.isName field.toList = true := by
  constructor
  · intro h
    exact ⟨fun o f hf ↦ h o f (by simp [nodes, hf]), h operand field (self_mem_nodes _)⟩
  · rintro ⟨hoperand, hfield⟩ o f hf
    rcases List.mem_cons.1 (by simpa only [nodes] using hf) with heq | hf
    · cases heq
      exact hfield
    · exact hoperand o f hf

theorem fieldsNamed_call {function : String} {target : Option Expr} {args : List Expr} :
    (call function target args).FieldsNamed ↔
      (∀ t ∈ target, t.FieldsNamed) ∧ ∀ a ∈ args, a.FieldsNamed := by
  constructor
  · intro h
    refine ⟨?_, fun a ha o f hf ↦ h o f (mem_nodes_of_arg ha hf)⟩
    rintro t rfl o f hf
    exact h o f (mem_nodes_of_target hf)
  · rintro ⟨htarget, hargs⟩ o f hf
    rcases mem_nodes_call.1 hf with heq | ⟨t, ht, hf⟩ | ⟨a, ha, hf⟩
    · cases heq
    · exact htarget t ht o f hf
    · exact hargs a ha o f hf

theorem fieldsNamed_list {elements : List Expr} (h : ∀ e ∈ elements, e.FieldsNamed) :
    (list elements).FieldsNamed := by
  intro o f hf
  rcases List.mem_cons.1 (by simpa only [nodes] using hf) with heq | hf
  · cases heq
  · obtain ⟨e, he, hf⟩ := mem_nodesAll.1 hf
    exact h e he o f hf

theorem fieldsNamed_globalCall {function : String} {args : List Expr}
    (h : ∀ a ∈ args, a.FieldsNamed) : (globalCall function args).FieldsNamed :=
  fieldsNamed_call.2 ⟨fun _ ht ↦ (nomatch ht), h⟩

theorem fieldsNamed_pair {function : String} {left right : Expr} (hl : left.FieldsNamed)
    (hr : right.FieldsNamed) : (globalCall function [left, right]).FieldsNamed :=
  fieldsNamed_globalCall (by simp [hl, hr])

theorem fieldsNamed_unary {op : UnaryOp} {operand : Expr} (h : operand.FieldsNamed) :
    (unary op operand).FieldsNamed :=
  fieldsNamed_globalCall (by simp [h])

end Expr

namespace Filter

open WhereClause.Expr

/-! ## Lowering -/

theorem negated_fieldsNamed {e : Expr} (h : e.FieldsNamed) : (negated e).FieldsNamed := by
  rw [negated.eq_def]
  split
  · split
    · exact fieldsNamed_unary h
    · exact fieldsNamed_literal _
  · exact fieldsNamed_literal _
  · exact fieldsNamed_unary h

theorem Sign.apply_fieldsNamed {e : Expr} (sign : Sign) (h : e.FieldsNamed) :
    (sign.apply e).FieldsNamed := by
  cases sign with
  | not => exact fieldsNamed_unary h
  | notNot => exact fieldsNamed_unary (fieldsNamed_unary h)
  | minus => exact negated_fieldsNamed h
  | minusMinus => exact fieldsNamed_unary (fieldsNamed_unary h)

/-- The operands of a call that was lowered from two terms. -/
theorem lowered_pair {x y : Except Construct Expr} {function : String} {e : Expr}
    (h : (do return .globalCall function [← x, ← y]) = Except.ok e) :
    ∃ l r, x = .ok l ∧ y = .ok r ∧ e = .globalCall function [l, r] := by
  obtain ⟨l, hl, h⟩ := Except.bind_eq_ok_iff.1 h
  obtain ⟨r, hr, ⟨⟩⟩ := Except.bind_eq_ok_iff.1 h
  exact ⟨l, r, hl, hr, rfl⟩

mutual

/-- **Lowering keeps the names of fields.** -/
theorem Term.lower_fieldsNamed : ∀ (t : Term) {e : Expr}, t.Named → t.lower = .ok e → e.FieldsNamed
  | .atom a, e, _, h => by
    rw [Term.lower] at h
    obtain ⟨v, _, ⟨⟩⟩ := Except.bind_eq_ok_iff.1 h
    exact fieldsNamed_literal v
  | .ident name, e, _, h => by
    rw [Term.lower] at h
    cases h
    exact fieldsNamed_ident name
  | .attribute operand name, e, ht, h => by
    rw [Term.lower] at h
    obtain ⟨o, ho, ⟨⟩⟩ := Except.bind_eq_ok_iff.1 h
    exact fieldsNamed_select.2 ⟨operand.lower_fieldsNamed ht.1 ho, ht.2⟩
  | .index operand key, e, ht, h => by
    rw [Term.lower] at h
    obtain ⟨o, k, ho, hk, rfl⟩ := lowered_pair h
    exact fieldsNamed_pair (operand.lower_fieldsNamed ht.1 ho) (key.lower_fieldsNamed ht.2 hk)
  | .message operand fields, e, _, h => by
    rw [Term.lower] at h
    obtain ⟨_, _, ⟨⟩⟩ := Except.bind_eq_ok_iff.1 h
  | .call function none args, e, ht, h => by
    cases function with
    | ident name =>
      rw [Term.lower] at h
      obtain ⟨es, hes, ⟨⟩⟩ := Except.bind_eq_ok_iff.1 h
      exact fieldsNamed_globalCall (lowerAll_fieldsNamed args ht.2 hes)
    | _ => simp [Term.lower] at h
  | .call function (some target) args, e, ht, h => by
    cases function with
    | ident name =>
      rw [Term.lower] at h
      obtain ⟨r, hr, h⟩ := Except.bind_eq_ok_iff.1 h
      obtain ⟨es, hes, ⟨⟩⟩ := Except.bind_eq_ok_iff.1 h
      refine fieldsNamed_call.2 ⟨?_, lowerAll_fieldsNamed args ht.2 hes⟩
      rintro t ⟨⟩
      exact target.lower_fieldsNamed ht.1 hr
    | _ => simp [Term.lower] at h
  | .arithmetic op left right, e, ht, h => by
    rw [Term.lower] at h
    obtain ⟨l, r, hl, hr, rfl⟩ := lowered_pair h
    exact fieldsNamed_pair (left.lower_fieldsNamed ht.1 hl) (right.lower_fieldsNamed ht.2 hr)
  | .relation op left right, e, ht, h => by
    rw [Term.lower] at h
    obtain ⟨l, r, hl, hr, rfl⟩ := lowered_pair h
    exact fieldsNamed_pair (left.lower_fieldsNamed ht.1 hl) (right.lower_fieldsNamed ht.2 hr)
  | .and left right, e, ht, h => by
    rw [Term.lower] at h
    obtain ⟨l, r, hl, hr, rfl⟩ := lowered_pair h
    exact fieldsNamed_pair (left.lower_fieldsNamed ht.1 hl) (right.lower_fieldsNamed ht.2 hr)
  | .or left right, e, ht, h => by
    rw [Term.lower] at h
    obtain ⟨l, r, hl, hr, rfl⟩ := lowered_pair h
    exact fieldsNamed_pair (left.lower_fieldsNamed ht.1 hl) (right.lower_fieldsNamed ht.2 hr)
  | .unary sign operand, e, ht, h => by
    rw [Term.lower] at h
    obtain ⟨o, ho, ⟨⟩⟩ := Except.bind_eq_ok_iff.1 h
    exact sign.apply_fieldsNamed (operand.lower_fieldsNamed ht ho)
  | .ternary condition yes no, e, ht, h => by
    rw [Term.lower] at h
    obtain ⟨c, hc, h⟩ := Except.bind_eq_ok_iff.1 h
    obtain ⟨y, hy, h⟩ := Except.bind_eq_ok_iff.1 h
    obtain ⟨n, hn, ⟨⟩⟩ := Except.bind_eq_ok_iff.1 h
    have hc := condition.lower_fieldsNamed ht.1 hc
    have hy := yes.lower_fieldsNamed ht.2.1 hy
    have hn := no.lower_fieldsNamed ht.2.2 hn
    exact fieldsNamed_globalCall (by simp [hc, hy, hn])
  | .list elements, e, ht, h => by
    rw [Term.lower] at h
    obtain ⟨es, hes, ⟨⟩⟩ := Except.bind_eq_ok_iff.1 h
    exact fieldsNamed_list (lowerAll_fieldsNamed elements ht hes)
  | .map entries, e, _, h => by
    rw [Term.lower] at h
    cases h

/-- Lowering keeps the names of fields in several terms. -/
theorem lowerAll_fieldsNamed : ∀ (ts : List Term) {es : List Expr}, allNamed ts →
    lowerAll ts = .ok es → ∀ e ∈ es, e.FieldsNamed
  | [], es, _, h => by
    rw [lowerAll] at h
    cases h
    exact fun _ he ↦ (nomatch he)
  | t :: ts, es, ht, h => by
    rw [lowerAll] at h
    obtain ⟨e, he, h⟩ := Except.bind_eq_ok_iff.1 h
    obtain ⟨es, hes, ⟨⟩⟩ := Except.bind_eq_ok_iff.1 h
    exact List.forall_mem_cons.2
      ⟨t.lower_fieldsNamed ht.1 he, lowerAll_fieldsNamed ts ht.2 hes⟩

end

end Filter

/-- **In the tree of a filter text every field is selected by a name.** -/
theorem fieldsNamed_of_parse {text : String} {e : Expr} (h : parse text = .ok e) :
    e.FieldsNamed := by
  rw [parse] at h
  split at h
  · cases h
  next t ht =>
    split at h
    · cases h
    next e' he =>
      cases h
      exact t.lower_fieldsNamed (Filter.parse_named ht) he

end WhereClause
