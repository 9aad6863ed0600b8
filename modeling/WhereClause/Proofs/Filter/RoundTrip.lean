import WhereClause.Proofs.Filter.Literals
import WhereClause.Proofs.Filter.Reading

/-!
# Trees read back

`Expr.text` writes a tree as a filter, and on the plain trees reading that filter gives the tree
again.  A tree is plain when its names are words that are not reserved, its strings are printable
ASCII, and a sign or a dot is only ever put to a *primary*: something that starts with a name or a
bracket.  The other expressions are primaries with a sign in front, and literals; a literal may have
a sign of its own, so nothing is put in front of it or behind it.

Writing, cutting, reading and lowering are undone one by one.  `ReadsBack` ties the four together
for one text and one tree, and each construct keeps it.
-/

set_option autoImplicit false

namespace WhereClause

open WhereClause.Filter

/-! ## Plain trees -/

/-- A name that is not one of the reserved words. -/
def IsWord (name : String) : Prop :=
  isName name.toList = true ∧ name ∉ ["in", "true", "false", "null"]

instance (name : String) : Decidable (IsWord name) :=
  inferInstanceAs (Decidable (_ ∧ _))

/-- The values that are written as they are read: all but the doubles and the strings outside
printable ASCII. -/
def Value.IsPlain : Value → Prop
  | .double _ => False
  | .string s => ∀ c ∈ s.toList, Text.isPrintableAscii c = true
  | _ => True

/-- How far the text of a tree holds together. -/
inductive Grade where
  /-- A sign may be put in front, and a dot behind. -/
  | primary
  /-- It can stand between brackets, commas and operators. -/
  | expression

/-- The trees whose text reads back. -/
inductive Plain : Grade → Expr → Prop
  | ident {name : String} (hname : IsWord name) : Plain .primary (.ident name)
  | select {operand : Expr} {field : String} (hoperand : Plain .primary operand)
    (hfield : IsWord field) : Plain .primary (.select operand field)
  | method {target : Expr} {function : String} {args : List Expr} (htarget : Plain .primary target)
    (hfunction : IsWord function) (hargs : ∀ a ∈ args, Plain .expression a) :
    Plain .primary (.method target function args)
  | globalCall {function : String} {args : List Expr} (hfunction : IsWord function)
    (hargs : ∀ a ∈ args, Plain .expression a) : Plain .primary (.globalCall function args)
  | binary (op : BinaryOp) {left right : Expr} (hleft : Plain .expression left)
    (hright : Plain .expression right) : Plain .primary (.binary op left right)
  | list {elements : List Expr} (helements : ∀ e ∈ elements, Plain .expression e) :
    Plain .primary (.list elements)
  | ofPrimary {e : Expr} (h : Plain .primary e) : Plain .expression e
  | unary (op : UnaryOp) {operand : Expr} (hoperand : Plain .primary operand) :
    Plain .expression (.unary op operand)
  | literal {value : Value} (hvalue : value.IsPlain) : Plain .expression (.literal value)

/-! ## Words and operators -/

namespace IsWord

variable {name : String}

theorem wordToken_eq (h : IsWord name) : wordToken name.toList = .ident name := by
  have hreserved := h.2
  simp only [List.mem_cons, List.not_mem_nil, or_false, not_or] at hreserved
  rw [wordToken, String.ofList_toList]
  split
  · exact absurd rfl hreserved.1
  · exact absurd rfl hreserved.2.1
  · exact absurd rfl hreserved.2.2.1
  · exact absurd rfl hreserved.2.2.2
  · rfl

theorem cuts (h : IsWord name) {rest : List Char} (hrest : StartsIn wordEnds rest) :
    Cuts name.toList [.ident name] rest :=
  h.wordToken_eq ▸ Cuts.word h.1 hrest

theorem cuts_dot (h : IsWord name) {rest : List Char} (hrest : StartsIn wordEnds rest) :
    Cuts ('.' :: name.toList) [.dot, .ident name] rest :=
  (Cuts.dot h.1 rest).cons (h.cuts hrest)

theorem binaryOp?_eq_none (h : IsWord name) : BinaryOp.ofName? name = none := by
  refine Option.eq_none_iff_forall_not_mem.2 fun op hop ↦ ?_
  rw [← BinaryOp.name_of_ofName? hop] at h
  exact absurd h.1 (by cases op <;> decide)

theorem unaryOp?_eq_none (h : IsWord name) : UnaryOp.ofName? name = none := by
  refine Option.eq_none_iff_forall_not_mem.2 fun op hop ↦ ?_
  rw [← UnaryOp.name_of_ofName? hop] at h
  exact absurd h.1 (by cases op <;> decide)

/-- A function named by a word is no operator, so its calls are written as calls. -/
theorem callSource_eq (h : IsWord name) (args : List (List Char)) :
    Expr.callSource name none args = name.toList ++ '(' :: (Expr.commaJoin args ++ [')']) := by
  simp only [Expr.callSource, h.binaryOp?_eq_none, h.unaryOp?_eq_none]

end IsWord

/-- The operator between operands that a binary operator is read as. -/
def BinaryOp.reading : BinaryOp → Infix
  | .add => .arithmetic .add
  | .subtract => .arithmetic .subtract
  | .multiply => .arithmetic .multiply
  | .divide => .arithmetic .divide
  | .modulo => .arithmetic .modulo
  | .equal => .relation .equal
  | .notEqual => .relation .notEqual
  | .greaterThan => .relation .greaterThan
  | .lessThan => .relation .lessThan
  | .greaterOrEqual => .relation .greaterOrEqual
  | .lessOrEqual => .relation .lessOrEqual
  | .and => .and
  | .or => .or

theorem BinaryOp.ofToken?_token (op : BinaryOp) : Infix.ofToken? op.token = some op.reading := by
  cases op <;> rfl

theorem BinaryOp.lower_reading (op : BinaryOp) {t u : Term} {left right : Expr}
    (ht : t.lower = .ok left) (hu : u.lower = .ok right) :
    (op.reading.term t u).lower = .ok (.binary op left right) := by
  cases op <;> simp only [reading, Infix.term, Term.lower, ht, hu] <;> rfl

/-- The sign that a unary operator is read as. -/
def UnaryOp.reading : UnaryOp → Sign
  | .not => .not
  | .negate => .minus

theorem UnaryOp.ofToken?_token (op : UnaryOp) : Sign.ofToken? op.token = some op.reading := by
  cases op <;> rfl

/-- A sign in front of anything but a literal stays an operator. -/
theorem UnaryOp.apply_reading (op : UnaryOp) {e : Expr} (h : e.literal? = none) :
    op.reading.apply e = .unary op e := by
  cases op with
  | not => rfl
  | negate =>
    cases e with
    | literal value => cases h
    | _ => rfl

theorem Expr.source_binary (op : BinaryOp) (left right : Expr) :
    (binary op left right).source =
      '(' :: (left.source ++ ' ' :: (op.symbol.toList ++ ' ' :: (right.source ++ [')']))) := by
  simp only [binary, source, targetSource, sources, callSource, BinaryOp.ofName?_name]

theorem Expr.source_unary (op : UnaryOp) (operand : Expr) :
    (unary op operand).source = op.symbol.toList ++ operand.source := by
  simp only [unary, source, targetSource, sources, callSource, UnaryOp.ofName?_name]

theorem Expr.source_globalCall {function : String} (h : IsWord function) (args : List Expr) :
    (globalCall function args).source =
      function.toList ++ '(' :: (commaJoin (args.map source) ++ [')']) := by
  rw [globalCall, source, targetSource, sources_eq_map, h.callSource_eq]

theorem Expr.source_method (target : Expr) (function : String) (args : List Expr) :
    (method target function args).source =
      target.source ++ '.' :: (function.toList ++ '(' :: (commaJoin (args.map source) ++ [')'])) := by
  rw [method, source, targetSource, sources_eq_map, callSource]

/-! ## Primaries -/

theorem Plain.literal?_eq_none {e : Expr} (h : Plain .primary e) : e.literal? = none := by
  cases h <;> rfl

theorem IsWord.exists_toList_eq_cons {name : String} (h : IsWord name) :
    ∃ c cs, name.toList = c :: cs ∧ isPrimaryStart c = true := by
  have hname := h.1
  cases hcs : name.toList with
  | nil => simp [hcs, isName] at hname
  | cons c cs =>
    rw [hcs, isName, Bool.and_eq_true] at hname
    exact ⟨c, cs, rfl, by simp [isPrimaryStart, hname.1]⟩

/-- A primary starts with a name or a bracket. -/
theorem Plain.exists_source_eq_cons {e : Expr} (h : Plain .primary e) :
    ∃ c cs, e.source = c :: cs ∧ isPrimaryStart c = true := by
  -- The grade is an index of `Plain`, so it has to be a variable for the induction.
  generalize hgrade : Grade.primary = grade at h
  induction h with
  | ident hname => exact hname.exists_toList_eq_cons
  | select _ _ ih =>
    obtain ⟨c, cs, hsource, hc⟩ := ih hgrade
    exact ⟨c, _, by rw [Expr.source, hsource, List.cons_append], hc⟩
  | method _ _ _ ih =>
    obtain ⟨c, cs, hsource, hc⟩ := ih hgrade
    exact ⟨c, _, by rw [Expr.source_method, hsource, List.cons_append], hc⟩
  | globalCall hfunction =>
    obtain ⟨c, cs, htext, hc⟩ := hfunction.exists_toList_eq_cons
    exact ⟨c, _, by rw [Expr.source_globalCall hfunction, htext, List.cons_append], hc⟩
  | binary op => exact ⟨'(', _, Expr.source_binary op _ _, rfl⟩
  | list => exact ⟨'[', _, by rw [Expr.source], rfl⟩
  | ofPrimary => cases hgrade
  | unary => cases hgrade
  | literal => cases hgrade

/-! ## Reading back -/

/-- The characters that can follow. -/
def Grade.ends : Grade → List Char
  | .primary => primaryEnds
  | .expression => operandEnds

/-- What the tokens are to the machine. -/
def Grade.Reads : Grade → List Token → Term → Prop
  | .primary => Member
  | .expression => Operand

/-- The text is cut into tokens that are read as a term that stands for the tree. -/
def ReadsBack (grade : Grade) (cs : List Char) (e : Expr) : Prop :=
  ∃ ts t, grade.Reads ts t ∧ t.lower = .ok e ∧ CutsBefore grade.ends cs ts

/-- A text that reads back is a filter for its tree. -/
theorem ReadsBack.parse_eq {cs : List Char} {e : Expr} (h : ReadsBack .expression cs e) :
    parse (String.ofList cs) = .ok e := by
  obtain ⟨ts, t, hoperand, hlower, hcuts⟩ := h
  obtain ⟨hstuck, htokens⟩ := (hcuts [] (startsIn_nil _)).scan_eq
  have hterm : Term.parse (String.ofList cs) = .ok t := by
    rw [Term.parse, String.toList_ofList, hstuck]
    exact Operand.run_eq (htokens ▸ hoperand)
  rw [parse, hterm]
  simp only [hlower]

theorem Filter.Spells.readsBack {cs : List Char} {a : Atom} {value : Value} (h : Spells cs a)
    (hvalue : a.value = .ok value) : ReadsBack .expression cs (.literal value) := by
  obtain ⟨l, hatom, hcuts⟩ := h
  refine ⟨[.literal l], .atom a, (member_literal hatom).operand, ?_, hcuts⟩
  rw [Term.lower, hvalue]
  rfl

/-- **A plain value reads back.** -/
theorem Value.IsPlain.readsBack {value : Value} (h : value.IsPlain) :
    ReadsBack .expression value.source (.literal value) := by
  cases value with
  | null => exact spells_null.readsBack rfl
  | bool b => exact (spells_bool b).readsBack rfl
  | int i => exact (spells_int i).readsBack rfl
  | uint u => exact (spells_uint u).readsBack rfl
  | double d => exact h.elim
  | string s => exact (spells_string h).readsBack rfl

/-- The tokens and terms of several trees. -/
theorem exists_items_of_readsBack {es : List Expr} (h : ∀ e ∈ es, ReadsBack .expression e.source e) :
    ∃ tss terms, List.Forall₂ Operand tss terms ∧ lowerAll terms = .ok es ∧
      List.Forall₂ (CutsBefore operandEnds) (es.map Expr.source) tss := by
  induction es with
  | nil => exact ⟨[], [], .nil, rfl, .nil⟩
  | cons e es ih =>
    obtain ⟨ts, t, hoperand, hlower, hcuts⟩ := h e List.mem_cons_self
    obtain ⟨tss, terms, hitems, hlowerAll, hcutsAll⟩ :=
      ih fun e he ↦ h e (List.mem_cons_of_mem _ he)
    refine ⟨ts :: tss, t :: terms, .cons hoperand hitems, ?_, .cons hcuts hcutsAll⟩
    rw [lowerAll, hlower, hlowerAll]
    rfl

variable {grade : Grade} {cs : List Char} {e : Expr}

theorem ReadsBack.expression (h : ReadsBack .primary cs e) : ReadsBack .expression cs e := by
  obtain ⟨ts, t, hmember, hlower, hcuts⟩ := h
  exact ⟨ts, t, hmember.operand, hlower, fun rest hrest ↦ hcuts rest (hrest.mono (by decide))⟩

theorem readsBack_ident {name : String} (hname : IsWord name) :
    ReadsBack .primary name.toList (.ident name) :=
  ⟨_, _, member_ident name, rfl, fun _ hrest ↦ hname.cuts (hrest.mono (by decide))⟩

theorem ReadsBack.select (h : ReadsBack .primary cs e) {field : String} (hfield : IsWord field) :
    ReadsBack .primary (cs ++ '.' :: field.toList) (.select e field) := by
  obtain ⟨ts, t, hmember, hlower, hcuts⟩ := h
  refine ⟨_, _, hmember.attribute field, ?_, fun rest hrest ↦ ?_⟩
  · rw [Term.lower, hlower]
    rfl
  · exact (hcuts _ (startsIn_cons (c := '.') (by decide) _)).append
      (hfield.cuts_dot (hrest.mono (by decide)))

theorem readsBack_globalCall {function : String} (hfunction : IsWord function) {args : List Expr}
    (hargs : ∀ a ∈ args, ReadsBack .expression a.source a) :
    ReadsBack .primary (Expr.globalCall function args).source (.globalCall function args) := by
  obtain ⟨tss, terms, hitems, hlower, hcuts⟩ := exists_items_of_readsBack hargs
  refine ⟨_, _, member_call function hitems, ?_, fun rest _ ↦ ?_⟩
  · rw [Term.lower, hlower]
    rfl
  · rw [Expr.source_globalCall hfunction]
    exact (hfunction.cuts (startsIn_cons (c := '(') (by decide) _)).append
      (Cuts.arguments hcuts rest)

theorem ReadsBack.method (h : ReadsBack .primary e.source e) {function : String}
    (hfunction : IsWord function) {args : List Expr}
    (hargs : ∀ a ∈ args, ReadsBack .expression a.source a) :
    ReadsBack .primary (Expr.method e function args).source (.method e function args) := by
  obtain ⟨ts, t, hmember, hlower, hcuts⟩ := h
  obtain ⟨tss, terms, hitems, hlowerAll, hcutsAll⟩ := exists_items_of_readsBack hargs
  refine ⟨_, _, hmember.call function hitems, ?_, fun rest _ ↦ ?_⟩
  · rw [Term.lower, hlower, hlowerAll]
    rfl
  · rw [Expr.source_method]
    refine (hcuts _ (startsIn_cons (c := '.') (by decide) _)).append ?_
    exact (hfunction.cuts_dot (startsIn_cons (c := '(') (by decide) _)).append
      (Cuts.arguments hcutsAll rest)

theorem readsBack_list {elements : List Expr}
    (h : ∀ e ∈ elements, ReadsBack .expression e.source e) :
    ReadsBack .primary (Expr.list elements).source (.list elements) := by
  obtain ⟨tss, terms, hitems, hlower, hcuts⟩ := exists_items_of_readsBack h
  refine ⟨_, _, member_list hitems, ?_, fun rest _ ↦ ?_⟩
  · rw [Term.lower, hlower]
    rfl
  · rw [Expr.source, Expr.sources_eq_map]
    exact (CutsBefore.commaJoin hcuts).between rfl rfl (by decide) rest

theorem ReadsBack.binary {left right : Expr} (op : BinaryOp)
    (hleft : ReadsBack .expression left.source left)
    (hright : ReadsBack .expression right.source right) :
    ReadsBack .primary (Expr.binary op left right).source (.binary op left right) := by
  obtain ⟨ts, t, ht, hlower, hcuts⟩ := hleft
  obtain ⟨us, u, hu, hlower', hcuts'⟩ := hright
  refine ⟨_, _, ht.grouped hu op.ofToken?_token, op.lower_reading hlower hlower',
    fun rest _ ↦ ?_⟩
  rw [Expr.source_binary]
  -- The blanks keep the operator apart from a sign of the right operand.
  refine (Cuts.mark rfl _).cons ?_
  refine (hcuts _ (startsIn_cons (c := ' ') (by decide) _)).append (Cuts.blank ?_)
  refine (Cuts.binaryOp op _).append (Cuts.blank ?_)
  exact (hcuts' _ (startsIn_cons (c := ')') (by decide) rest)).append (Cuts.mark rfl rest)

theorem ReadsBack.unary (h : ReadsBack .primary e.source e) (op : UnaryOp)
    (he : Plain .primary e) : ReadsBack .expression (Expr.unary op e).source (.unary op e) := by
  obtain ⟨ts, t, hmember, hlower, hcuts⟩ := h
  obtain ⟨c, cs, hsource, hc⟩ := he.exists_source_eq_cons
  refine ⟨_, _, hmember.unary op.ofToken?_token, ?_, fun rest hrest ↦ ?_⟩
  · -- A minus sign in front of a number would be taken into it, but a primary is no number.
    rw [Term.lower, hlower]
    exact congrArg Except.ok (op.apply_reading he.literal?_eq_none)
  · have htext := hcuts rest (hrest.mono (by decide))
    rw [Expr.source_unary]
    rw [hsource] at htext ⊢
    exact (Cuts.unaryOp op hc (cs ++ rest)).append htext

/-- **A plain tree reads back.** -/
theorem Plain.readsBack (h : Plain grade e) : ReadsBack grade e.source e := by
  induction h with
  | ident hname => exact readsBack_ident hname
  | select _ hfield ih => exact ih.select hfield
  | method _ hfunction _ ih ihargs => exact ih.method hfunction ihargs
  | globalCall hfunction _ ihargs => exact readsBack_globalCall hfunction ihargs
  | binary op _ _ ihleft ihright => exact .binary op ihleft ihright
  | list _ ih => exact readsBack_list ih
  | ofPrimary _ ih => exact ih.expression
  | unary op hoperand ih => exact ih.unary op hoperand
  | literal hvalue => exact hvalue.readsBack

/-- **The text of a plain tree is a filter for that tree.** -/
theorem parse_text_of_plain (h : Plain .expression e) : parse e.text = .ok e :=
  h.readsBack.parse_eq

/-- Signs next to signs and to numbers, a name that starts like a reserved word, quotes and
backslashes in a string. -/
theorem parse_text_of_plain_nested :
    let e : Expr := .unary .negate (.binary .subtract (.literal (.int Int64.minValue))
      (.unary .not (.method (.select (.ident "r") "in_") "f"
        [.list [.literal (.string "\"\\")], .literal (.uint 7)])))
    e.text = "-(-9223372036854775808 - !r.in_.f([\"\\\"\\\\\"], 7u))" ∧
      Plain .expression e ∧ parse e.text = .ok e := by
  intro e
  have hlist : Plain .expression (.list [.literal (.string "\"\\")]) :=
    .ofPrimary (.list (List.forall_mem_singleton.2 (.literal (List.all_eq_true.1 (by decide)))))
  have hcall : Plain .primary (.method (.select (.ident "r") "in_") "f"
      [.list [.literal (.string "\"\\")], .literal (.uint 7)]) :=
    .method (.select (.ident (by decide)) (by decide)) (by decide)
      (List.forall_mem_cons.2 ⟨hlist, List.forall_mem_singleton.2 (.literal trivial)⟩)
  have h : Plain .expression e :=
    .unary .negate (.binary .subtract (.literal trivial) (.unary .not hcall))
  exact ⟨by decide +kernel, h, parse_text_of_plain h⟩

end WhereClause
