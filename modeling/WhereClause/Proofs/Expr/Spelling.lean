import Mathlib.Data.List.Forall2
import WhereClause.Expr.Json
import WhereClause.Proofs.Decimal.Exact
import WhereClause.Proofs.Expr.Nodes

/-!
# The spellings of a tree

A tree can be written in JSON in more than one way.  `Json.Spells` says in which: a node is an
object with one field named after the kind of node, and the contents of that field give the parts
of the node,

* as an object, each part under its name and at most once, in any order and among whatever other
  fields (`Json.InFields`), or
* as an array, the parts in their order, of which the last ones may be missing (`Json.InOrder`).

A call may be written both ways, a selection only as an object.  **The reader accepts exactly the
spellings** (`Json.reads_iff_spells`), and the trees that have one are those without an infinity or
a NaN among their literals (`Json.exists_spells_iff`).

`Json.SpellsNode` is one layer of the relation, and `Json.reads_iff_node` the reader's one step; the
rest is an induction over the tree that treats all kinds of nodes alike.
-/

set_option autoImplicit false

namespace WhereClause

namespace Json

/-! ## What spells what -/

/-- The whole number a token stands for: its digits, or the negative of digits that are not zero. -/
inductive Number.Denotes : Number → Int → Prop
  | plus (n : Nat) : Denotes (.integer false n) n
  | minus {n : Nat} (h : 0 < n) : Denotes (.integer true n) (-n)

/-- A JSON value spells a literal. -/
inductive SpellsLiteral : Json → Value → Prop
  | bareNull : SpellsLiteral (.string "null") .null
  | null : SpellsLiteral (.object [("null", .null)]) .null
  | bool (b : Bool) : SpellsLiteral (.object [("bool", .bool b)]) (.bool b)
  | int {n : Number} {i : Int64} (h : n.Denotes i.toInt) :
      SpellsLiteral (.object [("int", .number n)]) (.int i)
  | uint {n : Number} {u : UInt64} (h : n.Denotes u.toNat) :
      SpellsLiteral (.object [("uint", .number n)]) (.uint u)
  | double {n : Number} {d : Binary64} (h : Binary64.ofNumeral n.numeral = d)
      (hd : d.isFinite = true) : SpellsLiteral (.object [("double", .number n)]) (.double d)
  | string (s : String) : SpellsLiteral (.object [("string", .string s)]) (.string s)

/-- A way to write the parts of a node, given their names.  A part left out is `none`. -/
abbrev Layout := List String → Json → List (Option Json) → Prop

/-- An object holds each part under its name, at most once. -/
inductive InFields (names : List String) : Json → List (Option Json) → Prop
  | object {fields : List (String × Json)} {parts : List (Option Json)}
      (h : List.Forall₂ (fun name part ↦ valuesOf name fields = part.toList) names parts) :
      InFields names (.object fields) parts

/-- An array holds the parts in their order, without the last `missing` ones. -/
inductive InOrder (names : List String) : Json → List (Option Json) → Prop
  | array {elements : List Json} (missing : Nat)
      (h : elements.length + missing = names.length) :
      InOrder names (.array elements) (elements.map some ++ List.replicate missing none)

/-- The parts stand in an object or in an array. -/
def InEither : Layout := fun names json parts ↦
  InFields names json parts ∨ InOrder names json parts

section

variable (layout : Layout) (R : Json → Expr → Prop)

/-- The receiver of a call, where `R` says what spells a tree: missing or null for none. -/
inductive SpellsReceiver : Option Json → Option Expr → Prop
  | missing : SpellsReceiver none none
  | null : SpellsReceiver (some .null) none
  | tree {json : Json} {e : Expr} (h : R json e) : SpellsReceiver (some json) (some e)

/-- The arguments of a call, where `R` says what spells a tree: missing for none. -/
inductive SpellsArguments : Option Json → List Expr → Prop
  | missing : SpellsArguments none []
  | array {elements : List Json} {es : List Expr} (h : List.Forall₂ R elements es) :
      SpellsArguments (some (.array elements)) es

/-- A JSON value spells a tree, where `R` says what spells an operand and `layout` how the parts of
a selection may be written. -/
inductive SpellsNode : Json → Expr → Prop
  | literal {json : Json} {value : Value} (h : SpellsLiteral json value) :
      SpellsNode (.object [("literal", json)]) (.literal value)
  | ident (name : String) : SpellsNode (.object [("ident", .string name)]) (.ident name)
  | select {json operand : Json} {e : Expr} {field : String}
      (hparts : layout ["operand", "field"] json [some operand, some (.string field)])
      (h : R operand e) : SpellsNode (.object [("select", json)]) (.select e field)
  | call {json : Json} {function : String} {receiver arguments : Option Json}
      {target : Option Expr} {args : List Expr}
      (hparts : InEither ["function", "target", "args"] json
        [some (.string function), receiver, arguments])
      (htarget : SpellsReceiver R receiver target) (hargs : SpellsArguments R arguments args) :
      SpellsNode (.object [("call", json)]) (.call function target args)
  | list {elements : List Json} {es : List Expr} (h : List.Forall₂ R elements es) :
      SpellsNode (.object [("list", .array elements)]) (.list es)

end

/-- A JSON value spells a tree; `layout` says how the parts of a selection may be written. -/
inductive Spells (layout : Layout) : Json → Expr → Prop
  | node {json : Json} {e : Expr} (h : SpellsNode layout (Spells layout) json e) :
      Spells layout json e

theorem spells_iff_node {layout : Layout} {json : Json} {e : Expr} :
    Spells layout json e ↔ SpellsNode layout (Spells layout) json e := by
  constructor
  · rintro ⟨h⟩
    exact h
  · exact .node

/-- Only what spells the operands of a tree matters for what spells the tree. -/
theorem SpellsNode.imp {layout : Layout} {R R' : Json → Expr → Prop} {json : Json} {e : Expr}
    (h : SpellsNode layout R json e) (hR : ∀ x ∈ e.operands, ∀ json, R json x → R' json x) :
    SpellsNode layout R' json e := by
  have all : ∀ {elements : List Json} {es : List Expr}, List.Forall₂ R elements es →
      (∀ x ∈ es, ∀ json, R json x → R' json x) → List.Forall₂ R' elements es := by
    intro elements es hes hR
    induction hes with
    | nil => exact .nil
    | cons hx _ ih =>
      exact .cons (hR _ List.mem_cons_self _ hx) (ih fun x hx ↦ hR x (List.mem_cons_of_mem _ hx))
  cases h with
  | literal h => exact .literal h
  | ident name => exact .ident name
  | select hparts h => exact .select hparts (hR _ (by simp [Expr.operands]) _ h)
  | call hparts htarget hargs =>
    refine .call hparts ?_ ?_
    · cases htarget with
      | missing => exact .missing
      | null => exact .null
      | tree h => exact .tree (hR _ (by simp [Expr.operands]) _ h)
    · cases hargs with
      | missing => exact .missing
      | array h => exact .array (all h fun x hx ↦ hR x (by simp [Expr.operands, hx]))
  | list h => exact .list (all h hR)

theorem spellsReceiver_none_iff {R : Json → Expr → Prop} {target : Option Expr} :
    SpellsReceiver R none target ↔ target = none := by
  constructor
  · rintro ⟨⟩
    rfl
  · rintro rfl
    exact .missing

theorem spellsArguments_none_iff {R : Json → Expr → Prop} {args : List Expr} :
    SpellsArguments R none args ↔ args = [] := by
  constructor
  · rintro ⟨⟩
    rfl
  · rintro rfl
    exact .missing

/-! ## Literals -/

theorem Number.denotes_iff {n : Number} {i : Int} : n.Denotes i ↔ n.int? = some i := by
  constructor
  · intro h
    cases h with
    | plus n => rfl
    | @minus n h =>
      obtain ⟨m, rfl⟩ := Nat.exists_eq_succ_of_ne_zero (Nat.pos_iff_ne_zero.1 h)
      rfl
  · intro h
    unfold int? at h
    split at h <;> cases h
    · exact .plus _
    · exact .minus (Nat.pos_of_ne_zero (by assumption))

theorem Number.exists_denotes (i : Int) : ∃ n : Number, n.Denotes i := by
  cases i with
  | ofNat n => exact ⟨_, .plus n⟩
  | negSucc n => exact ⟨_, .minus (Nat.succ_pos n)⟩

/-- A literal read from a token through the whole number that the token stands for. -/
theorem Number.read_iff {α : Type} {f : Int → Option α} {g : α → Value} {n : Number}
    {value : Value} :
    (do return g (← f (← n.int?))) = some value ↔
      ∃ i a, n.Denotes i ∧ f i = some a ∧ value = g a := by
  simp only [Option.bind_eq_bind, Option.bind_eq_some_iff, denotes_iff, Option.pure_def,
    Option.some.injEq]
  constructor
  · rintro ⟨i, hi, a, ha, h⟩
    exact ⟨i, a, hi, ha, h.symm⟩
  · rintro ⟨i, a, hi, ha, h⟩
    exact ⟨i, hi, a, ha, h.symm⟩

/-- **The reader of literals accepts exactly their spellings.** -/
theorem literal_ofJson?_iff {json : Json} {value : Value} :
    Value.ofJson? json = some value ↔ SpellsLiteral json value := by
  constructor
  · intro h
    unfold Value.ofJson? at h
    split at h
    · cases h
      exact .bareNull
    · cases h
      exact .null
    · cases h
      exact .bool _
    · obtain ⟨i, a, hi, ha, rfl⟩ := Number.read_iff.1 h
      exact .int (Decimal.toInt_of_int64? ha ▸ hi)
    · obtain ⟨i, a, hi, ha, rfl⟩ := Number.read_iff.1 h
      exact .uint (Decimal.toNat_of_uint64? ha ▸ hi)
    · dsimp only at h
      split at h <;> cases h
      exact .double rfl (by assumption)
    · cases h
      exact .string _
    · cases h
  · intro h
    cases h with
    | bareNull => rfl
    | null => rfl
    | bool b => rfl
    | int h => exact Number.read_iff.2 ⟨_, _, h, Decimal.int64?_toInt _, rfl⟩
    | uint h => exact Number.read_iff.2 ⟨_, _, h, Decimal.uint64?_toNat _, rfl⟩
    | double h hd =>
      subst h
      exact if_pos hd
    | string s => rfl

/-! ## The parts of a node -/

/-- The tree read from a JSON value. -/
def Reads (json : Json) (e : Expr) : Prop :=
  Expr.ofJson? json = some e

theorem valuesOf_cons (name key : String) (json : Json) (fields : List (String × Json)) :
    valuesOf name ((key, json) :: fields) =
      if key = name then json :: valuesOf name fields else valuesOf name fields := by
  by_cases h : key = name <;> simp [valuesOf, h]

theorem stringOf?_eq_some_iff {name s : String} {fields : List (String × Json)} :
    stringOf? name fields = some s ↔ valuesOf name fields = [.string s] := by
  unfold stringOf?
  split
  next s' h => simp [h]
  next h =>
    simp only [reduceCtorEq, false_iff]
    exact h s

/-- A reader that goes through the fields of an object and takes those of one name. -/
theorem eq_mapM_valuesOf {α : Type} {name : String} {f : Json → Option α}
    {read : List (String × Json) → Option (List α)} (hnil : read [] = some [])
    (hcons : ∀ key json rest, read ((key, json) :: rest) =
      if key = name then do return (← f json) :: (← read rest) else read rest)
    (fields : List (String × Json)) : read fields = (valuesOf name fields).mapM f := by
  induction fields with
  | nil => exact hnil
  | cons field rest ih =>
    rw [hcons, valuesOf_cons, ih]
    split
    · rw [List.mapM_cons]
    · rfl

/-- A list is read element by element. -/
theorem mapM_eq_some_iff {α β : Type} {f : α → Option β} {l : List α} {bs : List β} :
    l.mapM f = some bs ↔ List.Forall₂ (fun a b ↦ f a = some b) l bs := by
  induction l generalizing bs with
  | nil => simp [eq_comm]
  | cons a l ih =>
    simp only [List.mapM_cons, Option.bind_eq_bind, Option.bind_eq_some_iff, ih, Option.pure_def,
      Option.some.injEq, List.forall₂_cons_left_iff]
    constructor
    · rintro ⟨b, hb, bs, hbs, rfl⟩
      exact ⟨b, bs, hb, hbs, rfl⟩
    · rintro ⟨b, bs, hb, hbs, rfl⟩
      exact ⟨b, hb, bs, hbs, rfl⟩

theorem mapM_eq_singleton_iff {α β : Type} {f : α → Option β} {l : List α} {b : β} :
    l.mapM f = some [b] ↔ ∃ a, l = [a] ∧ f a = some b := by
  rw [mapM_eq_some_iff, List.forall₂_cons_right_iff]
  constructor
  · rintro ⟨a, rest, ha, hrest, rfl⟩
    rw [List.forall₂_nil_right_iff.1 hrest]
    exact ⟨a, rfl, ha⟩
  · rintro ⟨a, rfl, ha⟩
    exact ⟨a, [], ha, .nil, rfl⟩

theorem atMostOne?_eq_some_iff {α : Type} {default a : α} {l : List α} :
    Expr.atMostOne? default l = some a ↔ l = [] ∧ a = default ∨ l = [a] := by
  rcases l with _ | ⟨b, _ | ⟨c, l⟩⟩
  · simp [Expr.atMostOne?, eq_comm]
  · simp [Expr.atMostOne?]
  · simp [Expr.atMostOne?]

/-- A part that may be left out, read from the values of its name. -/
theorem exists_atMostOne?_iff {α : Type} {f : Json → Option α} {l : List Json} {default a : α}
    {P : Option Json → Prop} (hnone : P none ↔ a = default)
    (hsome : ∀ json, P (some json) ↔ f json = some a) :
    (∃ bs, l.mapM f = some bs ∧ Expr.atMostOne? default bs = some a) ↔
      ∃ part : Option Json, l = part.toList ∧ P part := by
  simp only [atMostOne?_eq_some_iff]
  constructor
  · rintro ⟨bs, hbs, ⟨rfl, h⟩ | rfl⟩
    · exact ⟨none, List.forall₂_nil_right_iff.1 (mapM_eq_some_iff.1 hbs), hnone.2 h⟩
    · obtain ⟨json, rfl, h⟩ := mapM_eq_singleton_iff.1 hbs
      exact ⟨some json, rfl, (hsome json).2 h⟩
  · rintro ⟨_ | json, rfl, h⟩
    · exact ⟨[], rfl, .inl ⟨rfl, hnone.1 h⟩⟩
    · exact ⟨[a], mapM_eq_singleton_iff.2 ⟨json, rfl, (hsome json).1 h⟩, .inr rfl⟩

theorem listOfJson?_eq_some_iff {elements : List Json} {es : List Expr} :
    Expr.listOfJson? elements = some es ↔ List.Forall₂ Reads elements es := by
  have h : Expr.listOfJson? elements = elements.mapM Expr.ofJson? := by
    induction elements with
    | nil => simp [Expr.listOfJson?]
    | cons json rest ih => rw [Expr.listOfJson?, List.mapM_cons, ih]
  rw [h, mapM_eq_some_iff]
  rfl

theorem receiver?_eq_some_iff {json : Json} {target : Option Expr} :
    Expr.receiver? json (Expr.ofJson? json) = some target ↔
      SpellsReceiver Reads (some json) target := by
  constructor
  · intro h
    unfold Expr.receiver? at h
    split at h
    · cases h
      exact .null
    · obtain ⟨e, he, rfl⟩ := Option.map_eq_some_iff.1 h
      exact .tree he
  · intro h
    cases h with
    | null => rfl
    | @tree _ e h =>
      unfold Expr.receiver?
      split
      · simp [Reads, Expr.ofJson?] at h
      · rw [Option.map_eq_some_iff]
        exact ⟨e, h, rfl⟩

/-- The arguments of a JSON value, which must be an array. -/
def arguments? : Json → Option (List Expr)
  | .array args => Expr.listOfJson? args
  | _ => none

theorem arguments?_eq_some_iff {json : Json} {args : List Expr} :
    arguments? json = some args ↔ SpellsArguments Reads (some json) args := by
  constructor
  · intro h
    cases json with
    | array elements => exact .array (listOfJson?_eq_some_iff.1 h)
    | _ => cases h
  · rintro ⟨⟩
    exact listOfJson?_eq_some_iff.2 (by assumption)

theorem reads_select_iff {fields : List (String × Json)} {e : Expr} :
    Reads (.object [("select", .object fields)]) e ↔
      ∃ operand x field, valuesOf "operand" fields = [operand] ∧
        valuesOf "field" fields = [.string field] ∧ Reads operand x ∧ e = .select x field := by
  have hread : Expr.operandsOf? fields = (valuesOf "operand" fields).mapM Expr.ofJson? :=
    eq_mapM_valuesOf (by rw [Expr.operandsOf?]) (fun _ _ _ ↦ by rw [Expr.operandsOf?]) fields
  rw [Reads, Expr.ofJson?, hread]
  simp only [Option.bind_eq_bind, Option.bind_eq_some_iff, Option.pure_def]
  constructor
  · rintro ⟨xs, hxs, h⟩
    split at h
    next x =>
      obtain ⟨operand, hoperand, hx⟩ := mapM_eq_singleton_iff.1 hxs
      obtain ⟨field, hfield, h⟩ := Option.bind_eq_some_iff.1 h
      cases h
      exact ⟨operand, x, field, hoperand, stringOf?_eq_some_iff.1 hfield, hx, rfl⟩
    next => cases h
  · rintro ⟨operand, x, field, hoperand, hfield, hx, rfl⟩
    refine ⟨[x], mapM_eq_singleton_iff.2 ⟨operand, hoperand, hx⟩, ?_⟩
    simp [stringOf?_eq_some_iff.2 hfield]

theorem exists_targetsOf?_iff {fields : List (String × Json)} {target : Option Expr} :
    (∃ ts, Expr.targetsOf? fields = some ts ∧ Expr.atMostOne? none ts = some target) ↔
      ∃ receiver : Option Json, valuesOf "target" fields = receiver.toList ∧
        SpellsReceiver Reads receiver target := by
  have hread : Expr.targetsOf? fields =
      (valuesOf "target" fields).mapM fun json ↦ Expr.receiver? json (Expr.ofJson? json) :=
    eq_mapM_valuesOf (by rw [Expr.targetsOf?]) (fun _ _ _ ↦ by rw [Expr.targetsOf?]) fields
  rw [hread]
  exact exists_atMostOne?_iff spellsReceiver_none_iff fun _ ↦ receiver?_eq_some_iff.symm

theorem exists_argumentsOf?_iff {fields : List (String × Json)} {args : List Expr} :
    (∃ ls, Expr.argumentsOf? fields = some ls ∧ Expr.atMostOne? [] ls = some args) ↔
      ∃ arguments : Option Json, valuesOf "args" fields = arguments.toList ∧
        SpellsArguments Reads arguments args := by
  have hread : Expr.argumentsOf? fields = (valuesOf "args" fields).mapM arguments? := by
    refine eq_mapM_valuesOf (by rw [Expr.argumentsOf?]) (fun _ json _ ↦ ?_) fields
    cases json <;> simp only [Expr.argumentsOf?, arguments?] <;> rfl
  rw [hread]
  exact exists_atMostOne?_iff spellsArguments_none_iff fun _ ↦ arguments?_eq_some_iff.symm

theorem reads_call_iff {fields : List (String × Json)} {e : Expr} :
    Reads (.object [("call", .object fields)]) e ↔
      ∃ function receiver arguments target args,
        InFields ["function", "target", "args"] (.object fields)
          [some (.string function), receiver, arguments] ∧
        SpellsReceiver Reads receiver target ∧ SpellsArguments Reads arguments args ∧
        e = .call function target args := by
  rw [Reads, Expr.ofJson?]
  simp only [Option.bind_eq_bind, Option.bind_eq_some_iff, Option.pure_def, Option.some.injEq,
    stringOf?_eq_some_iff]
  constructor
  · rintro ⟨function, hfunction, ts, hts, target, htarget, ls, hls, args, hargs, rfl⟩
    obtain ⟨receiver, hreceiver, htarget⟩ := exists_targetsOf?_iff.1 ⟨ts, hts, htarget⟩
    obtain ⟨arguments, harguments, hargs⟩ := exists_argumentsOf?_iff.1 ⟨ls, hls, hargs⟩
    exact ⟨function, receiver, arguments, target, args,
      .object (.cons hfunction (.cons hreceiver (.cons harguments .nil))), htarget, hargs, rfl⟩
  · rintro ⟨function, receiver, arguments, target, args, ⟨hparts⟩, htarget, hargs, rfl⟩
    simp only [List.forall₂_cons, List.forall₂_nil_left_iff, and_true] at hparts
    obtain ⟨hfunction, hreceiver, harguments⟩ := hparts
    obtain ⟨ts, hts, htarget⟩ := exists_targetsOf?_iff.2 ⟨receiver, hreceiver, htarget⟩
    obtain ⟨ls, hls, hargs⟩ := exists_argumentsOf?_iff.2 ⟨arguments, harguments, hargs⟩
    exact ⟨function, hfunction, ts, hts, target, htarget, ls, hls, args, hargs, rfl⟩

/-- A call as an array: the function, then the receiver and the arguments as far as they are there,
where the arguments cannot stand without a receiver. -/
theorem inOrder_call_iff {json function : Json} {receiver arguments : Option Json} :
    InOrder ["function", "target", "args"] json [some function, receiver, arguments] ↔
      json = .array (function :: (receiver.toList ++ arguments.toList)) ∧
        (receiver = none → arguments = none) := by
  constructor
  · intro h
    generalize hparts : [some function, receiver, arguments] = parts at h
    obtain @⟨elements, missing, h⟩ := h
    -- the number of elements decides which parts are missing, four are one too many
    rcases elements with _ | ⟨x, _ | ⟨y, _ | ⟨z, _ | ⟨w, elements⟩⟩⟩⟩
    all_goals simp only [List.length_cons, List.length_nil] at h
    · obtain rfl : missing = 3 := by omega
      cases hparts
    · obtain rfl : missing = 2 := by omega
      cases hparts
      exact ⟨rfl, fun _ ↦ rfl⟩
    · obtain rfl : missing = 1 := by omega
      cases hparts
      exact ⟨rfl, fun _ ↦ rfl⟩
    · obtain rfl : missing = 0 := by omega
      cases hparts
      exact ⟨rfl, by simp⟩
    · omega
  · rintro ⟨rfl, h⟩
    rcases receiver with _ | receiver
    · rw [h rfl]
      exact .array 2 rfl
    · rcases arguments with _ | arguments
      · exact .array 1 rfl
      · exact .array 0 rfl

theorem reads_call_of_inOrder {json : Json} {function : String} {receiver arguments : Option Json}
    {target : Option Expr} {args : List Expr}
    (hparts : InOrder ["function", "target", "args"] json
      [some (.string function), receiver, arguments])
    (htarget : SpellsReceiver Reads receiver target)
    (hargs : SpellsArguments Reads arguments args) :
    Reads (.object [("call", json)]) (.call function target args) := by
  obtain ⟨rfl, hreceiver⟩ := inOrder_call_iff.1 hparts
  rcases receiver with _ | receiver
  · cases hreceiver rfl
    cases htarget
    cases hargs
    simp [Reads, Expr.ofJson?]
  · have htarget := receiver?_eq_some_iff.2 htarget
    cases hargs with
    | missing => simp [Reads, Expr.ofJson?, htarget]
    | array hargs => simp [Reads, Expr.ofJson?, htarget, listOfJson?_eq_some_iff.2 hargs]

/-- **The reader's step**: a node is read as its spelling says, the operands being read. -/
theorem reads_iff_node {json : Json} {e : Expr} :
    Reads json e ↔ SpellsNode InFields Reads json e := by
  constructor
  · intro h
    -- the fields of an object are read by the lemmas above, from the reader as it stands in `hread`
    have hread := h
    rw [Reads] at h
    unfold Expr.ofJson? at h
    split at h
    · obtain ⟨value, hvalue, rfl⟩ := Option.map_eq_some_iff.1 h
      exact .literal (literal_ofJson?_iff.1 hvalue)
    · cases h
      exact .ident _
    · obtain ⟨operand, x, field, hoperand, hfield, hx, rfl⟩ := reads_select_iff.1 hread
      exact .select (.object (.cons hoperand (.cons hfield .nil))) hx
    · obtain ⟨function, receiver, arguments, target, args, hparts, htarget, hargs, rfl⟩ :=
        reads_call_iff.1 hread
      exact .call (.inl hparts) htarget hargs
    · cases h
      exact .call (.inr (inOrder_call_iff.2 ⟨rfl, fun _ ↦ rfl⟩)) .missing .missing
    · obtain ⟨target, htarget, h⟩ := Option.bind_eq_some_iff.1 h
      cases h
      exact .call (.inr (inOrder_call_iff.2 ⟨rfl, fun _ ↦ rfl⟩))
        (receiver?_eq_some_iff.1 htarget) .missing
    · obtain ⟨target, htarget, h⟩ := Option.bind_eq_some_iff.1 h
      obtain ⟨args, hargs, h⟩ := Option.bind_eq_some_iff.1 h
      cases h
      exact .call (.inr (inOrder_call_iff.2 ⟨rfl, by simp⟩))
        (receiver?_eq_some_iff.1 htarget) (.array (listOfJson?_eq_some_iff.1 hargs))
    · obtain ⟨es, hes, rfl⟩ := Option.map_eq_some_iff.1 h
      exact .list (listOfJson?_eq_some_iff.1 hes)
    · cases h
  · intro h
    cases h with
    | literal h => simp [Reads, Expr.ofJson?, literal_ofJson?_iff.2 h]
    | ident name => simp [Reads, Expr.ofJson?]
    | select hparts h =>
      obtain ⟨hparts⟩ := hparts
      simp only [List.forall₂_cons, List.forall₂_nil_left_iff, and_true] at hparts
      exact reads_select_iff.2 ⟨_, _, _, hparts.1, hparts.2, h, rfl⟩
    | call hparts htarget hargs =>
      rcases hparts with hparts | hparts
      · obtain ⟨hparts⟩ := hparts
        exact reads_call_iff.2 ⟨_, _, _, _, _, .object hparts, htarget, hargs, rfl⟩
      · exact reads_call_of_inOrder hparts htarget hargs
    | list h => simp [Reads, Expr.ofJson?, listOfJson?_eq_some_iff.2 h]

/-- **The reader accepts exactly the spellings of a tree.** -/
theorem reads_iff_spells {json : Json} {e : Expr} : Reads json e ↔ Spells InFields json e := by
  induction e using Expr.operandInduction generalizing json with
  | node e ih =>
    rw [reads_iff_node, spells_iff_node]
    constructor
    · intro h
      exact h.imp fun x hx _ ↦ (ih x hx).1
    · intro h
      exact h.imp fun x hx _ ↦ (ih x hx).2

/-! ## Which trees have a spelling -/

theorem exists_forall₂_iff {R : Json → Expr → Prop} {es : List Expr} :
    (∃ elements, List.Forall₂ R elements es) ↔ ∀ x ∈ es, ∃ json, R json x := by
  induction es with
  | nil => simp
  | cons e es ih =>
    rw [List.forall_mem_cons, ← ih]
    constructor
    · rintro ⟨_, _ | ⟨h, hes⟩⟩
      exact ⟨⟨_, h⟩, _, hes⟩
    · rintro ⟨⟨json, h⟩, elements, hes⟩
      exact ⟨json :: elements, .cons h hes⟩

/-- All literals can be spelled but the infinities and NaN. -/
theorem exists_spellsLiteral_iff {value : Value} :
    (∃ json, SpellsLiteral json value) ↔ ∀ d, value = .double d → d.isFinite = true := by
  constructor
  · rintro ⟨json, h⟩ d rfl
    cases h
    assumption
  · intro h
    cases value with
    | null => exact ⟨_, .null⟩
    | bool b => exact ⟨_, .bool b⟩
    | int i =>
      obtain ⟨n, hn⟩ := Number.exists_denotes i.toInt
      exact ⟨_, .int hn⟩
    | uint u =>
      obtain ⟨n, hn⟩ := Number.exists_denotes u.toNat
      exact ⟨_, .uint hn⟩
    | double d =>
      have hd : d.isFinite = true := h d rfl
      exact ⟨_, .double (n := .decimal d.exactNumeral) (Binary64.ofNumeral_exactNumeral hd) hd⟩
    | string s => exact ⟨_, .string s⟩

/-- A tree has a spelling if its operands have, unless it is a literal that has none. -/
theorem exists_node_iff {R : Json → Expr → Prop} {e : Expr} :
    (∃ json, SpellsNode InFields R json e) ↔
      (∀ d, e = .literal (.double d) → d.isFinite = true) ∧
        ∀ x ∈ e.operands, ∃ json, R json x := by
  constructor
  · rintro ⟨json, h⟩
    cases h with
    | literal h =>
      refine ⟨?_, by simp [Expr.operands]⟩
      rintro d ⟨⟩
      exact exists_spellsLiteral_iff.1 ⟨_, h⟩ d rfl
    | ident name => exact ⟨by simp, by simp [Expr.operands]⟩
    | select _ h => exact ⟨by simp, by simpa [Expr.operands] using ⟨_, h⟩⟩
    | call _ htarget hargs =>
      refine ⟨by simp, fun x hx ↦ ?_⟩
      rcases List.mem_append.1 hx with hx | hx
      · cases htarget with
        | missing => simp at hx
        | null => simp at hx
        | tree h =>
          cases List.mem_singleton.1 hx
          exact ⟨_, h⟩
      · cases hargs with
        | missing => simp at hx
        | array h => exact exists_forall₂_iff.1 ⟨_, h⟩ x hx
    | list h => exact ⟨by simp, exists_forall₂_iff.1 ⟨_, h⟩⟩
  · rintro ⟨hliteral, hoperands⟩
    cases e with
    | literal value =>
      obtain ⟨json, h⟩ : ∃ json, SpellsLiteral json value :=
        exists_spellsLiteral_iff.2 fun d hd ↦ hliteral d (congrArg _ hd)
      exact ⟨_, .literal h⟩
    | ident name => exact ⟨_, .ident name⟩
    | select operand field =>
      obtain ⟨json, h⟩ := hoperands operand (by simp [Expr.operands])
      have hparts : InFields ["operand", "field"]
          (.object [("operand", json), ("field", .string field)])
          [some json, some (.string field)] := .object (by simp [valuesOf])
      exact ⟨_, .select hparts h⟩
    | call function target args =>
      obtain ⟨elements, hargs⟩ := exists_forall₂_iff.2 fun x hx ↦
        hoperands x (List.mem_append_right target.toList hx)
      -- null stands for a missing receiver, so that an array of all three parts will do
      obtain ⟨json, htarget⟩ : ∃ json, SpellsReceiver R (some json) target := by
        cases target with
        | none => exact ⟨_, .null⟩
        | some t =>
          obtain ⟨json, h⟩ := hoperands t (by simp [Expr.operands])
          exact ⟨json, .tree h⟩
      have hparts : InOrder ["function", "target", "args"]
          (.array [.string function, json, .array elements])
          [some (.string function), some json, some (.array elements)] := .array 0 rfl
      exact ⟨_, .call (.inr hparts) htarget (.array hargs)⟩
    | list elements =>
      obtain ⟨elements, h⟩ := exists_forall₂_iff.2 hoperands
      exact ⟨_, .list h⟩

/-- **The trees with a spelling** are those without an infinity or a NaN among their literals. -/
theorem exists_spells_iff {e : Expr} :
    (∃ json, Spells InFields json e) ↔
      ∀ d, .literal (.double d) ∈ e.nodes → d.isFinite = true := by
  induction e using Expr.operandInduction with
  | node e ih =>
    simp only [spells_iff_node]
    rw [exists_node_iff]
    constructor
    · rintro ⟨hroot, hoperands⟩ d hd
      rcases Expr.mem_nodes_iff.1 hd with hd | ⟨x, hx, hd⟩
      · exact hroot d hd.symm
      · exact (ih x hx).1 (hoperands x hx) d hd
    · intro h
      refine ⟨fun d hd ↦ h d (Expr.mem_nodes_iff.2 (.inl hd.symm)), fun x hx ↦ (ih x hx).2 ?_⟩
      exact fun d hd ↦ h d (Expr.mem_nodes_iff.2 (.inr ⟨x, hx, hd⟩))

end Json

/-- **Reading JSON.**  A JSON value is read as a tree exactly when it spells the tree; the trees
with a spelling are those without an infinity or a NaN; and all spellings of a tree are read
alike. -/
theorem Expr.ofJson?_eq_some_iff_spells (e : Expr) :
    (∀ json, Expr.ofJson? json = some e ↔ Json.Spells Json.InFields json e) ∧
      ((∃ json, Json.Spells Json.InFields json e) ↔
        ∀ d, .literal (.double d) ∈ e.nodes → d.isFinite = true) ∧
      ∀ json json', Json.Spells Json.InFields json e → Json.Spells Json.InFields json' e →
        Expr.ofJson? json = Expr.ofJson? json' := by
  refine ⟨fun json ↦ Json.reads_iff_spells, Json.exists_spells_iff, fun json json' h h' ↦ ?_⟩
  have hread : Expr.ofJson? json = some e := Json.reads_iff_spells.2 h
  have hread' : Expr.ofJson? json' = some e := Json.reads_iff_spells.2 h'
  rw [hread, hread']

/-- `x.f()` as an object without arguments and with a field that has no meaning, and as an array. -/
theorem Expr.ofJson?_eq_some_iff_spells_method :
    Expr.ofJson? (.object [("call", .object [("note", .null),
        ("target", .object [("ident", .string "x")]), ("function", .string "f")])]) =
      Expr.ofJson? (.object [("call", .array [.string "f", .object [("ident", .string "x")],
        .array []])]) := by
  obtain ⟨-, -, h⟩ := Expr.ofJson?_eq_some_iff_spells (.call "f" (some (.ident "x")) [])
  have hx : Json.SpellsReceiver (Json.Spells Json.InFields)
      (some (.object [("ident", .string "x")])) (some (.ident "x")) := .tree (.node (.ident "x"))
  apply h
  · exact .node (.call (.inl (.object (.cons rfl (.cons rfl (.cons rfl .nil))))) hx .missing)
  · exact .node (.call (.inr (.array 0 rfl)) hx (.array .nil))

/-- A selection written as an array would spell a tree if its parts could stand in an array like
those of a call; the reader refuses it. -/
theorem Expr.ofJson?_select_array :
    Json.Spells Json.InEither
        (.object [("select", .array [.object [("ident", .string "i")], .string "a"])])
        (.select (.ident "i") "a") ∧
      Expr.ofJson?
        (.object [("select", .array [.object [("ident", .string "i")], .string "a"])]) = none := by
  refine ⟨.node (.select (.inr (.array 0 rfl)) (.node (.ident "i"))), ?_⟩
  simp [Expr.ofJson?]

end WhereClause
