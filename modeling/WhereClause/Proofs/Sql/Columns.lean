import WhereClause.Calendar.Zone.Known
import WhereClause.Proofs.Converter
import WhereClause.Proofs.Sql.Mentions

/-!
# Fields and their columns

A field is mapped to a column by its path, which is the names of a chain with dots between them.
Names with dots of their own would make paths ambiguous, but without them a path can be cut at its
dots again (`splitOn_dotted`), and **a chain is known from its path** (`IsField.eq_of_fieldPath`).
The names may be empty, as long as there is at least one.

So a mapping is for one field and for no other, whether the other one is further down the same chain
or further up.  A tree that does not have the field is rendered as before, because it mentions
nothing that was changed (`Settings.AgreeOn`).
-/

set_option autoImplicit false

namespace WhereClause

namespace Expr

/-! ## Paths -/

/-- A chain is put together again from what it starts from and its fields. -/
theorem foldl_select_chain (e : Expr) : e.chain.2.foldl select e.chain.1 = e := by
  induction e using nodeInduction with
  | select operand field ih =>
    rw [chain_select, List.foldl_append, ih]
    rfl
  | _ => rfl

/-- A path can be cut at its dots. -/
theorem splitOn_dotted {fields : List String} (hne : fields ≠ [])
    (hdots : ∀ field ∈ fields, '.' ∉ field.toList) :
    (dotted fields).toList.splitOn '.' = fields.map String.toList := by
  rw [dotted, String.toList_ofList]
  exact List.splitOn_intercalate '.' (by simpa using hdots) (by simpa using hne)

/-- A field of the subject, or of one of its fields, with no dots in the names. -/
structure IsField (subject : String) (e : Expr) : Prop where
  root : e.chain.1 = .ident subject
  ne_nil : e.chain.2 ≠ []
  dots : ∀ field ∈ e.chain.2, '.' ∉ field.toList

namespace IsField

variable {subject : String} {e e' : Expr}

theorem fieldPath_eq (h : e.IsField subject) : e.fieldPath subject = .ok (dotted e.chain.2) :=
  fieldPath_eq_ok_iff.2 ⟨h.root, rfl⟩

theorem exists_select (h : e.IsField subject) : ∃ operand field, e = select operand field := by
  cases e with
  | select operand field => exact ⟨operand, field, rfl⟩
  | _ => exact absurd rfl h.ne_nil

/-- **A field is known from its path.** -/
theorem eq_of_fieldPath (h : e.IsField subject) (h' : e'.IsField subject)
    (hpath : e.fieldPath subject = e'.fieldPath subject) : e = e' := by
  have hdotted : dotted e.chain.2 = dotted e'.chain.2 :=
    Except.ok.inj (h.fieldPath_eq.symm.trans (hpath.trans h'.fieldPath_eq))
  have hfields : e.chain.2 = e'.chain.2 := by
    refine List.map_injective_iff.2 (fun _ _ ↦ String.toList_injective) ?_
    rw [← splitOn_dotted h.ne_nil h.dots, ← splitOn_dotted h'.ne_nil h'.dots, hdotted]
  rw [← foldl_select_chain e, ← foldl_select_chain e', hfields, h.root, h'.root]

end IsField

/-- No field of a tree has a dot in its name. -/
def DotFree (e : Expr) : Prop :=
  ∀ operand field, select operand field ∈ e.nodes → '.' ∉ field.toList

/-- A chain in a tree without dots is a field, if it starts from the subject. -/
theorem DotFree.isField {e x : Expr} {subject path : String} (he : e.DotFree) (hx : x ∈ e.chains)
    (hpath : x.fieldPath subject = .ok path) : x.IsField subject where
  root := (fieldPath_eq_ok_iff.1 hpath).1
  ne_nil := by
    obtain ⟨-, operand, field, rfl⟩ := exists_select_of_mem_chains hx
    simp [chain_select]
  dots := by
    intro field hfield
    obtain ⟨operand, hselect⟩ := exists_select_of_mem_chain hfield
    exact he operand field (nodes_trans hselect (exists_select_of_mem_chains hx).1)

end Expr

/-! ## Settings -/

namespace Settings

variable {s : Settings} {e : Expr}

theorem generate_field {path : String} (h : e.IsField s.subject)
    (hpath : e.fieldPath s.subject = .ok path) : s.generate e = .ok (s.column path) := by
  obtain ⟨operand, field, rfl⟩ := h.exists_select
  exact generate_eq_ok_iff.2 (.field hpath)

/-- The settings with one more mapping. -/
def withColumn (s : Settings) (path column : String) : Settings :=
  { s with columns := (path, column) :: s.columns }

theorem column_withColumn (s : Settings) (mapped column path : String) :
    (s.withColumn mapped column).column path = if path = mapped then column else s.column path := by
  rw [Settings.column, mapped?, withColumn, List.lookup_cons]
  by_cases h : path = mapped
  · rw [if_pos h, beq_iff_eq.2 h, Option.getD_some]
  · rw [if_neg h, beq_eq_false_iff_ne.2 h]
    rfl

/-- A field is rendered as the column it was mapped to last. -/
theorem generate_withColumn {path : String} (h : e.IsField s.subject)
    (hpath : e.fieldPath s.subject = .ok path) (column : String) :
    (s.withColumn path column).generate e = .ok column := by
  have hcolumn : (s.withColumn path column).column path = column := by
    rw [column_withColumn, if_pos rfl]
  rw [generate_field (s := s.withColumn path column) h hpath, hcolumn]

/-- **A mapping is for one field only**: settings with one more agree on a tree that does not have
this field. -/
theorem agreeOn_of_not_mem_chains {field : Expr} {path : String} (hfield : field.IsField s.subject)
    (hpath : field.fieldPath s.subject = .ok path) (column : String) (he : e.DotFree)
    (hmem : field ∉ e.chains) :
    (s.withColumn path column).AgreeOn s e where
  subject := rfl
  isEnabled _ _ _ _ := rfl
  column x hx other hother := by
    rw [column_withColumn, if_neg]
    rintro rfl
    have heq : x = field := (he.isField hx hother).eq_of_fieldPath hfield (hother.trans hpath.symm)
    exact hmem (heq ▸ hx)
  time _ _ := ⟨rfl, rfl⟩

end Settings

/-! ## Plans -/

namespace Converter

namespace Plan

/-- The column a change maps a path to; none if it does not map it. -/
def Step.mapping? (path : String) : Step → Option String
  | .column mapped name => if path = mapped then some name else none
  | _ => none

/-- The column the last change that maps a path maps it to. -/
def lastMapping? (path : String) (changes : List Step) : Option String :=
  (changes.filterMap (Step.mapping? path)).getLast?

variable {p q : Plan}

theorem column_of_apply [Calendar.ZoneTable] {step : Step} (h : p.apply step = .ok q)
    (path : String) :
    q.settings.column path = (step.mapping? path).getD (p.settings.column path) := by
  cases step with
  | column mapped name =>
    cases h
    refine (Settings.column_withColumn p.settings mapped name path).trans ?_
    rw [Step.mapping?]
    split <;> rfl
  | zone name =>
    obtain ⟨zone, rfl⟩ := apply_zone_eq_ok h
    rfl
  | _ =>
    cases h
    rfl

/-- **The last mapping of a path decides.** -/
theorem column_of_applyAll [Calendar.ZoneTable] {changes : List Step}
    (h : p.applyAll changes = .ok q) (path : String) :
    q.settings.column path = (lastMapping? path changes).getD (p.settings.column path) :=
  view_of_applyAll (fun p ↦ p.settings.column path) (Step.mapping? path)
    (fun h ↦ column_of_apply h path) h

/-- A mapping has no part in whether a converter can be built. -/
theorem exists_build_withColumn {c : Converter} (hc : p.build = .ok c) (path column : String) :
    ∃ c', { p with settings := p.settings.withColumn path column }.build = .ok c' := by
  obtain ⟨hvalid, hscope, -⟩ := build_eq_ok_iff.1 hc
  exact ⟨⟨{ p with settings := p.settings.withColumn path column }, c.scope⟩,
    build_eq_ok_iff.2 ⟨hvalid, hscope, rfl⟩⟩

end Plan

/-- **A mapping hits one field and no other.**  A field without dots in its names is known from its
path.  With one more mapping for its path a converter can be built as before, it renders the field
as the new column, and every tree without dots that does not have the field as a whole chain as
before.  Of several mappings for the path the last one counts. -/
theorem generate_mapped_field [Calendar.ZoneTable] {p : Plan} {field : Expr}
    (hfield : field.IsField p.settings.subject) :
    (∀ other : Expr, other.IsField p.settings.subject →
      other.fieldPath p.settings.subject = field.fieldPath p.settings.subject → other = field) ∧
    ∃ path, field.fieldPath p.settings.subject = .ok path ∧
      (∀ column, ∃ q, p.apply (.column path column) = .ok q ∧ ∀ c, p.build = .ok c →
        ∃ c', q.build = .ok c' ∧ c'.generate field = .ok column ∧
          ∀ e : Expr, e.DotFree → field ∉ e.chains → c'.generate e = c.generate e) ∧
      ∀ changes q c column, p.applyAll changes = .ok q → q.build = .ok c →
        q.settings.subject = p.settings.subject → Plan.lastMapping? path changes = some column →
        c.generate field = .ok column := by
  have hpath := hfield.fieldPath_eq
  refine ⟨fun other hother h ↦ hother.eq_of_fieldPath hfield h, _, hpath,
    fun column ↦ ⟨_, rfl, fun c hc ↦ ?_⟩, ?_⟩
  · obtain ⟨c', hc'⟩ := Plan.exists_build_withColumn hc (Expr.dotted field.chain.2) column
    refine ⟨c', hc', ?_, fun e he hmem ↦ ?_⟩
    · rw [Plan.generate_of_build hc']
      exact Settings.generate_withColumn hfield hpath column
    · rw [Plan.generate_of_build hc', Plan.generate_of_build hc]
      exact Settings.generate_congr (Settings.agreeOn_of_not_mem_chains hfield hpath column he hmem)
  · intro changes q c column hchanges hc hsubject hlast
    rw [← hsubject] at hfield hpath
    rw [Plan.generate_of_build hc, Settings.generate_field hfield hpath,
      Plan.column_of_applyAll hchanges, hlast, Option.getD_some]

/-- A field is mapped, and a tree has only a field above it and a field below it.  Then the field is
mapped again. -/
theorem generate_mapped_field_between :
    ∃ (c c₁ c₂ : Converter) (p₁ p₂ : Plan) (field e : Expr),
      field.IsField "i" ∧ field.fieldPath "i" = .ok "profile.age" ∧ e.DotFree ∧ field ∉ e.chains ∧
      Plan.default.build = .ok c ∧ c.generate e = .ok "(profile == profile.age.years)" ∧
      Plan.default.apply (.column "profile.age" "age") = .ok p₁ ∧ p₁.build = .ok c₁ ∧
      c₁.generate field = .ok "age" ∧ c₁.generate e = .ok "(profile == profile.age.years)" ∧
      Plan.default.applyAll [.column "profile.age" "age", .column "profile.age" "years"] = .ok p₂ ∧
      p₂.build = .ok c₂ ∧ c₂.generate field = .ok "years" := by
  let profile : Expr := .select (.ident "i") "profile"
  let field : Expr := .select profile "age"
  let e : Expr := .binary .equal profile (.select field "years")
  have hfield : field.IsField "i" := ⟨rfl, by decide, by decide⟩
  have hdots : e.DotFree := by
    intro operand name h
    have hnodes : e.nodes = [e, profile, .ident "i", .select field "years", field, profile,
      .ident "i"] := rfl
    rw [hnodes] at h
    simp only [e, field, profile, Expr.binary, List.mem_cons, reduceCtorEq, Expr.select.injEq,
      List.not_mem_nil, or_false, false_or] at h
    rcases h with ⟨-, rfl⟩ | ⟨-, rfl⟩ | ⟨-, rfl⟩ | ⟨-, rfl⟩ <;> decide
  have hmem : field ∉ e.chains := by
    have hchains : e.chains = [profile, .select field "years"] := rfl
    rw [hchains]
    simp [field, profile]
  obtain ⟨c, hc, hsql⟩ := Plan.exists_build
    (P := fun c ↦ c.generate e = .ok "(profile == profile.age.years)") Plan.default
    (by decide +kernel)
  obtain ⟨c₂, hc₂, -⟩ := Plan.exists_build (P := fun _ ↦ True)
    { Plan.default with settings.columns := [("profile.age", "years"), ("profile.age", "age")] }
    (by decide +kernel)
  obtain ⟨-, path, hpath, hmapped, hlast⟩ := generate_mapped_field (p := .default) hfield
  obtain rfl : "profile.age" = path := Except.ok.inj hpath
  obtain ⟨p₁, hp₁, hbuilt⟩ := hmapped "age"
  obtain ⟨c₁, hc₁, hcolumn, hframe⟩ := hbuilt c hc
  have hyears := hlast [.column "profile.age" "age", .column "profile.age" "years"] _ c₂ "years" rfl
    hc₂ rfl (by decide)
  exact ⟨c, c₁, c₂, p₁, _, field, e, hfield, rfl, hdots, hmem, hc, hsql, hp₁, hc₁, hcolumn,
    (hframe e hdots hmem).trans hsql, rfl, hc₂, hyears⟩

end Converter

end WhereClause
