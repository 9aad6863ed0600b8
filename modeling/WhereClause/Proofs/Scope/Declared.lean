import Mathlib.Data.List.Nodup
import WhereClause.Proofs.Sequencing
import WhereClause.Scope

/-!
# What declarations come to, in whatever order they are made

`Scope.declare` looks at everything declared so far, refuses an overload whose identifier is taken,
and passes over one that is there already.  So it seems to matter in which order declarations are
made.  It does not, and this file says what matters instead.

The program does not search for identifiers, it keeps a map of them (`Scope.Registry`).  Here they
are searched for, so that there is nothing to know but the functions;
`WhereClause.Proofs.Scope.Registry` says why this comes to the same.

Declarations are looked at as a collection of *entries*, overloads with the name of their function.
One overload after the other is added to this collection (`addOverload_entries`), or refused because
another entry has its identifier (`exists_addOverload_iff`).  Since neither depends on the order of
the entries, the same holds for whole declarations (`exists_foldlM_declare_iff`): all of them can be
made exactly if their overloads are well formed and no identifier belongs to two entries.

`Coherent` is the invariant that carries this: each function stands in the list once, and each
identifier belongs to one overload.  The table of standard functions has it, because it was
validated.
-/

set_option autoImplicit false

namespace WhereClause

namespace Scope

/-! ## Declaring without a map -/

/-- Whether any overload has this identifier. -/
def usesId (fs : List FunctionDecl) (id : String) : Bool :=
  fs.any fun f ↦ f.overloads.any fun o ↦ o.id == id

/-- Adds an overload of a function. -/
def addOverload (name : String) (fs : List FunctionDecl) (o : Overload) :
    Except DeclarationError (List FunctionDecl) := do
  o.validate name
  if hasOverload fs name o then return fs
  else if usesId fs o.id then throw (.duplicateOverload name o.id)
  else return appendOverload fs name o

/-- Adds a declaration. -/
def declare (fs : List FunctionDecl) (f : FunctionDecl) :
    Except DeclarationError (List FunctionDecl) :=
  f.overloads.foldlM (addOverload f.name) (ensure fs f.name)

/-! ## Entries -/

/-- The overloads of several functions, each with the name of its function. -/
def entries (fs : List FunctionDecl) : List (String × Overload) :=
  fs.flatMap fun f ↦ f.overloads.map fun o ↦ (f.name, o)

/-- No identifier belongs to two different entries. -/
def Compatible (xs : List (String × Overload)) : Prop :=
  ∀ x ∈ xs, ∀ y ∈ xs, x.2.id = y.2.id → x = y

/-- Every function is there once, and every identifier is used once. -/
structure Coherent (fs : List FunctionDecl) : Prop where
  names : (fs.map FunctionDecl.name).Nodup
  ids : ((entries fs).map fun x ↦ x.2.id).Nodup

theorem mem_entries {fs : List FunctionDecl} {x : String × Overload} :
    x ∈ entries fs ↔ ∃ f ∈ fs, f.name = x.1 ∧ x.2 ∈ f.overloads := by
  simp only [entries, List.mem_flatMap, List.mem_map]
  refine exists_congr fun f ↦ and_congr_right fun _ ↦ ?_
  constructor
  · rintro ⟨o, ho, rfl⟩
    exact ⟨rfl, ho⟩
  · rintro ⟨hname, ho⟩
    exact ⟨x.2, ho, by rw [hname]⟩

theorem entries_cons (f : FunctionDecl) (fs : List FunctionDecl) :
    entries (f :: fs) = f.overloads.map (fun o ↦ (f.name, o)) ++ entries fs :=
  rfl

theorem entries_singleton (f : FunctionDecl) :
    entries [f] = f.overloads.flatMap fun o ↦ [(f.name, o)] := by
  rw [entries, List.flatMap_singleton, List.map_eq_flatMap]

theorem declares_iff {fs : List FunctionDecl} {name : String} :
    declares fs name = true ↔ name ∈ fs.map FunctionDecl.name := by
  simp [declares]

theorem hasOverload_iff {fs : List FunctionDecl} {name : String} {o : Overload} :
    hasOverload fs name o = true ↔ (name, o) ∈ entries fs := by
  simp [hasOverload, mem_entries]

theorem usesId_iff {fs : List FunctionDecl} {id : String} :
    usesId fs id = true ↔ ∃ x ∈ entries fs, x.2.id = id := by
  simp only [usesId, List.any_eq_true, beq_iff_eq, mem_entries]
  constructor
  · rintro ⟨f, hf, o, ho, hid⟩
    exact ⟨(f.name, o), ⟨f, hf, rfl, ho⟩, hid⟩
  · rintro ⟨x, ⟨f, hf, -, ho⟩, hid⟩
    exact ⟨f, hf, x.2, ho, hid⟩

theorem Compatible.mono {xs ys : List (String × Overload)} (h : xs ⊆ ys) (hys : Compatible ys) :
    Compatible xs :=
  fun x hx y hy ↦ hys x (h hx) y (h hy)

theorem entries_sublist {fs gs : List FunctionDecl} (h : fs.Sublist gs) :
    (entries fs).Sublist (entries gs) := by
  induction h with
  | slnil => exact .refl _
  | cons f _ ih => exact ih.trans (List.sublist_append_right _ _)
  | cons_cons f _ ih => exact ih.append_left _

namespace Coherent

variable {fs gs : List FunctionDecl}

theorem compatible (h : Coherent fs) : Compatible (entries fs) :=
  fun _ hx _ hy hid ↦ List.inj_on_of_nodup_map h.ids hx hy hid

/-- Functions may be left out. -/
theorem sublist (h : Coherent gs) (hsub : fs.Sublist gs) : Coherent fs :=
  ⟨(hsub.map _).nodup h.names, ((entries_sublist hsub).map _).nodup h.ids⟩

/-- No overload is there twice. -/
theorem overloads_nodup (h : Coherent fs) {f : FunctionDecl} (hf : f ∈ fs) :
    f.overloads.Nodup := by
  have hsub : (f.overloads.map fun o ↦ (f.name, o)).Sublist (entries fs) := by
    have hone : [f].Sublist fs := List.singleton_sublist.2 hf
    simpa [entries] using entries_sublist hone
  have hids : (f.overloads.map fun o ↦ (f.name, o)).Nodup := ((hsub.map _).nodup h.ids).of_map _
  exact hids.of_map _

/-- A function is found by its name. -/
theorem declared?_eq_some_iff (h : Coherent fs) {name : String} {f : FunctionDecl} :
    declared? fs name = some f ↔ f ∈ fs ∧ f.name = name := by
  constructor
  · intro hf
    exact ⟨List.mem_of_find?_eq_some hf, by simpa using List.find?_some hf⟩
  · rintro ⟨hf, rfl⟩
    have hsome : (declared? fs f.name).isSome = true := by
      rw [declared?, List.find?_isSome]
      exact ⟨f, hf, beq_self_eq_true _⟩
    obtain ⟨g, hg⟩ := Option.isSome_iff_exists.1 hsome
    have hname : g.name = f.name := by simpa using List.find?_some hg
    rw [hg, List.inj_on_of_nodup_map h.names (List.mem_of_find?_eq_some hg) hf hname]

/-- The entries of one function are its overloads. -/
theorem mem_overloads_iff (h : Coherent fs) {f : FunctionDecl} (hf : f ∈ fs) {o : Overload} :
    o ∈ f.overloads ↔ (f.name, o) ∈ entries fs := by
  rw [mem_entries]
  constructor
  · exact fun ho ↦ ⟨f, hf, rfl, ho⟩
  · rintro ⟨g, hg, hname, ho⟩
    rwa [← List.inj_on_of_nodup_map h.names hg hf hname]

end Coherent

/-! ## One overload -/

section AddOverload

variable {fs gs : List FunctionDecl} {name : String} {o : Overload}

theorem map_name_appendOverload (fs : List FunctionDecl) (name : String) (o : Overload) :
    (appendOverload fs name o).map FunctionDecl.name = fs.map FunctionDecl.name := by
  rw [appendOverload, List.map_map]
  refine List.map_congr_left fun f _ ↦ ?_
  rw [Function.comp_apply]
  split <;> rfl

theorem appendOverload_of_not_mem (h : name ∉ fs.map FunctionDecl.name) :
    appendOverload fs name o = fs := by
  rw [appendOverload]
  conv_rhs => rw [← List.map_id fs]
  refine List.map_congr_left fun f hf ↦ ?_
  have hne : f.name ≠ name := fun hname ↦ h (hname ▸ List.mem_map_of_mem hf)
  rw [if_neg (by simpa using hne), id]

/-- An overload that is appended becomes one more entry. -/
theorem entries_appendOverload_perm (hnames : (fs.map FunctionDecl.name).Nodup)
    (hname : name ∈ fs.map FunctionDecl.name) :
    (entries (appendOverload fs name o)).Perm ((name, o) :: entries fs) := by
  induction fs with
  | nil => cases hname
  | cons f fs ih =>
    rw [List.map_cons, List.nodup_cons] at hnames
    by_cases hf : f.name = name
    · subst hf
      have hhead : appendOverload (f :: fs) f.name o =
          { f with overloads := f.overloads ++ [o] } :: appendOverload fs f.name o := by
        simp [appendOverload]
      rw [hhead, appendOverload_of_not_mem hnames.1, entries_cons, entries_cons, List.map_append,
        List.append_assoc]
      exact List.perm_middle
    · have hhead : appendOverload (f :: fs) name o = f :: appendOverload fs name o := by
        simp [appendOverload, hf]
      have hmem : name ∈ fs.map FunctionDecl.name :=
        (List.mem_cons.1 hname).resolve_left (Ne.symm hf)
      rw [hhead, entries_cons, entries_cons]
      exact ((ih hnames.2 hmem).append_left _).trans List.perm_middle

/-- An overload is added if it is well formed, and passed over if it is there. -/
theorem addOverload_eq_ok_iff : addOverload name fs o = .ok gs ↔ o.fault? = none ∧
    ((name, o) ∈ entries fs ∧ gs = fs ∨
      (∀ x ∈ entries fs, x.2.id ≠ o.id) ∧ gs = appendOverload fs name o) := by
  have hvalid : o.validate name = .ok () ↔ o.fault? = none := by
    rw [Overload.validate]
    cases o.fault? <;> simp
  have hused : usesId fs o.id = false ↔ ∀ x ∈ entries fs, x.2.id ≠ o.id := by
    rw [← Bool.not_eq_true, usesId_iff, not_exists]
    simp only [not_and, ne_eq]
  rw [addOverload, Except.bind_eq_ok_iff]
  simp only [hvalid, exists_const]
  refine and_congr_right fun _ ↦ ?_
  by_cases hhas : (name, o) ∈ entries fs
  · have hid : ¬ ∀ x ∈ entries fs, x.2.id ≠ o.id := fun h ↦ h _ hhas rfl
    rw [if_pos (hasOverload_iff.2 hhas)]
    simp only [hhas, hid, true_and, false_and, or_false]
    exact ⟨fun h ↦ (Except.ok.inj h).symm, fun h ↦ congrArg Except.ok h.symm⟩
  · rw [if_neg (fun h ↦ hhas (hasOverload_iff.1 h)), ← hused]
    cases usesId fs o.id with
    | true => simp [hhas]
    | false =>
      simp only [hhas, false_and, true_and, false_or, Bool.false_eq_true, if_false]
      exact ⟨fun h ↦ (Except.ok.inj h).symm, fun h ↦ congrArg Except.ok h.symm⟩

/-- **Adding an overload adds its entry**, and keeps everything in order. -/
theorem addOverload_entries (hfs : Coherent fs) (hname : name ∈ fs.map FunctionDecl.name)
    (h : addOverload name fs o = .ok gs) :
    (Coherent gs ∧ gs.map FunctionDecl.name = fs.map FunctionDecl.name) ∧
      ∀ x, x ∈ entries gs ↔ x ∈ entries fs ∨ x ∈ [(name, o)] := by
  obtain ⟨-, ⟨hhas, rfl⟩ | ⟨hfresh, rfl⟩⟩ := addOverload_eq_ok_iff.1 h
  · refine ⟨⟨hfs, rfl⟩, fun x ↦ ?_⟩
    rw [List.mem_singleton]
    exact ⟨.inl, fun hx ↦ hx.elim id fun heq ↦ heq ▸ hhas⟩
  · have hperm := entries_appendOverload_perm (o := o) hfs.names hname
    refine ⟨⟨⟨?_, ?_⟩, map_name_appendOverload fs name o⟩, fun x ↦ ?_⟩
    · rw [map_name_appendOverload]
      exact hfs.names
    · rw [(hperm.map _).nodup_iff, List.map_cons, List.nodup_cons]
      refine ⟨fun hmem ↦ ?_, hfs.ids⟩
      obtain ⟨x, hx, hid⟩ := List.mem_map.1 hmem
      exact hfresh x hx hid
    · rw [hperm.mem_iff, List.mem_cons, List.mem_singleton, or_comm]

/-- An overload can be added if it is well formed and no other entry has its identifier. -/
theorem exists_addOverload_iff (hfs : Coherent fs) :
    (∃ gs, addOverload name fs o = .ok gs) ↔
      o.fault? = none ∧ Compatible (entries fs ++ [(name, o)]) := by
  simp only [addOverload_eq_ok_iff, exists_and_left]
  refine and_congr_right fun _ ↦ ?_
  constructor
  · rintro ⟨gs, h⟩
    have hone : ∀ x ∈ entries fs, x.2.id = o.id → x = (name, o) := by
      intro x hx hid
      rcases h with ⟨hhas, -⟩ | ⟨hfresh, -⟩
      · exact hfs.compatible x hx _ hhas hid
      · exact absurd hid (hfresh x hx)
    intro x hx y hy hid
    rw [List.mem_append, List.mem_singleton] at hx hy
    rcases hx with hx | rfl
    · rcases hy with hy | rfl
      · exact hfs.compatible x hx y hy hid
      · exact hone x hx hid
    · rcases hy with hy | rfl
      · exact (hone y hy hid.symm).symm
      · rfl
  · intro h
    by_cases hhas : (name, o) ∈ entries fs
    · exact ⟨fs, .inl ⟨hhas, rfl⟩⟩
    · refine ⟨_, .inr ⟨fun x hx hid ↦ hhas ?_, rfl⟩⟩
      have heq := h x (List.mem_append_left _ hx) (name, o) (by simp) hid
      rwa [← heq]

end AddOverload

/-! ## Whole declarations -/

section Declare

variable {fs gs ds : List FunctionDecl} {f : FunctionDecl}

theorem entries_ensure (fs : List FunctionDecl) (name : String) :
    entries (ensure fs name) = entries fs := by
  rw [ensure]
  split
  · rfl
  · simp [entries]

theorem mem_names_ensure {name n : String} :
    n ∈ (ensure fs name).map FunctionDecl.name ↔ n ∈ fs.map FunctionDecl.name ∨ n ∈ [name] := by
  rw [ensure]
  split
  next h =>
    rw [List.mem_singleton]
    exact ⟨.inl, fun hn ↦ hn.elim id fun heq ↦ heq ▸ declares_iff.1 h⟩
  next => rw [List.map_append, List.mem_append]; rfl

theorem Coherent.ensure (h : Coherent fs) (name : String) : Coherent (ensure fs name) := by
  refine ⟨?_, by rw [entries_ensure]; exact h.ids⟩
  rw [Scope.ensure]
  split
  · exact h.names
  next hname =>
    rw [declares_iff] at hname
    rw [List.map_append, List.nodup_append]
    refine ⟨h.names, by simp, ?_⟩
    rintro a ha b hb rfl
    rw [List.map_singleton, List.mem_singleton] at hb
    rw [hb] at ha
    exact hname ha

/-- The state that overloads of one function are added to. -/
private theorem addOverload_step (name : String) (o : Overload) (fs gs : List FunctionDecl)
    (hfs : Coherent fs ∧ name ∈ fs.map FunctionDecl.name) (h : addOverload name fs o = .ok gs) :
    (Coherent gs ∧ name ∈ gs.map FunctionDecl.name) ∧
      ∀ x, x ∈ entries gs ↔ x ∈ entries fs ∨ x ∈ [(name, o)] := by
  obtain ⟨⟨hgs, hnames⟩, hentries⟩ := addOverload_entries hfs.1 hfs.2 h
  exact ⟨⟨hgs, hnames ▸ hfs.2⟩, hentries⟩

theorem coherent_ensure_and_mem (h : Coherent fs) (name : String) :
    Coherent (ensure fs name) ∧ name ∈ (ensure fs name).map FunctionDecl.name :=
  ⟨h.ensure name, mem_names_ensure.2 (.inr (by simp))⟩

/-- **A declaration adds its entries.** -/
theorem declare_entries (hfs : Coherent fs) (h : declare fs f = .ok gs) :
    Coherent gs ∧ ∀ x, x ∈ entries gs ↔ x ∈ entries fs ∨ x ∈ entries [f] := by
  obtain ⟨⟨hgs, -⟩, hentries⟩ := Except.mem_view_of_foldlM _ _ (addOverload_step f.name)
    (coherent_ensure_and_mem hfs f.name) h
  refine ⟨hgs, fun x ↦ ?_⟩
  rw [hentries, entries_ensure, entries_singleton]

/-- A declaration adds the name of its function. -/
theorem mem_names_of_declare (hfs : Coherent fs) (h : declare fs f = .ok gs) (n : String) :
    n ∈ gs.map FunctionDecl.name ↔ n ∈ fs.map FunctionDecl.name ∨ n ∈ [f.name] := by
  have hkeep : Coherent gs ∧ gs.map FunctionDecl.name =
      (ensure fs f.name).map FunctionDecl.name := by
    refine Except.foldlM_induction (P := fun fs' ↦ Coherent fs' ∧ fs'.map FunctionDecl.name =
      (ensure fs f.name).map FunctionDecl.name) (fun o _ a b ha hstep ↦ ?_)
      ⟨hfs.ensure f.name, rfl⟩ h
    have hmem : f.name ∈ a.map FunctionDecl.name :=
      ha.2 ▸ (coherent_ensure_and_mem hfs f.name).2
    obtain ⟨⟨hb, hnames⟩, -⟩ := addOverload_entries ha.1 hmem hstep
    exact ⟨hb, hnames.trans ha.2⟩
  rw [hkeep.2, mem_names_ensure]

/-- A declaration can be made if its overloads are well formed and go with what is there. -/
theorem exists_declare_iff (hfs : Coherent fs) : (∃ gs, declare fs f = .ok gs) ↔
    (∀ o ∈ f.overloads, o.fault? = none) ∧ Compatible (entries fs ++ entries [f]) := by
  have hiff := Except.exists_foldlM_iff (fun o : Overload ↦ o.fault? = none) Compatible
    (addOverload_step f.name) (fun o a ha ↦ exists_addOverload_iff ha.1)
    (fun _ _ hsub ↦ Compatible.mono hsub) (fun a ha ↦ ha.1.compatible) f.overloads
    (coherent_ensure_and_mem hfs f.name)
  rw [declare, hiff, entries_ensure, entries_singleton]

/-- **What all declarations together come to.** -/
theorem foldlM_declare_entries (hfs : Coherent fs) (h : ds.foldlM declare fs = .ok gs) :
    Coherent gs ∧ ∀ x, x ∈ entries gs ↔ x ∈ entries fs ∨ x ∈ entries ds := by
  obtain ⟨hgs, hentries⟩ :=
    Except.mem_view_of_foldlM _ _ (fun f a b ha h ↦ declare_entries (f := f) ha h) hfs h
  refine ⟨hgs, fun x ↦ ?_⟩
  rw [hentries]
  simp [entries]

theorem mem_names_of_foldlM_declare (hfs : Coherent fs) (h : ds.foldlM declare fs = .ok gs)
    (n : String) : n ∈ gs.map FunctionDecl.name ↔
      n ∈ fs.map FunctionDecl.name ∨ n ∈ ds.map FunctionDecl.name := by
  obtain ⟨-, hnames⟩ := Except.mem_view_of_foldlM (P := Coherent)
    (fun fs ↦ fs.map FunctionDecl.name) (fun f : FunctionDecl ↦ [f.name])
    (fun f a b ha h ↦ ⟨(declare_entries ha h).1, mem_names_of_declare ha h⟩) hfs h
  rw [hnames, ← List.map_eq_flatMap]

/-- **All declarations can be made if their overloads are well formed and go together.** -/
theorem exists_foldlM_declare_iff (hfs : Coherent fs) :
    (∃ gs, ds.foldlM declare fs = .ok gs) ↔
      (∀ x ∈ entries ds, x.2.fault? = none) ∧ Compatible (entries fs ++ entries ds) := by
  have hiff := Except.exists_foldlM_iff
    (fun f : FunctionDecl ↦ ∀ o ∈ f.overloads, o.fault? = none) Compatible
    (fun f a b ha h ↦ declare_entries (f := f) ha h) (fun f a ha ↦ exists_declare_iff ha)
    (fun _ _ hsub ↦ Compatible.mono hsub) (fun a ha ↦ ha.compatible) ds hfs
  have hsound : (∀ f ∈ ds, ∀ o ∈ f.overloads, o.fault? = none) ↔
      ∀ x ∈ entries ds, x.2.fault? = none := by
    simp only [mem_entries]
    constructor
    · rintro h x ⟨f, hf, -, ho⟩
      exact h f hf x.2 ho
    · intro h f hf o ho
      exact h (f.name, o) ⟨f, hf, rfl, ho⟩
  have hentries : ds.flatMap (fun f ↦ entries [f]) = entries ds := by simp [entries]
  rw [hiff, hsound, hentries]

end Declare

/-! ## Validated tables -/

/-- Adds the identifier of an overload to those seen before, unless the overload is refused. -/
def enroll (seen : List String) (x : String × Overload) :
    Except DeclarationError (List String) := do
  x.2.validate x.1
  if x.2.id ∈ seen then .error (.duplicateOverload x.1 x.2.id) else .ok (x.2.id :: seen)

theorem validateOverloads_eq_foldlM (function : String) (seen : List String) (os : List Overload) :
    validateOverloads function seen os = (os.map fun o ↦ (function, o)).foldlM enroll seen := by
  induction os generalizing seen with
  | nil => rfl
  | cons o os ih =>
    rw [validateOverloads, List.map_cons, List.foldlM_cons, enroll]
    cases o.validate function with
    | error e => rfl
    | ok _ =>
      by_cases hseen : o.id ∈ seen
      · simp [hseen, bind, Except.bind]
      · simp [hseen, bind, Except.bind, ih]

/-- **A table is checked as one list of entries**, whatever functions they belong to. -/
theorem validateFrom_eq_foldlM (seen : List String) (fs : List FunctionDecl) :
    validateFrom seen fs = (entries fs).foldlM enroll seen >>= fun _ ↦ .ok () := by
  induction fs generalizing seen with
  | nil => rfl
  | cons f fs ih =>
    rw [validateFrom, entries_cons, List.foldlM_append, ← validateOverloads_eq_foldlM, bind_assoc]
    simp only [ih]

theorem enroll_eq_ok_iff {seen seen' : List String} {x : String × Overload} :
    enroll seen x = .ok seen' ↔
      x.2.fault? = none ∧ x.2.id ∉ seen ∧ seen' = x.2.id :: seen := by
  rw [enroll, Overload.validate]
  cases x.2.fault? with
  | some fault => simp [bind, Except.bind]
  | none =>
    by_cases hseen : x.2.id ∈ seen
    · simp [hseen, bind, Except.bind]
    · simp [hseen, bind, Except.bind, eq_comm]

/-- **Entries are enrolled one after the other** if nothing is wrong with any of them and their
identifiers are new. -/
theorem foldlM_enroll_eq_ok_iff {seen seen' : List String} {xs : List (String × Overload)}
    (hseen : seen.Nodup) : xs.foldlM enroll seen = .ok seen' ↔ (∀ x ∈ xs, x.2.fault? = none) ∧
      seen' = (xs.map fun x ↦ x.2.id).reverse ++ seen ∧ seen'.Nodup := by
  induction xs generalizing seen with
  | nil =>
    constructor
    · rintro ⟨⟩
      exact ⟨by simp, rfl, hseen⟩
    · rintro ⟨-, rfl, -⟩
      rfl
  | cons x xs ih =>
    have hids : ((x :: xs).map fun x ↦ x.2.id).reverse ++ seen =
        (xs.map fun x ↦ x.2.id).reverse ++ x.2.id :: seen := by simp
    rw [List.foldlM_cons, Except.bind_eq_ok_iff, List.forall_mem_cons, hids]
    simp only [enroll_eq_ok_iff]
    constructor
    · rintro ⟨_, ⟨hx, hnew, rfl⟩, hxs⟩
      obtain ⟨hfaults, hseen', hnodup⟩ := (ih (List.nodup_cons.2 ⟨hnew, hseen⟩)).1 hxs
      exact ⟨⟨hx, hfaults⟩, hseen', hnodup⟩
    · rintro ⟨⟨hx, hfaults⟩, hseen', hnodup⟩
      -- In the end the identifier stands in front of those seen before, so it is not one of them.
      have hnext : (x.2.id :: seen).Nodup := by
        rw [hseen'] at hnodup
        exact hnodup.of_append_right
      refine ⟨_, ⟨hx, (List.nodup_cons.1 hnext).1, rfl⟩, ?_⟩
      exact (ih hnext).2 ⟨hfaults, hseen', hnodup⟩

/-- **A table is valid if nothing is wrong with any overload and no identifier is used twice.** -/
theorem validate_eq_ok_iff {table : List FunctionDecl} : validate table = .ok () ↔
    (∀ x ∈ entries table, x.2.fault? = none) ∧
      ((entries table).map fun x ↦ x.2.id).Nodup := by
  rw [validate, validateFrom_eq_foldlM, Except.bind_eq_ok_iff]
  simp only [foldlM_enroll_eq_ok_iff List.nodup_nil, List.append_nil]
  constructor
  · rintro ⟨_, ⟨hfaults, rfl, hnodup⟩, -⟩
    exact ⟨hfaults, List.nodup_reverse.1 hnodup⟩
  · rintro ⟨hfaults, hnodup⟩
    exact ⟨_, ⟨hfaults, rfl, List.nodup_reverse.2 hnodup⟩, trivial⟩

/-- **The standard functions are in order.** -/
theorem coherent_table : Coherent Standard.table where
  names := by decide
  ids := (validate_eq_ok_iff.1 Standard.validate_table).2

theorem Plan.coherent_visible (p : Plan) : Coherent p.visible :=
  coherent_table.sublist List.filter_sublist

/-! ## Variables -/

theorem isSome_lookup_iff {β : Type} {l : List (String × β)} {name : String} :
    (l.lookup name).isSome = true ↔ name ∈ l.map Prod.fst := by
  rw [List.lookup_isSome_iff, List.mem_map]
  refine exists_congr fun v ↦ and_congr_right fun _ ↦ ?_
  rw [beq_iff_eq, eq_comm]

/-- Where no name is listed twice, what is found under a name is what is listed with it. -/
theorem lookup_eq_some_iff_mem {β : Type} {l : List (String × β)} (hl : (l.map Prod.fst).Nodup)
    {name : String} {b : β} : l.lookup name = some b ↔ (name, b) ∈ l := by
  constructor
  · intro h
    obtain ⟨before, after, rfl, -⟩ := List.lookup_eq_some_iff.1 h
    simp
  · intro h
    obtain ⟨before, after, rfl⟩ := List.append_of_mem h
    refine List.lookup_eq_some_iff.2 ⟨before, after, rfl, fun v hv ↦ ?_⟩
    rw [List.map_append, List.nodup_append] at hl
    rw [bne_iff_ne]
    exact (hl.2.2 v.1 (List.mem_map_of_mem hv) name (by simp)).symm

/-- Variables can be added if their names are new, and are then all there. -/
theorem foldlM_declareVariable_eq_ok_iff {vs ws xs : List (String × Ty)}
    (hvs : (vs.map Prod.fst).Nodup) : xs.foldlM declareVariable vs = .ok ws ↔
      ((vs ++ xs).map Prod.fst).Nodup ∧ ws = vs ++ xs := by
  induction xs generalizing vs with
  | nil =>
    rw [List.append_nil]
    exact ⟨fun h ↦ ⟨hvs, (Except.ok.inj h).symm⟩, fun h ↦ congrArg Except.ok h.2.symm⟩
  | cons x xs ih =>
    have hsplit : vs ++ x :: xs = vs ++ [x] ++ xs := by
      rw [List.append_assoc, List.singleton_append]
    rw [List.foldlM_cons, declareVariable, hsplit]
    split
    next hold =>
      -- The name is taken, so the names of all variables repeat it.
      refine ⟨fun h ↦ (by cases h), fun h ↦ ?_⟩
      have hbefore : ((vs ++ [x]).map Prod.fst).Nodup :=
        (((List.sublist_append_left (vs ++ [x]) xs)).map _).nodup h.1
      rw [List.map_append, List.nodup_append] at hbefore
      exact absurd rfl (hbefore.2.2 x.1 (isSome_lookup_iff.1 hold) x.1 (by simp))
    next hnew =>
      refine ih ?_
      rw [List.map_append, List.nodup_append]
      refine ⟨hvs, by simp, ?_⟩
      rintro a ha b hb rfl
      rw [List.map_singleton, List.mem_singleton] at hb
      rw [hb] at ha
      exact hnew (isSome_lookup_iff.2 ha)

end Scope

end WhereClause
