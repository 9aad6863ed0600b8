import WhereClause.Proofs.Scope.Declared

/-!
# The map of identifiers

A `Scope.Registry` holds the functions declared so far and a map from the identifiers of overloads
to the names of their functions.  The map is there so that nobody has to go through all overloads to
find out whether an identifier is taken, and it is easy to get out of step with the functions: every
overload that is added has to be added twice.

**The map lists exactly the identifiers of the functions** (`Registry.Consistent`), from the table
of standard functions on (`Registry.consistent_ofTable`) and after every declaration
(`Registry.Consistent.of_foldlM_declare`).  So a look at the map says what a search through the
functions would say, and a registry can be forgotten for its functions (`Scope.Plan.build_eq`).
-/

set_option autoImplicit false

namespace WhereClause.Scope

namespace Registry

/-- The functions are in order, and the map lists the identifiers of their overloads, each with the
name of the function, and no others. -/
structure Consistent (r : Registry) : Prop where
  coherent : Coherent r.functions
  lookup_iff : ∀ {id owner : String}, r.owners.lookup id = some owner ↔
    ∃ o, (owner, o) ∈ entries r.functions ∧ o.id = id

theorem owners_ofTable (fs : List FunctionDecl) :
    (ofTable fs).owners = (entries fs).map fun x ↦ (x.2.id, x.1) := by
  rw [entries, List.map_flatMap]
  simp only [List.map_map]
  rfl

/-- A table in order is a place to start from. -/
theorem consistent_ofTable {fs : List FunctionDecl} (h : Coherent fs) :
    (ofTable fs).Consistent where
  coherent := h
  lookup_iff := by
    intro id owner
    have hkeys : ((ofTable fs).owners.map Prod.fst).Nodup := by
      rw [owners_ofTable, List.map_map]
      exact h.ids
    rw [lookup_eq_some_iff_mem hkeys, owners_ofTable, List.mem_map]
    constructor
    · rintro ⟨x, hx, ⟨⟩⟩
      exact ⟨x.2, hx, rfl⟩
    · rintro ⟨o, ho, rfl⟩
      exact ⟨(owner, o), ho, rfl⟩

variable {r r' : Registry} {name : String} {o : Overload}

/-! ## One overload -/

theorem Consistent.lookup_eq_none_iff (h : r.Consistent) {id : String} :
    r.owners.lookup id = none ↔ ∀ x ∈ entries r.functions, x.2.id ≠ id := by
  rw [← Option.not_isSome_iff_eq_none, Option.isSome_iff_exists]
  simp only [h.lookup_iff]
  constructor
  · exact fun hnone x hx hid ↦ hnone ⟨x.1, x.2, hx, hid⟩
  · rintro hfresh ⟨owner, o, ho, hid⟩
    exact hfresh _ ho hid

/-- An overload that is there already is in the map under its own function. -/
theorem Consistent.owner_eq (h : r.Consistent) {owner : String}
    (hid : r.owners.lookup o.id = some owner) (hhas : hasOverload r.functions name o = true) :
    owner = name := by
  obtain ⟨o', ho', hid'⟩ := h.lookup_iff.1 hid
  have hsame : (owner, o') = (name, o) :=
    h.coherent.compatible _ ho' _ (hasOverload_iff.1 hhas) hid'
  exact congrArg Prod.fst hsame

/-- **The map answers what a search would.** -/
theorem Consistent.map_addOverload (h : r.Consistent) (name : String) (o : Overload) :
    (addOverload name r o).map functions = Scope.addOverload name r.functions o := by
  rw [addOverload, Scope.addOverload]
  cases o.validate name with
  | error e => rfl
  | ok _ =>
    cases hid : r.owners.lookup o.id with
    | none =>
      have hfresh := h.lookup_eq_none_iff.1 hid
      have hnew : ¬ hasOverload r.functions name o = true := fun hhas ↦
        hfresh _ (hasOverload_iff.1 hhas) rfl
      have hunused : ¬ usesId r.functions o.id = true := by
        rw [usesId_iff]
        rintro ⟨x, hx, hxid⟩
        exact hfresh x hx hxid
      simp only [if_neg hnew, if_neg hunused]
      rfl
    | some owner =>
      obtain ⟨o', ho', hid'⟩ := h.lookup_iff.1 hid
      have hused : usesId r.functions o.id = true := usesId_iff.2 ⟨_, ho', hid'⟩
      cases hhas : hasOverload r.functions name o with
      | true =>
        simp only [h.owner_eq hid hhas, beq_self_eq_true, Bool.and_self, if_true]
        rfl
      | false =>
        simp only [Bool.and_false, Bool.false_eq_true, if_false, if_pos hused]
        rfl

/-- A new identifier on the map is found with its function, and the others are found as before. -/
theorem Consistent.lookup_cons_iff (h : r.Consistent) (hnew : r.owners.lookup o.id = none)
    {id owner : String} : ((o.id, name) :: r.owners).lookup id = some owner ↔
      ∃ o', ((owner, o') ∈ entries r.functions ∨ (owner, o') = (name, o)) ∧ o'.id = id := by
  by_cases heq : id = o.id
  · subst heq
    rw [List.lookup_cons_self, Option.some.injEq]
    constructor
    · rintro rfl
      exact ⟨o, .inr rfl, rfl⟩
    · rintro ⟨o', hold | hadded, hid⟩
      · exact absurd hid (h.lookup_eq_none_iff.1 hnew _ hold)
      · cases hadded
        rfl
  · rw [List.lookup_cons, beq_false_of_ne heq]
    dsimp only
    rw [h.lookup_iff]
    constructor
    · rintro ⟨o', ho', hid⟩
      exact ⟨o', .inl ho', hid⟩
    · rintro ⟨o', hold | hadded, hid⟩
      · exact ⟨o', hold, hid⟩
      · cases hadded
        exact absurd hid.symm heq

/-- **An overload is added to both, the functions and the map.** -/
theorem Consistent.of_addOverload (h : r.Consistent)
    (hname : name ∈ r.functions.map FunctionDecl.name) (hadd : addOverload name r o = .ok r') :
    r'.Consistent ∧ r'.functions.map FunctionDecl.name = r.functions.map FunctionDecl.name := by
  have hfunctions : Scope.addOverload name r.functions o = .ok r'.functions := by
    rw [← h.map_addOverload, hadd]
    rfl
  obtain ⟨⟨hcoherent, hnames⟩, hentries⟩ := addOverload_entries h.coherent hname hfunctions
  refine ⟨⟨hcoherent, ?_⟩, hnames⟩
  intro id owner
  rw [addOverload] at hadd
  obtain ⟨-, -, hadd⟩ := Except.bind_eq_ok_iff.1 hadd
  cases hid : r.owners.lookup o.id with
  | some owner' =>
    rw [hid] at hadd
    dsimp only at hadd
    split at hadd
    · cases hadd
      exact h.lookup_iff
    · cases hadd
  | none =>
    rw [hid] at hadd
    cases hadd
    simp only [hentries, List.mem_singleton]
    exact h.lookup_cons_iff hid

/-! ## Whole declarations -/

theorem Consistent.ensure (h : r.Consistent) (name : String) :
    Consistent { r with functions := Scope.ensure r.functions name } where
  coherent := h.coherent.ensure name
  lookup_iff := by
    rw [entries_ensure]
    exact h.lookup_iff

variable {f : FunctionDecl} {ds : List FunctionDecl}

/-- What holds while the overloads of one function are added. -/
private theorem consistent_step (o : Overload) (a b : Registry)
    (ha : a.Consistent ∧ name ∈ a.functions.map FunctionDecl.name)
    (h : addOverload name a o = .ok b) :
    b.Consistent ∧ name ∈ b.functions.map FunctionDecl.name := by
  obtain ⟨hb, hnames⟩ := ha.1.of_addOverload ha.2 h
  exact ⟨hb, hnames ▸ ha.2⟩

theorem Consistent.map_declare (h : r.Consistent) (f : FunctionDecl) :
    (r.declare f).map functions = Scope.declare r.functions f :=
  Except.map_foldlM functions (fun o _ ha ↦ ha.1.map_addOverload f.name o) consistent_step
    f.overloads ⟨h.ensure f.name, (coherent_ensure_and_mem h.coherent f.name).2⟩

theorem Consistent.of_declare (h : r.Consistent) (hr : r.declare f = .ok r') : r'.Consistent :=
  (Except.foldlM_induction (fun o _ ↦ consistent_step o)
    ⟨h.ensure f.name, (coherent_ensure_and_mem h.coherent f.name).2⟩ hr).1

/-- **The map lists exactly the identifiers of the functions**, however much is declared. -/
theorem Consistent.of_foldlM_declare (h : r.Consistent) (hr : ds.foldlM declare r = .ok r') :
    r'.Consistent :=
  Except.foldlM_induction (fun _ _ _ _ ha ↦ ha.of_declare) h hr

/-- **Declarations come to the same with the map and without it.** -/
theorem Consistent.map_foldlM_declare (h : r.Consistent) (ds : List FunctionDecl) :
    (ds.foldlM declare r).map functions = ds.foldlM Scope.declare r.functions :=
  Except.map_foldlM functions (fun f _ ha ↦ ha.map_declare f) (fun _ _ _ ha ↦ ha.of_declare) ds h

end Registry

/-! ## Plans -/

namespace Plan

/-- **A scope is built from what is declared**, without the map. -/
theorem build_eq (p : Plan) : p.build =
    (p.functions.foldlM Scope.declare p.visible).mapError .declaration >>= p.complete := by
  have hmap : _ = p.functions.foldlM Scope.declare p.visible :=
    (Registry.consistent_ofTable p.coherent_visible).map_foldlM_declare p.functions
  rw [build, Standard.load_eq, ← hmap]
  show (p.functions.foldlM Registry.declare (Registry.ofTable p.visible)).mapError _ >>= _ = _
  cases p.functions.foldlM Registry.declare (Registry.ofTable p.visible) <;> rfl

end Plan

end WhereClause.Scope
