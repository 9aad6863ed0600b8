import WhereClause.Proofs.Scope.Built
import WhereClause.Proofs.Text.ByteOrder

/-!
# When a plan has a scope, and why it has none

`Scope.Plan.exists_build_iff` says when a scope can be built.  This file adds which error there is
if it cannot.  A plan is gone through from front to back, first its declarations, then the names it
allows, then its variables, and the error is about the first thing at fault.

Whether an overload is at fault depends on the ones before it, and these stand in declarations of
their own and in the first part of its own declaration.  Cut off there, the declarations are again
declarations (`entries_eq_append_cons_iff`), and nothing in them is at fault; so what they come to
is known already (`foldlM_declare_entries`), and the overload is held against that
(`addOverload_eq_error_iff`).
-/

set_option autoImplicit false

/-- An element of two lists put together stands in the second list or in the first. -/
theorem List.append_eq_append_cons_iff {α : Type} {l m before after : List α} {x : α} :
    l ++ m = before ++ x :: after ↔ (∃ rest, before = l ++ rest ∧ m = rest ++ x :: after) ∨
      ∃ rest, l = before ++ x :: rest ∧ after = rest ++ m := by
  rw [List.append_eq_append_iff]
  constructor
  · rintro (h | ⟨rest, rfl, h⟩)
    · exact .inl h
    · rcases List.cons_eq_append_iff.1 h with ⟨rfl, rfl⟩ | ⟨rest, rfl, rfl⟩
      · exact .inl ⟨[], by simp, rfl⟩
      · exact .inr ⟨rest, rfl, rfl⟩
  · rintro (h | ⟨rest, rfl, rfl⟩)
    · exact .inl h
    · exact .inr ⟨x :: rest, rfl, rfl⟩

namespace WhereClause

open Text (utf8 le_iff_utf8_le)

/-- **The first member with a property is the smallest one**, also by the bytes of the names. -/
theorem NameSet.find?_eq_some_iff {s : NameSet} {P : String → Bool} {n : String} :
    s.names.find? P = some n ↔
      n ∈ s ∧ P n = true ∧ ∀ m ∈ s, P m = true → utf8 n.toList ≤ utf8 m.toList := by
  have hleast : ∀ k, s.names.find? P = some k → ∀ m ∈ s, P m = true → k ≤ m := by
    intro k hk m hm hPm
    obtain ⟨-, before, after, hsplit, hbefore⟩ := List.find?_eq_some_iff_append.1 hk
    rw [mem_def, hsplit, List.mem_append, List.mem_cons] at hm
    rcases hm with hm | rfl | hm
    · simpa [hPm] using hbefore m hm
    · exact String.le_refl m
    · have hsorted := s.sorted
      rw [hsplit, List.pairwise_append, List.pairwise_cons] at hsorted
      exact String.not_lt.1 (String.lt_asymm (hsorted.2.1.1 m hm))
  simp only [← le_iff_utf8_le]
  constructor
  · intro h
    exact ⟨List.mem_of_find?_eq_some h, List.find?_some h, hleast n h⟩
  · rintro ⟨hn, hPn, hmin⟩
    have hsome : (s.names.find? P).isSome = true := List.find?_isSome.2 ⟨n, hn, hPn⟩
    obtain ⟨k, hk⟩ := Option.isSome_iff_exists.1 hsome
    have hle : n ≤ k := hmin k (List.mem_of_find?_eq_some hk) (List.find?_some hk)
    rw [hk, String.le_antisymm (hleast k hk n hn hPn) hle]

/-- An overload has an identifier, and if it is a method, something it is a method of. -/
def Overload.WellFormed (o : Overload) : Prop :=
  o.id ≠ "" ∧ (o.member = true → o.params ≠ [])

instance (o : Overload) : Decidable o.WellFormed :=
  inferInstanceAs (Decidable (_ ∧ _))

theorem Overload.fault?_eq_none_iff {o : Overload} : o.fault? = none ↔ o.WellFormed := by
  rw [fault?, WellFormed]
  split
  · simp_all
  · split <;> simp_all

/-- A missing identifier is found before a missing receiver. -/
theorem Overload.fault?_eq_some_iff {o : Overload} {fault : OverloadFault} :
    o.fault? = some fault ↔ (o.id = "" ∧ fault = .emptyId) ∨
      o.id ≠ "" ∧ o.member = true ∧ o.params = [] ∧ fault = .missingReceiver := by
  constructor
  · intro h
    rw [fault?] at h
    split at h
    next hid =>
      cases h
      exact .inl ⟨hid, rfl⟩
    next hid =>
      split at h
      next hmember =>
        cases h
        rw [Bool.and_eq_true, List.isEmpty_iff] at hmember
        exact .inr ⟨hid, hmember.1, hmember.2, rfl⟩
      next => cases h
  · rintro (⟨hid, rfl⟩ | ⟨hid, hmember, hparams, rfl⟩)
    · exact if_pos hid
    · simp [fault?, hid, hmember, hparams]

namespace Scope

/-! ## One overload -/

/-- What is wrong with an overload, given the ones that are declared before it. -/
inductive Offends (known : List (String × Overload)) : String × Overload → DeclarationError → Prop
  /-- It has no identifier. -/
  | emptyId {name : String} {o : Overload} (hid : o.id = "") :
    Offends known (name, o) (.invalidOverload name o.id .emptyId)
  /-- It is a method of nothing. -/
  | missingReceiver {name : String} {o : Overload} (hid : o.id ≠ "") (hmember : o.member = true)
      (hparams : o.params = []) :
    Offends known (name, o) (.invalidOverload name o.id .missingReceiver)
  /-- It is well formed, but its identifier belongs to another one. -/
  | duplicate {name : String} {o : Overload} {y : String × Overload} (hformed : o.WellFormed)
      (hy : y ∈ known) (hid : y.2.id = o.id) (hne : y ≠ (name, o)) :
    Offends known (name, o) (.duplicateOverload name o.id)

/-- Overloads that can be declared after the ones that are known. -/
structure Declarable (known xs : List (String × Overload)) : Prop where
  wellFormed : ∀ x ∈ xs, x.2.WellFormed
  compatible : Compatible (known ++ xs)

section Declarations

variable {fs gs ds : List FunctionDecl} {name : String} {o : Overload} {e : DeclarationError}
  {known known' : List (String × Overload)} {x : String × Overload}

/-- What is wrong with an overload stays wrong when more is known. -/
theorem Offends.mono (h : Offends known x e) (hsub : known ⊆ known') : Offends known' x e := by
  cases h with
  | emptyId hid => exact .emptyId hid
  | missingReceiver hid hmember hparams => exact .missingReceiver hid hmember hparams
  | duplicate hformed hy hid hne => exact .duplicate hformed (hsub hy) hid hne

theorem offends_of_fault? {fault : OverloadFault} (h : o.fault? = some fault) :
    Offends known (name, o) (.invalidOverload name o.id fault) := by
  rcases Overload.fault?_eq_some_iff.1 h with ⟨hid, rfl⟩ | ⟨hid, hmember, hparams, rfl⟩
  · exact .emptyId hid
  · exact .missingReceiver hid hmember hparams

/-- **An overload that cannot be added is at fault**, and the error says in what way. -/
theorem addOverload_eq_error_iff (hfs : Coherent fs) :
    addOverload name fs o = .error e ↔ Offends (entries fs) (name, o) e := by
  constructor
  · intro h
    rw [addOverload, Except.bind_eq_error_iff, Overload.validate] at h
    cases hfault : o.fault? with
    | some fault =>
      rw [hfault] at h
      rcases h with ⟨⟨⟩⟩ | ⟨_, ⟨⟩, -⟩
      exact offends_of_fault? hfault
    | none =>
      rw [hfault] at h
      rcases h with ⟨⟨⟩⟩ | ⟨-, -, h⟩
      split at h
      · cases h
      next hnew =>
        split at h
        next hused =>
          cases h
          obtain ⟨y, hy, hid⟩ := usesId_iff.1 hused
          refine .duplicate (Overload.fault?_eq_none_iff.1 hfault) hy hid ?_
          rintro rfl
          exact hnew (hasOverload_iff.2 hy)
        next => cases h
  · intro h
    rw [addOverload, Overload.validate]
    cases h with
    | emptyId hid =>
      rw [Overload.fault?_eq_some_iff.2 (.inl ⟨hid, rfl⟩)]
      rfl
    | missingReceiver hid hmember hparams =>
      rw [Overload.fault?_eq_some_iff.2 (.inr ⟨hid, hmember, hparams, rfl⟩)]
      rfl
    | duplicate hformed hy hid hne =>
      have hnew : ¬ hasOverload fs name o = true := fun hhas ↦
        hne (hfs.compatible _ hy _ (hasOverload_iff.1 hhas) hid)
      rw [Overload.fault?_eq_none_iff.2 hformed]
      exact (if_neg hnew).trans (if_pos (usesId_iff.2 ⟨_, hy, hid⟩))

/-! ## All declarations -/

/-- **Declarations cut off before an overload are declarations again.** -/
theorem entries_eq_append_cons_iff {before after : List (String × Overload)} :
    entries ds = before ++ x :: after ↔ ∃ ds₁ f ds₂ os os₂, ds = ds₁ ++ f :: ds₂ ∧
      f.overloads = os ++ x.2 :: os₂ ∧ f.name = x.1 ∧
      before = entries (ds₁ ++ [{ f with overloads := os }]) ∧
      after = entries ({ f with overloads := os₂ } :: ds₂) := by
  constructor
  · intro h
    induction ds generalizing before with
    | nil => simp [entries] at h
    | cons f ds ih =>
      rw [entries_cons, List.append_eq_append_cons_iff] at h
      rcases h with ⟨rest, rfl, hrest⟩ | ⟨rest, hfirst, rfl⟩
      · obtain ⟨ds₁, g, ds₂, os, os₂, rfl, hoverloads, hname, rfl, rfl⟩ := ih hrest
        exact ⟨f :: ds₁, g, ds₂, os, os₂, rfl, hoverloads, hname, rfl, rfl⟩
      · obtain ⟨os, os', hos, rfl, hos'⟩ := List.map_eq_append_iff.1 hfirst
        obtain ⟨o, os₂, rfl, rfl, rfl⟩ := List.map_eq_cons_iff.1 hos'
        exact ⟨[], f, ds, os, os₂, rfl, hos, rfl, by simp [entries], rfl⟩
  · rintro ⟨ds₁, f, ds₂, os, os₂, rfl, hoverloads, hname, rfl, rfl⟩
    simp [entries, hoverloads, hname]

theorem declarable_iff (hfs : Coherent fs) :
    Declarable (entries fs) (entries ds) ↔ ∃ gs, ds.foldlM declare fs = .ok gs := by
  rw [exists_foldlM_declare_iff hfs]
  simp only [Overload.fault?_eq_none_iff]
  exact ⟨fun h ↦ ⟨h.wellFormed, h.compatible⟩, fun h ↦ ⟨h.1, h.2⟩⟩

/-- **Declarations fail at the first overload at fault.** -/
theorem foldlM_declare_eq_error_iff (hfs : Coherent fs) :
    ds.foldlM declare fs = .error e ↔ ∃ before x after, entries ds = before ++ x :: after ∧
      Declarable (entries fs) before ∧ Offends (entries fs ++ before) x e := by
  have hknown : ∀ ds' gs, ds'.foldlM declare fs = .ok gs → ∀ x,
      addOverload x.1 gs x.2 = .error e ↔ Offends (entries fs ++ entries ds') x e := by
    intro ds' gs hgs x
    obtain ⟨hcoherent, hentries⟩ := foldlM_declare_entries hfs hgs
    rw [addOverload_eq_error_iff hcoherent]
    have hmem : ∀ y, y ∈ entries gs ↔ y ∈ entries fs ++ entries ds' := by
      intro y
      rw [hentries, List.mem_append]
    exact ⟨fun h ↦ h.mono fun y hy ↦ (hmem y).1 hy, fun h ↦ h.mono fun y hy ↦ (hmem y).2 hy⟩
  constructor
  · intro h
    obtain ⟨ds₁, f, ds₂, gs, rfl, hds₁, hf⟩ := Except.foldlM_eq_error_iff.1 h
    obtain ⟨os, o, os₂, hs, hoverloads, hos, ho⟩ := Except.foldlM_eq_error_iff.1 hf
    have hcut : (ds₁ ++ [{ f with overloads := os }]).foldlM declare fs = .ok hs :=
      Except.foldlM_concat_eq_ok_iff.2 ⟨gs, hds₁, hos⟩
    refine ⟨_, (f.name, o), _, entries_eq_append_cons_iff.2
      ⟨ds₁, f, ds₂, os, os₂, rfl, hoverloads, rfl, rfl, rfl⟩, (declarable_iff hfs).2 ⟨hs, hcut⟩, ?_⟩
    exact (hknown _ _ hcut (f.name, o)).1 ho
  · rintro ⟨before, x, after, hentries, hbefore, hx⟩
    obtain ⟨ds₁, f, ds₂, os, os₂, rfl, hoverloads, hname, rfl, rfl⟩ :=
      entries_eq_append_cons_iff.1 hentries
    obtain ⟨hs, hcut⟩ := (declarable_iff hfs).1 hbefore
    obtain ⟨gs, hds₁, hos⟩ := Except.foldlM_concat_eq_ok_iff.1 hcut
    have ho := (hknown _ _ hcut x).2 hx
    refine Except.foldlM_eq_error_iff.2 ⟨ds₁, f, ds₂, gs, rfl, hds₁, ?_⟩
    exact Except.foldlM_eq_error_iff.2 ⟨os, x.2, os₂, hs, hoverloads, hos, hname ▸ ho⟩

end Declarations

/-! ## Variables -/

theorem declareVariable_eq_error_iff {vs : List (String × Ty)} {v : String × Ty} {e : ScopeError} :
    declareVariable vs v = .error e ↔ v.1 ∈ vs.map Prod.fst ∧ e = .duplicateVariable v.1 := by
  rw [declareVariable, ← isSome_lookup_iff]
  split
  next h => simp [h, eq_comm]
  next h => simp [h]

/-- **Variables fail at the first name that is there already.** -/
theorem foldlM_declareVariable_eq_error_iff {vs xs : List (String × Ty)} {e : ScopeError}
    (hvs : (vs.map Prod.fst).Nodup) : xs.foldlM declareVariable vs = .error e ↔
      ∃ before v after, xs = before ++ v :: after ∧ ((vs ++ before).map Prod.fst).Nodup ∧
        v.1 ∈ (vs ++ before).map Prod.fst ∧ e = .duplicateVariable v.1 := by
  rw [Except.foldlM_eq_error_iff]
  simp only [foldlM_declareVariable_eq_ok_iff hvs, declareVariable_eq_error_iff]
  constructor
  · rintro ⟨before, v, after, _, hxs, ⟨hnodup, rfl⟩, hv⟩
    exact ⟨before, v, after, hxs, hnodup, hv⟩
  · rintro ⟨before, v, after, hxs, hnodup, hv⟩
    exact ⟨before, v, after, _, hxs, ⟨hnodup, rfl⟩, hv⟩

/-! ## Plans -/

namespace Plan

variable {p : Plan} {e : ScopeError}

/-- A function of this name is a standard one, or declared besides. -/
def Declares (p : Plan) (name : String) : Prop :=
  name ∈ Standard.table.map FunctionDecl.name ∨ name ∈ p.functions.map FunctionDecl.name

/-- Why a plan has no scope.  What is at fault is the first of its kind, and nothing of the kinds
before it is. -/
inductive Refuses (p : Plan) : ScopeError → Prop
  /-- An overload is at fault, and none of the overloads before it. -/
  | declaration {before after : List (String × Overload)} {x : String × Overload}
      {e : DeclarationError} (hsplit : entries p.functions = before ++ x :: after)
      (hbefore : Declarable (entries p.visible) before)
      (hx : Offends (entries p.visible ++ before) x e) : Refuses p (.declaration e)
  /-- A name is allowed and not declared, and so is none that is smaller. -/
  | unknownFunction {name : String}
      (hfunctions : Declarable (entries p.visible) (entries p.functions))
      (hname : name ∈ p.allowed) (hunknown : ¬ p.Declares name)
      (hleast : ∀ m ∈ p.allowed, ¬ p.Declares m → utf8 name.toList ≤ utf8 m.toList) :
    Refuses p (.unknownFunction name)
  /-- A variable has the name of the subject or of one before it, and none before it has. -/
  | duplicateVariable {before after : List (String × Ty)} {v : String × Ty}
      (hfunctions : Declarable (entries p.visible) (entries p.functions))
      (hallowed : ∀ name ∈ p.allowed, p.Declares name)
      (hsplit : p.bindings = before ++ v :: after)
      (hbefore : (p.subject :: before.map Prod.fst).Nodup)
      (hv : v.1 ∈ p.subject :: before.map Prod.fst) : Refuses p (.duplicateVariable v.1)

theorem declares_iff_of_mem {name : String} (h : name ∈ p.allowed) :
    p.Declares name ↔ name ∈ p.visible.map FunctionDecl.name ∨
      name ∈ p.functions.map FunctionDecl.name := by
  have hvisible : name ∈ p.visible.map FunctionDecl.name ↔
      name ∈ Standard.table.map FunctionDecl.name := by
    simp only [visible, List.mem_map, List.mem_filter, NameSet.contains_iff]
    constructor
    · rintro ⟨f, ⟨hf, -⟩, hname⟩
      exact ⟨f, hf, hname⟩
    · rintro ⟨f, hf, rfl⟩
      exact ⟨f, ⟨hf, h⟩, rfl⟩
  rw [Declares, hvisible]

section Allowed

variable {fs : List FunctionDecl}

theorem not_declares_iff_of_mem (h : p.functions.foldlM declare p.visible = .ok fs) {name : String}
    (hname : name ∈ p.allowed) : (!declares fs name) = true ↔ ¬ p.Declares name := by
  rw [Bool.not_eq_true', ← Bool.not_eq_true, declares_iff,
    mem_names_of_foldlM_declare p.coherent_visible h, declares_iff_of_mem hname]

theorem find?_not_declares_eq_none_iff (h : p.functions.foldlM declare p.visible = .ok fs) :
    (p.allowed.names.find? fun name ↦ !declares fs name) = none ↔
      ∀ name ∈ p.allowed, p.Declares name := by
  rw [List.find?_eq_none]
  refine forall₂_congr fun name hname ↦ ?_
  rw [not_declares_iff_of_mem h hname, not_not]

/-- **The first name that is missing is the smallest one that is.** -/
theorem find?_not_declares_eq_some_iff (h : p.functions.foldlM declare p.visible = .ok fs)
    {name : String} : (p.allowed.names.find? fun name ↦ !declares fs name) = some name ↔
      name ∈ p.allowed ∧ ¬ p.Declares name ∧
        ∀ m ∈ p.allowed, ¬ p.Declares m → utf8 name.toList ≤ utf8 m.toList := by
  rw [NameSet.find?_eq_some_iff]
  refine and_congr_right fun hname ↦ and_congr (not_declares_iff_of_mem h hname) ?_
  exact forall₂_congr fun m hm ↦ imp_congr_left (not_declares_iff_of_mem h hm)

end Allowed

/-- **A plan fails with the errors that it is refused for.** -/
theorem build_eq_error_iff : p.build = .error e ↔ p.Refuses e := by
  have hvariables : p.bindings.foldlM declareVariable [(p.subject, .dyn)] = .error e ↔
      ∃ before v after, p.bindings = before ++ v :: after ∧
        (p.subject :: before.map Prod.fst).Nodup ∧ v.1 ∈ p.subject :: before.map Prod.fst ∧
          e = .duplicateVariable v.1 :=
    foldlM_declareVariable_eq_error_iff (by simp)
  rw [build_eq, Except.bind_eq_error_iff, Except.mapError_eq_error_iff]
  simp only [Except.mapError_eq_ok_iff]
  constructor
  · rintro (⟨d, hd, rfl⟩ | ⟨fs, hfs, h⟩)
    · obtain ⟨before, x, after, hsplit, hbefore, hx⟩ :=
        (foldlM_declare_eq_error_iff p.coherent_visible).1 hd
      exact .declaration hsplit hbefore hx
    · have hfunctions := (declarable_iff p.coherent_visible).2 ⟨fs, hfs⟩
      rw [complete] at h
      split at h
      next name hfind =>
        cases h
        obtain ⟨hname, hunknown, hleast⟩ := (find?_not_declares_eq_some_iff hfs).1 hfind
        exact .unknownFunction hfunctions hname hunknown hleast
      next hfind =>
        have hallowed := (find?_not_declares_eq_none_iff hfs).1 hfind
        rcases Except.bind_eq_error_iff.1 h with hbindings | ⟨_, -, ⟨⟩⟩
        obtain ⟨before, v, after, hsplit, hbefore, hv, rfl⟩ := hvariables.1 hbindings
        exact .duplicateVariable hfunctions hallowed hsplit hbefore hv
  · rintro (⟨hsplit, hbefore, hx⟩ | ⟨hfunctions, hname, hunknown, hleast⟩ |
      ⟨hfunctions, hallowed, hsplit, hbefore, hv⟩)
    · exact .inl ⟨_, (foldlM_declare_eq_error_iff p.coherent_visible).2
        ⟨_, _, _, hsplit, hbefore, hx⟩, rfl⟩
    · obtain ⟨fs, hfs⟩ := (declarable_iff p.coherent_visible).1 hfunctions
      refine .inr ⟨fs, hfs, ?_⟩
      rw [complete, (find?_not_declares_eq_some_iff hfs).2 ⟨hname, hunknown, hleast⟩]
      rfl
    · obtain ⟨fs, hfs⟩ := (declarable_iff p.coherent_visible).1 hfunctions
      refine .inr ⟨fs, hfs, ?_⟩
      rw [complete, (find?_not_declares_eq_none_iff hfs).2 hallowed]
      exact Except.bind_eq_error_iff.2 (.inl (hvariables.2 ⟨_, _, _, hsplit, hbefore, hv, rfl⟩))

/-- Two names are missing and a variable is there twice. -/
example : build { default with
    allowed := .ofList ["size", "zip", "all"]
    bindings := [("v", .dyn), ("v", .dyn)] } = .error (.unknownFunction "all") := by
  rw [build_eq]
  decide +kernel

end Plan

end Scope

end WhereClause
