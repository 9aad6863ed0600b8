import WhereClause.Proofs.Scope.Verdict

/-!
# The exact contents of a scope

`Scope.Plan.contents_of_build` says which overloads are in a scope.  This file says in which order
each function has them, and what else there is to know about a scope that was built.

The view is that of one name at a time.  `overloadsOf` lists the overloads that declarations have
for a name, from front to back, however many declarations there are for it.  Adding an overload puts
it at the end of the list of its name, unless it stands there already, and leaves all other lists
alone (`overloadsOf_of_addOverload`); so all declarations together add the overloads of each name
one after the other (`overloadsOf_of_foldlM_declare`).  What that comes to has nothing to do with
scopes any more (`foldl_withOverload`): the ones that were there, and then the new ones, each once.
-/

set_option autoImplicit false

namespace WhereClause

namespace Scope

/-! ## The overloads of one name -/

/-- The overloads that declarations have for a name, in the order of the declarations. -/
def overloadsOf (fs : List FunctionDecl) (name : String) : List Overload :=
  fs.flatMap fun f ↦ if f.name = name then f.overloads else []

/-- Overloads with one more at the end, unless it is there. -/
def withOverload (os : List Overload) (o : Overload) : List Overload :=
  if o ∈ os then os else os ++ [o]

section OverloadsOf

variable {fs gs ds : List FunctionDecl} {f : FunctionDecl} {name n : String} {o : Overload}

theorem mem_overloadsOf : o ∈ overloadsOf fs name ↔ (name, o) ∈ entries fs := by
  rw [mem_entries, overloadsOf, List.mem_flatMap]
  refine exists_congr fun f ↦ and_congr_right fun _ ↦ ?_
  split
  next h => simp [h]
  next h => simp [h]

theorem overloadsOf_cons (f : FunctionDecl) (fs : List FunctionDecl) (name : String) :
    overloadsOf (f :: fs) name = (if f.name = name then f.overloads else []) ++
      overloadsOf fs name :=
  List.flatMap_cons

theorem overloadsOf_of_not_mem (h : name ∉ fs.map FunctionDecl.name) :
    overloadsOf fs name = [] := by
  refine List.flatMap_eq_nil_iff.2 fun f hf ↦ if_neg ?_
  rintro rfl
  exact h (List.mem_map_of_mem hf)

/-- Where every name is declared once, the overloads of a name are those of its function. -/
theorem overloadsOf_of_mem (hnames : (fs.map FunctionDecl.name).Nodup) (hf : f ∈ fs) :
    overloadsOf fs f.name = f.overloads := by
  induction fs with
  | nil => cases hf
  | cons g fs ih =>
    rw [List.map_cons, List.nodup_cons] at hnames
    rw [overloadsOf_cons]
    rcases List.mem_cons.1 hf with rfl | hf
    · rw [if_pos rfl, overloadsOf_of_not_mem hnames.1, List.append_nil]
    · have hne : g.name ≠ f.name := fun heq ↦ hnames.1 (heq ▸ List.mem_map_of_mem hf)
      rw [if_neg hne, ih hnames.2 hf, List.nil_append]

/-- Where functions are left out by their names, a name has all its overloads or none. -/
theorem overloadsOf_filter (fs : List FunctionDecl) (keep : String → Bool) (name : String) :
    overloadsOf (fs.filter fun f ↦ keep f.name) name =
      if keep name then overloadsOf fs name else [] := by
  induction fs with
  | nil => simp [overloadsOf]
  | cons f fs ih =>
    by_cases hname : f.name = name
    · subst hname
      cases hkeep : keep f.name with
      | true => simp [hkeep, overloadsOf_cons, ih]
      | false => simp [hkeep, ih]
    · cases hkeep : keep f.name with
      | true => simp [hkeep, overloadsOf_cons, ih, hname]
      | false => simp [hkeep, overloadsOf_cons, ih, hname]

theorem overloadsOf_ensure (fs : List FunctionDecl) (name n : String) :
    overloadsOf (ensure fs name) n = overloadsOf fs n := by
  rw [ensure]
  split
  · rfl
  · simp [overloadsOf]

/-- An overload that is appended is the last of its name. -/
theorem overloadsOf_appendOverload (hnames : (fs.map FunctionDecl.name).Nodup)
    (hname : name ∈ fs.map FunctionDecl.name) :
    overloadsOf (appendOverload fs name o) n =
      overloadsOf fs n ++ if name = n then [o] else [] := by
  induction fs with
  | nil => cases hname
  | cons f fs ih =>
    rw [List.map_cons, List.nodup_cons] at hnames
    by_cases hf : f.name = name
    · subst hf
      have hhead : appendOverload (f :: fs) f.name o =
          { f with overloads := f.overloads ++ [o] } :: appendOverload fs f.name o := by
        simp [appendOverload]
      rw [hhead, appendOverload_of_not_mem hnames.1, overloadsOf_cons, overloadsOf_cons]
      by_cases hn : f.name = n
      · subst hn
        simp [overloadsOf_of_not_mem hnames.1]
      · simp [hn]
    · have hhead : appendOverload (f :: fs) name o = f :: appendOverload fs name o := by
        simp [appendOverload, hf]
      have hmem : name ∈ fs.map FunctionDecl.name :=
        (List.mem_cons.1 hname).resolve_left (Ne.symm hf)
      rw [hhead, overloadsOf_cons, overloadsOf_cons, ih hnames.2 hmem, List.append_assoc]

/-! ## Adding declarations -/

/-- **Adding an overload** puts it behind the others of its name, unless it is one of them. -/
theorem overloadsOf_of_addOverload (hfs : Coherent fs) (hname : name ∈ fs.map FunctionDecl.name)
    (h : addOverload name fs o = .ok gs) :
    overloadsOf gs n = (if name = n then [o] else []).foldl withOverload (overloadsOf fs n) := by
  obtain ⟨-, ⟨hhas, rfl⟩ | ⟨hfresh, rfl⟩⟩ := addOverload_eq_ok_iff.1 h
  · split
    next heq =>
      subst heq
      exact (if_pos (mem_overloadsOf.2 hhas)).symm
    next => rfl
  · rw [overloadsOf_appendOverload hfs.names hname]
    split
    next heq =>
      subst heq
      have hnew : o ∉ overloadsOf fs name := fun ho ↦ hfresh _ (mem_overloadsOf.1 ho) rfl
      exact (if_neg hnew).symm
    next => exact List.append_nil _

/-- **A declaration adds its overloads** one after the other. -/
theorem overloadsOf_of_declare (hfs : Coherent fs) (h : declare fs f = .ok gs) :
    overloadsOf gs n = (overloadsOf [f] n).foldl withOverload (overloadsOf fs n) := by
  obtain ⟨-, hview⟩ := Except.view_of_foldlM
    (P := fun fs' ↦ Coherent fs' ∧ f.name ∈ fs'.map FunctionDecl.name)
    (fun fs' ↦ overloadsOf fs' n) withOverload (fun o ↦ if f.name = n then [o] else [])
    (fun o a b ha hstep ↦ by
      obtain ⟨⟨hb, hnames⟩, -⟩ := addOverload_entries ha.1 ha.2 hstep
      exact ⟨⟨hb, hnames ▸ ha.2⟩, overloadsOf_of_addOverload ha.1 ha.2 hstep⟩)
    (coherent_ensure_and_mem hfs f.name) h
  rw [hview, overloadsOf_ensure]
  congr 1
  rw [overloadsOf_cons]
  split
  · simp [overloadsOf]
  · simp [overloadsOf]

/-- **All declarations add their overloads** one after the other. -/
theorem overloadsOf_of_foldlM_declare (hfs : Coherent fs) (h : ds.foldlM declare fs = .ok gs) :
    overloadsOf gs n = (overloadsOf ds n).foldl withOverload (overloadsOf fs n) := by
  obtain ⟨-, hview⟩ := Except.view_of_foldlM (P := Coherent) (fun fs' ↦ overloadsOf fs' n)
    withOverload (fun f ↦ overloadsOf [f] n)
    (fun f a b ha hstep ↦ ⟨(declare_entries ha hstep).1, overloadsOf_of_declare ha hstep⟩) hfs h
  rw [hview]
  simp [overloadsOf]

/-- Overloads added one after the other come behind the ones that are there, without those that are
there or were added before. -/
theorem foldl_withOverload (os news : List Overload) :
    news.foldl withOverload os = os ++ (news.removeAll os).eraseDups := by
  induction news generalizing os with
  | nil => simp
  | cons o news ih =>
    rw [List.foldl_cons, ih, List.cons_removeAll, withOverload]
    by_cases hos : o ∈ os
    · simp [hos]
    · have hrest : news.removeAll (os ++ [o]) = (news.removeAll os).filter fun b ↦ !b == o := by
        rw [List.removeAll, List.removeAll, List.filter_filter]
        refine List.filter_congr fun b _ ↦ ?_
        rw [Bool.eq_iff_iff]
        simp [and_comm]
      simp [hos, hrest, List.eraseDups_cons]

end OverloadsOf

/-! ## Built scopes -/

namespace Plan

variable {p : Plan} {s : Scope}

/-- Every overload of a scope is well formed, whether it is a standard one or not. -/
theorem wellFormed_of_build (h : p.build = .ok s) : ∀ x ∈ entries s.functions, x.2.WellFormed := by
  intro x hx
  obtain ⟨-, -, hentries, -⟩ := contents_of_build h
  rcases (hentries x).1 hx with hvisible | hdeclared
  · have hsub : (entries p.visible).Sublist (entries Standard.table) :=
      entries_sublist List.filter_sublist
    have hfaults := (validate_eq_ok_iff.1 Standard.validate_table).1
    exact Overload.fault?_eq_none_iff.1 (hfaults x (hsub.mem hvisible))
  · obtain ⟨⟨hformed, -⟩, -⟩ := exists_build_iff.1 ⟨s, h⟩
    exact Overload.fault?_eq_none_iff.1 (hformed x hdeclared)

/-- What is allowed is declared, so the names of a scope are the ones allowed and the ones declared
besides. -/
theorem mem_names_of_build (h : p.build = .ok s) {name : String} :
    name ∈ s.functions.map FunctionDecl.name ↔
      name ∈ p.allowed ∨ name ∈ p.functions.map FunctionDecl.name := by
  obtain ⟨-, hnames, -⟩ := contents_of_build h
  obtain ⟨-, hallowed, -, -⟩ := build_eq_ok_iff.1 h
  constructor
  · intro hname
    refine ((hnames name).1 hname).imp_left fun hvisible ↦ ?_
    obtain ⟨f, hf, rfl⟩ := List.mem_map.1 hvisible
    exact NameSet.contains_iff.1 (List.mem_filter.1 hf).2
  · rintro (hname | hname)
    · exact declares_iff.1 (hallowed name hname)
    · exact (hnames name).2 (.inr hname)

/-- The standard overloads of a name that a scope starts from. -/
def standardOverloads (p : Plan) (name : String) : List Overload :=
  if name ∈ p.allowed then overloadsOf Standard.table name else []

theorem overloadsOf_visible (p : Plan) (name : String) :
    overloadsOf p.visible name = p.standardOverloads name := by
  rw [visible, overloadsOf_filter, standardOverloads]
  simp

/-- **What is in a scope.** -/
theorem exact_of_build (h : p.build = .ok s) :
    ((s.functions.map FunctionDecl.name).Nodup ∧
      ∀ name, name ∈ s.functions.map FunctionDecl.name ↔
        name ∈ p.allowed ∨ name ∈ p.functions.map FunctionDecl.name) ∧
    (∀ f ∈ s.functions, s.function? f.name = some f ∧
      f.overloads = p.standardOverloads f.name ++
        ((overloadsOf p.functions f.name).removeAll (p.standardOverloads f.name)).eraseDups) ∧
    ((entries s.functions).map fun x ↦ x.2.id).Nodup ∧
    (∀ x ∈ entries s.functions, x.2.id ≠ "" ∧ (x.2.member = true → x.2.params ≠ [])) ∧
    s.subject = p.subject ∧ (s.bindings.map Prod.fst).Nodup ∧
    ∀ v, v ∈ s.bindings ↔ v = (p.subject, .dyn) ∨ v ∈ p.bindings := by
  obtain ⟨hcoherent, -, -, hvariables, hbindings, hsubject⟩ := contents_of_build h
  obtain ⟨hfunctions, -⟩ := build_eq_ok_iff.1 h
  refine ⟨⟨hcoherent.names, fun name ↦ mem_names_of_build h⟩, fun f hf ↦ ⟨?_, ?_⟩, hcoherent.ids,
    wellFormed_of_build h, hsubject, hvariables, fun v ↦ ?_⟩
  · exact hcoherent.declared?_eq_some_iff.2 ⟨hf, rfl⟩
  · rw [← overloadsOf_of_mem hcoherent.names hf,
      overloadsOf_of_foldlM_declare p.coherent_visible hfunctions, foldl_withOverload,
      overloadsOf_visible]
  · rw [hbindings, List.mem_cons]

/-- A standard function that is visible is declared twice, repeating a standard overload and one of
its own; and a standard function that is not visible is declared too. -/
theorem exact_of_build_repeated :
    ∃ s, build { default with
        allowed := .ofList ["contains"]
        functions := [
          ⟨"contains", [⟨"contains_row", [.dyn, .dyn], .bool, true⟩,
            ⟨"contains_string", [.string, .string], .bool, true⟩]⟩,
          ⟨"size", [⟨"size_row", [.dyn], .int, false⟩]⟩,
          ⟨"contains", [⟨"contains_row", [.dyn, .dyn], .bool, true⟩]⟩]
        bindings := [("me", .string)] } = .ok s ∧
      (∀ f ∈ s.functions, f.name = "contains" →
        f.overloads.map Overload.id = ["contains_string", "contains_row"]) ∧
      (∀ f ∈ s.functions, f.name = "size" → f.overloads.map Overload.id = ["size_row"]) ∧
      ∀ v, v ∈ s.bindings ↔ v = ("i", .dyn) ∨ v ∈ [("me", .string)] := by
  refine (Except.exists_eq_ok ?_).imp fun s hs ↦ ⟨hs, ?_⟩
  · rw [build_eq]
    decide +kernel
  · obtain ⟨-, hoverloads, -, -, -, -, hbindings⟩ := exact_of_build hs
    refine ⟨fun f hf hname ↦ ?_, fun f hf hname ↦ ?_, hbindings⟩
    · rw [(hoverloads f hf).2, hname]
      decide +kernel
    · rw [(hoverloads f hf).2, hname]
      decide +kernel

end Plan

end Scope

end WhereClause
