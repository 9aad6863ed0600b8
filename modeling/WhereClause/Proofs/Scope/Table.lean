import WhereClause.Proofs.Scope.Verdict

/-!
# When a table of declarations is valid

`validate` goes through the functions of a table and, for each of them, through its overloads, and
keeps the identifiers it has seen.  It stops at the first overload that is malformed or has an
identifier of an earlier one, in the same function or in another.

Seen from outside there are no functions and no loops, only the list of entries, and of this list
`InOrder` says what a valid table is: something about each entry, and something about every two.
That the loops find out exactly this was said in `validate_eq_ok_iff`; here is the other half, about
the error.  The part of a table before the first fault is in order, so the identifiers kept there
are those of this part (`foldlM_enroll_eq_ok_iff`), and the overload at fault is held against them
(`enroll_eq_error_iff`).

A table differs from the declarations of a plan in one point: there an overload that is declared
again is passed over, here it is a fault like any other repetition (`Spoils.repeated`).
-/

set_option autoImplicit false

namespace WhereClause.Scope

/-- Overloads that can stand in one table: all are well formed, and no identifier is there twice. -/
structure InOrder (xs : List (String × Overload)) : Prop where
  wellFormed : ∀ x ∈ xs, x.2.WellFormed
  ids : (xs.map fun x ↦ x.2.id).Nodup

/-- What is wrong with an overload of a table, given the identifiers before it. -/
inductive Spoils (taken : List String) : String × Overload → DeclarationError → Prop
  /-- It has no identifier. -/
  | emptyId {name : String} {o : Overload} (hid : o.id = "") :
    Spoils taken (name, o) (.invalidOverload name o.id .emptyId)
  /-- It has one, but it is a method of nothing. -/
  | missingReceiver {name : String} {o : Overload} (hid : o.id ≠ "") (hmember : o.member = true)
      (hparams : o.params = []) :
    Spoils taken (name, o) (.invalidOverload name o.id .missingReceiver)
  /-- It is well formed, but its identifier is there already. -/
  | repeated {name : String} {o : Overload} (hformed : o.WellFormed) (hid : o.id ∈ taken) :
    Spoils taken (name, o) (.duplicateOverload name o.id)

variable {table : List FunctionDecl} {xs : List (String × Overload)} {x : String × Overload}
  {taken taken' : List String} {e : DeclarationError}

theorem InOrder.sublist {ys : List (String × Overload)} (h : InOrder ys) (hsub : xs.Sublist ys) :
    InOrder xs :=
  ⟨fun x hx ↦ h.wellFormed x (hsub.mem hx), (hsub.map _).nodup h.ids⟩

theorem validate_eq_ok_iff_inOrder : validate table = .ok () ↔ InOrder (entries table) := by
  rw [validate_eq_ok_iff]
  simp only [Overload.fault?_eq_none_iff]
  exact ⟨fun h ↦ ⟨h.1, h.2⟩, fun h ↦ ⟨h.wellFormed, h.ids⟩⟩

/-! ## The first fault -/

theorem Spoils.mono (h : Spoils taken x e) (hsub : taken ⊆ taken') : Spoils taken' x e := by
  cases h with
  | emptyId hid => exact .emptyId hid
  | missingReceiver hid hmember hparams => exact .missingReceiver hid hmember hparams
  | repeated hformed hid => exact .repeated hformed (hsub hid)

/-- **An overload that is not enrolled spoils the table**, and the error says in what way. -/
theorem enroll_eq_error_iff : enroll taken x = .error e ↔ Spoils taken x e := by
  obtain ⟨name, o⟩ := x
  rw [enroll, Overload.validate]
  constructor
  · intro h
    cases hfault : o.fault? with
    | some fault =>
      rw [hfault] at h
      cases h
      rcases Overload.fault?_eq_some_iff.1 hfault with ⟨hid, rfl⟩ | ⟨hid, hmember, hparams, rfl⟩
      · exact .emptyId hid
      · exact .missingReceiver hid hmember hparams
    | none =>
      rw [hfault] at h
      by_cases hid : o.id ∈ taken
      · have hrepeated := (if_pos hid).symm.trans h
        cases hrepeated
        exact .repeated (Overload.fault?_eq_none_iff.1 hfault) hid
      · have hnew := (if_neg hid).symm.trans h
        cases hnew
  · intro h
    cases h with
    | emptyId hid =>
      rw [Overload.fault?_eq_some_iff.2 (.inl ⟨hid, rfl⟩)]
      rfl
    | missingReceiver hid hmember hparams =>
      rw [Overload.fault?_eq_some_iff.2 (.inr ⟨hid, hmember, hparams, rfl⟩)]
      rfl
    | repeated hformed hid =>
      rw [Overload.fault?_eq_none_iff.2 hformed]
      exact if_pos hid

/-- **A table fails at the first overload that spoils it.** -/
theorem validate_eq_error_iff : validate table = .error e ↔
    ∃ before x after, entries table = before ++ x :: after ∧ InOrder before ∧
      Spoils (before.map fun y ↦ y.2.id) x e := by
  have hloops : validate table = .error e ↔ (entries table).foldlM enroll [] = .error e := by
    rw [validate, validateFrom_eq_foldlM, Except.bind_eq_error_iff]
    simp
  rw [hloops, Except.foldlM_eq_error_iff]
  simp only [foldlM_enroll_eq_ok_iff List.nodup_nil, List.append_nil, enroll_eq_error_iff,
    Overload.fault?_eq_none_iff]
  constructor
  · rintro ⟨before, x, after, _, hsplit, ⟨hformed, rfl, hnodup⟩, hx⟩
    refine ⟨before, x, after, hsplit, ⟨hformed, List.nodup_reverse.1 hnodup⟩, hx.mono ?_⟩
    exact List.reverse_subset.2 (List.Subset.refl _)
  · rintro ⟨before, x, after, hsplit, hbefore, hx⟩
    refine ⟨before, x, after, _, hsplit, ⟨hbefore.wellFormed, rfl, ?_⟩, hx.mono ?_⟩
    · exact List.nodup_reverse.2 hbefore.ids
    · exact List.subset_reverse.2 (List.Subset.refl _)

/-! ## Valid tables -/

/-- **When a table is valid, and which error there is otherwise.**  It is valid if every overload
has an identifier, every method has a receiver and no identifier is there twice; and if not, the
error names the first overload that is malformed or has an identifier from before.  So every
overload of a valid table is valid by itself, and what is left of the table is valid when functions
are taken out of it. -/
theorem validate_verdict (table : List FunctionDecl) :
    (validate table = .ok () ↔
      (∀ x ∈ entries table, x.2.id ≠ "" ∧ (x.2.member = true → x.2.params ≠ [])) ∧
        ((entries table).map fun x ↦ x.2.id).Nodup) ∧
    (∀ e, validate table = .error e ↔
      ∃ before x after, entries table = before ++ x :: after ∧ InOrder before ∧
        Spoils (before.map fun y ↦ y.2.id) x e) ∧
    (validate table = .ok () →
      (∀ f ∈ table, ∀ o ∈ f.overloads, o.validate f.name = .ok ()) ∧
        ∀ part : List FunctionDecl, part.Sublist table → validate part = .ok ()) := by
  refine ⟨?_, fun e ↦ validate_eq_error_iff, fun h ↦ ⟨?_, ?_⟩⟩
  · rw [validate_eq_ok_iff_inOrder]
    exact ⟨fun h ↦ ⟨h.wellFormed, h.ids⟩, fun h ↦ ⟨h.1, h.2⟩⟩
  · intro f hf o ho
    have hfault : o.fault? = none :=
      (validate_eq_ok_iff.1 h).1 (f.name, o) (mem_entries.2 ⟨f, hf, rfl, ho⟩)
    rw [Overload.validate, hfault]
  · intro part hpart
    have horder : InOrder (entries table) := validate_eq_ok_iff_inOrder.1 h
    exact validate_eq_ok_iff_inOrder.2 (horder.sublist (entries_sublist hpart))

/-- An identifier that is repeated in another function stands before an empty one, and so it is the
one in the error.  The standard functions are a valid table, and so are those of them that are
called as methods. -/
theorem validate_verdict_mixed :
    validate [⟨"f", [Standard.function "x" [.int] .int]⟩,
        ⟨"g", [Standard.method "y" [.int] .int, Standard.method "x" [.int] .int,
          Standard.function "" [] .int]⟩] = .error (.duplicateOverload "g" "x") ∧
      validate Standard.table = .ok () ∧
      validate (Standard.table.filter fun f ↦ f.overloads.all Overload.member) = .ok () := by
  refine ⟨?_, Standard.validate_table, ?_⟩
  · have hbefore : InOrder [("f", Standard.function "x" [.int] .int),
        ("g", Standard.method "y" [.int] .int)] := ⟨by decide, by decide⟩
    have hx : Spoils ["x", "y"] ("g", Standard.method "x" [.int] .int)
        (.duplicateOverload "g" "x") := .repeated (by decide) (by decide)
    refine ((validate_verdict _).2.1 _).2
      ⟨_, _, [("g", Standard.function "" [] .int)], ?_, hbefore, hx⟩
    rfl
  · exact ((validate_verdict _).2.2 Standard.validate_table).2 _ List.filter_sublist

end WhereClause.Scope
