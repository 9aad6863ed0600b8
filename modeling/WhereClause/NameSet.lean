/-!
# Sets of names

A finite set of strings, held as a strictly increasing list.  The order is that of the code points,
so listing a set is listing it alphabetically, and two sets with the same members are equal
(`NameSet.ext`).
-/

set_option autoImplicit false

namespace WhereClause

/-- A finite set of names. -/
structure NameSet where
  /-- The members in increasing order. -/
  names : List String
  /-- Each is smaller than the ones after it. -/
  sorted : names.Pairwise (· < ·)
deriving DecidableEq

namespace NameSet

instance : Membership String NameSet := ⟨fun s n ↦ n ∈ s.names⟩

instance (n : String) (s : NameSet) : Decidable (n ∈ s) :=
  inferInstanceAs (Decidable (n ∈ s.names))

theorem mem_def {n : String} {s : NameSet} : n ∈ s ↔ n ∈ s.names := Iff.rfl

/-- Whether a name is a member. -/
def contains (s : NameSet) (n : String) : Bool :=
  decide (n ∈ s)

@[simp] theorem contains_iff {s : NameSet} {n : String} : s.contains n = true ↔ n ∈ s := by
  simp [contains]

/-- The set without members. -/
def empty : NameSet := ⟨[], .nil⟩

@[simp] theorem not_mem_empty {n : String} : n ∉ empty := by
  simp [mem_def, empty]

/-! ## Insertion -/

/-- A name put at its place in an increasing list, unless it is there already. -/
def insertSorted (n : String) : List String → List String
  | [] => [n]
  | m :: ms => if n < m then n :: m :: ms else if n = m then m :: ms else m :: insertSorted n ms

theorem mem_insertSorted {n k : String} {ms : List String} :
    k ∈ insertSorted n ms ↔ k = n ∨ k ∈ ms := by
  induction ms with
  | nil => simp [insertSorted]
  | cons m ms ih =>
    rw [insertSorted]
    split
    · simp
    · split
      next h => subst h; simp
      next => simp [ih]; grind

theorem insertSorted_pairwise {n : String} {ms : List String} (h : ms.Pairwise (· < ·)) :
    (insertSorted n ms).Pairwise (· < ·) := by
  induction ms with
  | nil => simp [insertSorted]
  | cons m ms ih =>
    obtain ⟨hm, hms⟩ := List.pairwise_cons.1 h
    rw [insertSorted]
    split
    next hlt =>
      refine List.pairwise_cons.2 ⟨fun k hk ↦ ?_, h⟩
      rcases List.mem_cons.1 hk with rfl | hk
      · exact hlt
      · exact String.lt_trans hlt (hm k hk)
    next hlt =>
      split
      next => exact h
      next hne =>
        have hgt : m < n := by
          rcases String.le_total n m with hle | hle
          · exact absurd (String.le_antisymm hle (String.not_lt.1 hlt)) hne
          · exact String.not_le.1 fun hle' ↦ hne (String.le_antisymm hle' hle)
        refine List.pairwise_cons.2 ⟨fun k hk ↦ ?_, ih hms⟩
        rcases mem_insertSorted.1 hk with rfl | hk
        · exact hgt
        · exact hm k hk

/-- The set with one more member. -/
def insert (s : NameSet) (n : String) : NameSet :=
  ⟨insertSorted n s.names, insertSorted_pairwise s.sorted⟩

@[simp] theorem mem_insert {s : NameSet} {n k : String} : k ∈ s.insert n ↔ k = n ∨ k ∈ s :=
  mem_insertSorted

/-- The set without one name. -/
def erase (s : NameSet) (n : String) : NameSet :=
  ⟨s.names.filter (· != n), s.sorted.filter _⟩

@[simp] theorem mem_erase {s : NameSet} {n k : String} : k ∈ s.erase n ↔ k ≠ n ∧ k ∈ s := by
  simp [erase, mem_def, and_comm]

/-- The set of the names in a list. -/
def ofList (ns : List String) : NameSet :=
  ns.foldl insert empty

theorem mem_foldl_insert {ns : List String} {s : NameSet} {k : String} :
    k ∈ ns.foldl insert s ↔ k ∈ ns ∨ k ∈ s := by
  induction ns generalizing s with
  | nil => simp
  | cons n ns ih => simp only [List.foldl_cons, ih, mem_insert, List.mem_cons]; grind

@[simp] theorem mem_ofList {ns : List String} {k : String} : k ∈ ofList ns ↔ k ∈ ns := by
  rw [ofList, mem_foldl_insert]
  simp

/-! ## Extensionality -/

theorem eq_of_pairwise_of_mem_iff {ms ns : List String} (hm : ms.Pairwise (· < ·))
    (hn : ns.Pairwise (· < ·)) (h : ∀ k, k ∈ ms ↔ k ∈ ns) : ms = ns := by
  induction ms generalizing ns with
  | nil =>
    cases ns with
    | nil => rfl
    | cons n ns => exact absurd ((h n).2 (by simp)) (by simp)
  | cons m ms ih =>
    cases ns with
    | nil => exact absurd ((h m).1 (by simp)) (by simp)
    | cons n ns =>
      obtain ⟨hm, hms⟩ := List.pairwise_cons.1 hm
      obtain ⟨hn, hns⟩ := List.pairwise_cons.1 hn
      have hmn : m = n := by
        rcases List.mem_cons.1 ((h m).1 (by simp)) with heq | hmem
        · exact heq
        rcases List.mem_cons.1 ((h n).2 (by simp)) with heq | hmem'
        · exact heq.symm
        exact absurd (hn m hmem) (String.lt_asymm (hm n hmem'))
      subst hmn
      congr 1
      refine ih hms hns fun k ↦ ?_
      by_cases hk : k = m
      · subst hk
        exact ⟨fun hmem ↦ absurd (hm k hmem) (String.lt_irrefl k),
          fun hmem ↦ absurd (hn k hmem) (String.lt_irrefl k)⟩
      · simpa [hk] using h k

/-- **Two sets with the same members are equal.** -/
theorem ext {s t : NameSet} (h : ∀ k, k ∈ s ↔ k ∈ t) : s = t := by
  cases s
  cases t
  congr
  exact eq_of_pairwise_of_mem_iff (by assumption) (by assumption) h

end NameSet

end WhereClause
