import Mathlib.Data.List.DropRight
import WhereClause.Proofs.Sql.Like
import WhereClause.Proofs.Sql.Rendered

/-!
# The quotes around the value of a test

A test for the start or the end of a string may be given its value with quotes around it.  Two rules
say what happens to them.  `Sql.unenclosed` takes off the pair of quotes that encloses a value, and
leaves a value alone that has no such pair.  `Expr.trimQuotes`, which the renderer uses, leaves no
quote at either end: it also takes off a quote that stands at one end only, and several in a row.

What the renderer keeps is the only text without quotes at its ends that the value can be made of by
putting quotes around it (`Expr.exists_replicate_append`, `Expr.trimQuotes_replicate_append`).  So
the rules agree where the first one leaves nothing more to take off, and nowhere else, and since
different values have different patterns, the SQL text tells which rule was used.
-/

set_option autoImplicit false

namespace WhereClause

/-! ## The two rules -/

namespace Sql

/-- No quote stands at either end of a text. -/
def Bare (cs : List Char) : Prop :=
  cs.head? ≠ some '"' ∧ cs.getLast? ≠ some '"'

instance (cs : List Char) : Decidable (Bare cs) :=
  inferInstanceAs (Decidable (_ ∧ _))

/-- A text without the pair of quotes that encloses it, if there is one. -/
def unenclosed : List Char → List Char
  | '"' :: rest => if rest.getLast? = some '"' then rest.dropLast else '"' :: rest
  | cs => cs

theorem unenclosed_enclosed (w : List Char) : unenclosed ('"' :: (w ++ ['"'])) = w := by
  simp [unenclosed]

theorem unenclosed_of_ne {cs : List Char} (h : ∀ w, cs ≠ '"' :: (w ++ ['"'])) :
    unenclosed cs = cs := by
  rw [unenclosed.eq_def]
  split
  next rest =>
    split
    next hlast =>
      obtain ⟨w, rfl⟩ := List.getLast?_eq_some_iff.1 hlast
      exact absurd rfl (h w)
    next => rfl
  next => rfl

end Sql

namespace Expr

open Sql (Bare unenclosed)

theorem trimQuotes_cons_quote (cs : List Char) : trimQuotes ('"' :: cs) = trimQuotes cs := by
  simp [trimQuotes]

theorem trimQuotes_append_quote (cs : List Char) : trimQuotes (cs ++ ['"']) = trimQuotes cs := by
  rw [trimQuotes, trimQuotes, List.dropWhile_append]
  split
  next hall => simp [List.isEmpty_iff.1 hall]
  next => simp

/-- No quote is left at either end. -/
theorem bare_trimQuotes (cs : List Char) : Bare (trimQuotes cs) := by
  have hfirst : ∀ l : List Char, (l.dropWhile (· == '"')).head? ≠ some '"' := by
    intro l h
    have hhead := List.head?_dropWhile_not (· == '"') l
    rw [h] at hhead
    simp at hhead
  refine ⟨fun h ↦ ?_, ?_⟩
  · -- What is left is a first part of what is left after the front is done.
    obtain ⟨rest, hrest⟩ : trimQuotes cs <+: cs.dropWhile (· == '"') := List.rdropWhile_prefix _ _
    refine hfirst cs ?_
    rw [← hrest, List.head?_append, h, Option.some_or]
  · rw [trimQuotes, List.getLast?_reverse]
    exact hfirst _

theorem trimQuotes_eq_self {cs : List Char} (h : Bare cs) : trimQuotes cs = cs := by
  have hkeep : ∀ l : List Char, l.head? ≠ some '"' → l.dropWhile (· == '"') = l := by
    intro l hl
    cases l with
    | nil => rfl
    | cons c l => exact List.dropWhile_cons_of_neg (by simpa using hl)
  have hlast : cs.reverse.head? ≠ some '"' := by
    rw [List.head?_reverse]
    exact h.2
  rw [trimQuotes, hkeep cs h.1, hkeep cs.reverse hlast, List.reverse_reverse]

/-- Whatever quotes are put around a text, they are taken off. -/
theorem trimQuotes_replicate_append {w : List Char} (hw : Bare w) (m n : Nat) :
    trimQuotes (List.replicate m '"' ++ w ++ List.replicate n '"') = w := by
  have hfront : ∀ cs, trimQuotes (List.replicate m '"' ++ cs) = trimQuotes cs := by
    intro cs
    induction m with
    | zero => rfl
    | succ m ih => rw [List.replicate_succ, List.cons_append, trimQuotes_cons_quote, ih]
  have hback : trimQuotes (w ++ List.replicate n '"') = trimQuotes w := by
    induction n with
    | zero => rw [List.replicate_zero, List.append_nil]
    | succ n ih => rw [List.replicate_succ', ← List.append_assoc, trimQuotes_append_quote, ih]
  rw [List.append_assoc, hfront, hback, trimQuotes_eq_self hw]

/-- **Only quotes are taken off**, and they are taken off at the ends. -/
theorem exists_replicate_append (cs : List Char) :
    ∃ m n, cs = List.replicate m '"' ++ trimQuotes cs ++ List.replicate n '"' := by
  have hrun : ∀ l : List Char, ∃ n, l = List.replicate n '"' ++ l.dropWhile (· == '"') := by
    intro l
    have hquotes : l.takeWhile (· == '"') = List.replicate (l.takeWhile (· == '"')).length '"' :=
      List.eq_replicate_iff.2 ⟨rfl, fun c hc ↦ by simpa using List.mem_takeWhile_imp hc⟩
    exact ⟨_, by rw [← hquotes, List.takeWhile_append_dropWhile]⟩
  obtain ⟨m, hm⟩ := hrun cs
  obtain ⟨n, hn⟩ := hrun (cs.dropWhile (· == '"')).reverse
  have hback : cs.dropWhile (· == '"') = trimQuotes cs ++ List.replicate n '"' := by
    rw [trimQuotes, ← List.reverse_replicate, ← List.reverse_append, ← hn, List.reverse_reverse]
  exact ⟨m, n, by rw [List.append_assoc, ← hback, ← hm]⟩

/-- **The two rules agree where nothing is left to take off.** -/
theorem trimQuotes_eq_unenclosed_iff {cs : List Char} :
    trimQuotes cs = unenclosed cs ↔ Bare (unenclosed cs) := by
  constructor
  · intro h
    rw [← h]
    exact bare_trimQuotes cs
  · intro h
    by_cases hpair : ∃ w, cs = '"' :: (w ++ ['"'])
    · obtain ⟨w, rfl⟩ := hpair
      rw [Sql.unenclosed_enclosed] at h ⊢
      exact trimQuotes_replicate_append h 1 1
    · have hself := Sql.unenclosed_of_ne (not_exists.1 hpair)
      rw [hself] at h ⊢
      exact trimQuotes_eq_self h

end Expr

/-! ## Tests -/

/-- The SQL text of a test whether what a receiver writes is like the pattern of a literal. -/
def Sql.likeTest (receiver : String) (literal : List Char) : String :=
  "(" ++ receiver ++ " LIKE " ++ String.ofList literal ++ ")"

theorem Sql.likeTest_injective (receiver : String) : Function.Injective (likeTest receiver) := by
  intro a b h
  have hlist := congrArg String.toList h
  simpa [likeTest] using hlist

namespace Settings

open Sql (likeTest startPattern endPattern Bare unenclosed)

variable {s : Settings} {target : Expr} {receiver : String}

/-- A test is made with the value that is left when all quotes at its ends are gone. -/
theorem generate_like {f : Builtin} {content : List Char → List Char}
    (enabled : s.isEnabled f.name = true) (hf : f.likeContent? = some content)
    (htarget : s.generate target = .ok receiver) (value : String) :
    s.generate (target.method f.name [.literal (.string value)]) =
      .ok (likeTest receiver (Sql.quote (content (Expr.trimQuotes value.toList)))) := by
  have hrendered : Rendered s (target.method f.name [.literal (.string value)]) _ :=
    .like enabled hf (generate_eq_ok_iff.1 htarget)
  refine generate_eq_ok_iff.2 ?_
  simpa [likeTest] using hrendered

/-- **A test is made with the value that the rule for enclosing quotes gives exactly if that value
has no quote at either end.**  In every case it is made with the text that is left of the value when
all quotes at its ends are taken off. -/
theorem generate_like_iff_bare (hstart : s.isEnabled Builtin.startsWith.name = true)
    (hend : s.isEnabled Builtin.endsWith.name = true) (htarget : s.generate target = .ok receiver)
    (value : String) :
    (s.generate (target.method Builtin.startsWith.name [.literal (.string value)]) =
        .ok (likeTest receiver (startPattern (unenclosed value.toList))) ↔
      Bare (unenclosed value.toList)) ∧
    (s.generate (target.method Builtin.endsWith.name [.literal (.string value)]) =
        .ok (likeTest receiver (endPattern (unenclosed value.toList))) ↔
      Bare (unenclosed value.toList)) ∧
    ∃ m n text, value.toList = List.replicate m '"' ++ text ++ List.replicate n '"' ∧ Bare text ∧
      s.generate (target.method Builtin.startsWith.name [.literal (.string value)]) =
        .ok (likeTest receiver (startPattern text)) ∧
      s.generate (target.method Builtin.endsWith.name [.literal (.string value)]) =
        .ok (likeTest receiver (endPattern text)) := by
  have hfirst := generate_like hstart rfl htarget value
  have hlast := generate_like hend rfl htarget value
  refine ⟨?_, ?_, ?_⟩
  · rw [hfirst, Except.ok.injEq, (Sql.likeTest_injective receiver).eq_iff,
      ← Expr.trimQuotes_eq_unenclosed_iff]
    exact Sql.startPattern_injective.eq_iff
  · rw [hlast, Except.ok.injEq, (Sql.likeTest_injective receiver).eq_iff,
      ← Expr.trimQuotes_eq_unenclosed_iff]
    exact Sql.endPattern_injective.eq_iff
  · obtain ⟨m, n, hvalue⟩ := Expr.exists_replicate_append value.toList
    exact ⟨m, n, _, hvalue, Expr.bare_trimQuotes _, hfirst, hlast⟩

/-- With a pair of quotes around a value, and quotes inside it, the two rules agree. -/
theorem generate_like_iff_bare_pair :
    default.generate (.method (.select (.ident "i") "name") "startsWith"
        [.literal (.string "\"a\"b\"")]) = .ok (likeTest "name" (startPattern "a\"b".toList)) ∧
      default.generate (.method (.select (.ident "i") "name") "endsWith"
        [.literal (.string "\"a\"b\"")]) = .ok (likeTest "name" (endPattern "a\"b".toList)) := by
  have htarget : default.generate (.select (.ident "i") "name") = .ok "name" := by decide +kernel
  obtain ⟨hfirst, hlast, -⟩ :=
    generate_like_iff_bare (s := default) (by decide) (by decide) htarget "\"a\"b\""
  exact ⟨hfirst.2 (by decide), hlast.2 (by decide)⟩

/-- A quote at one end only encloses nothing, and still it is taken off. -/
theorem generate_like_open_quote :
    unenclosed "\"a".toList = "\"a".toList ∧
      default.generate (.method (.select (.ident "i") "name") "startsWith"
        [.literal (.string "\"a")]) = .ok (likeTest "name" (startPattern "a".toList)) ∧
      default.generate (.method (.select (.ident "i") "name") "startsWith"
        [.literal (.string "\"a")]) ≠ .ok (likeTest "name" (startPattern "\"a".toList)) := by
  decide +kernel

end Settings

end WhereClause
