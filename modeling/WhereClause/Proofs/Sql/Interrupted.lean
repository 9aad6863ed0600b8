import WhereClause.Proofs.Sequencing
import WhereClause.Proofs.Sql.Skeleton
import WhereClause.Proofs.Sql.Visits

/-!
# What is left behind when rendering stops

A call is written in parentheses, and when an operand fails the closing one is never written.  So
an error leaves a torn text in the buffer.  This file says which: **what is left are the openings of
the calls around the first node at fault**, from the outside in (`Refused.interrupted`).  The
opening of a call is what is written of it before the operand.  It is known from the frame alone, so
it stays the same whatever stands in place of the node (`Visit.starts_replace`).

Every opening has one parenthesis that is not closed.  The rest of it is tokens, blanks and at most
one operand that was rendered to the end, and such a text closes what it opens (`Rendered.opens`),
as long as its columns are plain.  So the number of parentheses that are left open is the number of
calls (`Visit.opens`).
-/

set_option autoImplicit false

namespace WhereClause

open Render

variable {s : Settings}

/-! ## What is written on the way -/

namespace Render

/-- A computation writes `cs` first, and if `r` is an error it stops there with this error. -/
def Starts (x : Render Unit) (r : Except RenderError Unit) (cs : List Char) : Prop :=
  ∃ r' rest, Ends x r' (cs ++ rest) ∧ ∀ error, r = .error error → r' = .error error ∧ rest = []

variable {x y : Render Unit} {r r' : Except RenderError Unit} {a b : List Char}

theorem Ends.starts (h : Ends x r a) : Starts x r a :=
  ⟨r, [], by simpa using h, fun _ herror ↦ ⟨herror, rfl⟩⟩

theorem Starts.ends {error : RenderError} (h : Starts x (.error error) a) :
    Ends x (.error error) a := by
  obtain ⟨r', rest, hends, herror⟩ := h
  obtain ⟨rfl, rfl⟩ := herror error rfl
  simpa using hends

/-- Whatever comes second, the first part is written first, and its error is the error. -/
theorem Ends.starts_bind (hx : Ends x r a) (hy : Ends y r' b) : Starts (x >>= fun _ ↦ y) r a := by
  cases r with
  | ok _ => exact ⟨r', b, hx.bind hy, by rintro _ ⟨⟩⟩
  | error e => exact hx.bind_error.starts

theorem Ends.bind_starts (hx : Ends x (.ok ()) a) (hy : Starts y r b) :
    Starts (x >>= fun _ ↦ y) r (a ++ b) := by
  obtain ⟨r', rest, hends, herror⟩ := hy
  refine ⟨r', rest, ?_, herror⟩
  simpa using hx.bind hends

end Render

/-- **Rendering a tree only appends**, and it appends the same to every buffer. -/
theorem Expr.exists_ends (s : Settings) (e : Expr) : ∃ r cs, Ends (e.render s) r cs := by
  rcases rendered_or_refused s e with ⟨cs, hcs⟩ | ⟨error, he⟩
  · exact ⟨_, cs, hcs.ends⟩
  · obtain ⟨cs, hcs⟩ := he.ends
    exact ⟨_, cs, hcs⟩

theorem Settings.written_of_ends {e : Expr} {r : Except RenderError Unit} {cs : List Char}
    (h : Ends (e.render s) r cs) : s.written e = (String.ofList cs, r.failure?) := by
  rw [written, h ""]
  cases r <;> simp [Except.failure?]

/-- Rendering has gone into a frame: the call is not at fault, and what comes before the operand has
been rendered, all of its nodes among those that were seen. -/
def Frame.Entered (s : Settings) (seen : List Visit) : Frame → Prop
  | .leftOf op _ => s.isEnabled op.name = true
  | .rightOf op left => s.isEnabled op.name = true ∧ (∃ cs, Rendered s left cs) ∧
      ∀ x ∈ left.visits s, ∃ y ∈ seen, y.node = x.node
  | .behind op => s.isEnabled op.name = true
  | .receiverOf f _ => s.isEnabled f.name = true ∧ ∃ content, f.likeContent? = some content

theorem Frame.Entered.mono {frame : Frame} {seen seen' : List Visit} (h : frame.Entered s seen)
    (hsub : ∀ x ∈ seen, ∃ y ∈ seen', y.node = x.node) : frame.Entered s seen' := by
  cases frame with
  | rightOf op left =>
    obtain ⟨enabled, hleft, hseen⟩ := h
    refine ⟨enabled, hleft, fun x hx ↦ ?_⟩
    obtain ⟨y, hy, hyx⟩ := hseen x hx
    obtain ⟨z, hz, hzy⟩ := hsub y hy
    exact ⟨z, hz, hzy.trans hyx⟩
  | _ => exact h

/-- **A call writes its opening, and then what its operand writes.**  If the operand fails, that is
all. -/
theorem Frame.Entered.starts_plug {frame : Frame} {seen : List Visit} (h : frame.Entered s seen)
    {x : Expr} {r : Except RenderError Unit} {cs : List Char} (hx : Ends (x.render s) r cs) :
    Starts ((frame.plug x).render s) r (frame.opening s ++ cs) := by
  cases frame with
  | leftOf op right =>
    -- The right operand is only known to end somehow.
    obtain ⟨r₁, b, hright⟩ := right.exists_ends s
    obtain ⟨r₂, tail, htail, -⟩ := hright.starts_bind (ends_write [')'])
    rw [plug, Expr.binary, Expr.render_binary h]
    exact (ends_write ['(']).bind_starts (hx.starts_bind (htail.write_bind _))
  | rightOf op left =>
    obtain ⟨enabled, ⟨a, ha⟩, -⟩ := h
    have htext : (rightOf op left).opening s ++ cs =
        ['('] ++ (a ++ (' ' :: ((Sql.binaryToken op).toList ++ [' ']) ++ cs)) := by
      simp [opening, Settings.written_of_ends ha.ends]
    rw [plug, Expr.binary, Expr.render_binary enabled, htext]
    exact (ends_write ['(']).bind_starts (ha.ends.bind_starts
      ((ends_write _).bind_starts (hx.starts_bind (ends_write [')']))))
  | behind op =>
    rw [plug, Expr.unary, Expr.render_unary h]
    exact (ends_write ('(' :: ((Sql.unaryToken op).toList ++ [' ']))).bind_starts
      (hx.starts_bind (ends_write [')']))
  | receiverOf f text =>
    obtain ⟨enabled, content, hf⟩ := h
    rw [plug, Expr.method, Expr.render_like enabled hf]
    exact (ends_write ['(']).bind_starts (hx.starts_bind (ends_write _))

/-- The same for all calls around a node. -/
theorem Visit.starts_replace {v : Visit} {seen : List Visit}
    (h : ∀ frame ∈ v.frames, frame.Entered s seen) {x : Expr} {r : Except RenderError Unit}
    {cs : List Char} (hx : Ends (x.render s) r cs) :
    Starts ((v.replace x).render s) r (v.opening s ++ cs) := by
  obtain ⟨frames, node⟩ := v
  induction frames with
  | nil => exact hx.starts
  | cons frame frames ih =>
    obtain ⟨hframe, hframes⟩ := List.forall_mem_cons.1 h
    obtain ⟨r₁, rest₁, hinner, herror₁⟩ := ih hframes
    obtain ⟨r', rest, houter, herror⟩ := hframe.starts_plug hinner
    refine ⟨r', rest₁ ++ rest, ?_, fun error hr ↦ ?_⟩
    · simpa [replace, opening] using houter
    · obtain ⟨hr₁, rfl⟩ := herror₁ error hr
      obtain ⟨hr', rfl⟩ := herror error hr₁
      exact ⟨hr', rfl⟩

/-! ## The first node at fault -/

/-- Rendering a tree has gone into every call around a node of it. -/
structure Visit.Reached (s : Settings) (e : Expr) (seen : List Visit) (v : Visit) : Prop where
  root : v.replace v.node = e
  entered : ∀ frame ∈ v.frames, frame.Entered s seen

/-- Rendering a tree reaches the first node at fault, and when it stops there it has written the
openings of the calls around it. -/
def Expr.Interrupted (s : Settings) (e : Expr) (error : RenderError) : Prop :=
  ∃ before v, e.StopsAt s before v error ∧ v.Reached s e before ∧
    Ends (e.render s) (.error error) (v.opening s)

section Interrupted

variable {e x : Expr} {error : RenderError}

/-- A tree that is at fault itself. -/
theorem Expr.interrupted_of_ownFault? (hfault : e.ownFault? s = some error)
    (hends : Ends (e.render s) (.error error) []) : e.Interrupted s error :=
  ⟨[], ⟨[], e⟩, ⟨⟨[], visits_of_ownFault? hfault⟩, by simp, hfault⟩, ⟨rfl, by simp⟩, hends⟩

/-- A call with an operand that is at fault somewhere. -/
theorem Expr.Interrupted.plug (h : x.Interrupted s error) (frame : Frame)
    (earlier later : List Visit) (hown : (frame.plug x).ownFault? s = none)
    (hearlier : ∀ y ∈ earlier, y.node.ownFault? s = none) (hframe : frame.Entered s earlier)
    (hvisits : (frame.plug x).visits s =
      ⟨[], frame.plug x⟩ :: (earlier ++ ((x.visits s).map (.within frame) ++ later))) :
    (frame.plug x).Interrupted s error := by
  obtain ⟨before, v, hstops, ⟨hroot, hframes⟩, hends⟩ := h
  refine ⟨_, _, hstops.within hown hearlier hvisits, ⟨congrArg frame.plug hroot, ?_⟩, ?_⟩
  · refine List.forall_mem_cons.2 ⟨hframe.mono fun y hy ↦ ⟨y, by simp [hy], rfl⟩, fun f hf ↦ ?_⟩
    exact (hframes f hf).mono fun y hy ↦
      ⟨y.within frame, by simpa using .inr (.inr ⟨y, hy, rfl⟩), rfl⟩
  · exact (hframe.starts_plug hends).ends

/-- **A tree that is refused is interrupted at a first node at fault.** -/
theorem Refused.interrupted (h : Refused s e error) : e.Interrupted s error := by
  induction h with
  | ident name =>
    exact Expr.interrupted_of_ownFault? rfl (by rw [Expr.render]; exact ends_throw _)
  | list elements =>
    exact Expr.interrupted_of_ownFault? rfl (by rw [Expr.render]; exact ends_throw _)
  | nonFinite h =>
    refine Expr.interrupted_of_ownFault? ?_ (Expr.ends_of_isFinite h)
    rw [Expr.ownFault?_of_ne_call (by rintro _ _ _ ⟨⟩), Expr.violations_of_isFinite h]
    rfl
  | field h =>
    refine Expr.interrupted_of_ownFault? ?_ (Expr.ends_of_fieldPath h)
    rw [Expr.ownFault?_of_ne_call (by rintro _ _ _ ⟨⟩), Expr.violations_select_of_error h]
    rfl
  | function h =>
    refine Expr.interrupted_of_ownFault? ?_ (Expr.ends_of_resolve h _ _)
    rw [Expr.ownFault?, Expr.callFault?_of_resolve h, Option.some_or]
  | shape enabled h =>
    refine Expr.interrupted_of_ownFault? ?_ (Expr.ends_of_shapeFault? enabled h)
    rw [Expr.ownFault?, Expr.callFault?_of_isEnabled enabled, h, Option.some_or]
  | pattern enabled hf h =>
    refine Expr.interrupted_of_ownFault? ?_ (Expr.ends_of_patternText enabled hf h _)
    rw [Expr.ownFault?_like enabled hf, Expr.patternFault?_of_error h]
  | moment enabled h =>
    refine Expr.interrupted_of_ownFault? ?_ (Expr.ends_timestamp_of_momentError? enabled h)
    rw [Expr.ownFault?_timestamp enabled, h]
  | @left op left right error enabled _ ih =>
    exact ih.plug (.leftOf op right) [] _ (Expr.ownFault?_binary enabled _ _) (by simp) enabled
      (Expr.visits_binary enabled _ _)
  | @right op left right a error enabled hl _ ih =>
    refine ih.plug (.rightOf op left) ((left.visits s).map (.within (.leftOf op right))) []
      (Expr.ownFault?_binary enabled _ _) ?_ ⟨enabled, ⟨a, hl⟩, ?_⟩ ?_
    · simpa using hl.visits
    · exact fun x hx ↦ ⟨_, List.mem_map_of_mem hx, rfl⟩
    · simpa [Frame.plug] using Expr.visits_binary enabled left right
  | @operand op operand error enabled _ ih =>
    refine ih.plug (.behind op) [] [] (Expr.ownFault?_unary enabled _) (by simp) enabled ?_
    simpa [Frame.plug] using Expr.visits_unary enabled operand
  | @receiver f content target text error enabled hf _ ih =>
    refine ih.plug (.receiverOf f text) [] [] (Expr.ownFault?_like enabled hf _ _) (by simp)
      ⟨enabled, content, hf⟩ ?_
    simpa [Frame.plug] using Expr.visits_like enabled hf target text

theorem Expr.StopsAt.refused {before : List Visit} {v : Visit} (h : e.StopsAt s before v error) :
    Refused s e error := by
  rcases rendered_or_refused s e with ⟨cs, hcs⟩ | ⟨error', he⟩
  · obtain ⟨after, hafter⟩ := h.visits
    have hnone := hcs.visits v (by simp [hafter])
    rw [h.fault] at hnone
    cases hnone
  · obtain ⟨before', v', hstops, -⟩ := he.interrupted
    obtain ⟨-, -, rfl⟩ := h.unique hstops
    exact he

theorem Expr.StopsAt.interrupted {before : List Visit} {v : Visit}
    (h : e.StopsAt s before v error) :
    v.Reached s e before ∧ Ends (e.render s) (.error error) (v.opening s) := by
  obtain ⟨before', v', hstops, hreached, hends⟩ := h.refused.interrupted
  obtain ⟨rfl, rfl, -⟩ := h.unique hstops
  exact ⟨hreached, hends⟩

/-- **A node that is at fault itself writes nothing.** -/
theorem Expr.ends_of_ownFault? (h : e.ownFault? s = some error) :
    Ends (e.render s) (.error error) [] :=
  (StopsAt.interrupted (v := ⟨[], e⟩)
    ⟨⟨[], visits_of_ownFault? h⟩, List.forall_mem_nil _, h⟩).2

end Interrupted

/-! ## Parentheses -/

namespace Sql

/-- A text without parentheses and quotes. -/
def IsPlain (cs : List Char) : Prop :=
  ∀ c ∈ cs, c ≠ '(' ∧ c ≠ ')' ∧ c ≠ '"'

-- By name: a search for an instance may go through all characters, since they are finitely many.
instance (cs : List Char) : Decidable (IsPlain cs) :=
  List.decidableBAll (fun c ↦ c ≠ '(' ∧ c ≠ ')' ∧ c ≠ '"') cs

/-- All string literals of a text are closed, and outside them it has `k` more opening parentheses
than closing ones. -/
def Opens (k : Int) (cs : List Char) : Prop :=
  ∃ out, outside? cs = some out ∧ (out.count '(' : Int) - out.count ')' = k

theorem Opens.append {j k : Int} {a b : List Char} (ha : Opens j a) (hb : Opens k b) :
    Opens (j + k) (a ++ b) := by
  obtain ⟨x, hx, rfl⟩ := ha
  obtain ⟨y, hy, rfl⟩ := hb
  refine ⟨x ++ y, outside?_append hx hy, ?_⟩
  rw [List.count_append, List.count_append]
  omega

theorem IsPlain.opens {cs : List Char} (h : IsPlain cs) : Opens 0 cs := by
  refine ⟨cs, outside?_of_noQuote fun c hc ↦ (h c hc).2.2, ?_⟩
  rw [List.count_eq_zero.2 fun hc ↦ (h _ hc).1 rfl, List.count_eq_zero.2 fun hc ↦ (h _ hc).2.1 rfl]
  rfl

theorem opens_of_isToken {cs : List Char} (h : isToken cs = true) : Opens 0 cs := by
  refine IsPlain.opens fun c hc ↦ ?_
  have hchar := (isToken_iff.1 h).2 c hc
  refine ⟨?_, ?_, ?_⟩ <;> rintro rfl <;> exact absurd hchar (by decide)

theorem opens_quote (cs : List Char) : Opens 0 (quote cs) :=
  ⟨[], outside?_quote cs, rfl⟩

theorem opens_nil : Opens 0 [] :=
  ⟨[], rfl, rfl⟩

theorem opens_open : Opens 1 ['('] :=
  ⟨['('], rfl, rfl⟩

variable {j k : Int} {a b : List Char}

theorem Opens.space (ha : Opens j a) (hb : Opens k b) : Opens (j + k) (a ++ ' ' :: b) := by
  have hblank : Opens 0 [' '] := IsPlain.opens (by decide)
  simpa using ha.append (hblank.append hb)

theorem Opens.enclosed (ha : Opens 0 a) : Opens 0 ('(' :: (a ++ [')'])) := by
  have hclose : Opens (-1) [')'] := ⟨[')'], rfl, rfl⟩
  simpa using opens_open.append (ha.append hclose)

end Sql

open Sql

namespace Expr

/-- The column that a node prints, if it is a chain of fields of the subject. -/
def column? (s : Settings) : Expr → Option String
  | .select operand field => ((select operand field).fieldPath s.subject).toOption.map s.column
  | _ => none

/-- A node prints no column with a parenthesis or a quote in it. -/
def PrintsPlain (s : Settings) (e : Expr) : Prop :=
  ∀ column ∈ e.column? s, IsPlain column.toList

instance (s : Settings) (e : Expr) : Decidable (e.PrintsPlain s) :=
  inferInstanceAs (Decidable (∀ column ∈ e.column? s, IsPlain column.toList))

end Expr

/-- **A text that is rendered to the end closes every parenthesis it opens**, if its columns are
plain. -/
theorem Rendered.opens {e : Expr} {cs : List Char} (h : Rendered s e cs)
    (hcolumns : ∀ v ∈ e.visits s, v.node.PrintsPlain s) : Opens 0 cs := by
  induction h with
  | token h => exact opens_of_isToken (isToken_of_token? h)
  | string text => exact opens_quote _
  | @field operand name path h =>
    refine (hcolumns ⟨[], .select operand name⟩ (by simp [Expr.visits]) _ ?_).opens
    rw [Expr.column?, h]
    rfl
  | @binary op left right a b enabled _ _ ihl ihr =>
    simp only [Expr.visits_binary enabled, List.forall_mem_cons, List.forall_mem_append,
      List.forall_mem_map] at hcolumns
    obtain ⟨-, hleft, hright⟩ := hcolumns
    have htoken := opens_of_isToken (isToken_binaryWord op)
    rw [← binaryToken_eq_word] at htoken
    simpa using ((ihl hleft).space (htoken.space (ihr hright))).enclosed
  | @unary op operand a enabled _ ih =>
    simp only [Expr.visits_unary enabled, List.forall_mem_cons, List.forall_mem_map] at hcolumns
    have htoken := opens_of_isToken (isToken_unaryWord op)
    rw [← unaryToken_eq_word] at htoken
    simpa using (htoken.space (ih hcolumns.2)).enclosed
  | @like f content target text a enabled hf _ ih =>
    simp only [Expr.visits_like enabled hf, List.forall_mem_cons, List.forall_mem_map] at hcolumns
    have htoken : Opens 0 "LIKE".toList := opens_of_isToken (by decide)
    simpa using ((ih hcolumns.2).space (htoken.space (opens_quote _))).enclosed
  | timestamp _ _ => exact opens_quote _
  | @seconds v n _ _ =>
    have hname : Opens 0 "FROM_UNIXTIME".toList := opens_of_isToken (by decide)
    have hnumber := opens_of_isToken (isToken_of_isNumeric (Decimal.isNumeric_intText n))
    rw [fromUnixTime_eq]
    exact hname.append hnumber.enclosed

/-- Every call that is gone into leaves one parenthesis open. -/
theorem Frame.Entered.opens {frame : Frame} {seen : List Visit} (h : frame.Entered s seen)
    (hseen : ∀ x ∈ seen, x.node.PrintsPlain s) : Opens 1 (frame.opening s) := by
  cases frame with
  | leftOf op right => exact opens_open
  | rightOf op left =>
    obtain ⟨-, ⟨a, ha⟩, hvisits⟩ := h
    have hleft : Opens 0 a := by
      refine ha.opens fun x hx ↦ ?_
      obtain ⟨y, hy, hyx⟩ := hvisits x hx
      exact hyx ▸ hseen y hy
    have htoken := opens_of_isToken (isToken_binaryWord op)
    rw [opening, Settings.written_of_ends ha.ends, String.toList_ofList, binaryToken_eq_word]
    exact opens_open.append (hleft.space (htoken.space opens_nil))
  | behind op =>
    have htoken := opens_of_isToken (isToken_unaryWord op)
    rw [opening, unaryToken_eq_word]
    exact opens_open.append (htoken.space opens_nil)
  | receiverOf f text => exact opens_open

theorem Visit.opens {v : Visit} {seen : List Visit} (h : ∀ frame ∈ v.frames, frame.Entered s seen)
    (hseen : ∀ x ∈ seen, x.node.PrintsPlain s) : Opens v.frames.length (v.opening s) := by
  obtain ⟨frames, node⟩ := v
  induction frames with
  | nil => exact opens_nil
  | cons frame frames ih =>
    obtain ⟨hframe, hframes⟩ := List.forall_mem_cons.1 h
    have hopens := (hframe.opens hseen).append (ih hframes)
    simpa [opening, Int.add_comm] using hopens

/-! ## What is left behind -/

namespace Settings

/-- **What a failed rendering leaves behind.**  Rendering only appends, and it fails exactly if
there is a first node at fault.  This node writes nothing, and what was written are the openings of
the calls around it.  They are the same with any other node at fault in its place, and they come
first with any tree in its place.  If the columns that were printed are plain, then every call has
left one parenthesis open. -/
theorem written_of_stopsAt (s : Settings) (e : Expr) :
    (∀ buffer, (e.render s).runOn buffer =
      (((e.render s).runOn "").1, buffer ++ ((e.render s).runOn "").2)) ∧
    (∀ error, s.generate e = .error error ↔ ∃ before v, e.StopsAt s before v error) ∧
    ∀ before v error, e.StopsAt s before v error →
      v.replace v.node = e ∧
      (∀ buffer, (v.node.render s).runOn buffer = (.error error, buffer)) ∧
      s.written e = (String.ofList (v.opening s), some error) ∧
      (∀ x error', x.ownFault? s = some error' →
        s.written (v.replace x) = (String.ofList (v.opening s), some error')) ∧
      (∀ x, ∃ rest, (s.written (v.replace x)).1 =
        String.ofList (v.opening s) ++ ((s.written x).1 ++ rest)) ∧
      ((∀ x ∈ before, x.node.PrintsPlain s) → ∃ out, outside? (v.opening s) = some out ∧
        out.count '(' = out.count ')' + v.frames.length) := by
  refine ⟨fun buffer ↦ ?_, fun error ↦ ?_, fun before v error h ↦ ?_⟩
  · obtain ⟨r, cs, hends⟩ := e.exists_ends s
    rw [hends, hends, String.empty_append]
  · rw [generate_eq_error_iff]
    constructor
    · intro h
      obtain ⟨before, v, hstops, -⟩ := h.interrupted
      exact ⟨before, v, hstops⟩
    · rintro ⟨before, v, hstops⟩
      exact hstops.refused
  · obtain ⟨⟨hroot, hframes⟩, hends⟩ := h.interrupted
    refine ⟨hroot, ?_, ?_, ?_, ?_, ?_⟩
    · intro buffer
      rw [Expr.ends_of_ownFault? h.fault, String.ofList_nil, String.append_empty]
    · rw [written_of_ends hends]
      rfl
    · intro x error' hx
      have hreplaced := (Visit.starts_replace hframes (Expr.ends_of_ownFault? hx)).ends
      rw [written_of_ends hreplaced, List.append_nil]
      rfl
    · intro x
      obtain ⟨r, cs, hx⟩ := x.exists_ends s
      obtain ⟨r', rest, hreplaced, -⟩ := Visit.starts_replace hframes hx
      refine ⟨String.ofList rest, ?_⟩
      rw [written_of_ends hreplaced, written_of_ends hx]
      simp [String.ofList_append]
    · intro hbefore
      obtain ⟨out, hout, hcount⟩ := Visit.opens hframes hbefore
      exact ⟨out, hout, by omega⟩

/-- `i.name == "(\"" && !(i.age < me)` stops at the stranger, inside three calls, and so it does
with a list in its place. -/
theorem written_of_stopsAt_stranger :
    ∃ e before v, e =
        .binary .and (.binary .equal (.select (.ident "i") "name") (.literal (.string "(\"")))
          (.unary .not (.binary .lessThan (.select (.ident "i") "age") (.ident "me"))) ∧
      e.StopsAt .default before v (.unsupportedKind (.ident "me")) ∧
      (∀ x ∈ before, x.node.PrintsPlain .default) ∧ v.replace (.ident "me") = e ∧
      Settings.default.written e =
        ("((name == \"(\\\"\") AND (NOT (age < ", some (.unsupportedKind (.ident "me"))) ∧
      Settings.default.written (v.replace (.list [])) =
        ("((name == \"(\\\"\") AND (NOT (age < ", some (.unsupportedKind .list)) ∧
      ∃ out, outside? "((name == \"(\\\"\") AND (NOT (age < ".toList = some out ∧
        out.count '(' = out.count ')' + 3 := by
  have hstops : Expr.StopsAt .default
      (.binary .and (.binary .equal (.select (.ident "i") "name") (.literal (.string "(\"")))
        (.unary .not (.binary .lessThan (.select (.ident "i") "age") (.ident "me"))))
      (List.take 7 (Expr.visits .default
        (.binary .and (.binary .equal (.select (.ident "i") "name") (.literal (.string "(\"")))
          (.unary .not (.binary .lessThan (.select (.ident "i") "age") (.ident "me"))))))
      ⟨[.rightOf .and
          (.binary .equal (.select (.ident "i") "name") (.literal (.string "(\""))),
        .behind .not, .rightOf .lessThan (.select (.ident "i") "age")], .ident "me"⟩
      (.unsupportedKind (.ident "me")) :=
    ⟨⟨[], rfl⟩, by decide +kernel, rfl⟩
  obtain ⟨hroot, -, hwritten, hother, -, hopen⟩ := (written_of_stopsAt _ _).2.2 _ _ _ hstops
  refine ⟨_, _, _, rfl, hstops, by decide +kernel, hroot, hwritten.trans ?_,
    (hother (.list []) _ rfl).trans ?_, ?_⟩
  · decide +kernel
  · decide +kernel
  · exact hopen (by decide +kernel)

end Settings

end WhereClause
