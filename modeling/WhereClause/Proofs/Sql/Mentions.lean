import WhereClause.Calendar.Zone.Known
import WhereClause.Proofs.Sql.Rendered

/-!
# What the SQL of a tree depends on

Settings say a lot that a given tree has no use for: columns of fields it does not select, functions
it does not call, a time zone when there is no time in it.  `Settings.AgreeOn` compares two settings
on nothing but what a tree mentions.  The time zone and the time format count only if the tree has a
timestamp to be read from text, because seconds since 1970 are rendered as they stand.

**Settings that agree on a tree render it in the same way** (`Expr.render_congr`).  The renderers
themselves are equal, as computations on a buffer, so there is no difference between trees that have
SQL and trees that have an error, nor in what was written before an error.  A node is rendered from
the settings only where its name, its path or its text asks them, and `AgreeOn` has a field for each
of these places.
-/

set_option autoImplicit false

namespace WhereClause

/-- Settings that agree on all that a tree mentions. -/
structure Settings.AgreeOn (s t : Settings) (e : Expr) : Prop where
  subject : s.subject = t.subject
  isEnabled : ∀ function target args, Expr.call function target args ∈ e.nodes →
    s.isEnabled function = t.isEnabled function
  column : ∀ chain ∈ e.chains, ∀ path, chain.fieldPath s.subject = .ok path →
    s.column path = t.column path
  /-- How times are written matters if there is a timestamp to be read from text. -/
  time : ∀ text, Expr.globalCall Builtin.timestamp.name [.literal (.string text)] ∈ e.nodes →
    s.zone = t.zone ∧ s.timeFormat = t.timeFormat

namespace Settings.AgreeOn

variable {s t : Settings} {function : String} {target : Option Expr} {args : List Expr}

/-! ## The parts of a call -/

/-- What an operand of a call mentions, the call mentions. -/
theorem of_operand {e x : Expr} (h : s.AgreeOn t e) (hnodes : ∀ y ∈ x.nodes, y ∈ e.nodes)
    (hchains : ∀ y ∈ x.chains, y ∈ e.chains) : s.AgreeOn t x where
  subject := h.subject
  isEnabled function target args hcall := h.isEnabled function target args (hnodes _ hcall)
  column chain hchain := h.column chain (hchains _ hchain)
  time text htext := h.time text (hnodes _ htext)

theorem of_target {x : Expr} (h : s.AgreeOn t (.call function (some x) args)) : s.AgreeOn t x := by
  refine h.of_operand (fun y hy ↦ Expr.mem_nodes_of_target hy) fun y hy ↦ ?_
  rw [Expr.chains_call]
  exact List.mem_append_left _ hy

theorem of_arg {x : Expr} (h : s.AgreeOn t (.call function target args)) (hx : x ∈ args) :
    s.AgreeOn t x := by
  refine h.of_operand (fun y hy ↦ Expr.mem_nodes_of_arg hx hy) fun y hy ↦ ?_
  rw [Expr.chains_call]
  exact List.mem_append_right _ (List.mem_flatMap.2 ⟨x, hx, hy⟩)

/-! ## Where the settings are asked -/

theorem renderField_eq {operand : Expr} {field : String}
    (h : s.AgreeOn t (.select operand field)) :
    Expr.renderField s (.select operand field) = Expr.renderField t (.select operand field) := by
  rw [Expr.renderField, Expr.renderField, ← h.subject]
  cases hpath : (Expr.select operand field).fieldPath s.subject with
  | error error => rfl
  | ok path =>
    have hcolumn := h.column _ (Expr.select_mem_chains operand field) path hpath
    exact congrArg (fun column : String ↦ Render.write column.toList) hcolumn

theorem resolve_eq (h : s.AgreeOn t (.call function target args)) :
    Expr.resolve s function = Expr.resolve t function := by
  have henabled := h.isEnabled function target args (Expr.self_mem_nodes _)
  rw [Expr.resolve, Expr.resolve, henabled]

/-- Only a timestamp read from text is written in a zone and a format. -/
theorem renderMoment_eq {arg : Expr}
    (h : ∀ text, arg = .literal (.string text) → s.zone = t.zone ∧ s.timeFormat = t.timeFormat) :
    Expr.renderMoment s function arg = Expr.renderMoment t function arg := by
  cases arg with
  | literal v =>
    cases v with
    | string text =>
      obtain ⟨hzone, hformat⟩ := h text rfl
      have htext : Expr.timestampText s text = Expr.timestampText t text := by
        rw [Expr.timestampText, Expr.timestampText, hzone, hformat]
      rw [Expr.renderMoment, Expr.renderMoment, htext]
    | _ => rfl
  | _ => rfl

theorem renderTimestamp_eq (h : s.AgreeOn t (.call Builtin.timestamp.name target args)) :
    Expr.renderTimestamp s Builtin.timestamp.name (Expr.targetRender t target) args =
      Expr.renderTimestamp t Builtin.timestamp.name (Expr.targetRender t target) args := by
  cases target with
  | some x => rfl
  | none =>
    by_cases hlength : args.length = 1
    · obtain ⟨arg, rfl⟩ := List.length_eq_one_iff.1 hlength
      refine renderMoment_eq fun text htext ↦ h.time text ?_
      rw [← htext]
      exact Expr.self_mem_nodes _
    · rw [Expr.targetRender, Expr.renderTimestamp_of_length_ne hlength,
        Expr.renderTimestamp_of_length_ne hlength]

theorem renderCall_eq (h : s.AgreeOn t (.call function target args))
    (operands : List (Render Unit)) :
    Expr.renderCall s function (Expr.targetRender t target) operands args =
      Expr.renderCall t function (Expr.targetRender t target) operands args := by
  rw [Expr.renderCall, Expr.renderCall, h.resolve_eq]
  cases hresolve : Expr.resolve t function with
  | error error => rfl
  | ok f =>
    cases f with
    | timestamp =>
      obtain ⟨rfl, -⟩ := Expr.resolve_eq_ok_iff.1 hresolve
      exact h.renderTimestamp_eq
    | _ => rfl

end Settings.AgreeOn

/-! ## Trees -/

/-- **Settings that agree on a tree render it in the same way.** -/
theorem Expr.render_congr {s t : Settings} {e : Expr} (h : s.AgreeOn t e) :
    e.render s = e.render t := by
  induction e using Expr.nodeInduction with
  | literal value => rw [render, render]
  | ident name => rw [render, render]
  | list elements => rw [render, render]
  | select operand field =>
    -- A chain is rendered as a whole, so nothing is needed about the operand.
    rw [render, render, h.renderField_eq]
  | call function target args iht iha =>
    have htarget : targetRender s target = targetRender t target := by
      rw [targetRender_eq_map, targetRender_eq_map]
      refine Option.map_congr fun x hx ↦ iht x hx ?_
      subst hx
      exact h.of_target
    have hargs : renders s args = renders t args := by
      rw [renders_eq_map, renders_eq_map]
      exact List.map_congr_left fun x hx ↦ iha x hx (h.of_arg hx)
    rw [render, render, htarget, hargs, h.renderCall_eq]

/-- Settings that agree on a tree give the same SQL or the same error for it. -/
theorem Settings.generate_congr {s t : Settings} {e : Expr} (h : s.AgreeOn t e) :
    s.generate e = t.generate e := by
  rw [generate, generate, written, written, Expr.render_congr h]

/-- All timestamps of a tree are numbers of seconds. -/
def Expr.TimestampsAreSeconds (e : Expr) : Prop :=
  ∀ target args, call Builtin.timestamp.name target args ∈ e.nodes →
    ∀ a ∈ args, ∃ v n, a = literal v ∧ v.seconds? = some n

namespace Settings

/-- Settings that differ in how times are written agree on a tree without timestamps to be read. -/
theorem agreeOn_of_timestampsAreSeconds {e : Expr} (he : e.TimestampsAreSeconds) (s : Settings)
    (zone : Calendar.Zone) (timeFormat : String) :
    AgreeOn { s with zone := zone, timeFormat := timeFormat } s e where
  subject := rfl
  isEnabled _ _ _ _ := rfl
  column _ _ _ _ := rfl
  time text htext := by
    obtain ⟨v, n, hv, hn⟩ := he none _ htext _ (List.mem_singleton_self _)
    cases hv
    cases hn

/-- **A tree is rendered from nothing but what it mentions.**  Two settings that agree on the
subject, on the functions a tree calls, on the columns of its chains of fields and, if there is a
timestamp to be read from text, on the time zone and the time format, give the same SQL or the same
error.  So a tree whose timestamps are numbers of seconds is rendered the same in every zone and
format. -/
theorem generate_eq_of_agreeOn (e : Expr) :
    (∀ s t : Settings, s.AgreeOn t e → s.generate e = t.generate e) ∧
      (e.TimestampsAreSeconds → ∀ (s : Settings) (zone : Calendar.Zone) (timeFormat : String),
        { s with zone := zone, timeFormat := timeFormat }.generate e = s.generate e) := by
  refine ⟨fun s t h ↦ generate_congr h, fun he s zone timeFormat ↦ ?_⟩
  exact generate_congr (agreeOn_of_timestampsAreSeconds he s zone timeFormat)

/-- A mapped field and a number of seconds.  One of the settings has another zone and another
format, maps a field that is only the start of the one in the tree, and has no patterns. -/
theorem generate_eq_of_agreeOn_seconds :
    ∃ (s t : Settings) (e : Expr), s.zone ≠ t.zone ∧ s.timeFormat ≠ t.timeFormat ∧
      s.column "profile" ≠ t.column "profile" ∧
      s.isEnabled "startsWith" ≠ t.isEnabled "startsWith" ∧ s.AgreeOn t e ∧
      e.TimestampsAreSeconds ∧ t.generate e = .ok "(born < FROM_UNIXTIME(-1))" ∧
      s.generate e = .ok "(born < FROM_UNIXTIME(-1))" ∧
      { t with zone := .kolkata, timeFormat := "%c" }.generate e =
        .ok "(born < FROM_UNIXTIME(-1))" := by
  let e : Expr := .binary .lessThan (.select (.select (.ident "i") "profile") "birth")
    (.globalCall "timestamp" [.literal (.int (-1))])
  let t : Settings := { default with columns := [("profile.birth", "born")] }
  let s : Settings := { t with
    columns := [("profile", "p"), ("profile.birth", "born")]
    zone := .shanghai
    timeFormat := "%#z"
    functions := t.functions.erase "startsWith" }
  have hsql : t.generate e = .ok "(born < FROM_UNIXTIME(-1))" := by decide +kernel
  have hcalls : ∀ function target args, .call function target args ∈ e.nodes →
      s.isEnabled function = t.isEnabled function ∧
        (function = "timestamp" → args = [.literal (.int (-1))]) := by
    intro function target args h
    have hnodes : e.nodes = [e, .select (.select (.ident "i") "profile") "birth",
        .select (.ident "i") "profile", .ident "i",
        .globalCall "timestamp" [.literal (.int (-1))], .literal (.int (-1))] := rfl
    rw [hnodes] at h
    simp only [e, Expr.binary, Expr.globalCall, List.mem_cons, reduceCtorEq, Expr.call.injEq,
      List.not_mem_nil, or_false, false_or] at h
    obtain ⟨rfl, -⟩ | ⟨rfl, -, rfl⟩ := h
    · exact ⟨by decide +kernel, fun h ↦ absurd h (by decide)⟩
    · exact ⟨by decide +kernel, fun _ ↦ rfl⟩
  have hagree : s.AgreeOn t e := {
    subject := rfl
    isEnabled := fun function target args h ↦ (hcalls function target args h).1
    column := by
      have hchains : e.chains = [.select (.select (.ident "i") "profile") "birth"] := rfl
      rw [hchains]
      rintro _ (_ | ⟨_, ⟨⟩⟩) path ⟨⟩
      decide +kernel
    time := by
      intro text h
      cases (hcalls _ _ _ h).2 rfl }
  have hseconds : e.TimestampsAreSeconds := by
    intro target args h
    rw [(hcalls _ _ _ h).2 rfl]
    rintro _ (_ | ⟨_, ⟨⟩⟩)
    exact ⟨_, _, rfl, rfl⟩
  obtain ⟨hcongr, hwritten⟩ := generate_eq_of_agreeOn e
  refine ⟨s, t, e, by decide +kernel, by decide +kernel, by decide +kernel, by decide +kernel,
    hagree, hseconds, hsql, ?_, ?_⟩
  · rw [hcongr s t hagree, hsql]
  · rw [hwritten hseconds, hsql]

end Settings

end WhereClause
