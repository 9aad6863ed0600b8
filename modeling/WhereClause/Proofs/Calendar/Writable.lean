import WhereClause.Calendar.Zone.Known
import WhereClause.Proofs.Converter
import WhereClause.Proofs.Sql.Violations

/-!
# Formats that can be written

A converter is only built if its time format can be read, that is if `Format.parse?` knows every
specifier in it.  Writing is another matter: `%#z` is an offset in any form, of use for reading
times, and no time can be written with it.  It is the only such specifier, and this file goes from
there to the settings of a converter and to the trees it renders.

The reader of formats takes one character after the other, so the question where an item comes from
is answered in three steps.  `Pending.step_cases` says which character leads to which state;
`Format.parseFrom?_append` says that a format can be cut where a specifier ends; and
`Format.looseOffset_mem_iff` puts them together: **the item stands for `%#z` in the text, after a
part that is a format by itself**.  That part matters, because `%%#z` is a percent sign and two
letters.
-/

set_option autoImplicit false

namespace WhereClause

namespace Calendar

/-! ## Where an item comes from -/

theorem looseOffset_not_mem_letterItems? {c : Char} {items : List Item}
    (h : letterItems? c = some items) : Item.looseOffset ∉ items := by
  rw [letterItems?.eq_def] at h
  split at h
  · cases h
    simp
  · split at h <;> cases h <;> decide

/-- What leads to an offset in any form: a percent sign, a number sign and a `z`, each from the
state before.  No other character has a part in it. -/
theorem Pending.step_cases {p q : Pending} {c : Char} {items : List Item}
    (h : p.step c = some (q, items)) :
    (p = .idle ∧ c = '%' ∧ q = .percent ∧ items = []) ∨
      (p = .percent ∧ c = '#' ∧ q = .loose ∧ items = []) ∨
      (p = .loose ∧ c = 'z') ∨ q ≠ .percent ∧ q ≠ .loose ∧ Item.looseOffset ∉ items := by
  have hletter := @looseOffset_not_mem_letterItems? c
  rw [step.eq_def] at h
  split at h <;> grind [Option.map_eq_some_iff]

namespace Format

theorem parseFrom?_cons_of_step {p q : Pending} {c : Char} {first : List Item}
    (h : p.step c = some (q, first)) (cs : List Char) :
    parseFrom? p (c :: cs) = (parseFrom? q cs).map (first ++ ·) := by
  rw [parseFrom?, h]
  cases hcs : parseFrom? q cs <;> simp [hcs]

theorem parseFrom?_cons_eq_some_iff {p : Pending} {c : Char} {cs : List Char} {items : List Item} :
    parseFrom? p (c :: cs) = some items ↔ ∃ q first rest,
      p.step c = some (q, first) ∧ parseFrom? q cs = some rest ∧ items = first ++ rest := by
  cases hstep : p.step c with
  | none => simp [parseFrom?, hstep]
  | some result =>
    obtain ⟨q, first⟩ := result
    rw [parseFrom?_cons_of_step hstep, Option.map_eq_some_iff]
    constructor
    · rintro ⟨rest, hrest, rfl⟩
      exact ⟨q, first, rest, rfl, hrest, rfl⟩
    · rintro ⟨_, _, rest, ⟨⟩, hrest, rfl⟩
      exact ⟨rest, hrest, rfl⟩

theorem parseFrom?_nil_eq_some_iff {p : Pending} {items : List Item} :
    parseFrom? p [] = some items ↔ p = .idle ∧ items = [] := by
  cases p <;> simp [parseFrom?, eq_comm]

/-- **A format can be cut where a specifier ends.** -/
theorem parseFrom?_append {p : Pending} {a b : List Char} {items : List Item}
    (h : parseFrom? p a = some items) :
    parseFrom? p (a ++ b) = (parseFrom? .idle b).map (items ++ ·) := by
  induction a generalizing p items with
  | nil =>
    obtain ⟨rfl, rfl⟩ := parseFrom?_nil_eq_some_iff.1 h
    simp
  | cons c a ih =>
    obtain ⟨q, first, rest, hstep, hrest, rfl⟩ := parseFrom?_cons_eq_some_iff.1 h
    rw [List.cons_append, parseFrom?_cons_of_step hstep, ih hrest, Option.map_map]
    simp only [Function.comp_def, List.append_assoc]

/-- The specifier `%#z` stands in a format: there is such a text in it, and what comes before is a
format by itself. -/
def HasLooseOffset (format : String) : Prop :=
  ∃ before after, format = before ++ "%#z" ++ after ∧ (parse? before).isSome = true

/-- Where an offset in any form comes from, also if part of its specifier has been read. -/
theorem exists_of_looseOffset_mem {p : Pending} {cs : List Char} {items : List Item}
    (h : parseFrom? p cs = some items) (hmem : Item.looseOffset ∈ items) :
    (p = .loose ∧ ∃ b, cs = 'z' :: b) ∨ (p = .percent ∧ ∃ b, cs = '#' :: 'z' :: b) ∨
      ∃ a b, cs = a ++ '%' :: '#' :: 'z' :: b ∧ (parseFrom? p a).isSome = true := by
  induction cs generalizing p items with
  | nil =>
    obtain ⟨-, rfl⟩ := parseFrom?_nil_eq_some_iff.1 h
    cases hmem
  | cons c cs ih =>
    obtain ⟨q, first, rest, hstep, hrest, rfl⟩ := parseFrom?_cons_eq_some_iff.1 h
    -- A place further on in the text is as good as one at its start.
    have hlater : (∃ a b, cs = a ++ '%' :: '#' :: 'z' :: b ∧ (parseFrom? q a).isSome = true) →
        ∃ a b, c :: cs = a ++ '%' :: '#' :: 'z' :: b ∧ (parseFrom? p a).isSome = true := by
      rintro ⟨a, b, rfl, ha⟩
      obtain ⟨items, hitems⟩ := Option.isSome_iff_exists.1 ha
      have hcons := parseFrom?_cons_eq_some_iff.2 ⟨q, first, items, hstep, hitems, rfl⟩
      exact ⟨c :: a, b, rfl, Option.isSome_iff_exists.2 ⟨_, hcons⟩⟩
    rcases Pending.step_cases hstep with ⟨rfl, rfl, rfl, rfl⟩ | ⟨rfl, rfl, rfl, rfl⟩ |
      ⟨rfl, rfl⟩ | ⟨hpercent, hloose, hfirst⟩
    · rcases ih hrest hmem with ⟨⟨⟩, -⟩ | ⟨-, b, rfl⟩ | hplace
      · exact .inr (.inr ⟨[], b, rfl, rfl⟩)
      · exact .inr (.inr (hlater hplace))
    · rcases ih hrest hmem with ⟨-, b, rfl⟩ | ⟨⟨⟩, -⟩ | hplace
      · exact .inr (.inl ⟨rfl, b, rfl⟩)
      · exact .inr (.inr (hlater hplace))
    · exact .inl ⟨rfl, cs, rfl⟩
    · have hmem : Item.looseOffset ∈ rest := (List.mem_append.1 hmem).resolve_left hfirst
      rcases ih hrest hmem with ⟨hq, -⟩ | ⟨hq, -⟩ | hplace
      · exact absurd hq hloose
      · exact absurd hq hpercent
      · exact .inr (.inr (hlater hplace))

/-- **The only item that cannot be written stands for `%#z`.** -/
theorem looseOffset_mem_iff {format : String} {items : List Item}
    (h : parse? format = some items) : Item.looseOffset ∈ items ↔ HasLooseOffset format := by
  constructor
  · intro hmem
    rcases exists_of_looseOffset_mem h hmem with ⟨⟨⟩, -⟩ | ⟨⟨⟩, -⟩ | ⟨a, b, hcs, ha⟩
    refine ⟨String.ofList a, String.ofList b, ?_, by rwa [parse?, String.toList_ofList]⟩
    rw [← String.toList_inj, hcs]
    simp
  · rintro ⟨before, after, rfl, hbefore⟩
    obtain ⟨first, hfirst⟩ := Option.isSome_iff_exists.1 hbefore
    have hlist : (before ++ "%#z" ++ after).toList =
        before.toList ++ '%' :: '#' :: 'z' :: after.toList := by simp
    rw [parse?, hlist, parseFrom?_append hfirst, Option.map_eq_some_iff] at h
    obtain ⟨rest, hrest, rfl⟩ := h
    obtain ⟨_, _, _, ⟨⟩, h₁, rfl⟩ := parseFrom?_cons_eq_some_iff.1 hrest
    obtain ⟨_, _, _, ⟨⟩, h₂, rfl⟩ := parseFrom?_cons_eq_some_iff.1 h₁
    obtain ⟨_, _, _, ⟨⟩, -, rfl⟩ := parseFrom?_cons_eq_some_iff.1 h₂
    simp

/-- Items can be written unless one of them is an offset in any form. -/
theorem print?_eq_none_iff {r : Reading} {items : List Item} :
    print? r items = none ↔ Item.looseOffset ∈ items := by
  constructor
  · intro h
    by_contra hmem
    obtain ⟨cs, hcs⟩ := exists_print? r hmem
    rw [hcs] at h
    cases h
  · intro hmem
    induction items with
    | nil => cases hmem
    | cons item items ih =>
      rcases List.mem_cons.1 hmem with rfl | hmem
      · rfl
      · rw [print?, ih hmem]
        cases r.item? item <;> rfl

end Format

end Calendar

open Calendar (Instant Format.parse? Format.print? Format.HasLooseOffset)

/-! ## Timestamps and trees -/

/-- Settings that pass have a format that can be read. -/
theorem Settings.exists_parse?_of_validate {s : Settings} (h : s.validate = .ok ()) :
    ∃ items, Format.parse? s.timeFormat = some items := by
  rw [validate] at h
  split at h
  · cases h
  · split at h
    next items hitems => exact ⟨items, hitems⟩
    next => cases h

variable {s : Settings}

/-- **A timestamp that can be read is written unless `%#z` stands in the format**, and then it is
the format that is to blame. -/
theorem Expr.timestampText_cases {items : List Calendar.Item}
    (hformat : Format.parse? s.timeFormat = some items) {text : String} {t : Instant}
    (ht : Instant.ofTimestamp text = .ok t) :
    (¬ Format.HasLooseOffset s.timeFormat ∧ ∃ cs, timestampText s text = .ok cs) ∨
      Format.HasLooseOffset s.timeFormat ∧
        timestampText s text = .error (.unwritableFormat s.timeFormat) := by
  rw [← Calendar.Format.looseOffset_mem_iff hformat,
    ← Calendar.Format.print?_eq_none_iff (r := s.zone.localize t.truncate), timestampText, ht,
    hformat]
  cases hprint : Format.print? (s.zone.localize t.truncate) items with
  | none => exact .inr ⟨rfl, by simp [hprint]⟩
  | some cs => exact .inl ⟨by simp, cs, by simp [hprint]⟩

/-- A tree that fails because of the format has a timestamp in it that can be read. -/
theorem Refused.exists_timestamp {e : Expr} {error : RenderError} (h : Refused s e error)
    {format : String} (herror : error = .unwritableFormat format) :
    s.isEnabled Builtin.timestamp.name = true ∧
      ∃ text t, Instant.ofTimestamp text = .ok t ∧ Expr.timestampText s text = .error error := by
  induction h with
  | ident name => cases herror
  | list elements => cases herror
  | nonFinite h => cases herror
  | field h =>
    subst herror
    rw [Expr.fieldPath.eq_def] at h
    split at h
    · split at h <;> cases h
    · cases h
  | function h =>
    obtain ⟨rfl, -⟩ := Expr.resolve_eq_error h
    cases herror
  | shape enabled h => cases herror
  | @pattern f content target arg error enabled hf h =>
    subst herror
    have hfault := Expr.patternFault?_of_error h
    rw [Expr.patternFault?.eq_def] at hfault
    split at hfault <;> cases hfault
  | @moment arg error enabled h =>
    subst herror
    refine ⟨enabled, ?_⟩
    rw [Expr.momentError?.eq_def] at h
    split at h
    next text =>
      split at h
      · cases h
      next htext =>
        cases h
        cases ht : Instant.ofTimestamp text with
        | ok t => exact ⟨text, t, ht, htext⟩
        | error e =>
          rw [Expr.timestampText, ht] at htext
          cases htext
    all_goals cases h
  | left enabled hl ih => exact ih herror
  | right enabled hl hr ih => exact ih herror
  | operand enabled ha ih => exact ih herror
  | receiver enabled hf ha ih => exact ih herror

/-- Where `%#z` stands in the format, the first moment of 1970 cannot be rendered. -/
theorem Refused.of_hasLooseOffset {items : List Calendar.Item}
    (hformat : Format.parse? s.timeFormat = some items)
    (hloose : Format.HasLooseOffset s.timeFormat)
    (enabled : s.isEnabled Builtin.timestamp.name = true) :
    ∃ e, Refused s e (.unwritableFormat s.timeFormat) := by
  obtain ⟨t, ht⟩ : ∃ t, Instant.ofTimestamp "1970-01-01T00:00:00Z" = .ok t := ⟨_, rfl⟩
  rcases Expr.timestampText_cases hformat ht with ⟨hnot, -⟩ | ⟨-, htext⟩
  · exact absurd hloose hnot
  · refine ⟨.globalCall Builtin.timestamp.name [.literal (.string "1970-01-01T00:00:00Z")],
      .moment enabled ?_⟩
    rw [Expr.momentError?, htext]

namespace Converter

/-- **A converter can fail because of its time format exactly if `%#z` stands in it**, and
timestamps are enabled.  With any other format it was built with, it writes every timestamp that can
be read, and no tree at all fails because of the format. -/
theorem generate_unwritable_iff {p : Plan} {c : Converter} (h : p.build = .ok c) :
    ((∃ e format, c.generate e = .error (.unwritableFormat format)) ↔
      Format.HasLooseOffset c.settings.timeFormat ∧
        c.settings.isEnabled Builtin.timestamp.name = true) ∧
    ∀ text t, Instant.ofTimestamp text = .ok t →
      ((∃ cs, Expr.timestampText c.settings text = .ok cs) ↔
        ¬ Format.HasLooseOffset c.settings.timeFormat) := by
  obtain ⟨hvalid, -, rfl⟩ := Plan.build_eq_ok_iff.1 h
  obtain ⟨items, hformat⟩ := Settings.exists_parse?_of_validate (s := c.settings) hvalid
  refine ⟨⟨?_, ?_⟩, fun text t ht ↦ ?_⟩
  · rintro ⟨e, format, he⟩
    obtain ⟨enabled, text, t, ht, htext⟩ :=
      (Settings.generate_eq_error_iff.1 he).exists_timestamp rfl
    rcases Expr.timestampText_cases hformat ht with ⟨-, cs, hcs⟩ | ⟨hloose, -⟩
    · rw [hcs] at htext
      cases htext
    · exact ⟨hloose, enabled⟩
  · rintro ⟨hloose, enabled⟩
    obtain ⟨e, he⟩ := Refused.of_hasLooseOffset hformat hloose enabled
    exact ⟨e, _, Settings.generate_eq_error_iff.2 he⟩
  · rcases Expr.timestampText_cases hformat ht with ⟨hnot, hcs⟩ | ⟨hloose, htext⟩
    · exact iff_of_true hcs hnot
    · refine iff_of_false ?_ (not_not_intro hloose)
      rintro ⟨cs, hcs⟩
      rw [htext] at hcs
      cases hcs

/-- A percent sign that stands for itself, and `#z` after it.  It looks like the specifier, but is
none, and nothing fails because of it. -/
theorem generate_unwritable_iff_percent :
    ∃ p c, Plan.default.applyAll [.timeFormat "%%#z %Y"] = .ok p ∧ p.build = .ok c ∧
      ¬ Format.HasLooseOffset "%%#z %Y" ∧
      ∀ e format, c.generate e ≠ .error (.unwritableFormat format) := by
  obtain ⟨c, hc, htimeFormat, htext⟩ := Plan.exists_build
    (P := fun c ↦ c.settings.timeFormat = "%%#z %Y" ∧
      Expr.timestampText c.settings "1970-01-01T00:00:00Z" = .ok "%#z 1970".toList)
    { Plan.default with settings.timeFormat := "%%#z %Y" } (by decide +kernel)
  obtain ⟨hunwritable, hwritten⟩ := generate_unwritable_iff hc
  have hloose : ¬ Format.HasLooseOffset c.settings.timeFormat :=
    (hwritten "1970-01-01T00:00:00Z" _ rfl).1 ⟨_, htext⟩
  refine ⟨_, c, rfl, hc, htimeFormat ▸ hloose, fun e format he ↦ ?_⟩
  exact hloose (hunwritable.1 ⟨e, format, he⟩).1

/-- With `%#z` as its format a converter is built, and then fails on a timestamp. -/
theorem generate_loose_offset :
    ∃ p c, Plan.default.applyAll [.timeFormat "%#z"] = .ok p ∧ p.build = .ok c ∧
      c.generate (.globalCall "timestamp" [.literal (.string "2024-01-01T00:00:00Z")]) =
        .error (.unwritableFormat "%#z") := by
  obtain ⟨c, hc, hgenerate⟩ := Plan.exists_build
    (P := fun c ↦ c.generate
      (.globalCall "timestamp" [.literal (.string "2024-01-01T00:00:00Z")]) =
        .error (.unwritableFormat "%#z"))
    { Plan.default with settings.timeFormat := "%#z" } (by decide +kernel)
  exact ⟨_, c, rfl, hc, hgenerate⟩

end Converter

end WhereClause
