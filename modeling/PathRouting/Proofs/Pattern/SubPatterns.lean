/-
  Sub-patterns that are self-contained.

  * `Options.grouped`: the options with each sub-pattern in a group of its own.
  * `compile_exchange`: sources that stand for one another compile to matchers that match
    alike.
  * `compilePattern_grouped`: if the sub-patterns keep the flags and every raw regular
    expression keeps to its group, then the grouped sub-patterns match alike.
-/
import PathRouting.Proofs.Pattern.Exchange
import PathRouting.Proofs.Regex.Sealed

namespace PathRouting.Pattern

open Regex Regex.Reader

/-! ## Compiling sources that are exchanged -/

section
variable {P : Prop} {n : Node} {o o' : Options} {f : Flags} {s s' : Source}

/-- The texts of two sources as regular expressions of their own. -/
theorem Source.Exchange.anchored (h : Source.Exchange P f s s') (hf : f.verbose = false) :
    Rewrites P f (Matcher.anchored s) (Matcher.anchored s') := by
  have hcaret := (rewrites_caret hf).append ((h.text.inside hf).group hf)
  exact hcaret.imp And.right

/-- **Compiling.** Trees of which the sources are exchanged are compiled alike, unless
    the second one is nested too deeply. -/
theorem compile_exchange
    (h : Source.Exchange P (patternFlags (!o.caseSensitive)) (n.source o) (n.source o'))
    (ho : o.check = .ok ()) (ho' : o'.check = .ok ())
    (hcase : o'.caseSensitive = o.caseSensitive)
    (hdepth : Regex.compile (!o.caseSensitive) (Matcher.anchored (n.source o')) ≠ .error .tooDeep) :
    (compile n o').toOption.map Matcher.match? = (compile n o).toOption.map Matcher.match? := by
  obtain ⟨⟨x, hx⟩, x', hx'⟩ | ⟨-, hdeep | ⟨e, he, he'⟩⟩ := (h.anchored rfl).read
  · rw [compile_of_rejected ho (regex_compile_of_rejected hx),
      compile_of_rejected ho' (by rw [hcase]; exact regex_compile_of_rejected hx')]
    rfl
  · exact absurd (regex_compile_of_rejected hdeep) hdepth
  · have hr := regex_compile_of_read he
    have hr' := regex_compile_of_read he'
    rw [← hcase] at hr'
    split_ifs at hr hr' with hfits
    · by_cases hgroups : e.groupCount = (n.source o).groups
      · rw [compile_of_regex ho hr hgroups, compile_of_regex ho' hr' (hgroups.trans h.groups),
          ← h.slots]
        rfl
      · have hgroups' : e.groupCount ≠ (n.source o').groups := h.groups ▸ hgroups
        rw [compile_of_mismatch ho hr hgroups, compile_of_mismatch ho' hr' hgroups']
        rfl
    · rw [compile_of_rejected ho hr, compile_of_rejected ho' hr']
      rfl

end

namespace Options

variable {o : Options}

/-! ## Checking options -/

theorem checkAll_eq_ok {l : List SubPattern} : o.checkAll l = .ok () ↔
    ∀ which ∈ l, ∃ r, Regex.compile false (o.get which) = .ok r ∧ r.groupCount = 0 := by
  induction l with
  | nil => exact ⟨fun _ _ hw => (nomatch hw), fun _ => rfl⟩
  | cons which l ih =>
    rw [List.forall_mem_cons, ← ih, checkAll]
    cases hr : Regex.compile false (o.get which) with
    | error x => simp
    | ok r => by_cases hg : r.groupCount = 0 <;> simp [hg]

theorem check_eq_ok : o.check = .ok () ↔
    ∀ which, ∃ r, Regex.compile false (o.get which) = .ok r ∧ r.groupCount = 0 := by
  rw [check, checkAll_eq_ok]
  refine ⟨fun h which => h which ?_, fun h which _ => h which⟩
  cases which <;> decide

/-! ## Grouping -/

/-- The options with each sub-pattern in a group of its own. -/
def grouped (o : Options) : Options where
  caseSensitive := o.caseSensitive
  pathSeparator := (Source.group (.ofText o.pathSeparator)).text
  wildcard := (Source.group (.ofText o.wildcard)).text
  greedyWildcard := (Source.group (.ofText o.greedyWildcard)).text
  unconstrainedVariable := (Source.group (.ofText o.unconstrainedVariable)).text

theorem get_grouped (o : Options) (which : SubPattern) :
    o.grouped.get which = (Source.group (.ofText (o.get which))).text := by
  cases which <;> rfl

/-- Options with sub-patterns that keep to themselves: none ends in verbose mode, where a
    comment would go on, and one that is spliced in without a group keeps the flags. -/
structure SelfContained (o : Options) : Prop where
  terse : ∀ ci which, (finalFlags? (patternFlags ci) (o.get which)).any (!·.verbose)
  spliced : ∀ which, which ≠ .unconstrainedVariable → '|' ∉ o.get which →
    finalFlags? (patternFlags (!o.caseSensitive)) (o.get which) =
      some (patternFlags (!o.caseSensitive))

namespace SelfContained

theorem alone (h : o.SelfContained) (ci : Bool) (which : SubPattern) :
    ∃ s, Alone (patternFlags ci) (o.get which) s := by
  obtain ⟨s, hs, -⟩ := alone_of_finalFlags (h.terse ci which)
  exact ⟨s, hs⟩

theorem keeps (h : o.SelfContained) {which : SubPattern} (hwhich : which ≠ .unconstrainedVariable)
    (hbar : '|' ∉ o.get which) : ∃ s, Alone (patternFlags (!o.caseSensitive)) (o.get which) s ∧
      s.flags = patternFlags (!o.caseSensitive) := by
  obtain ⟨s, hs, hflags⟩ := alone_of_finalFlags (h.terse (!o.caseSensitive) which)
  rw [h.spliced which hwhich hbar] at hflags
  exact ⟨s, hs, (Option.some.inj hflags).symm⟩

/-- A sub-pattern may be put in a group where it is spliced in. -/
theorem rewrites_grouped (h : o.SelfContained) (which : SubPattern)
    (hwhich : which ≠ .unconstrainedVariable) :
    Rewrites True (patternFlags (!o.caseSensitive)) (Source.subPattern (o.get which)).text
      (Source.subPattern (o.grouped.get which)).text := by
  rw [get_grouped]
  by_cases hbar : '|' ∈ o.get which
  · obtain ⟨s, hs⟩ := h.alone (!o.caseSensitive) which
    have hbar' : '|' ∈ (Source.group (.ofText (o.get which))).text :=
      List.mem_append_left _ (List.mem_append_right _ hbar)
    unfold Source.subPattern
    rw [if_pos (List.contains_iff_mem.2 hbar), if_pos (List.contains_iff_mem.2 hbar')]
    exact (hs.grouped_inside rfl).group rfl
  · obtain ⟨s, hs, hflags⟩ := h.keeps hwhich hbar
    have hbar' : '|' ∉ (Source.group (.ofText (o.get which))).text := by
      intro hm
      have hparens : '|' ∉ "(?:".toList ∧ '|' ∉ ")".toList := by decide
      exact (List.mem_append.1 hm).elim
        (fun hm => (List.mem_append.1 hm).elim hparens.1 hbar) hparens.2
    unfold Source.subPattern
    rw [if_neg (mt List.contains_iff_mem.1 hbar), if_neg (mt List.contains_iff_mem.1 hbar')]
    exact hs.grouped rfl hflags hbar

/-- A sub-pattern is read in the same way wherever it is spliced in. -/
theorem rewrites (h : o.SelfContained) (which : SubPattern)
    (hwhich : which ≠ .unconstrainedVariable) :
    Rewrites True (patternFlags (!o.caseSensitive)) (Source.subPattern (o.get which)).text
      (Source.subPattern (o.get which)).text := by
  unfold Source.subPattern
  split_ifs with hbar
  · obtain ⟨s, hs⟩ := h.alone (!o.caseSensitive) which
    exact hs.inside.group rfl
  · obtain ⟨s, hs, hflags⟩ := h.keeps hwhich (mt List.contains_iff_mem.2 hbar)
    exact hs.spliced rfl hflags (mt List.contains_iff_mem.2 hbar)

theorem exchange (h : o.SelfContained) : o.Exchange (patternFlags (!o.caseSensitive)) o := by
  obtain ⟨s, hs⟩ := h.alone (!o.caseSensitive) .unconstrainedVariable
  exact ⟨h.rewrites .pathSeparator nofun, h.rewrites .wildcard nofun,
    h.rewrites .greedyWildcard nofun, hs.inside, hs.loose rfl, hs.loose rfl⟩

/-- Where the options are self-contained, the sub-patterns may be put in groups. -/
theorem exchange_grouped (h : o.SelfContained) :
    o.Exchange (patternFlags (!o.caseSensitive)) o.grouped := by
  obtain ⟨s, hs⟩ := h.alone (!o.caseSensitive) .unconstrainedVariable
  exact ⟨h.rewrites_grouped .pathSeparator nofun, h.rewrites_grouped .wildcard nofun,
    h.rewrites_grouped .greedyWildcard nofun,
    hs.grouped_inside rfl, hs.loose rfl, loose_cons (by decide)⟩

/-- Sub-patterns that pass the check do so in groups, unless they are nested too deeply
    then. -/
theorem check_grouped (h : o.SelfContained) (ho : o.check = .ok ())
    (hdepth : ∀ which, Regex.compile false (o.grouped.get which) ≠ .error .tooDeep) :
    o.grouped.check = .ok () := by
  rw [check_eq_ok] at ho ⊢
  intro which
  obtain ⟨r, hr, hgroups⟩ := ho which
  obtain ⟨s, hs⟩ := h.alone false which
  have hdeep := hdepth which
  rw [get_grouped] at hdeep ⊢
  have hgrouped : ReadAlike True (patternFlags false) (o.get which)
      (Source.group (.ofText (o.get which))).text := hs.read_grouped rfl
  obtain ⟨⟨x, hx⟩, -⟩ | ⟨-, hx | ⟨e, he, he'⟩⟩ := hgrouped
  · rw [regex_compile_of_rejected hx] at hr
    cases hr
  · exact absurd (regex_compile_of_rejected hx) hdeep
  · rw [regex_compile_of_read he] at hr
    split_ifs at hr with hfits
    cases hr
    exact ⟨_, (regex_compile_of_read he').trans (if_pos hfits), hgroups⟩

end SelfContained

end Options

/-! ## Patterns -/

theorem toOption_compilePattern (pattern : Text) (o : Options) :
    (compilePattern pattern o).toOption = (parse pattern).toOption.bind (compile · o |>.toOption) := by
  rw [compilePattern]
  cases parse pattern with
  | error x => rfl
  | ok root => rfl

/-- **Self-contained sub-patterns.** If the sub-patterns keep to themselves and each raw
    regular expression keeps to its group, then a pattern is compiled and matches in the
    same way when each sub-pattern is put in a group of its own, as long as nothing is
    nested too deeply then. -/
theorem compilePattern_grouped {pattern : Text} {o : Options} (ho : o.check = .ok ())
    (hself : o.SelfContained)
    (hraw : ∀ root, parse pattern = .ok root → ∀ body ∈ root.bodies,
      Contained (patternFlags (!o.caseSensitive)) body)
    (hdepth : ∀ which, Regex.compile false (o.grouped.get which) ≠ .error .tooDeep)
    (hdepth' : ∀ root, parse pattern = .ok root →
      Regex.compile (!o.caseSensitive) (Matcher.anchored (root.source o.grouped)) ≠
        .error .tooDeep) :
    (compilePattern pattern o.grouped).toOption.map Matcher.match? =
      (compilePattern pattern o).toOption.map Matcher.match? := by
  rw [toOption_compilePattern, toOption_compilePattern]
  cases hparse : parse pattern with
  | error x => rfl
  | ok root =>
    have hexchange := Node.source_exchange hself.exchange_grouped root fun body hb =>
      (hraw root hparse body hb).inside rfl
    exact compile_exchange hexchange ho (hself.check_grouped ho hdepth) rfl (hdepth' root hparse)

/-- A wildcard that is a choice, one part of which brings flags of its own, and behind it a
    raw regular expression. -/
theorem compilePattern_grouped_choice :
    (compilePattern "*b/:n([0-9]+)".toList
        (Options.grouped { caseSensitive := true, wildcard := "(?i:x)+|y".toList })).toOption.map
          Matcher.match? =
      (compilePattern "*b/:n([0-9]+)".toList
        { caseSensitive := true, wildcard := "(?i:x)+|y".toList }).toOption.map Matcher.match? := by
  have ho : (Options.check { caseSensitive := true, wildcard := "(?i:x)+|y".toList }).isOk := by
    decide +kernel
  have hraw : (parse "*b/:n([0-9]+)".toList).toOption.all fun root =>
      root.bodies.all fun body => decide (Contained (patternFlags false) body) := by
    decide +kernel
  have hdepth : (parse "*b/:n([0-9]+)".toList).toOption.all fun root =>
      (Regex.compile false (Matcher.anchored (root.source
        (Options.grouped { caseSensitive := true, wildcard := "(?i:x)+|y".toList })))).isOk := by
    decide +kernel
  refine compilePattern_grouped (exists_of_isOk ho).choose_spec ⟨?_, ?_⟩ ?_ ?_ ?_
  · intro ci which
    cases ci <;> cases which <;> decide +kernel
  · intro which hwhich hbar
    cases which
    case wildcard => exact absurd (by decide) hbar
    case unconstrainedVariable => exact absurd rfl hwhich
    all_goals decide +kernel
  · intro root hroot body hb
    rw [hroot] at hraw
    exact of_decide_eq_true (List.all_eq_true.1 hraw body hb)
  · intro which hdeep
    have hok : ∀ which ∈ Options.subPatterns, (Regex.compile false ((Options.grouped
        { caseSensitive := true, wildcard := "(?i:x)+|y".toList }).get which)).isOk := by
      decide +kernel
    have := hok which (by cases which <;> decide)
    rw [hdeep] at this
    cases this
  · intro root hroot hdeep
    rw [hroot] at hdepth
    obtain ⟨r, hr⟩ := exists_of_isOk hdepth
    cases hr.symm.trans hdeep

/-- A wildcard that sets a flag: letter case does not matter behind it either, unless it is
    put in a group. -/
theorem compilePattern_leaking_flag :
    ∃ m m' c, Options.check { caseSensitive := true, wildcard := "(?i)x".toList } = .ok () ∧
      compilePattern "*b".toList { caseSensitive := true, wildcard := "(?i)x".toList } = .ok m ∧
      compilePattern "*b".toList
        (Options.grouped { caseSensitive := true, wildcard := "(?i)x".toList }) = .ok m' ∧
      m.match? "xB".toList = some c ∧ c.consumed = 2 ∧ m'.match? "xB".toList = none := by
  have ho : (Options.check { caseSensitive := true, wildcard := "(?i)x".toList }).isOk := by
    decide +kernel
  have h : ((compilePattern "*b".toList
      { caseSensitive := true, wildcard := "(?i)x".toList }).toOption.bind fun m =>
        (m.match? "xB".toList).map (·.consumed)) = some 2 := by
    decide +kernel
  have h' : ((compilePattern "*b".toList (Options.grouped
      { caseSensitive := true, wildcard := "(?i)x".toList })).toOption.map fun m =>
        (m.match? "xB".toList).isNone) = some true := by
    decide +kernel
  obtain ⟨m, hm, h⟩ := Option.bind_eq_some_iff.1 h
  obtain ⟨c, hc, h⟩ := Option.map_eq_some_iff.1 h
  obtain ⟨m', hm', h'⟩ := Option.map_eq_some_iff.1 h'
  exact ⟨m, m', c, (exists_of_isOk ho).choose_spec, eq_ok_of_toOption hm, eq_ok_of_toOption hm', hc,
    h, Option.isNone_iff_eq_none.1 h'⟩

end PathRouting.Pattern
