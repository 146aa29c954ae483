/-
  Settings in layers: a configuration file, and environment variables on top.

  * `Settings.IsSwitch`: a text is one of the words for a truth value.
    `Settings.switch?_eq_some_iff`: just these are taken for it.
  * `Settings.Layered`: each field of the settings comes from its own variable, or else from
    its own field of the file. `Settings.override_eq_ok_iff`: so it is where overriding
    succeeds.
  * `Pattern.compile_eq_error`: under options that have been checked, compiling fails at the
    regular expression of the whole pattern only.
  * `Settings.load_layers`: what is loaded, and why nothing is.
-/
import PathRouting.Proofs.Pattern.SubPatterns
import PathRouting.Proofs.Pattern.Nesting
import PathRouting.Settings.Basic

namespace PathRouting

open Pattern

/-! ## Words between blanks -/

namespace Text

theorem trim_append {front word back : Text} (hfront : ∀ c ∈ front, isBlank c)
    (hback : ∀ c ∈ back, isBlank c) (hword : ∀ c ∈ word, ¬isBlank c) :
    trim (front ++ word ++ back) = word := by
  rw [trim, List.append_assoc, List.dropWhile_append_of_pos hfront]
  cases word with
  | nil =>
    rw [List.nil_append, List.dropWhile_eq_nil_iff.2 hback]
    rfl
  | cons c word =>
    have hlast : ((c :: word).reverse).dropWhile isBlank = (c :: word).reverse :=
      List.dropWhile_eq_self_iff.2 fun _ =>
        hword _ (List.mem_reverse.1 (List.getElem_mem _))
    rw [List.cons_append, List.dropWhile_cons_of_neg (hword c List.mem_cons_self),
      ← List.cons_append, trimEnd, List.reverse_append,
      List.dropWhile_append_of_pos fun b hb => hback b (List.mem_reverse.1 hb), hlast,
      List.reverse_reverse]

/-- What is trimmed off are blanks. -/
theorem exists_eq_append_trim (t : Text) : ∃ front back, t = front ++ trim t ++ back ∧
    (∀ c ∈ front, isBlank c) ∧ ∀ c ∈ back, isBlank c := by
  have hends : ∀ u : Text, u = trimEnd u ++ (u.reverse.takeWhile isBlank).reverse := by
    intro u
    rw [trimEnd, ← List.reverse_append, List.takeWhile_append_dropWhile, List.reverse_reverse]
  refine ⟨t.takeWhile isBlank, ((t.dropWhile isBlank).reverse.takeWhile isBlank).reverse, ?_,
    fun c hc => List.mem_takeWhile_imp hc,
    fun c hc => List.mem_takeWhile_imp (List.mem_reverse.1 hc)⟩
  rw [trim, List.append_assoc, ← hends, List.takeWhile_append_dropWhile]

/-- No blank is a capital. -/
theorem lowerChar_of_isBlank {c : Char} (h : isBlank c) : lowerChar c = c := by
  refine if_neg fun ⟨hA, hZ⟩ => ?_
  have hA : 65 ≤ c.toNat := hA
  have hZ : c.toNat ≤ 90 := hZ
  simp only [isBlank, Bool.or_eq_true, Bool.and_eq_true, decide_eq_true_eq, beq_iff_eq] at h
  omega

end Text

namespace Settings

/-! ## Truth values -/

/-- The words for a truth value. -/
def switchWords : Bool → List Text
  | true => ["1".toList, "true".toList, "yes".toList, "on".toList]
  | false => ["0".toList, "false".toList, "no".toList, "off".toList]

/-- Whether a text is one of the words for a truth value, in any letter case and with blanks
    around it. -/
def IsSwitch (value : Text) (b : Bool) : Prop :=
  ∃ front word back, value = front ++ word ++ back ∧ (∀ c ∈ front, Text.isBlank c) ∧
    (∀ c ∈ back, Text.isBlank c) ∧ Text.lower word ∈ switchWords b

theorem not_isBlank_of_switch {word : Text} {b : Bool} (h : Text.lower word ∈ switchWords b) :
    ∀ c ∈ word, ¬Text.isBlank c := by
  have hwords : (switchWords b).flatten.all (fun c => !Text.isBlank c) = true := by
    cases b <;> decide
  intro c hc hblank
  have hmem : c ∈ Text.lower word := by
    rw [← Text.lowerChar_of_isBlank hblank]
    exact List.mem_map_of_mem hc
  have hplain := List.all_eq_true.1 hwords c (List.mem_flatten.2 ⟨_, h, hmem⟩)
  rw [hblank] at hplain
  cases hplain

/-- A text is taken for a truth value if it is one of the words for it. -/
theorem switch?_eq_some_iff {value : Text} {b : Bool} :
    switch? value = some b ↔ IsSwitch value b := by
  have hlower : switch? value = some b ↔ Text.lower (Text.trim value) ∈ switchWords b := by
    have hdisjoint : ∀ w ∈ switchWords false, w ∉ switchWords true := by decide
    show (if (switchWords true).contains (Text.lower (Text.trim value)) then some true
      else if (switchWords false).contains (Text.lower (Text.trim value)) then some false
      else none) = some b ↔ _
    simp only [List.contains_iff_mem]
    cases b with
    | true => split_ifs with h₁ h₂ <;> simp [h₁]
    | false =>
      split_ifs with h₁ h₂
      · simpa using fun h => hdisjoint _ h h₁
      · simp [h₂]
      · simp [h₂]
  rw [hlower]
  constructor
  · intro h
    obtain ⟨front, back, hvalue, hfront, hback⟩ := Text.exists_eq_append_trim value
    exact ⟨front, Text.trim value, back, hvalue, hfront, hback, h⟩
  · rintro ⟨front, word, back, rfl, hfront, hback, h⟩
    rwa [Text.trim_append hfront hback (not_isBlank_of_switch h)]

/-! ## Fields -/

/-- Settings that come from those of a file with environment variables on top. Each field has
    a variable of its own, and where that is not set the value of the file. -/
structure Layered (env : Environment) (file s : Settings) : Prop where
  caseSensitive : match env "TINYROUTER_CASE_SENSITIVE" with
    | some word => IsSwitch word s.matcher.caseSensitive
    | none => s.matcher.caseSensitive = file.matcher.caseSensitive
  pathSeparator : s.matcher.pathSeparator =
    (env "TINYROUTER_PATH_SEPARATOR").getD file.matcher.pathSeparator
  wildcard : s.matcher.wildcard = (env "TINYROUTER_WILDCARD").getD file.matcher.wildcard
  greedyWildcard : s.matcher.greedyWildcard =
    (env "TINYROUTER_GREEDY_WILDCARD").getD file.matcher.greedyWildcard
  unconstrainedVariable : s.matcher.unconstrainedVariable =
    (env "TINYROUTER_UNCONSTRAINED_VAR").getD file.matcher.unconstrainedVariable
  logLevel : s.logging.logLevel = (env "TINYROUTER_LOG_LEVEL").getD file.logging.logLevel
  /-- every word but `json`, in any letter case, stands for `pretty` -/
  format : match env "TINYROUTER_LOG_FORMAT" with
    | some word =>
      s.logging.format = if Text.lower word = "json".toList then .json else .pretty
    | none => s.logging.format = file.logging.format
  targetFilter : s.logging.targetFilter = match env "TINYROUTER_LOG_TARGET_FILTER" with
    | some filters => some filters
    | none => file.logging.targetFilter
  /-- every word but `true` and `false` leaves the value of the file -/
  includeLocation : s.logging.includeLocation =
    if env "TINYROUTER_LOG_INCLUDE_LOCATION" = some "true".toList then true
    else if env "TINYROUTER_LOG_INCLUDE_LOCATION" = some "false".toList then false
    else file.logging.includeLocation

section
variable {env : Environment} {file s : Settings} {o : Options} {e : Failure}

theorem overrideCase_eq_ok_iff {c b : Bool} : overrideCase c env = .ok b ↔
    match env "TINYROUTER_CASE_SENSITIVE" with
    | some word => IsSwitch word b
    | none => b = c := by
  unfold overrideCase
  cases env "TINYROUTER_CASE_SENSITIVE" with
  | none => exact ⟨fun h => (Except.ok.inj h).symm, fun h => congrArg _ h.symm⟩
  | some word =>
    dsimp only
    rw [← switch?_eq_some_iff]
    cases switch? word <;> simp

theorem overrideCase_eq_error_iff {c : Bool} : overrideCase c env = .error e ↔
    ∃ word, env "TINYROUTER_CASE_SENSITIVE" = some word ∧ (∀ b, ¬IsSwitch word b) ∧
      e = .invalidCaseSensitive word := by
  unfold overrideCase
  cases env "TINYROUTER_CASE_SENSITIVE" with
  | none => simp
  | some word =>
    simp only [← switch?_eq_some_iff, Option.some.injEq, exists_eq_left']
    cases switch? word <;> simp [eq_comm]

theorem get_set (o : Options) (which other : SubPattern) (source : Text) :
    (o.set which source).get other = if other = which then source else o.get other := by
  cases which <;> cases other <;> rfl

/-- Sub-patterns are overridden one by one, each by its own variable. -/
theorem get_overrideSubPatterns (o : Options) (env : Environment) (which : SubPattern) :
    (overrideSubPatterns o env).get which = (env (variableOf which)).getD (o.get which) := by
  have hall : ∀ (ws : List SubPattern) (o : Options), (ws.foldl (fun o which =>
      match env (variableOf which) with
      | some source => o.set which source
      | none => o) o).get which =
        if which ∈ ws then (env (variableOf which)).getD (o.get which) else o.get which := by
    intro ws
    induction ws with
    | nil => exact fun o => rfl
    | cons w ws ih =>
      intro o
      have hfirst : (match env (variableOf w) with
          | some source => o.set w source
          | none => o).get which =
            if which = w then (env (variableOf which)).getD (o.get which) else o.get which := by
        split_ifs with hw
        · subst hw
          cases env (variableOf which) with
          | none => rfl
          | some source => exact (get_set o which which source).trans (if_pos rfl)
        · cases env (variableOf w) with
          | none => rfl
          | some source => exact (get_set o w which source).trans (if_neg hw)
      rw [List.foldl_cons, ih, hfirst]
      by_cases hw : which = w
      · rw [if_pos hw, if_pos (List.mem_cons.2 (.inl hw))]
        split_ifs
        · cases env (variableOf which) <;> rfl
        · rfl
      · simp [hw]
  refine (hall Options.subPatterns o).trans (if_pos ?_)
  cases which <;> decide

theorem truth?_getD (value : Option Text) (b : Bool) : (value.bind LogSettings.truth?).getD b =
    if value = some "true".toList then true
    else if value = some "false".toList then false
    else b := by
  cases value with
  | none => rfl
  | some t =>
    rw [Option.bind_some, LogSettings.truth?]
    simp only [Option.some.injEq]
    split_ifs <;> rfl

/-- What overriding gives is made field by field. -/
theorem layered_mk {c : Bool} (hc : overrideCase file.matcher.caseSensitive env = .ok c) :
    Layered env file ⟨{ overrideSubPatterns file.matcher env with caseSensitive := c },
      file.logging.override env⟩ where
  caseSensitive := overrideCase_eq_ok_iff.1 hc
  pathSeparator := get_overrideSubPatterns file.matcher env .pathSeparator
  wildcard := get_overrideSubPatterns file.matcher env .wildcard
  greedyWildcard := get_overrideSubPatterns file.matcher env .greedyWildcard
  unconstrainedVariable := get_overrideSubPatterns file.matcher env .unconstrainedVariable
  logLevel := rfl
  format := by
    dsimp only [LogSettings.override]
    cases env "TINYROUTER_LOG_FORMAT" <;> rfl
  targetFilter := by
    dsimp only [LogSettings.override]
    cases env "TINYROUTER_LOG_TARGET_FILTER" <;> rfl
  includeLocation := truth?_getD _ _

/-- The fields say all that there is. -/
theorem Layered.unique {s' : Settings} (h : Layered env file s) (h' : Layered env file s') :
    s = s' := by
  have hcase : s.matcher.caseSensitive = s'.matcher.caseSensitive := by
    have hs := h.caseSensitive
    have hs' := h'.caseSensitive
    revert hs hs'
    cases env "TINYROUTER_CASE_SENSITIVE" with
    | none => exact fun hs hs' => hs.trans hs'.symm
    | some word =>
      intro hs hs'
      exact Option.some.inj ((switch?_eq_some_iff.2 hs).symm.trans (switch?_eq_some_iff.2 hs'))
  have hformat : s.logging.format = s'.logging.format := by
    have hs := h.format
    have hs' := h'.format
    revert hs hs'
    cases env "TINYROUTER_LOG_FORMAT" <;> exact fun hs hs' => hs.trans hs'.symm
  have hseparator := h.pathSeparator.trans h'.pathSeparator.symm
  have hwildcard := h.wildcard.trans h'.wildcard.symm
  have hgreedy := h.greedyWildcard.trans h'.greedyWildcard.symm
  have hvariable := h.unconstrainedVariable.trans h'.unconstrainedVariable.symm
  have hlevel := h.logLevel.trans h'.logLevel.symm
  have hfilter := h.targetFilter.trans h'.targetFilter.symm
  have hlocation := h.includeLocation.trans h'.includeLocation.symm
  obtain ⟨⟨_, _, _, _, _⟩, ⟨_, _, _, _⟩⟩ := s
  obtain ⟨⟨_, _, _, _, _⟩, ⟨_, _, _, _⟩⟩ := s'
  subst hcase hseparator hwildcard hgreedy hvariable hlevel hformat hfilter hlocation
  rfl

/-- Overriding succeeds with the settings that come from the file and the variables. -/
theorem override_eq_ok_iff : file.override env = .ok s ↔ Layered env file s := by
  constructor
  · intro h
    obtain ⟨c, hc, rfl⟩ := map_eq_ok.1 h
    exact layered_mk hc
  · intro h
    have hc : overrideCase file.matcher.caseSensitive env = .ok s.matcher.caseSensitive :=
      overrideCase_eq_ok_iff.2 h.caseSensitive
    rw [override, hc, h.unique (layered_mk hc)]
    rfl

theorem override_eq_error_iff : file.override env = .error e ↔
    ∃ word, env "TINYROUTER_CASE_SENSITIVE" = some word ∧ (∀ b, ¬IsSwitch word b) ∧
      e = .invalidCaseSensitive word := by
  rw [← overrideCase_eq_error_iff (c := file.matcher.caseSensitive), override]
  cases overrideCase file.matcher.caseSensitive env with
  | error => simp [Except.map]
  | ok => simp [Except.map]

/-! ## Loading -/

theorem check_eq_ok_iff {s' : Settings} :
    s'.check = .ok s ↔ s' = s ∧ s'.matcher.check = .ok () := by
  unfold check
  cases s'.matcher.check <;> simp

theorem check_eq_error_iff :
    s.check = .error e ↔ ∃ x, s.matcher.check = .error x ∧ e = .invalidMatcher x := by
  unfold check
  cases s.matcher.check <;> simp [eq_comm]

/-- Settings that are overridden and then checked. -/
theorem bind_check_eq_ok_iff : (file.override env).bind check = .ok s ↔
    Layered env file s ∧ s.matcher.check = .ok () := by
  rw [bind_eq_ok]
  constructor
  · rintro ⟨s', hs', hcheck⟩
    obtain ⟨rfl, hmatcher⟩ := check_eq_ok_iff.1 hcheck
    exact ⟨override_eq_ok_iff.1 hs', hmatcher⟩
  · rintro ⟨hs, hcheck⟩
    exact ⟨s, override_eq_ok_iff.2 hs, check_eq_ok_iff.2 ⟨rfl, hcheck⟩⟩

theorem bind_check_eq_error_iff : (file.override env).bind check = .error e ↔
    (∃ word, env "TINYROUTER_CASE_SENSITIVE" = some word ∧ (∀ b, ¬IsSwitch word b) ∧
      e = .invalidCaseSensitive word) ∨
    ∃ s x, Layered env file s ∧ s.matcher.check = .error x ∧ e = .invalidMatcher x := by
  rw [← @override_eq_error_iff env file e]
  simp only [← override_eq_ok_iff]
  cases file.override env with
  | error => simp [Except.bind]
  | ok s => simp [Except.bind, check_eq_error_iff]

end

end Settings

/-! ## Compiling under checked options -/

namespace Pattern

/-- What is wrong with a pattern itself is at some place in it. -/
theorem offset_of_parse {pattern : Text} {e : PatternError} (h : parse pattern = .error e) :
    e.offset?.isSome := by
  have hfeed : ∀ (ts : List Token) (depth : ℕ) {e : PatternError},
      feed nest depth ts = .error e → e.offset?.isSome := by
    intro ts
    induction ts with
    | nil => exact fun _ _ h => nomatch h
    | cons t ts ih =>
      intro depth e h
      rw [feed] at h
      cases ht : nest depth t with
      | ok depth' =>
        rw [ht] at h
        exact ih depth' h
      | error e' =>
        rw [ht] at h
        cases h
        unfold nest at ht
        split at ht <;> cases ht <;> rfl
  have hverdict := (verdict_alike pattern).map_eq (f := fun _ => ()) (g := id) fun _ _ _ => rfl
  rw [h, verdict] at hverdict
  cases hts : feed nest 0 (tokens pattern).1 with
  | error e' =>
    rw [hts] at hverdict
    cases hverdict
    exact hfeed _ 0 hts
  | ok depth =>
    rw [hts, Except.bind] at hverdict
    split_ifs at hverdict <;> cases hverdict <;> rfl

/-- Under options that have been checked, only the whole can fail to compile: it is no regular
    expression, or it has other groups than it should. -/
theorem compile_eq_error {root : Node} {o : Options} {e : PatternError} (ho : o.check = .ok ())
    (h : compile root o = .error e) :
    (∃ source, e = .invalidRegex source) ∨ ∃ n k, e = .groupCountMismatch n k := by
  cases hr : Regex.compile (!o.caseSensitive) (Matcher.anchored (root.source o)) with
  | error x =>
    rw [compile_of_rejected ho hr] at h
    cases h
    exact .inl ⟨_, rfl⟩
  | ok r =>
    by_cases hg : r.groupCount = (root.source o).groups
    · rw [compile_of_regex ho hr hg] at h
      cases h
    · rw [compile_of_mismatch ho hr hg] at h
      cases h
      exact .inr ⟨_, _, rfl⟩

theorem compile_ne_capturing {root : Node} {o : Options} (ho : o.check = .ok ())
    (which : SubPattern) (source : Text) :
    compile root o ≠ .error (.capturingSubPattern which source) := by
  intro h
  obtain ⟨_, he⟩ | ⟨_, _, he⟩ := compile_eq_error ho h <;> cases he

theorem compilePattern_ne_capturing {o : Options} (ho : o.check = .ok ()) (pattern : Text)
    (which : SubPattern) (source : Text) :
    compilePattern pattern o ≠ .error (.capturingSubPattern which source) := by
  intro h
  cases hp : parse pattern with
  | error e =>
    rw [compilePattern, hp] at h
    cases h
    cases offset_of_parse hp
  | ok root =>
    rw [compilePattern, hp] at h
    exact compile_ne_capturing ho which source h

end Pattern

namespace Settings

/-- **Loading in layers.** Settings are loaded from a well-formed file and from the environment
    unless the variable for the letter case has none of the words for a truth value, or the
    options that come out cannot be used; the failure says which. What is loaded comes field
    by field from the variables and the file. Without a file the same is loaded as from an
    empty one. And under options that are loaded no pattern is refused because a sub-pattern
    opens groups. -/
theorem load_layers {text : Text} {file : Settings} (hfile : ofFile? text = some file)
    (path : Text) (env : Environment) :
    (∀ e, load path (some text) env = .error e ↔
      (∃ word, env "TINYROUTER_CASE_SENSITIVE" = some word ∧ (∀ b, ¬IsSwitch word b) ∧
        e = .invalidCaseSensitive word) ∨
      ∃ s x, Layered env file s ∧ s.matcher.check = .error x ∧ e = .invalidMatcher x) ∧
    (∀ s, load path (some text) env = .ok s ↔
      Layered env file s ∧ s.matcher.check = .ok ()) ∧
    ofEnvironment env = load path (some []) env ∧
    ∀ s, load path (some text) env = .ok s → ∀ which source,
      (∀ root, compile root s.matcher ≠ .error (.capturingSubPattern which source)) ∧
      ∀ pattern, compilePattern pattern s.matcher ≠
        .error (.capturingSubPattern which source) := by
  have hload : load path (some text) env = (file.override env).bind check := by
    rw [load, hfile]
  have hempty : ofFile? [] = some {} := rfl
  refine ⟨fun e => hload ▸ bind_check_eq_error_iff, fun s => hload ▸ bind_check_eq_ok_iff, ?_,
    fun s hs which source => ?_⟩
  · rw [load, hempty]
    rfl
  · have hcheck := (bind_check_eq_ok_iff.1 (hload ▸ hs)).2
    exact ⟨fun root => compile_ne_capturing hcheck which source,
      fun pattern => compilePattern_ne_capturing hcheck pattern which source⟩

/-- A word between blanks on top of a file with a sub-pattern and a level of its own, and a
    word that stands for no truth value. -/
theorem load_layers_word :
    let text := "[matcher]\ncase_sensitive = true\nwildcard = \"[^/]*\"\n".toList ++
      "[logging]\nlog_level = \"info\"\n".toList
    let file : Settings := ⟨{ caseSensitive := true, wildcard := "[^/]*".toList },
      { logLevel := "info".toList }⟩
    let env (word : Text) : Environment := .ofList [("TINYROUTER_CASE_SENSITIVE".toList, word),
      ("TINYROUTER_LOG_FORMAT".toList, "JSON".toList),
      ("TINYROUTER_LOG_INCLUDE_LOCATION".toList, "yes".toList)]
    let s : Settings := ⟨{ wildcard := "[^/]*".toList },
      { logLevel := "info".toList, format := .json }⟩
    ofFile? text = some file ∧ load [] (some text) (env " Off ".toList) = .ok s ∧
      Layered (env " Off ".toList) file s ∧
      (∀ pattern which source, compilePattern pattern s.matcher ≠
        .error (.capturingSubPattern which source)) ∧
      load [] (some text) (env "maybe".toList) = .error (.invalidCaseSensitive "maybe".toList) := by
  intro text file env s
  have hfile : ofFile? text = some file := by decide +kernel
  have hs : load [] (some text) (env " Off ".toList) = .ok s := by
    rw [load, hfile]
    exact eq_ok_of_toOption (by decide +kernel)
  have hmaybe : switch? "maybe".toList = none := by decide
  obtain ⟨-, hok, -, hcapturing⟩ := load_layers hfile [] (env " Off ".toList)
  obtain ⟨herror, -⟩ := load_layers hfile [] (env "maybe".toList)
  refine ⟨hfile, hs, ((hok s).1 hs).1, fun pattern which source =>
    (hcapturing s hs which source).2 pattern, (herror _).2 (.inl ⟨_, rfl, fun b hb => ?_, rfl⟩)⟩
  rw [switch?_eq_some_iff.2 hb] at hmaybe
  cases hmaybe

end Settings

end PathRouting
