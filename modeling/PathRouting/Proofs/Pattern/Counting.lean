/-
  The groups of raw regular expressions.

  * `Totals`: how the groups that are counted add up, and how those that there are do.
    `Totals.fits`, `Totals.fills`, `Totals.whole`: if there are not more than are counted
    in each raw regular expression, or as many, then so in all of them.
  * `Node.source_grouped`: the groups of a source are those of its variables and those of its raw
    regular expressions.
  * `compilePattern_groupCount`: of the groups of a pattern and of each of its raw regular
    expressions not more are left than the number of the last one says, and not more than are
    counted. If the groups of each raw regular expression are as many as are counted in it, then
    so are those of the pattern. If fewer are opened in one of them, then the pattern does not
    compile.
-/
import PathRouting.Proofs.Pattern.Bodies
import PathRouting.Proofs.Regex.Counting
import PathRouting.Proofs.Regex.Names

namespace PathRouting.Pattern

open Regex Regex.Reader

/-! ## Counted groups and groups that there are -/

/-- In parts of a source that have the raw regular expressions `bodies`, `n` groups are counted.
    There are the groups of the tally. Alone, a raw regular expression has those of `alone`. -/
inductive Totals (alone : Text → Tally) : List Text → ℕ → Tally → Prop
  | none : Totals alone [] 0 .empty
  | capture : Totals alone [] 1 .single
  | regexp (body : Text) : Totals alone [body] (groupCount body) (alone body)
  | append {bodies bodies' : List Text} {n m : ℕ} {a b : Tally} : Totals alone bodies n a →
      Totals alone bodies' m b → Totals alone (bodies ++ bodies') (n + m) (a ++ b)

/-- Not more groups are left than are opened, and not more are opened than are counted. -/
structure Fits (n : ℕ) (a : Tally) : Prop where
  left : a.left ⊆ Finset.Icc 1 a.opened
  opened : a.opened ≤ n

/-- As many groups are opened as are counted, and the last one is left. -/
structure Fills (n : ℕ) (a : Tally) : Prop where
  opened : a.opened = n
  last : 0 < n → n ∈ a.left

/-- All groups that are counted are left. -/
structure Whole (n : ℕ) (a : Tally) : Prop where
  opened : a.opened = n
  left : a.left = Finset.Icc 1 n

section
variable {n m : ℕ} {a b : Tally} {e : Expr}

theorem Fits.append (h : Fits n a) (h' : Fits m b) : Fits (n + m) (a ++ b) := by
  refine ⟨fun i hi => ?_, Nat.add_le_add h.opened h'.opened⟩
  rw [Tally.opened_append, Finset.mem_Icc]
  rcases Finset.mem_union.1 hi with hi | hi
  · have := Finset.mem_Icc.1 (h.left hi)
    omega
  · obtain ⟨j, hj, rfl⟩ := Finset.mem_image.1 hi
    have := Finset.mem_Icc.1 (h'.left hj)
    omega

theorem Fills.append (h : Fills n a) (h' : Fills m b) : Fills (n + m) (a ++ b) := by
  refine ⟨congrArg₂ _ h.opened h'.opened, fun hpos => Finset.mem_union.2 ?_⟩
  rcases Nat.eq_zero_or_pos m with rfl | hm
  · exact .inl (h.last hpos)
  · refine .inr (Finset.mem_image.2 ⟨m, h'.last hm, ?_⟩)
    rw [h.opened, Nat.add_comm]

theorem Whole.append (h : Whole n a) (h' : Whole m b) : Whole (n + m) (a ++ b) := by
  refine ⟨congrArg₂ _ h.opened h'.opened, ?_⟩
  rw [Tally.left_append, h.left, h'.left, h.opened, Finset.image_add_right_Icc]
  ext i
  rw [Finset.mem_union, Finset.mem_Icc, Finset.mem_Icc, Finset.mem_Icc]
  omega

theorem Fits.groupCount_le (h : Fits n a) (he : e.groupSet = a.left) : e.groupCount ≤ n :=
  Expr.groupCount_le_iff.2 fun i hi => by
    rw [he] at hi
    exact (Finset.mem_Icc.1 (h.left hi)).2.trans h.opened

/-- Where the last group has the number of counted groups, it is left. -/
theorem Fits.fills (h : Fits n a) (he : e.groupSet = a.left) (hn : e.groupCount = n) :
    Fills n a := by
  have hlast : 0 < n → n ∈ a.left := fun hpos => by
    rw [← he, ← hn]
    exact Expr.groupCount_mem (hn ▸ hpos)
  refine ⟨le_antisymm h.opened ?_, hlast⟩
  rcases Nat.eq_zero_or_pos n with rfl | hpos
  · exact Nat.zero_le _
  · exact (Finset.mem_Icc.1 (h.left (hlast hpos))).2

theorem Fills.groupCount_eq (h : Fills n a) (hw : Fits n a) (he : e.groupSet = a.left) :
    e.groupCount = n := by
  refine le_antisymm (hw.groupCount_le he) ?_
  rcases Nat.eq_zero_or_pos n with rfl | hpos
  · exact Nat.zero_le _
  · exact Expr.le_groupCount (he ▸ h.last hpos)

/-- Where as many groups are left as are counted, all are. -/
theorem Fits.whole (h : Fits n a) (hn : a.left.card = n) : Whole n a := by
  have hopened : a.opened = n := by
    refine le_antisymm h.opened ?_
    rw [← hn]
    exact (Finset.card_le_card h.left).trans_eq (Nat.card_Icc 1 _)
  refine ⟨hopened, Finset.eq_of_subset_of_card_le (hopened ▸ h.left) ?_⟩
  exact ((Nat.card_Icc 1 n).trans hn.symm).le

end

namespace Totals

variable {alone : Text → Tally} {bodies : List Text} {n : ℕ} {a : Tally}

/-- What holds of nothing, of a variable and of each raw regular expression holds of all, if it
    holds of two parts one behind the other. -/
theorem holds {C : ℕ → Tally → Prop} (hnone : C 0 .empty) (hone : C 1 .single)
    (happend : ∀ {n m a b}, C n a → C m b → C (n + m) (a ++ b)) (h : Totals alone bodies n a)
    (hbodies : ∀ body ∈ bodies, C (groupCount body) (alone body)) : C n a := by
  induction h with
  | none => exact hnone
  | capture => exact hone
  | regexp body => exact hbodies body (List.mem_singleton_self body)
  | append _ _ ih ih' =>
    exact happend (ih fun body hb => hbodies body (List.mem_append_left _ hb))
      (ih' fun body hb => hbodies body (List.mem_append_right _ hb))

theorem fits (h : Totals alone bodies n a)
    (hbodies : ∀ body ∈ bodies, Fits (groupCount body) (alone body)) : Fits n a :=
  h.holds ⟨Finset.empty_subset _, le_rfl⟩ ⟨subset_rfl, le_rfl⟩ .append hbodies

theorem fills (h : Totals alone bodies n a)
    (hbodies : ∀ body ∈ bodies, Fills (groupCount body) (alone body)) : Fills n a :=
  h.holds ⟨rfl, nofun⟩ ⟨rfl, fun _ => Finset.mem_singleton_self 1⟩ .append hbodies

theorem whole (h : Totals alone bodies n a)
    (hbodies : ∀ body ∈ bodies, Whole (groupCount body) (alone body)) : Whole n a :=
  h.holds ⟨rfl, rfl⟩ ⟨rfl, rfl⟩ .append hbodies

/-- If all groups that are counted are opened, then so they are in each raw regular expression. -/
theorem opened_of_all (h : Totals alone bodies n a)
    (hbodies : ∀ body ∈ bodies, Fits (groupCount body) (alone body)) (hn : a.opened = n) :
    ∀ body ∈ bodies, (alone body).opened = groupCount body := by
  induction h with
  | none | capture => exact fun _ hb => nomatch hb
  | regexp body =>
    intro body' hb
    rwa [List.mem_singleton.1 hb]
  | append h h' ih ih' =>
    have hleft := fun body hb => hbodies body (List.mem_append_left _ hb)
    have hright := fun body hb => hbodies body (List.mem_append_right _ hb)
    have hle := (h.fits hleft).opened
    have hle' := (h'.fits hright).opened
    rw [Tally.opened_append] at hn
    intro body hb
    rcases List.mem_append.1 hb with hb | hb
    · exact ih hleft (by omega) body hb
    · exact ih' hright (by omega) body hb

end Totals

namespace Source

/-- The groups of a source: how many it accounts for, and which there are. -/
def Grouped (alone : Text → Tally) (f : Flags) (bodies : List Text) (s : Source) : Prop :=
  ∃ a, Totals alone bodies s.groups a ∧ Adds a f s.text

/-- The same of what a pair of parentheses encloses. -/
def GroupedInside (alone : Text → Tally) (f : Flags) (bodies : List Text) (s : Source) : Prop :=
  ∃ a, Totals alone bodies s.groups a ∧ AddsInside a f s.text

section
variable {alone : Text → Tally} {f : Flags} {bodies bodies' : List Text} {s s' : Source}

theorem Grouped.ofText {t : Text} (h : Adds .empty f t) : Grouped alone f [] (.ofText t) :=
  ⟨.empty, .none, h⟩

theorem Grouped.append (h : Grouped alone f bodies s) (h' : Grouped alone f bodies' s') :
    Grouped alone f (bodies ++ bodies') (s ++ s') := by
  obtain ⟨a, htotals, hadds⟩ := h
  obtain ⟨b, htotals', hadds'⟩ := h'
  exact ⟨a ++ b, groups_append s s' ▸ htotals.append htotals', hadds.append hadds'⟩

theorem Grouped.inside (h : Grouped alone f bodies s) (hf : f.verbose = false) :
    GroupedInside alone f bodies s := by
  obtain ⟨a, htotals, hadds⟩ := h
  exact ⟨a, htotals, hadds.inside hf⟩

theorem GroupedInside.group (h : GroupedInside alone f bodies s) (hf : f.verbose = false) :
    Grouped alone f bodies s.group := by
  obtain ⟨a, htotals, hadds⟩ := h
  have hgroups : s.group.groups = s.groups := Nat.zero_add s.groups
  exact ⟨a, hgroups ▸ htotals, hadds.group hf⟩

theorem GroupedInside.capture (h : GroupedInside alone f bodies s) (hf : f.verbose = false)
    (hs : s.Plain) (name : Text) : Grouped alone f bodies (s.capture name) := by
  obtain ⟨a, htotals, hadds⟩ := h
  exact ⟨Tally.single ++ a, Totals.capture.append htotals, hadds.capture hf hs⟩

end

end Source

/-! ## Sub-patterns -/

namespace Options

variable {o : Options}

theorem Counted.groupCount_get (h : o.Counted) (which : SubPattern) :
    groupCount (o.get which) = 0 := by
  have := (h which).1.groups []
  rw [List.append_nil] at this
  exact this

/-- A sub-pattern has no groups. -/
theorem Counted.tally_eq (h : o.Counted) {which : SubPattern} {f : Flags} {s : Reader}
    (hs : Alone f (o.get which) s) : s.tally = .empty := by
  have hgroups : s.groups = 0 := Nat.le_zero.1 (hs.groups_le.trans_eq (h.groupCount_get which))
  have hleft : s.level.groupSet ⊆ Finset.Icc 1 s.groups := hs.left_subset
  rw [hgroups] at hleft
  exact congrArg₂ Tally.mk hgroups (Finset.subset_empty.1 hleft)

variable {alone : Text → Tally}

/-- Between parentheses, a sub-pattern has no groups. -/
theorem SelfContained.groupedInside (ho : o.SelfContained) (hc : o.Counted) (which : SubPattern) :
    Source.GroupedInside alone (patternFlags (!o.caseSensitive)) [] (.ofText (o.get which)) := by
  obtain ⟨s, hs⟩ := ho.alone (!o.caseSensitive) which
  exact ⟨.empty, .none, hc.tally_eq hs ▸ hs.addsInside⟩

/-- Where it is spliced in, a sub-pattern has no groups. -/
theorem SelfContained.grouped (ho : o.SelfContained) (hc : o.Counted) (which : SubPattern)
    (hwhich : which ≠ .unconstrainedVariable) :
    Source.Grouped alone (patternFlags (!o.caseSensitive)) [] (.subPattern (o.get which)) := by
  unfold Source.subPattern
  split_ifs with hbar
  · exact (ho.groupedInside hc which).group rfl
  · have hbar : '|' ∉ o.get which := mt List.contains_iff_mem.2 hbar
    obtain ⟨s, hs, hflags⟩ := ho.keeps hwhich hbar
    exact .ofText (hc.tally_eq hs ▸ hs.adds rfl hflags hbar)

end Options

/-! ## Trees -/

/-- Escaped text has no groups. -/
theorem adds_escape (ci : Bool) (t : Text) : Adds .empty (patternFlags ci) (Regex.escape t) := by
  induction t with
  | nil => exact adds_nil
  | cons c t ih =>
    have hchar : Adds .empty (patternFlags ci) (if isMeta c then ['\\', c] else [c]) :=
      adds_of_push (Expr.groupSet_ofSet _) (loose_escapeChar c) fun _ u hr =>
        runs_char (show _ = patternFlags ci from hr) c u
    rw [escape_cons]
    exact hchar.append ih

namespace Node

variable {o : Options} {alone : Text → Tally}

mutual

/-- **Counting.** The groups of a source are those of its variables and those of its raw regular
    expressions. -/
theorem source_grouped (ho : o.SelfContained) (hc : o.Counted) : ∀ n : Node,
    (∀ body ∈ n.bodies, AddsInside (alone body) (patternFlags (!o.caseSensitive)) body) →
    Source.Grouped alone (patternFlags (!o.caseSensitive)) n.bodies (n.source o)
  | .path _ absolute segments, h => by
    have hsep : Source.Grouped alone (patternFlags (!o.caseSensitive)) []
        (.subPattern o.pathSeparator) := ho.grouped hc .pathSeparator nofun
    have hjoin := sources_grouped ho hc hsep segments h
    rw [source]
    cases absolute with
    | true => exact hsep.append hjoin
    | false => exact (Source.Grouped.ofText adds_nil).append hjoin
  | .segment _ items, h => by
    rw [source]
    exact sources_grouped ho hc (.ofText adds_nil) items h
  | .alternation _ branches, h => by
    have hjoin := sources_grouped ho hc (.ofText (adds_bar rfl)) branches h
    rw [source]
    exact (hjoin.inside rfl).group rfl
  | .variable _ name (some c), h => by
    have hbody := source_grouped ho hc c h
    rw [source]
    exact (hbody.inside rfl).capture rfl (source_plain hc c) name
  | .variable _ name none, _ => by
    rw [source]
    exact (ho.groupedInside hc .unconstrainedVariable).capture rfl (hc .unconstrainedVariable).2 name
  | .wildcard _ true, _ => by
    rw [source]
    exact ho.grouped hc .greedyWildcard nofun
  | .wildcard _ false, _ => by
    rw [source]
    exact ho.grouped hc .wildcard nofun
  | .regexp _ body, h => by
    have hbody : Source.GroupedInside alone (patternFlags (!o.caseSensitive)) [body]
        ⟨body, [], groupCount body⟩ := ⟨_, .regexp body, h body (List.mem_singleton_self body)⟩
    rw [source]
    exact hbody.group rfl
  | .text _ value, _ => by
    rw [source]
    exact .ofText (adds_escape _ value)

theorem sources_grouped (ho : o.SelfContained) (hc : o.Counted) {separator : Source}
    (hsep : Source.Grouped alone (patternFlags (!o.caseSensitive)) [] separator) :
    ∀ ns : List Node,
    (∀ body ∈ bodiesOf ns, AddsInside (alone body) (patternFlags (!o.caseSensitive)) body) →
    Source.Grouped alone (patternFlags (!o.caseSensitive)) (bodiesOf ns)
      (Source.join separator (sources o ns))
  | [], _ => .ofText adds_nil
  | [n], h => by
    rw [bodiesOf, bodiesOf, List.append_nil] at h ⊢
    exact source_grouped ho hc n h
  | n :: m :: ns, h => by
    have hn := source_grouped ho hc n fun body hb => h body (List.mem_append_left _ hb)
    have hns := sources_grouped ho hc hsep (m :: ns) fun body hb =>
      h body (List.mem_append_right _ hb)
    have hboth := (hn.append hsep).append hns
    rwa [List.append_nil] at hboth

end

end Node

/-! ## Patterns -/

/-- The groups that are left in the regular expression of a source. -/
theorem Source.Grouped.read {alone : Text → Tally} {f : Flags} {bodies : List Text} {s : Source}
    {e : Expr} (h : Grouped alone f bodies s) (hf : f.verbose = false)
    (he : Regex.read f (Matcher.anchored s) = .ok e) :
    ∃ a, Totals alone bodies s.groups a ∧ e.groupSet = a.left := by
  obtain ⟨a, htotals, hadds⟩ := (Source.Grouped.ofText (adds_caret hf)).append ((h.inside hf).group hf)
  have hgroups : (Source.ofText "^".toList ++ s.group).groups = s.groups := by
    rw [groups_append]
    show 0 + (0 + s.groups + 0) = _
    omega
  exact ⟨a, hgroups ▸ htotals, hadds.read he⟩

/-- At each counted parenthesis of a text a group is opened, with the number that counting
    gives. -/
def OpensCounted (f : Flags) (t : Text) : Prop :=
  ∀ (v : Text) (offset index : ℕ), Behind t ('(' :: v) → opensGroup v →
    offset + (v.length + 1) = t.length → index + groupCount v = groupCount t →
      Regex.Opens f t offset index

theorem opensCounted_of_alone {f : Flags} {t : Text} {s : Reader} (h : Alone f t s)
    (hs : s.groups = groupCount t) : OpensCounted f t := by
  intro v offset index hv ho hoff hi
  obtain ⟨w, hreads, hend⟩ := h.reads
  exact hreads.opens hend hs hv ho hi hoff

/-- When a tree does not compile because of the number of its groups. -/
theorem compile_eq_mismatch {root : Node} {o : Options} {n k : ℕ} (ho : o.check = .ok ())
    (h : compile root o = .error (.groupCountMismatch n k)) :
    n = (root.source o).groups ∧ k ≠ n ∧ ∃ r,
      Regex.compile (!o.caseSensitive) (Matcher.anchored (root.source o)) = .ok r ∧
        k = r.groupCount := by
  cases hr : Regex.compile (!o.caseSensitive) (Matcher.anchored (root.source o)) with
  | error x =>
    rw [compile_of_rejected ho hr] at h
    cases h
  | ok r =>
    by_cases hgroups : r.groupCount = (root.source o).groups
    · rw [compile_of_regex ho hr hgroups] at h
      cases h
    · rw [compile_of_mismatch ho hr hgroups] at h
      cases h
      exact ⟨rfl, hgroups, r, rfl, rfl⟩

section
variable {pattern : Text} {cs : Bool} {root : Node}

/-- The groups `a` that a raw regular expression has alone, and what follows if as many are opened
    as are counted in it. -/
structure Tallied (ci : Bool) (body : Text) (a : Tally) : Prop where
  fits : Fits (groupCount body) a
  inside : AddsInside a (patternFlags ci) body
  opens : a.opened = groupCount body → OpensCounted (patternFlags ci) body
  left : ∀ r, Regex.compile ci body = .ok r → r.expr.groupSet = a.left

/-- A raw regular expression that is accepted, and does not end in verbose mode, has its groups
    alone. -/
theorem exists_tallied {ci : Bool} {body : Text} {r : Regex} (hr : Regex.compile ci body = .ok r)
    (hv : (finalFlags? (patternFlags ci) body).any (!·.verbose)) : ∃ a, Tallied ci body a := by
  obtain ⟨s, hs, he⟩ := exists_alone (regex_compile_eq_ok hr).2.1 hv
  refine ⟨s.tally, ⟨hs.left_subset, hs.groups_le⟩, hs.addsInside, opensCounted_of_alone hs, ?_⟩
  intro r' hr'
  cases hr.symm.trans hr'
  exact congrArg Expr.groupSet he

/-- The groups of a pattern are those of its variables and those that its raw regular expressions
    have alone. -/
theorem exists_totals (haccepted : ∀ body ∈ root.bodies, ∃ r, Regex.compile (!cs) body = .ok r)
    (hterse : ∀ body ∈ root.bodies, (finalFlags? (patternFlags (!cs)) body).any (!·.verbose)) :
    ∃ alone : Text → Tally, (∀ body ∈ root.bodies, Tallied (!cs) body (alone body)) ∧
      ∀ r, Regex.compile (!cs) (Matcher.anchored (root.source { caseSensitive := cs })) = .ok r →
        ∃ a, Totals alone root.bodies (root.source { caseSensitive := cs }).groups a ∧
          Fits (root.source { caseSensitive := cs }).groups a ∧ r.expr.groupSet = a.left := by
  have hexists : ∀ body, ∃ a, body ∈ root.bodies → Tallied (!cs) body a := by
    intro body
    by_cases hb : body ∈ root.bodies
    · obtain ⟨r, hr⟩ := haccepted body hb
      obtain ⟨a, ha⟩ := exists_tallied hr (hterse body hb)
      exact ⟨a, fun _ => ha⟩
    · exact ⟨.empty, fun h => absurd h hb⟩
  choose alone halone using hexists
  have hsource := Node.source_grouped (Options.selfContained_default cs)
    (Options.counted_default cs) root fun body hb => (halone body hb).inside
  refine ⟨alone, halone, fun r hr => ?_⟩
  obtain ⟨a, htotals, he⟩ := hsource.read rfl (regex_compile_eq_ok hr).2.1
  exact ⟨a, htotals, htotals.fits fun body hb => (halone body hb).fits, he⟩

/-- **Counting groups.** Let each raw regular expression of a pattern be accepted on its own, and
    none end in verbose mode. Of its groups not more are left than the number of the last one
    says, and not more than are counted in it. The same holds of the pattern. If in each raw
    regular expression as many groups are left as are counted, then so in the pattern. If the
    pattern does not compile because its groups are not as many as are counted, then they are
    fewer, and so are those of one of the raw regular expressions. If the pattern compiles, then at
    each parenthesis that is counted in a raw regular expression there is a group. -/
theorem compilePattern_groupCount (hparse : parse pattern = .ok root)
    (haccepted : ∀ body ∈ root.bodies, ∃ r, Regex.compile (!cs) body = .ok r)
    (hterse : ∀ body ∈ root.bodies, (finalFlags? (patternFlags (!cs)) body).any (!·.verbose)) :
    (∀ body ∈ root.bodies, ∀ r, Regex.compile (!cs) body = .ok r →
      r.expr.groups.length ≤ r.groupCount ∧ r.groupCount ≤ groupCount body) ∧
    (∀ r, Regex.compile (!cs) (Matcher.anchored (root.source { caseSensitive := cs })) = .ok r →
      r.expr.groups.length ≤ r.groupCount ∧
      r.groupCount ≤ (root.source { caseSensitive := cs }).groups ∧
      ((∀ body ∈ root.bodies, ∀ b, Regex.compile (!cs) body = .ok b →
          b.expr.groups.length = groupCount body) →
        r.expr.groups.length = (root.source { caseSensitive := cs }).groups)) ∧
    (∀ n k, compilePattern pattern { caseSensitive := cs } = .error (.groupCountMismatch n k) →
      k < n ∧ ∃ body ∈ root.bodies, ∃ r, Regex.compile (!cs) body = .ok r ∧
        r.groupCount < groupCount body) ∧
    ∀ m, compilePattern pattern { caseSensitive := cs } = .ok m →
      ∀ body ∈ root.bodies, OpensCounted (patternFlags (!cs)) body := by
  have hlen : ∀ {t r}, Regex.compile (!cs) t = .ok r → r.expr.groups.length ≤ r.groupCount :=
    fun hr => length_groups_le (regex_compile_eq_ok hr).2.1
  obtain ⟨alone, halone, hread⟩ := exists_totals haccepted hterse
  have hle : ∀ body ∈ root.bodies, ∀ r, Regex.compile (!cs) body = .ok r →
      r.groupCount ≤ groupCount body := fun body hb r hr =>
    (halone body hb).fits.groupCount_le ((halone body hb).left r hr)
  refine ⟨fun body hb r hr => ⟨hlen hr, hle body hb r hr⟩, fun r hr => ?_, fun n k h => ?_,
    fun m hm => ?_⟩
  · obtain ⟨a, htotals, hfits, he⟩ := hread r hr
    refine ⟨hlen hr, hfits.groupCount_le he, fun hall => ?_⟩
    have hwhole := htotals.whole fun body hb => by
      obtain ⟨b, hb'⟩ := haccepted body hb
      refine (halone body hb).fits.whole ?_
      rw [← (halone body hb).left b hb', card_groupSet (regex_compile_eq_ok hb').2.1]
      exact hall body hb b hb'
    rw [← card_groupSet (regex_compile_eq_ok hr).2.1, he, hwhole.left]
    exact Nat.card_Icc 1 _
  · rw [compilePattern, hparse] at h
    dsimp only [bind, Except.bind] at h
    obtain ⟨rfl, hne, r, hr, rfl⟩ := compile_eq_mismatch (check_default cs) h
    obtain ⟨a, htotals, hfits, he⟩ := hread r hr
    refine ⟨Nat.lt_of_le_of_ne (hfits.groupCount_le he) hne, ?_⟩
    by_contra hnone
    push Not at hnone
    have hfills := htotals.fills fun body hb => by
      obtain ⟨b, hb'⟩ := haccepted body hb
      exact (halone body hb).fits.fills ((halone body hb).left b hb')
        (le_antisymm (hle body hb b hb') (hnone body hb b hb'))
    exact hne (hfills.groupCount_eq hfits he)
  · obtain ⟨root', hparse', hm⟩ := bind_eq_ok.1 hm
    cases hparse.symm.trans hparse'
    obtain ⟨hr, -, hgroups⟩ := compile_eq_ok hm
    obtain ⟨a, htotals, hfits, he⟩ := hread m.regex hr
    have hopened := (hfits.fills he hgroups).opened
    intro body hb
    exact (halone body hb).opens
      (htotals.opened_of_all (fun body hb => (halone body hb).fits) hopened body hb)

end

/-- A group that is repeated no times is taken away, but it keeps its place, so that the slots of
    the variables behind it are right. -/
example : (compilePattern "((a){0}):id(x)".toList {}).toOption.map Matcher.slots =
    some [⟨"id".toList, 2⟩] := by
  decide +kernel

/-- Two raw regular expressions with groups beside one another and inside one another, and with a
    group that does not capture. -/
theorem compilePattern_groupCount_inner :
    ∃ root m, parse ":a((x)|y+)-((?:b)(c(d)))".toList = .ok root ∧
      root.bodies = ["(x)|y+".toList, "(?:b)(c(d))".toList] ∧
      (∀ body ∈ root.bodies, ∃ r, Regex.compile (!false) body = .ok r) ∧
      (∀ body ∈ root.bodies, (finalFlags? (patternFlags (!false)) body).any (!·.verbose)) ∧
      compilePattern ":a((x)|y+)-((?:b)(c(d)))".toList { caseSensitive := false } = .ok m ∧
      ∀ body ∈ root.bodies, OpensCounted (patternFlags (!false)) body := by
  have hp : (parse ":a((x)|y+)-((?:b)(c(d)))".toList).toOption.map Node.bodies =
      some ["(x)|y+".toList, "(?:b)(c(d))".toList] := by
    decide +kernel
  have hok : (compilePattern ":a((x)|y+)-((?:b)(c(d)))".toList
      { caseSensitive := false }).isOk := by
    decide +kernel
  have haccepted : ∀ body ∈ ["(x)|y+".toList, "(?:b)(c(d))".toList],
      (Regex.compile (!false) body).isOk := by
    decide +kernel
  have hterse : ∀ body ∈ ["(x)|y+".toList, "(?:b)(c(d))".toList],
      (finalFlags? (patternFlags (!false)) body).any (!·.verbose) := by
    decide +kernel
  obtain ⟨root, hroot, hbodies⟩ := Option.map_eq_some_iff.1 hp
  obtain ⟨m, hm⟩ := exists_of_isOk hok
  rw [← hbodies] at haccepted hterse
  have hregex := fun body hb => exists_of_isOk (haccepted body hb)
  exact ⟨root, m, eq_ok_of_toOption hroot, hbodies, hregex, hterse, hm,
    (compilePattern_groupCount (eq_ok_of_toOption hroot) hregex hterse).2.2.2 m hm⟩

/-- A parenthesis that is one of the characters of a class is counted, though it opens no
    group. -/
theorem compilePattern_class_paren :
    ∃ root r, parse "((?-i:[()]))".toList = .ok root ∧ root.bodies = ["(?-i:[()])".toList] ∧
      Regex.compile (!false) "(?-i:[()])".toList = .ok r ∧ r.groupCount = 0 ∧
      groupCount "(?-i:[()])".toList = 1 ∧
      compilePattern "((?-i:[()]))".toList { caseSensitive := false } =
        .error (.groupCountMismatch 1 0) := by
  have hp : (parse "((?-i:[()]))".toList).toOption.map (fun root =>
      (root.bodies, root.source { caseSensitive := false })) =
        some (["(?-i:[()])".toList], ⟨"(?:(?-i:[()]))".toList, [], 1⟩) := by
    decide +kernel
  have hbody : (Regex.compile (!false) "(?-i:[()])".toList).toOption.map Regex.groupCount =
      some 0 := by
    decide +kernel
  have hwhole : (Regex.compile (!false) (Matcher.anchored
      ⟨"(?:(?-i:[()]))".toList, [], 1⟩)).toOption.map Regex.groupCount = some 0 := by
    decide +kernel
  obtain ⟨root, hroot, hparts⟩ := Option.map_eq_some_iff.1 hp
  obtain ⟨hbodies, hsource⟩ := Prod.mk.inj hparts
  rw [← hsource] at hwhole
  obtain ⟨r, hr, hgroups⟩ := Option.map_eq_some_iff.1 hbody
  obtain ⟨r', hr', hgroups'⟩ := Option.map_eq_some_iff.1 hwhole
  have hne : r'.groupCount ≠ (root.source { caseSensitive := false }).groups := by
    rw [hgroups', hsource]
    decide
  have hmismatch := compile_of_mismatch (check_default false) (eq_ok_of_toOption hr') hne
  rw [hgroups', hsource] at hmismatch
  refine ⟨root, r, eq_ok_of_toOption hroot, hbodies, eq_ok_of_toOption hr, hgroups,
    by decide +kernel, ?_⟩
  rw [compilePattern, eq_ok_of_toOption hroot]
  dsimp only [bind, Except.bind]
  exact hmismatch

end PathRouting.Pattern
