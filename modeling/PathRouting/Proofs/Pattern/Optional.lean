/-
  Optional parameters.

  * `Node.Requires`: a variable stands in no constraint and in no choice, and has nothing to
    fall back on. `Node.lower_marked`: then its parameter is not optional.
  * `PathBuilder.exists_build_iff`: something is built without a value for a name, unless the
    tree lacks it.
  * `Node.Requires.lacks`: a tree lacks what it requires. `Node.requires_of_lacks`: where a name
    occurs once, the tree requires what it lacks.
  * `optional_of_parameter`: what it says of a parameter that it is optional.
-/
import PathRouting.Proofs.Pattern.Buildable

namespace PathRouting.Pattern

/-! ## Marks -/

/-- Whether a name is that of a parameter that is not optional. -/
def Marked (ps : List Parameter) (x : Text) : Prop :=
  ∃ p ∈ ps, p.name = x ∧ p.optional = false

section
variable {ps : List Parameter} {x y : Text}

theorem marked_cons {p : Parameter} :
    Marked (p :: ps) x ↔ (p.name = x ∧ p.optional = false) ∨ Marked ps x := by
  simp [Marked]

/-- A declaration leaves the marks as they are. -/
theorem marked_declare (s : ValueSet) : Marked (declare y s ps) x ↔ Marked ps x := by
  induction ps with
  | nil => simp [declare, Marked]
  | cons p ps ih =>
    rw [declare]
    split_ifs with hp
    · rw [marked_cons, marked_cons]
    · rw [marked_cons, marked_cons, ih]

theorem marked_require (hy : y ∈ ps.map (·.name)) :
    Marked (require y ps) x ↔ Marked ps x ∨ y = x := by
  simp only [Marked, require, List.mem_map, exists_exists_and_eq_and]
  constructor
  · rintro ⟨p, hp, hname, hmark⟩
    split_ifs at hname hmark with hpy
    · exact .inr (hpy.symm.trans hname)
    · exact .inl ⟨p, hp, hname, hmark⟩
  · rintro (⟨p, hp, hname, hmark⟩ | rfl)
    · refine ⟨p, hp, ?_, ?_⟩ <;> split_ifs <;> first | exact hname | exact hmark | rfl
    · obtain ⟨p, hp, hname⟩ := List.mem_map.1 hy
      exact ⟨p, hp, by rw [if_pos hname]; exact hname, by rw [if_pos hname]⟩

end

namespace Node

mutual

/-- Whether a variable `x` stands in no constraint and in none of several branches, and has no
    constraint of which the text depends on the bindings. -/
def Requires (x : Text) : Node → Prop
  | .path _ _ ns | .segment _ ns => SomeRequires x ns
  | .alternation _ [n] => n.Requires x
  | .variable _ name none => name = x
  | .variable _ name (some c) => name = x ∧ ¬Varies c.value?
  | .alternation .. | .wildcard .. | .regexp .. | .text .. => False

/-- Whether it stands so in one of several trees. -/
def SomeRequires (x : Text) : List Node → Prop
  | [] => False
  | n :: ns => n.Requires x ∨ SomeRequires x ns

end

section
variable {x : Text}

mutual

/-- In a constraint and in one of several branches nothing is marked. -/
theorem lower_unmarked : ∀ (n : Node) {inVariable : Bool} {ps qs : List Parameter}
    {t : Option Template}, n.lower inVariable true ps = .ok (t, qs) →
      (Marked qs x ↔ Marked ps x)
  | .path _ _ segments, _, _, _, _, h => by
    obtain ⟨us, hus, -⟩ := exists_lowerItems_of_path h
    exact lowerItems_unmarked segments hus
  | .segment _ items, _, _, _, _, h => by
    obtain ⟨ts, hts, -⟩ := lower_segment_eq_ok h
    exact lowerItems_unmarked items hts
  | .alternation _ branches, _, _, _, _, h => by
    obtain ⟨ts, hts, -⟩ := lower_alternation_eq_ok h
    exact lowerBranches_unmarked branches hts
  | .variable _ name none, _, ps, _, _, h => by
    cases h
    exact marked_declare _
  | .variable _ name (some c), _, ps, _, _, h => by
    obtain ⟨t, rs, ht, -, rfl⟩ := lower_variable_eq_ok h
    exact (lower_unmarked c ht).trans (marked_declare _)
  | .wildcard .., _, _, _, _, h => by
    cases h
    rfl
  | .regexp .., _, _, _, _, h => by
    obtain ⟨-, -, rfl⟩ := lower_regexp_eq_ok h
    rfl
  | .text .., _, _, _, _, h => by
    cases h
    rfl

theorem lowerItems_unmarked : ∀ (ns : List Node) {inVariable : Bool} {ps qs : List Parameter}
    {ts : Option (List Template)}, lowerItems inVariable true ns ps = .ok (ts, qs) →
      (Marked qs x ↔ Marked ps x)
  | [], _, _, _, _, h => by
    cases h
    rfl
  | n :: ns, _, _, _, _, h => by
    obtain ⟨t, rs, ht, h⟩ := lowerItems_cons_eq_ok h
    rw [← lower_unmarked n ht]
    obtain ⟨-, -, rfl⟩ | ⟨t, ts, -, hts, -⟩ := h
    · rfl
    · exact lowerItems_unmarked ns hts

theorem lowerBranches_unmarked : ∀ (ns : List Node) {inVariable : Bool}
    {ps qs : List Parameter} {ts : List Template},
    lowerBranches inVariable true ns ps = .ok (ts, qs) → (Marked qs x ↔ Marked ps x)
  | [], _, _, _, _, h => by
    cases h
    rfl
  | n :: ns, _, _, _, _, h => by
    obtain ⟨t, rs, ts, ht, hts, -⟩ := lowerBranches_cons_eq_ok h
    rw [← lower_unmarked n ht]
    exact lowerBranches_unmarked ns hts

end

/-- Outside of constraints, each tree has a template. -/
theorem isSome_of_lower {n : Node} {optional : Bool} {ps qs : List Parameter}
    {t : Option Template} (hw : n.WellFormed) (h : n.lower false optional ps = .ok (t, qs)) :
    t.isSome := by
  rw [n.lower_isSome h]
  exact n.buildable_of_bare hw (bareRegexps_of_lower hw h)

mutual

/-- The names that a tree requires are marked. -/
theorem lower_marked : ∀ (n : Node) {ps qs : List Parameter} {t : Option Template},
    n.WellFormed → n.lower false false ps = .ok (t, qs) →
      (Marked qs x ↔ Marked ps x ∨ n.Requires x)
  | .path _ _ segments, _, _, _, hw, h => by
    obtain ⟨us, hus, -⟩ := exists_lowerItems_of_path h
    exact lowerItems_marked segments hw hus
  | .segment _ items, _, _, _, hw, h => by
    obtain ⟨ts, hts, -⟩ := lower_segment_eq_ok h
    exact lowerItems_marked items hw hts
  | .alternation _ [n], _, _, _, hw, h => by
    obtain ⟨ts, hts, -⟩ := lower_alternation_eq_ok h
    obtain ⟨t, rs, us, ht, hus, -⟩ := lowerBranches_cons_eq_ok hts
    cases hus
    exact lower_marked n hw.2.1 ht
  | .alternation _ [], _, _, _, hw, _ => absurd rfl hw.1
  | .alternation _ (n :: m :: ns), _, _, _, _, h => by
    obtain ⟨ts, hts, -⟩ := lower_alternation_eq_ok h
    have hmany : (false || decide (1 < (n :: m :: ns).length)) = true := by simp
    rw [hmany] at hts
    rw [lowerBranches_unmarked (n :: m :: ns) hts, Requires, or_false]
    simp
  | .variable _ name none, ps, _, _, _, h => by
    cases h
    have hname : name ∈ (declare name .any ps).map (·.name) := mem_names_declare.2 (.inl rfl)
    exact (marked_require hname).trans (or_congr_left (marked_declare _))
  | .variable _ name (some c), ps, _, _, _, h => by
    obtain ⟨t, rs, ht, -, rfl⟩ := lower_variable_eq_ok h
    have hname : name ∈ rs.map (·.name) := by
      rw [lower_names c ht, mem_addNew]
      exact .inl (mem_names_declare.2 (.inl rfl))
    have hvaries := (lower_builds c ht).isSome_fallback
    rw [Requires, ← hvaries, Bool.false_or]
    split_ifs with hsome
    · rw [lower_unmarked c ht, marked_declare]
      simp [hsome]
    · rw [marked_require hname, lower_unmarked c ht, marked_declare]
      simp [hsome]
  | .wildcard .., _, _, _, _, h => by
    cases h
    exact (or_false _).symm.to_iff
  | .text .., _, _, _, _, h => by
    cases h
    exact (or_false _).symm.to_iff

theorem lowerItems_marked : ∀ (ns : List Node) {ps qs : List Parameter}
    {ts : Option (List Template)}, AllWellFormed ns →
      lowerItems false false ns ps = .ok (ts, qs) →
        (Marked qs x ↔ Marked ps x ∨ SomeRequires x ns)
  | [], _, _, _, _, h => by
    cases h
    exact (or_false _).symm.to_iff
  | n :: ns, _, _, _, hw, h => by
    obtain ⟨t, rs, ht, h⟩ := lowerItems_cons_eq_ok h
    have hsome := isSome_of_lower hw.1 ht
    obtain ⟨rfl, -, -⟩ | ⟨t, ts, -, hts, -⟩ := h
    · cases hsome
    rw [lowerItems_marked ns hw.2 hts, lower_marked n hw.1 ht, or_assoc, SomeRequires]

end

/-! ## Names that are required and names that are lacking -/

mutual

/-- A tree lacks what it requires. -/
theorem Requires.lacks : ∀ n : Node, n.Requires x → n.Lacks (· = x)
  | .path _ _ ns, h | .segment _ ns, h => SomeRequires.lacks ns h
  | .alternation _ [n], h => ⟨Requires.lacks n h, trivial⟩
  | .variable _ _ none, h => h
  | .variable _ _ (some _), h => ⟨h.1, fun hv => absurd hv h.2⟩

theorem SomeRequires.lacks : ∀ ns : List Node, SomeRequires x ns → SomeLacks (· = x) ns
  | n :: ns, h => h.imp (Requires.lacks n) (SomeRequires.lacks ns)

end

/-- Only a variable of that name can be missing. -/
theorem mem_names_of_lacks {n : Node} (hb : n.buildable) (h : n.Lacks (· = x)) :
    x ∈ n.variableNames := by
  obtain ⟨y, hy, rfl⟩ := n.exists_missing hb h
  exact n.metNames_sublist.subset hy

/-- What depends on the bindings can be built. -/
theorem buildable_of_varies {c : Node} (h : Varies c.value?) : c.buildable := by
  by_contra hb
  obtain ⟨b, b', hne⟩ := h
  have hnone : ∀ b, c.value? b = none := fun b =>
    c.value?_eq_none_iff.2 (c.lacks_of_unbuildable (Bool.eq_false_iff.2 hb))
  exact hne ((hnone b).trans (hnone b').symm)

mutual

/-- A tree in which a name occurs once requires it if it lacks it. -/
theorem requires_of_lacks : ∀ n : Node, n.WellFormed → n.bareRegexps = [] →
    n.variableNames.count x ≤ 1 → n.Lacks (· = x) → n.Requires x
  | .path _ _ ns, hw, hb, hx, h | .segment _ ns, hw, hb, hx, h =>
    someRequires_of_lacks ns hw hb hx h
  | .alternation _ [], hw, _, _, _ => absurd rfl hw.1
  | .alternation _ [n], hw, hb, hx, h => by
    rw [bareRegexps, bareRegexpsOf, bareRegexpsOf, List.append_nil] at hb
    rw [variableNames, namesOf, namesOf, List.append_nil] at hx
    exact requires_of_lacks n hw.2.1 hb hx h.1
  | .alternation _ (n :: m :: ns), hw, hb, hx, h => by
    -- both branches have a variable of that name
    obtain ⟨hn, hrest⟩ := List.append_eq_nil_iff.1 hb
    have hm := (List.append_eq_nil_iff.1 hrest).1
    have hxn := List.count_pos_iff.2
      (mem_names_of_lacks (n.buildable_of_bare hw.2.1 hn) h.1)
    have hxm := List.count_pos_iff.2
      (mem_names_of_lacks (m.buildable_of_bare hw.2.2.1 hm) h.2.1)
    rw [variableNames, namesOf, namesOf, List.count_append, List.count_append] at hx
    omega
  | .variable _ _ none, _, _, _, h => h
  | .variable _ name (some c), _, _, hx, h => by
    refine ⟨h.1, fun hv => ?_⟩
    have hxc := List.count_pos_iff.2 (mem_names_of_lacks (buildable_of_varies hv) (h.2 hv))
    rw [variableNames, h.1, List.count_cons_self] at hx
    omega

theorem someRequires_of_lacks : ∀ ns : List Node, AllWellFormed ns → bareRegexpsOf ns = [] →
    (namesOf ns).count x ≤ 1 → SomeLacks (· = x) ns → SomeRequires x ns
  | n :: ns, hw, hb, hx, h => by
    obtain ⟨hn, hns⟩ := List.append_eq_nil_iff.1 hb
    rw [namesOf, List.count_append] at hx
    exact h.imp (requires_of_lacks n hw.1 hn (by omega))
      (someRequires_of_lacks ns hw.2 hns (by omega))

end

end

end Node

/-! ## Optional parameters -/

section
variable {root : Node} {p : PathBuilder}

/-- **Missing parameters.** Something is built without a value for a name, unless the tree lacks
    that name. -/
theorem PathBuilder.exists_build_iff (h : PathBuilder.ofNode root = .ok p) (x : Text) :
    (∃ b, b.get? x = none ∧ (p.build? b).isSome) ↔ ¬root.Lacks (· = x) := by
  constructor
  · rintro ⟨b, hx, hsome⟩ hlacks
    rw [PathBuilder.build?_eq_value? h] at hsome
    have hnone := root.value?_eq_none_iff.2 (Node.Lacks.mono root (fun y _ hy => hy ▸ hx) hlacks)
    rw [hnone] at hsome
    cases hsome
  · intro hlacks
    -- all names but this one are bound
    refine ⟨Template.filled (root.variableNames.filter (· ≠ x)) [],
      Template.get?_filled_of_not_mem (by simp) [], ?_⟩
    rw [PathBuilder.build?_eq_value? h, Option.isSome_iff_ne_none]
    intro hnone
    refine hlacks (Node.Lacks.mono root (fun y hy hmissing => ?_) (root.value?_eq_none_iff.1 hnone))
    by_contra hne
    rw [Template.get?_filled (List.mem_filter.2 ⟨hy, by simpa using hne⟩)] at hmissing
    cases hmissing

theorem PathBuilder.optional_eq_false_iff (hw : root.WellFormed)
    (h : PathBuilder.ofNode root = .ok p) {q : Parameter} (hq : q ∈ p.parameters) :
    q.optional = false ↔ root.Requires q.name := by
  have hnodup := PathBuilder.names_nodup h
  obtain ⟨⟨t, ps⟩, ht, rfl⟩ := map_eq_ok.1 h
  have hmarked : Marked ps q.name ↔ root.Requires q.name := by
    simpa [Marked] using root.lower_marked (x := q.name) hw ht
  rw [← hmarked]
  constructor
  · exact fun hfalse => ⟨q, hq, rfl, hfalse⟩
  · rintro ⟨q', hq', hname, hfalse⟩
    obtain rfl := List.inj_on_of_nodup_map hnodup hq' hq hname
    exact hfalse

/-- **Optional parameters.** A parameter is not optional exactly if the pattern requires it; then
    nothing is built without it. That a parameter is optional means that something is built
    without it, unless the pattern lacks it without requiring it at any one place. That does not
    happen if the name occurs once. -/
theorem optional_of_parameter {pattern : Text} (hroot : parse pattern = .ok root)
    (h : PathBuilder.ofNode root = .ok p) {q : Parameter} (hq : q ∈ p.parameters) :
    (q.optional = false ↔ root.Requires q.name) ∧
      (q.optional = false → ∀ b, b.get? q.name = none → p.build? b = none) ∧
      ((q.optional = true ↔ ∃ b, b.get? q.name = none ∧ (p.build? b).isSome) ↔
        (root.Lacks (· = q.name) → root.Requires q.name)) ∧
      (root.variableNames.count q.name = 1 →
        (q.optional = true ↔ ∃ b, b.get? q.name = none ∧ (p.build? b).isSome)) := by
  have hw := parse_wellFormed hroot
  have hfalse := PathBuilder.optional_eq_false_iff hw h hq
  have hlacks : root.Requires q.name → root.Lacks (· = q.name) := Node.Requires.lacks root
  have htrue : q.optional = true ↔ ¬root.Requires q.name := by
    rw [← hfalse, Bool.not_eq_false]
  have hagree : (q.optional = true ↔ ∃ b, b.get? q.name = none ∧ (p.build? b).isSome) ↔
      (root.Lacks (· = q.name) → root.Requires q.name) := by
    rw [PathBuilder.exists_build_iff h, htrue]
    tauto
  refine ⟨hfalse, fun hq' b hb => ?_, hagree, fun hcount => hagree.2 fun hl => ?_⟩
  · by_contra hne
    exact (PathBuilder.exists_build_iff h q.name).1 ⟨b, hb, Option.isSome_iff_ne_none.2 hne⟩
      (hlacks (hfalse.1 hq'))
  · obtain ⟨r, hlower, -⟩ := map_eq_ok.1 h
    have hbare := Node.bareRegexps_of_lower hw hlower
    exact root.requires_of_lacks hw hbare (Nat.le_of_eq hcount) hl

end

/-- A constraint to fall back on with a variable in it, one of several branches, and a constraint
    that cannot be built. -/
theorem optional_of_parameter_once :
    ∃ root p, parse "/:a{x:b}/{:c,d}/:e(1)".toList = .ok root ∧ PathBuilder.ofNode root = .ok p ∧
      p.parameters.map (fun q => (q.name, q.optional)) =
        [("a".toList, true), ("b".toList, true), ("c".toList, true), ("e".toList, false)] ∧
      ∀ q ∈ p.parameters,
        (q.optional = true ↔ ∃ b, b.get? q.name = none ∧ (p.build? b).isSome) := by
  have hp : ((parse "/:a{x:b}/{:c,d}/:e(1)".toList).toOption.bind fun root =>
      (PathBuilder.ofNode root).toOption.map fun p =>
        (p.parameters.all fun q => root.variableNames.count q.name = 1,
          p.parameters.map fun q => (q.name, q.optional))) =
        some (true, [("a".toList, true), ("b".toList, true), ("c".toList, true),
          ("e".toList, false)]) := by
    decide +kernel
  obtain ⟨root, hroot, hp⟩ := Option.bind_eq_some_iff.1 hp
  obtain ⟨p, hbuilder, hp⟩ := Option.map_eq_some_iff.1 hp
  obtain ⟨honce, hflags⟩ := Prod.mk.inj hp
  refine ⟨root, p, eq_ok_of_toOption hroot, eq_ok_of_toOption hbuilder, hflags, fun q hq => ?_⟩
  have hcount := of_decide_eq_true (List.all_eq_true.1 honce q hq)
  exact (optional_of_parameter (eq_ok_of_toOption hroot) (eq_ok_of_toOption hbuilder) hq).2.2.2
    hcount

/-- A parameter that stands in each of several branches is optional, but nothing is built without
    it. -/
theorem optional_in_each_branch :
    ∃ root p, parse "\x7b:a/x,:a/y\x7d".toList = .ok root ∧ PathBuilder.ofNode root = .ok p ∧
      p.parameters = [⟨"a".toList, true, .any⟩] ∧
      ¬∃ b, b.get? "a".toList = none ∧ (p.build? b).isSome := by
  have hp : ((parse "\x7b:a/x,:a/y\x7d".toList).toOption.bind fun root =>
      (PathBuilder.ofNode root).toOption.map (·.parameters)) =
        some [⟨"a".toList, true, .any⟩] := by
    decide +kernel
  obtain ⟨root, hroot, hp⟩ := Option.bind_eq_some_iff.1 hp
  obtain ⟨p, hbuilder, hparameters⟩ := Option.map_eq_some_iff.1 hp
  refine ⟨root, p, eq_ok_of_toOption hroot, eq_ok_of_toOption hbuilder, hparameters, ?_⟩
  rw [PathBuilder.exists_build_iff (eq_ok_of_toOption hbuilder), not_not]
  -- the variable is the first item of the first segment of each of the two branches
  cases hroot
  exact .inl (.inl ⟨.inl (.inl rfl), .inl (.inl rfl), trivial⟩)

end PathRouting.Pattern
