/-
  What can be built.

  * `Node.Lacks`: a tree has no text if just the given names have no values.
    `Node.value?_eq_none_iff`: that is so. `Node.Lacks.mono`: with fewer values there are not
    more texts.
  * `Node.exists_missing`: a tree that can be built has a text, unless a variable has no value
    that is met in it.
  * `Node.lower_eq_error`: lowering fails at the first raw regular expression that stands in
    no constraint. Without one, the tree can be built.
  * `ofNode_verdict`: the builders of patterns.
-/
import PathRouting.Proofs.Pattern.Reported

namespace PathRouting.Pattern

namespace Node

mutual

/-- Whether a tree has no text if the names of `missing` have no values and all others have
    one. -/
def Lacks (missing : Text → Prop) : Node → Prop
  | .path _ _ ns | .segment _ ns => SomeLacks missing ns
  | .alternation _ ns => AllLack missing ns
  | .variable _ name none => missing name
  | .variable _ name (some c) => missing name ∧ (Varies c.value? → c.Lacks missing)
  | .regexp .. => True
  | .wildcard .. | .text .. => False

/-- Whether that is so of one of several trees. -/
def SomeLacks (missing : Text → Prop) : List Node → Prop
  | [] => False
  | n :: ns => n.Lacks missing ∨ SomeLacks missing ns

/-- Whether that is so of each of several trees. -/
def AllLack (missing : Text → Prop) : List Node → Prop
  | [] => True
  | n :: ns => n.Lacks missing ∧ AllLack missing ns

end

/-! ## Trees without a text -/

section
variable {b : Bindings}

mutual

/-- **Missing values.** A tree has no text exactly if it lacks the names without a value. -/
theorem value?_eq_none_iff : ∀ n : Node,
    n.value? b = none ↔ n.Lacks fun x => b.get? x = none
  | .path _ _ ns => by
    rw [value?, Option.map_eq_none_iff]
    exact valueOf?_eq_none_iff ['/'] ns
  | .segment _ ns => valueOf?_eq_none_iff [] ns
  | .alternation _ ns => firstValue?_eq_none_iff ns
  | .variable _ _ none => Iff.rfl
  | .variable _ name (some c) => by
    rw [value?, Option.or_eq_none_iff, Lacks, ← value?_eq_none_iff c]
    split_ifs with hc <;> simp [hc]
  | .regexp .. => iff_of_true rfl trivial
  | .wildcard .. | .text .. => iff_of_false (Option.some_ne_none _) id

theorem valueOf?_eq_none_iff (between : Text) : ∀ ns : List Node,
    valueOf? between ns b = none ↔ SomeLacks (fun x => b.get? x = none) ns
  | [] => iff_of_false (Option.some_ne_none _) id
  | [n] => by
    rw [valueOf?, value?_eq_none_iff n, SomeLacks, SomeLacks, or_false]
  | n :: m :: ns => by
    rw [SomeLacks, ← value?_eq_none_iff n, ← valueOf?_eq_none_iff between (m :: ns), valueOf?]
    cases n.value? b <;> simp

theorem firstValue?_eq_none_iff : ∀ ns : List Node,
    firstValue? ns b = none ↔ AllLack (fun x => b.get? x = none) ns
  | [] => iff_of_true rfl trivial
  | n :: ns => by
    rw [firstValue?, Option.or_eq_none_iff, value?_eq_none_iff n, firstValue?_eq_none_iff ns,
      AllLack]

end

end

/-! ## Names that are missing -/

section
variable {P Q : Text → Prop}

mutual

theorem Lacks.mono : ∀ n : Node, (∀ x ∈ n.variableNames, P x → Q x) → n.Lacks P → n.Lacks Q
  | .path _ _ ns, hpq, h | .segment _ ns, hpq, h => SomeLacks.mono ns hpq h
  | .alternation _ ns, hpq, h => AllLack.mono ns hpq h
  | .variable _ name none, hpq, h => hpq name (List.mem_singleton_self name) h
  | .variable _ name (some c), hpq, h => by
    obtain ⟨hname, hc⟩ := List.forall_mem_cons.1 hpq
    exact ⟨hname h.1, fun hv => Lacks.mono c hc (h.2 hv)⟩
  | .regexp .., _, _ => trivial

theorem SomeLacks.mono : ∀ ns : List Node, (∀ x ∈ namesOf ns, P x → Q x) →
    SomeLacks P ns → SomeLacks Q ns
  | n :: ns, hpq, h => by
    obtain ⟨hn, hns⟩ := List.forall_mem_append.1 hpq
    exact h.imp (Lacks.mono n hn) (SomeLacks.mono ns hns)

theorem AllLack.mono : ∀ ns : List Node, (∀ x ∈ namesOf ns, P x → Q x) →
    AllLack P ns → AllLack Q ns
  | [], _, _ => trivial
  | n :: ns, hpq, h => by
    obtain ⟨hn, hns⟩ := List.forall_mem_append.1 hpq
    exact ⟨Lacks.mono n hn h.1, AllLack.mono ns hns h.2⟩

end

mutual

/-- If a tree that can be built has no text, then a name is missing that is met in it. -/
theorem exists_missing : ∀ n : Node, n.buildable → n.Lacks P → ∃ x ∈ n.metNames, P x
  | .path _ _ ns, hb, h | .segment _ ns, hb, h => exists_missing_of_some ns hb h
  | .alternation _ ns, hb, h => exists_missing_of_all ns hb h
  | .variable _ name none, _, h => ⟨name, List.mem_singleton_self name, h⟩
  | .variable _ name (some _), _, h => ⟨name, List.mem_cons_self, h.1⟩

theorem exists_missing_of_some : ∀ ns : List Node, allBuildable ns → SomeLacks P ns →
    ∃ x ∈ metUntil ns, P x
  | n :: ns, hb, h => by
    obtain ⟨hn, hns⟩ := Bool.and_eq_true_iff.1 hb
    rw [metUntil, if_pos hn]
    rcases h with h | h
    · obtain ⟨x, hx, hp⟩ := exists_missing n hn h
      exact ⟨x, List.mem_append_left _ hx, hp⟩
    · obtain ⟨x, hx, hp⟩ := exists_missing_of_some ns hns h
      exact ⟨x, List.mem_append_right _ hx, hp⟩

theorem exists_missing_of_all : ∀ ns : List Node, anyBuildable ns → AllLack P ns →
    ∃ x ∈ metOf ns, P x
  | n :: ns, hb, h => by
    rcases Bool.or_eq_true_iff.1 hb with hn | hns
    · obtain ⟨x, hx, hp⟩ := exists_missing n hn h.1
      exact ⟨x, List.mem_append_left _ hx, hp⟩
    · obtain ⟨x, hx, hp⟩ := exists_missing_of_all ns hns h.2
      exact ⟨x, List.mem_append_right _ hx, hp⟩

end

mutual

/-- A tree that cannot be built has no text at all. -/
theorem lacks_of_unbuildable : ∀ n : Node, n.buildable = false → n.Lacks P
  | .path _ _ ns, hb | .segment _ ns, hb => someLacks_of_unbuildable ns hb
  | .alternation _ ns, hb => allLack_of_unbuildable ns hb
  | .regexp .., _ => trivial

theorem someLacks_of_unbuildable : ∀ ns : List Node, allBuildable ns = false → SomeLacks P ns
  | n :: ns, hb =>
    (Bool.and_eq_false_iff.1 hb).imp (lacks_of_unbuildable n) (someLacks_of_unbuildable ns)

theorem allLack_of_unbuildable : ∀ ns : List Node, anyBuildable ns = false → AllLack P ns
  | [], _ => trivial
  | n :: ns, hb => by
    obtain ⟨hn, hns⟩ := Bool.or_eq_false_iff.1 hb
    exact ⟨lacks_of_unbuildable n hn, allLack_of_unbuildable ns hns⟩

end

end

/-! ## Raw regular expressions that are refused -/

mutual

/-- A tree in which raw regular expressions stand in constraints only can be built. -/
theorem buildable_of_bare : ∀ n : Node, n.WellFormed → n.bareRegexps = [] → n.buildable
  | .path _ _ ns, hw, h | .segment _ ns, hw, h => allBuildable_of_bare ns hw h
  | .alternation _ (n :: ns), hw, h => by
    have hn := buildable_of_bare n hw.2.1 (List.append_eq_nil_iff.1 h).1
    rw [buildable, anyBuildable, hn, Bool.true_or]
  | .alternation _ [], hw, _ => absurd rfl hw.1
  | .variable .., _, _ | .wildcard .., _, _ | .text .., _, _ => rfl

theorem allBuildable_of_bare : ∀ ns : List Node, AllWellFormed ns → bareRegexpsOf ns = [] →
    allBuildable ns
  | [], _, _ => rfl
  | n :: ns, hw, h => by
    obtain ⟨hn, hns⟩ := List.append_eq_nil_iff.1 h
    exact Bool.and_eq_true_iff.2 ⟨buildable_of_bare n hw.1 hn, allBuildable_of_bare ns hw.2 hns⟩

end

mutual

/-- Lowering fails at the first raw regular expression that stands in no constraint. -/
theorem lower_eq_error : ∀ (n : Node) {optional : Bool} {ps : List Parameter} {s : Span},
    n.WellFormed → s ∈ n.bareRegexps.head? →
      n.lower false optional ps = .error (.regexpOutsideVariable s.start)
  | .path _ _ ns, _, _, _, hw, h => by
    rw [lower, lowerSegments_eq_error (lowerItems_eq_error ns hw h)]
    rfl
  | .segment _ ns, _, _, _, hw, h => by
    rw [lower, lowerItems_eq_error ns hw h]
    rfl
  | .alternation _ ns, _, _, _, hw, h => by
    rw [lower, lowerBranches_eq_error ns hw.2 h]
    rfl
  | .regexp span _, _, _, _, _, h => by
    cases h
    rfl

theorem lowerItems_eq_error : ∀ (ns : List Node) {optional : Bool} {ps : List Parameter}
    {s : Span}, AllWellFormed ns → s ∈ (bareRegexpsOf ns).head? →
      lowerItems false optional ns ps = .error (.regexpOutsideVariable s.start)
  | n :: ns, optional, ps, s, hw, h => by
    rw [bareRegexpsOf, List.head?_append] at h
    rw [lowerItems]
    rcases Option.or_eq_some_iff.1 h with h | ⟨hn, h⟩
    · rw [lower_eq_error n hw.1 h]
      rfl
    · have hn := List.head?_eq_none_iff.1 hn
      obtain ⟨⟨t, qs⟩, ht⟩ := lower_isOk n false optional ps fun _ => hn
      have hsome := lower_isSome n ht
      rw [buildable_of_bare n hw.1 hn] at hsome
      obtain ⟨t, rfl⟩ := Option.isSome_iff_exists.1 hsome
      rw [ht]
      change Except.map _ (lowerItems false optional ns qs) = _
      rw [lowerItems_eq_error ns hw.2 h]
      rfl

theorem lowerBranches_eq_error : ∀ (ns : List Node) {optional : Bool} {ps : List Parameter}
    {s : Span}, AllWellFormed ns → s ∈ (bareRegexpsOf ns).head? →
      lowerBranches false optional ns ps = .error (.regexpOutsideVariable s.start)
  | n :: ns, optional, ps, s, hw, h => by
    rw [bareRegexpsOf, List.head?_append] at h
    rw [lowerBranches]
    rcases Option.or_eq_some_iff.1 h with h | ⟨hn, h⟩
    · rw [lower_eq_error n hw.1 h]
      rfl
    · obtain ⟨⟨t, qs⟩, ht⟩ := lower_isOk n false optional ps fun _ => List.head?_eq_none_iff.1 hn
      rw [ht]
      change Except.map _ (lowerBranches false optional ns qs) = _
      rw [lowerBranches_eq_error ns hw.2 h]
      rfl

end

/-- What is lowered outside of constraints has raw regular expressions in constraints only. -/
theorem bareRegexps_of_lower {n : Node} {optional : Bool} {ps : List Parameter}
    {r : Option Template × List Parameter} (hw : n.WellFormed)
    (h : n.lower false optional ps = .ok r) : n.bareRegexps = [] := by
  by_contra hne
  obtain ⟨s, ss, hs⟩ := List.exists_cons_of_ne_nil hne
  have herror : n.lower false optional ps = .error (.regexpOutsideVariable s.start) :=
    n.lower_eq_error hw (by rw [hs]; rfl)
  rw [herror] at h
  cases h

end Node

/-! ## Builders -/

/-- Something is built unless a parameter has no value. -/
theorem PathBuilder.exists_missing {root : Node} {p : PathBuilder}
    (h : PathBuilder.ofNode root = .ok p) (hb : root.buildable) {b : Bindings}
    (hnone : p.build? b = none) : ∃ q ∈ p.parameters, b.get? q.name = none := by
  rw [PathBuilder.build?_eq_value? h, Node.value?_eq_none_iff] at hnone
  obtain ⟨x, hx, hmissing⟩ := root.exists_missing hb hnone
  obtain ⟨q, hq, rfl⟩ := List.mem_map.1 ((PathBuilder.mem_names h).2 hx)
  exact ⟨q, hq, hmissing⟩

/-- **Builders of patterns.** A pattern has a builder unless a raw regular expression stands in
    it outside of constraints; then the error is at the one that starts first. A builder has a
    template. It builds nothing only if a parameter has no value, so that it builds something
    if each variable of the pattern has one. -/
theorem ofNode_verdict {pattern : Text} {root : Node} (h : parse pattern = .ok root) :
    (root.bareRegexps ≠ [] → ∃ s ∈ root.bareRegexps,
      (∀ s' ∈ root.bareRegexps, s.start ≤ s'.start) ∧
        PathBuilder.ofNode root = .error (.regexpOutsideVariable s.start)) ∧
    (root.bareRegexps = [] → ∃ p, PathBuilder.ofNode root = .ok p ∧ p.root.isSome ∧
      (∀ b, p.build? b = none → ∃ q ∈ p.parameters, b.get? q.name = none) ∧
      ∀ b, (∀ x ∈ root.variableNames, ∃ v, b.get? x = some v) →
        ∃ path, p.build? b = some path) := by
  have hw := parse_wellFormed h
  constructor
  · intro hne
    obtain ⟨s, ss, hs⟩ := List.exists_cons_of_ne_nil hne
    have hordered := (starts_ordered h).sublist root.bareRegexps_sublist
    have herror : root.lower false false [] = .error (.regexpOutsideVariable s.start) :=
      root.lower_eq_error hw (by rw [hs]; rfl)
    rw [hs, List.pairwise_cons] at hordered
    rw [hs]
    refine ⟨s, List.mem_cons_self, List.forall_mem_cons.2 ⟨Nat.le_refl _, fun s' hs' =>
      Nat.le_of_lt (hordered.1 s' hs')⟩, ?_⟩
    rw [PathBuilder.ofNode, herror]
    rfl
  · intro hbare
    have hbuildable := root.buildable_of_bare hw hbare
    obtain ⟨p, hp⟩ := PathBuilder.exists_of_bare hbare
    have hmissing : ∀ b, p.build? b = none → ∃ q ∈ p.parameters, b.get? q.name = none :=
      fun _ => PathBuilder.exists_missing hp hbuildable
    refine ⟨p, hp, ?_, hmissing, fun b hb => Option.ne_none_iff_exists'.1 fun hnone => ?_⟩
    · obtain ⟨⟨t, qs⟩, ht, rfl⟩ := map_eq_ok.1 hp
      exact (root.lower_isSome ht).trans hbuildable
    · obtain ⟨q, hq, hq'⟩ := hmissing b hnone
      have hmet := (PathBuilder.mem_names hp).1 (List.mem_map_of_mem hq)
      obtain ⟨v, hv⟩ := hb q.name (root.metNames_sublist.subset hmet)
      rw [hv] at hq'
      cases hq'

/-- Of three raw regular expressions the first one is in a constraint. In the same places, those
    in constraints are not refused. -/
theorem ofNode_verdict_branches :
    (∃ root, parse ":a(x)/{b(y),(z)}".toList = .ok root ∧
      root.bareRegexps = [⟨8, 11⟩, ⟨12, 15⟩] ∧
      PathBuilder.ofNode root = .error (.regexpOutsideVariable 8)) ∧
    ∃ root p, parse ":a(x)/:b{:c(y),(z)}".toList = .ok root ∧
      PathBuilder.ofNode root = .ok p ∧
      ∀ b, (∀ x ∈ root.variableNames, ∃ v, b.get? x = some v) →
        ∃ path, p.build? b = some path := by
  constructor
  · have hp : (parse ":a(x)/{b(y),(z)}".toList).toOption.map Node.bareRegexps =
        some [⟨8, 11⟩, ⟨12, 15⟩] := by decide +kernel
    obtain ⟨root, hroot, hbare⟩ := Option.map_eq_some_iff.1 hp
    have hne : root.bareRegexps ≠ [] := by rw [hbare]; decide
    obtain ⟨s, hs, hleast, herror⟩ := (ofNode_verdict (eq_ok_of_toOption hroot)).1 hne
    rw [hbare] at hs hleast
    obtain rfl : s = ⟨8, 11⟩ := by
      rcases List.mem_pair.1 hs with rfl | rfl
      · rfl
      · exact absurd (hleast ⟨8, 11⟩ List.mem_cons_self) (by decide)
    exact ⟨root, eq_ok_of_toOption hroot, hbare, herror⟩
  · have hp : (parse ":a(x)/:b{:c(y),(z)}".toList).toOption.map Node.bareRegexps = some [] := by
      decide +kernel
    obtain ⟨root, hroot, hbare⟩ := Option.map_eq_some_iff.1 hp
    obtain ⟨p, hbuilder, -, -, hbuild⟩ := (ofNode_verdict (eq_ok_of_toOption hroot)).2 hbare
    exact ⟨root, p, eq_ok_of_toOption hroot, hbuilder, hbuild⟩

end PathRouting.Pattern
