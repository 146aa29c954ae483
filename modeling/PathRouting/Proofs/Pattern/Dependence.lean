/-
  What a built path depends on.

  * `Node.value?_congr`: the text of a tree depends on the values of the variables that are
    met in it. Behind a part that has no text under any bindings no value counts.
  * `Node.value?_isSome_mono`: a tree that has a text has one under more bindings, too. It may
    be another text: that of an earlier branch, or a value in place of what a constraint says.
  * `build_depends`: so a builder depends on the values of its parameters, and additional
    bindings never keep it from building.
-/
import PathRouting.Proofs.Bindings
import PathRouting.Proofs.Pattern.Buildable

namespace PathRouting.Pattern

variable {b b' : Bindings}

namespace Node

theorem value?_of_unbuildable {n : Node} (h : n.buildable = false) : n.value? b = none :=
  n.value?_eq_none_iff.2 (n.lacks_of_unbuildable h)

mutual

/-- **Dependence.** A tree has the same text under bindings that agree on the variables that
    are met in it. -/
theorem value?_congr : ∀ n : Node, (∀ x ∈ n.metNames, b.get? x = b'.get? x) →
    n.value? b = n.value? b'
  | .path _ _ ns, h => by
    rw [value?, value?, valueOf?_congr ['/'] ns h]
  | .segment _ ns, h => valueOf?_congr [] ns h
  | .alternation _ ns, h => firstValue?_congr ns h
  | .variable _ name none, h => h name (List.mem_singleton_self name)
  | .variable _ name (some c), h => by
    obtain ⟨hname, hc⟩ := List.forall_mem_cons.1 h
    rw [value?, value?, hname, value?_congr c hc]
  | .wildcard .., _ | .regexp .., _ | .text .., _ => rfl

theorem valueOf?_congr (between : Text) : ∀ ns : List Node,
    (∀ x ∈ metUntil ns, b.get? x = b'.get? x) → valueOf? between ns b = valueOf? between ns b'
  | [], _ => rfl
  | [n], h => value?_congr n (List.forall_mem_append.1 h).1
  | n :: m :: ns, h => by
    obtain ⟨hn, hrest⟩ := List.forall_mem_append.1 h
    rw [valueOf?, valueOf?, value?_congr n hn]
    cases hbuild : n.buildable with
    | true =>
      rw [hbuild, if_pos rfl] at hrest
      rw [valueOf?_congr between (m :: ns) hrest]
    | false => rw [value?_of_unbuildable hbuild, Option.bind_none, Option.bind_none]

theorem firstValue?_congr : ∀ ns : List Node, (∀ x ∈ metOf ns, b.get? x = b'.get? x) →
    firstValue? ns b = firstValue? ns b'
  | [], _ => rfl
  | n :: ns, h => by
    obtain ⟨hn, hns⟩ := List.forall_mem_append.1 h
    rw [firstValue?, firstValue?, value?_congr n hn, firstValue?_congr ns hns]

end

/-- More bindings leave no tree without a text that had one. -/
theorem value?_isSome_mono (n : Node) (h : ∀ x, (b.get? x).isSome → (b'.get? x).isSome)
    (hb : (n.value? b).isSome) : (n.value? b').isSome := by
  rw [← Option.ne_none_iff_isSome, ne_eq, value?_eq_none_iff] at hb ⊢
  refine fun hlacks => hb (Lacks.mono n (fun x _ hx => ?_) hlacks)
  by_contra hne
  have hsome := h x (Option.ne_none_iff_isSome.1 hne)
  rw [hx] at hsome
  cases hsome

end Node

/-- **Dependence of builders.** A builder writes in place what it builds. It builds the same
    under bindings that agree on its parameters, so that no other name matters. What it
    builds under some bindings it builds under any that bind all of their names, to the same
    values or to others; so it still builds with one more name, or with another value. -/
theorem build_depends {root : Node} {p : PathBuilder} (h : PathBuilder.ofNode root = .ok p) :
    (∀ b, p.write? b = p.build? b) ∧
    (∀ b b' : Bindings, (∀ q ∈ p.parameters, b.get? q.name = b'.get? q.name) →
      p.build? b = p.build? b') ∧
    (∀ b b' : Bindings, (∀ x, (b.get? x).isSome → (b'.get? x).isSome) →
      (p.build? b).isSome → (p.build? b').isSome) ∧
    ∀ (b : Bindings) (x value : Text),
      (x ∉ p.parameters.map (·.name) → p.build? (b.insert x value) = p.build? b) ∧
      ((p.build? b).isSome → (p.build? (b.insert x value)).isSome) := by
  have hsame : ∀ b b' : Bindings, (∀ q ∈ p.parameters, b.get? q.name = b'.get? q.name) →
      p.build? b = p.build? b' := by
    intro b b' hagree
    rw [PathBuilder.build?_eq_value? h, PathBuilder.build?_eq_value? h]
    refine root.value?_congr fun x hx => ?_
    obtain ⟨q, hq, rfl⟩ := List.mem_map.1 ((PathBuilder.mem_names h).2 hx)
    exact hagree q hq
  have hmore : ∀ b b' : Bindings, (∀ x, (b.get? x).isSome → (b'.get? x).isSome) →
      (p.build? b).isSome → (p.build? b').isSome := by
    intro b b' hnames
    rw [PathBuilder.build?_eq_value? h, PathBuilder.build?_eq_value? h]
    exact root.value?_isSome_mono hnames
  refine ⟨p.write?_eq_build?, hsame, hmore,
    fun b x value => ⟨fun hx => ?_, hmore b _ fun y hy => ?_⟩⟩
  · refine hsame _ b fun q hq => ?_
    have hne : q.name ≠ x := fun heq => hx (heq ▸ List.mem_map_of_mem hq)
    rw [Bindings.get?_insert, if_neg hne]
  · rw [Bindings.get?_insert]
    split_ifs
    · rfl
    · exact hy

/-- One more name leads to an earlier branch, and another one that is no parameter to none. -/
theorem build_depends_earlier_branch :
    ∃ root p, parse "/{:a,x:b}".toList = .ok root ∧ PathBuilder.ofNode root = .ok p ∧
      p.build? ⟨[("b".toList, "1".toList)]⟩ = some "/x1".toList ∧
      (p.build? ⟨[("a".toList, "9".toList), ("b".toList, "2".toList)]⟩).isSome ∧
      p.build? ⟨[("c".toList, "3".toList), ("b".toList, "1".toList)]⟩ = some "/x1".toList ∧
      p.write? ⟨[("a".toList, "9".toList), ("b".toList, "2".toList)]⟩ = some "/9".toList := by
  have hp : ((parse "/{:a,x:b}".toList).toOption.bind fun root =>
      (PathBuilder.ofNode root).toOption.map fun p => (p.parameters.map (·.name),
        p.build? ⟨[("b".toList, "1".toList)]⟩,
        p.build? ⟨[("a".toList, "9".toList), ("b".toList, "2".toList)]⟩)) =
      some (["a".toList, "b".toList], some "/x1".toList, some "/9".toList) := by
    decide +kernel
  obtain ⟨root, hroot, hp⟩ := Option.bind_eq_some_iff.1 hp
  obtain ⟨p, hbuilder, hp⟩ := Option.map_eq_some_iff.1 hp
  simp only [Prod.mk.injEq] at hp
  obtain ⟨hnames, hone, htwo⟩ := hp
  obtain ⟨hwrite, hsame, hmore, -⟩ := build_depends (eq_ok_of_toOption hbuilder)
  refine ⟨root, p, eq_ok_of_toOption hroot, eq_ok_of_toOption hbuilder, hone,
    hmore ⟨[("b".toList, "1".toList)]⟩ _ (fun x hx => ?_) (by rw [hone]; rfl), ?_,
    (hwrite _).trans htwo⟩
  · rw [Bindings.get?_cons]
    split_ifs
    · rfl
    · rw [Bindings.get?_cons] at hx ⊢
      split_ifs at hx ⊢
      · rfl
      · exact hx
  · refine Eq.trans (hsame _ _ fun q hq => ?_) hone
    have hq : q.name ∈ ["a".toList, "b".toList] := hnames ▸ List.mem_map_of_mem hq
    have hne : q.name ≠ "c".toList := by
      rintro heq
      rw [heq] at hq
      exact absurd hq (by decide)
    rw [Bindings.get?_cons, if_neg hne]

end PathRouting.Pattern
