/-
  The source of patterns that are put together.

  * `Node.source_bare`: where the nodes of a tree stand does not matter for its source.
  * `Source.join_append`: sources are joined like texts. `Source.slots_join`: the slots of sources with something between them, each behind the
    groups of the sources in front of it.
  * `source_compositional`: the source of a concatenation is the sources of its parts, one
    behind the other, and that of patterns between braces is their sources with bars between
    them, in a group.
-/
import PathRouting.Proofs.Pattern.Braces
import PathRouting.Proofs.Pattern.Slots

namespace PathRouting.Pattern

namespace Source

/-! ## Sources with something between them -/

theorem join_cons {separator : Source} {ss : List Source} (h : ss ≠ []) (s : Source) :
    join separator (s :: ss) = s ++ separator ++ join separator ss := by
  cases ss with
  | nil => exact absurd rfl h
  | cons r rs => rfl

theorem join_append (separator : Source) {ss rs : List Source} (hs : ss ≠ []) (hr : rs ≠ []) :
    join separator (ss ++ rs) = join separator ss ++ separator ++ join separator rs := by
  induction ss with
  | nil => exact absurd rfl hs
  | cons s ss ih =>
    rw [List.cons_append]
    cases ss with
    | nil => exact join_cons hr s
    | cons s' ss =>
      have hne : s' :: ss ≠ [] := List.cons_ne_nil s' ss
      rw [join_cons (List.append_ne_nil_of_left_ne_nil hne rs), ih hne, join_cons hne]
      simp only [append_assoc]

theorem text_join (separator : Text) (ss : List Source) :
    (join (ofText separator) ss).text = Text.join separator (ss.map text) := by
  induction ss with
  | nil => rfl
  | cons s ss ih =>
    cases ss with
    | nil => rfl
    | cons r rs =>
      rw [join_cons (by simp), text_append, text_append, ih]
      rfl

theorem groups_join (separator : Text) (ss : List Source) :
    (join (ofText separator) ss).groups = (ss.map groups).sum := by
  induction ss with
  | nil => rfl
  | cons s ss ih =>
    cases ss with
    | nil => simp [join]
    | cons r rs =>
      rw [join_cons (by simp), groups_append, groups_append, ih, List.map_cons, List.sum_cons]
      rfl

/-- Sources with text between them have all slots in order, each behind the groups of the
    sources in front of its own. -/
theorem slots_join (separator : Text) (ss : List Source) :
    (join (ofText separator) ss).slots =
      ss.zipIdx.flatMap fun s => shift ((ss.take s.2).map groups).sum s.1.slots := by
  induction ss with
  | nil => rfl
  | cons s ss ih =>
    have hrest : shift s.groups (join (ofText separator) ss).slots =
        (ss.zipIdx 1).flatMap fun r => shift (((s :: ss).take r.2).map groups).sum r.1.slots := by
      rw [ih, @List.zipIdx_succ _ ss 0, List.flatMap_map, shift, List.map_flatMap]
      refine List.flatMap_congr fun r _ => ?_
      rw [List.take_succ_cons, List.map_cons, List.sum_cons, ← shift_shift]
      rfl
    rw [List.zipIdx_cons, List.flatMap_cons, ← hrest, List.take_zero, List.map_nil, List.sum_nil,
      shift_zero]
    cases ss with
    | nil => simp [join, ofText, shift]
    | cons r rs =>
      rw [join_cons (by simp), slots_append, slots_append, groups_append]
      simp [ofText, shift]

theorem slots_group (s : Source) : s.group.slots = s.slots := by
  simp [group, slots_append, ofText, shift]

theorem groups_group (s : Source) : s.group.groups = s.groups := by
  simp [group, groups_append, ofText]

end Source

/-! ## Positions do not matter -/

namespace Node

theorem sources_eq (o : Options) (ns : List Node) : sources o ns = ns.map (source o) := by
  induction ns with
  | nil => rfl
  | cons n ns ih => rw [sources, ih, List.map_cons]

mutual

/-- The source of a tree is that of the tree without positions. -/
theorem source_bare (o : Options) : ∀ n : Node, n.bare.source o = n.source o
  | .path _ absolute ns => by rw [bare, source, source, sources_bare o ns]
  | .segment _ ns => by rw [bare, source, source, sources_bare o ns]
  | .alternation _ ns => by rw [bare, source, source, sources_bare o ns]
  | .variable _ name (some c) => by rw [bare, source, source, source_bare o c]
  | .variable _ _ none | .regexp .. | .text .. => rfl
  | .wildcard _ greedy => by cases greedy <;> rfl

theorem sources_bare (o : Options) : ∀ ns : List Node, sources o (bareAll ns) = sources o ns
  | [] => rfl
  | n :: ns => by rw [bareAll, sources, sources, source_bare o n, sources_bare o ns]

end

theorem source_eq_of_bare {a b : Node} (h : a.bare = b.bare) (o : Options) :
    a.source o = b.source o := by
  rw [← source_bare, h, source_bare]

end Node

/-! ## Sources of patterns -/

/-- Joined trees have the source of the first one, and then that of the second one. -/
theorem Joined.source {a b c : Node} (h : Joined a.bare b.bare c.bare) (o : Options) :
    c.source o = a.source o ++ b.source o := by
  rw [← a.source_bare, ← b.source_bare, ← c.source_bare]
  generalize a.bare = a', b.bare = b', c.bare = c' at h
  cases h with
  | empty => exact (Source.nil_append _).symm
  | @segments absolute ns ms hns hms =>
    have hn : Node.sources o ns ≠ [] := by simpa [Node.sources_eq] using hns
    have hm : Node.sources o ms ≠ [] := by simpa [Node.sources_eq] using hms
    have happend : Node.sources o (ns ++ ms) = Node.sources o ns ++ Node.sources o ms := by
      simp only [Node.sources_eq, List.map_append]
    simp only [Node.source, happend, Source.join_append _ hn hm, if_true, Source.append_assoc]

/-- An alternation as a pattern has the sources of its branches in a group. -/
theorem source_of_alternation {as : List Node} {c : Node} (h : c.bare =
      .path ⟨0, 0⟩ false [.segment ⟨0, 0⟩ [.alternation ⟨0, 0⟩ (as.map Node.bare)]])
    (o : Options) :
    c.source o = (Source.join (.ofText "|".toList) (as.map (Node.source o))).group := by
  have hsources : Node.sources o (as.map Node.bare) = as.map (Node.source o) := by
    rw [← Node.bareAll_eq, Node.sources_bare, Node.sources_eq]
  rw [← c.source_bare, h]
  simp only [Node.source, Node.sources, hsources, Source.join, Bool.false_eq_true, if_false,
    Source.nil_append]

/-- **Composition.** A pattern followed by one that begins with a separator has the source of
    the first one and then that of the second one, whose slots are behind the groups of the
    first. Patterns between braces have their sources in a group, with bars between them, and
    the slots of each are behind the groups of those in front of it. -/
theorem source_compositional (o : Options) :
    (∀ (p q : Text) (a b : Node), parse p = .ok a → parse q = .ok b → q.head? = some '/' →
      ∃ c, parse (p ++ q) = .ok c ∧
        (c.source o).text = (a.source o).text ++ (b.source o).text ∧
        (c.source o).slots =
          (a.source o).slots ++ Source.shift (a.source o).groups (b.source o).slots ∧
        (c.source o).groups = (a.source o).groups + (b.source o).groups) ∧
    ∀ (ps : List Text) (as : List Node), ps ≠ [] →
      List.Forall₂ (fun p a => parse p = .ok a) ps as →
      ∃ c, parse (braces ps) = .ok c ∧
        (c.source o).text = "(?:".toList ++
          Text.join "|".toList (as.map fun a => (a.source o).text) ++ ")".toList ∧
        (c.source o).slots = (as.zipIdx.flatMap fun a =>
          Source.shift ((as.take a.2).map fun b => (b.source o).groups).sum (a.1.source o).slots) ∧
        (c.source o).groups = (as.map fun a => (a.source o).groups).sum := by
  constructor
  · intro p q a b hp hq hs
    obtain ⟨c, hc, hjoined⟩ := parse_append hp hq hs
    refine ⟨c, hc, ?_⟩
    rw [hjoined.source o]
    exact ⟨rfl, rfl, rfl⟩
  · intro ps as hne hps
    obtain ⟨c, hc, hbare⟩ := parse_braces hps hne
    refine ⟨c, hc, ?_⟩
    rw [source_of_alternation hbare, Source.slots_group, Source.groups_group, Source.slots_join,
      Source.groups_join]
    refine ⟨?_, ?_, ?_⟩
    · rw [Source.group, Source.text_append, Source.text_append, Source.text_join, List.map_map]
      rfl
    · rw [List.zipIdx_map, List.flatMap_map]
      simp only [← List.map_take, List.map_map]
      rfl
    · rw [List.map_map]
      rfl

/-- In front of the seam, and in the first branch, is a raw regular expression with a group
    of its own. -/
theorem source_compositional_raw :
    ∃ c d, parse ("/:x((u)v)".toList ++ "/:y*".toList) = .ok c ∧
      c.source {} = ⟨"/((?:(u)v))/([^/?#]*)".toList, [⟨['x'], 1⟩, ⟨['y'], 3⟩], 3⟩ ∧
      parse (braces ["/:x((u)v)".toList, "/:y*".toList]) = .ok d ∧
      d.source {} = ⟨"(?:/((?:(u)v))|/([^/?#]*))".toList, [⟨['x'], 1⟩, ⟨['y'], 3⟩], 3⟩ := by
  have ha : ((parse "/:x((u)v)".toList).toOption.map (Node.source {})) =
      some ⟨"/((?:(u)v))".toList, [⟨['x'], 1⟩], 2⟩ := by decide
  have hb : ((parse "/:y*".toList).toOption.map (Node.source {})) =
      some ⟨"/([^/?#]*)".toList, [⟨['y'], 1⟩], 1⟩ := by decide
  obtain ⟨a, ha, hsa⟩ := Option.map_eq_some_iff.1 ha
  obtain ⟨b, hb, hsb⟩ := Option.map_eq_some_iff.1 hb
  have ha := eq_ok_of_toOption ha
  have hb := eq_ok_of_toOption hb
  obtain ⟨happend, hbraces⟩ := source_compositional {}
  obtain ⟨c, hc, htext, hslots, hgroups⟩ := happend _ _ a b ha hb rfl
  obtain ⟨d, hd, htext', hslots', hgroups'⟩ := hbraces ["/:x((u)v)".toList, "/:y*".toList] [a, b]
    (List.cons_ne_nil _ _) (.cons ha (.cons hb .nil))
  rw [hsa, hsb] at htext hslots hgroups
  simp only [List.map_cons, List.map_nil, List.zipIdx_cons, List.zipIdx_nil, List.flatMap_cons,
    List.flatMap_nil, List.take, hsa, hsb] at htext' hslots' hgroups'
  exact ⟨c, d, hc, Source.eq_of_parts htext hslots hgroups, hd,
    Source.eq_of_parts htext' hslots' hgroups'⟩

end PathRouting.Pattern
