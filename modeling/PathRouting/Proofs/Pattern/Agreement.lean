/-
  What a compiled pattern finds.

  A pattern without raw regular expressions has a list of ways to match at the start
  of a text. What is compiled matches in these ways; but where all branches of an
  alternation begin alike, their common beginning is tried in front of the
  alternation, and then the ways come in another order.

  * `Matcher.Agrees`: a matcher finds the first way.
  * `asWritten_agrees`: it would, if what is written were searched for as it is.
  * `compilePattern_agrees_iff`: so a compiled pattern does exactly if common
    beginnings change nothing, as they do not if they are just text.
-/
import PathRouting.Proofs.Pattern.Arrival
import PathRouting.Proofs.Pattern.Reading

namespace PathRouting

namespace Regex

/-- The point at the start of a text, with nothing noted. -/
def startOf (t : Text) : Point :=
  (⟨0, none, t⟩, [])

theorem ends_atStart (e : Expr) (t : Text) :
    (Expr.seq (.look .textStart) e).ends (startOf t) = e.ends (startOf t) := by
  have hl : (Expr.look .textStart).ends (startOf t) = [startOf t] := rfl
  rw [Expr.ends, hl, List.flatMap_singleton]

end Regex

namespace Pattern

open Regex

namespace Matcher

/-- A matcher finds the first way, in any text. -/
def Agrees (m : Matcher) (ways : Ways) : Prop :=
  ∀ t, m.match? t = (ways t).head?.map Way.result

end Matcher

/-! ## The results of matches -/

/-- The result of a match that leads from the start of a text to a point. -/
def resultAt (t : Text) (xs : List Text) (y : Point) : PatternMatch :=
  ⟨Text.utf8Length (t.take y.1.pos),
    (boundBy t y.2 xs 1).foldl (fun b p => b.insertNew p.1 p.2) .empty⟩

theorem bindGroups_eq (c : Captures) (b : Bindings) (names : List (Text × ℕ)) :
    Matcher.bindGroups c b names =
      (names.filterMap fun x => (c.group? x.2).map fun value => (x.1, value)).foldl
        (fun b p => b.insertNew p.1 p.2) b := by
  induction names generalizing b with
  | nil => rfl
  | cons x names ih =>
    obtain ⟨name, index⟩ := x
    rw [Matcher.bindGroups, List.filterMap_cons]
    cases hg : c.group? index with
    | none => exact ih b
    | some value => exact ih _

/-- A matcher for an expression without named groups that is bound to the start. -/
theorem match?_eq {source : Text} {e : Expr} {xs : List Text} (he : e.Plain) (hs : e.AtStart)
    (hn : e.Nameless) (t : Text) :
    Matcher.match? ⟨⟨source, e⟩, Lowers.slotsFrom xs 1⟩ t =
      (e.ends (startOf t)).head?.map (resultAt t xs) := by
  have hbinders : Matcher.binders ⟨⟨source, e⟩, Lowers.slotsFrom xs 1⟩ = xs.zipIdx 1 := by
    have hnames : (Regex.mk source e).groupNames = [] := hn.groupNames_eq_nil
    rw [Matcher.binders, hnames, Lowers.slotsFrom, List.map_nil, List.nil_append, List.map_map]
    exact List.map_id _
  rw [Matcher.match?, Regex.captures, search_eq_ends he hs, hbinders, Option.map_map,
    Option.map_map]
  refine congrArg (Option.map · _) (funext fun y => ?_)
  refine congrArg (PatternMatch.mk _) ?_
  dsimp only
  rw [bindGroups_eq]
  refine congrArg (List.foldl _ _) (List.filterMap_congr fun x hx => ?_)
  have := List.le_snd_of_mem_zipIdx hx
  exact congrArg (Option.map _) (group?_eq (by omega) rfl rfl)

theorem Arrives.result_eq {t : Text} {xs : List Text} {y : Point} {w : Way}
    (h : Arrives t 0 xs (startOf t) y w) : resultAt t xs y = w.result := by
  obtain ⟨saves, hy, -, hb⟩ := h.notes
  have ht : t = w.taken ++ w.rest := h.front
  have hp : y.1.pos = w.taken.length := h.pos.trans (Nat.zero_add _)
  have hs : y.2 = saves := hy.trans (List.append_nil saves)
  rw [resultAt, Way.result, hs, hb, hp]
  exact congrArg (fun u => PatternMatch.mk (Text.utf8Length u) _) (ht ▸ List.take_left)

/-! ## Trees -/

namespace Node

variable {n : Node} {cs : Bool}

/-- The matches of what is written have, in their order, the results of the ways. -/
theorem map_asWritten_ends (hw : n.WellFormed) (hr : n.rawFree) (t : Text) :
    ((n.asWritten (!cs)).ends (startOf t)).map (resultAt t n.variableNames) =
      (n.ways cs t).map Way.result := by
  have h : List.Forall₂ (Arrives t 0 n.variableNames (startOf t))
      ((n.written (!cs) 0).ends (startOf t)) (n.ways cs t) :=
    (lowers (p := fun _ => true) n hw hr).arrives rfl 0
  rw [asWritten, ends_atStart, ← List.forall₂_eq_eq_eq, List.forall₂_map_left_iff,
    List.forall₂_map_right_iff]
  exact h.imp fun _ _ h => h.result_eq

theorem asWritten_plain (hw : n.WellFormed) (hr : n.rawFree) : (n.asWritten (!cs)).Plain :=
  ⟨trivial, (lowers (p := fun _ => true) n hw hr).written_plain 0⟩

theorem asWritten_nameless (hw : n.WellFormed) (hr : n.rawFree) :
    (n.asWritten (!cs)).Nameless :=
  (lowers (p := fun _ => true) n hw hr).written_nameless 0

theorem compiled_plain (hw : n.WellFormed) (hr : n.rawFree) : (n.compiled (!cs)).Plain :=
  (of_compiled structural_plain.holding (fun _ _ _ h => h) structural_plain.holding_splits hw hr).mpr
    (asWritten_plain hw hr)

theorem compiled_nameless (hw : n.WellFormed) (hr : n.rawFree) : (n.compiled (!cs)).Nameless :=
  (of_compiled structural_nameless.holding nameless_groups structural_nameless.holding_splits
    hw hr).mpr (asWritten_nameless hw hr)

theorem match?_compiled (hw : n.WellFormed) (hr : n.rawFree) (source t : Text) :
    Matcher.match? ⟨⟨source, n.compiled (!cs)⟩, Lowers.slotsFrom n.variableNames 1⟩ t =
      ((n.compiled (!cs)).ends (startOf t)).head?.map (resultAt t n.variableNames) :=
  match?_eq (compiled_plain hw hr) (Expr.atStart_sequence _) (compiled_nameless hw hr) t

/-- What is compiled has the matches that are written, in whatever order. -/
theorem mem_compiled_ends (hw : n.WellFormed) (hr : n.rawFree) {x y : Point} :
    y ∈ (n.compiled (!cs)).ends x ↔ y ∈ (n.asWritten (!cs)).ends x := by
  have h : (n.compiled (!cs)).Matches = (n.asWritten (!cs)).Matches :=
    of_compiled matching matching_groups matching_splits hw hr
  rw [mem_ends (compiled_plain hw hr), mem_ends (asWritten_plain hw hr), h]

theorem exists_way (hw : n.WellFormed) (hr : n.rawFree) {t : Text} {y : Point}
    (hy : y ∈ (n.compiled (!cs)).ends (startOf t)) :
    ∃ w ∈ n.ways cs t, w.result = resultAt t n.variableNames y := by
  have h := List.mem_map_of_mem (f := resultAt t n.variableNames) ((mem_compiled_ends hw hr).1 hy)
  rw [map_asWritten_ends hw hr] at h
  exact List.mem_map.1 h

/-- Where only text is shared, what is compiled finds first what is written first. -/
theorem head?_compiled_ends (hw : n.WellFormed) (hr : n.rawFree)
    (hs : n.shares Expr.isFixed (!cs) 0) (x : Point) :
    ((n.compiled (!cs)).ends x).head? = ((n.asWritten (!cs)).ends x).head? := by
  have h : (n.compiled (!cs)).first? = (n.asWritten (!cs)).first? :=
    (lowers n hw hr).of_anchored (ordered Point) (ordered_groups Point) (fun _ => ordered_splits) hs
  have hhead : ∀ {e : Expr}, e.Plain → (e.ends x).head? = e.first? x some := by
    intro e he
    rw [first?_eq he]
    cases e.ends x <;> rfl
  rw [hhead (compiled_plain hw hr), hhead (asWritten_plain hw hr), h]

/-- What is compiled is found in one of the ways. -/
theorem exists_way_of_match? (hw : n.WellFormed) (hr : n.rawFree) {source t : Text}
    {r : PatternMatch}
    (h : Matcher.match? ⟨⟨source, n.compiled (!cs)⟩, Lowers.slotsFrom n.variableNames 1⟩ t = some r) :
    ∃ w ∈ n.ways cs t, w.result = r := by
  rw [match?_compiled hw hr] at h
  obtain ⟨y, hy, rfl⟩ := Option.map_eq_some_iff.1 h
  exact exists_way hw hr (List.mem_of_mem_head? hy)

/-- Where only text is shared, it is found in the first of them. -/
theorem compiled_agrees (hw : n.WellFormed) (hr : n.rawFree)
    (hs : n.shares Expr.isFixed (!cs) 0) (source : Text) :
    Matcher.Agrees ⟨⟨source, n.compiled (!cs)⟩, Lowers.slotsFrom n.variableNames 1⟩
      (n.ways cs) := by
  intro t
  rw [match?_compiled hw hr, head?_compiled_ends hw hr hs, ← List.head?_map, ← List.head?_map,
    map_asWritten_ends hw hr]

end Node

section
variable {pattern : Text} {root : Node} {cs : Bool}

theorem compilePattern_of_parse (hp : parse pattern = .ok root) :
    compilePattern pattern { caseSensitive := cs } = compile root { caseSensitive := cs } := by
  rw [compilePattern, hp]
  dsimp only [bind, Except.bind]

/-- What a pattern without raw regular expressions compiles to, if it compiles. -/
theorem eq_of_compilePattern (hp : parse pattern = .ok root) (hr : root.rawFree) {m : Matcher}
    (hm : compilePattern pattern { caseSensitive := cs } = .ok m) :
    m = ⟨⟨Matcher.anchored (root.source { caseSensitive := cs }), root.compiled (!cs)⟩,
      Lowers.slotsFrom root.variableNames 1⟩ := by
  rw [compilePattern_of_parse hp] at hm
  rcases @compile_cases root cs (parse_wellFormed hp) hr with ⟨_, -, -, he⟩ | h
  · rw [he] at hm
    cases hm
  · exact Except.ok.inj (hm.symm.trans h)

end

end Pattern

end PathRouting
