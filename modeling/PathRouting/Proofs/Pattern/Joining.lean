/-
  Matches of joined patterns.

  * `Joined.items`: what joined trees are read as is what the first one is read as, and
    then what the second one is read as behind the groups of the first.
  * `Lowers.items_shifted`: behind other groups a tree is read alike, with its groups
    numbered from further on.
  * `Arrives.ahead`: a way in what a match leaves of a text is a way in the text.
  * `Joined.head?_ends`: behind the first match of the first tree, the first match of the
    second one in what is left is the first match of the joined tree.
-/
import PathRouting.Proofs.Pattern.Agreement
import PathRouting.Proofs.Pattern.Concatenation
import PathRouting.Proofs.Regex.Renumbering

namespace PathRouting.Pattern

open Regex

/-! ## Positions do not matter -/

namespace Node

mutual

theorem variableNames_bare : ∀ n : Node, n.bare.variableNames = n.variableNames
  | .path _ _ ns | .segment _ ns | .alternation _ ns => namesOf_bare ns
  | .variable _ name (some c) => congrArg (name :: ·) (variableNames_bare c)
  | .variable _ _ none | .wildcard .. | .regexp .. | .text .. => rfl

theorem namesOf_bare : ∀ ns : List Node, namesOf (bareAll ns) = namesOf ns
  | [] => rfl
  | n :: ns => congrArg₂ _ (variableNames_bare n) (namesOf_bare ns)

end

mutual

theorem rawFree_bare : ∀ n : Node, n.bare.rawFree = n.rawFree
  | .path _ _ ns | .segment _ ns | .alternation _ ns => allRawFree_bare ns
  | .variable _ _ (some c) => rawFree_bare c
  | .variable _ _ none | .wildcard .. | .regexp .. | .text .. => rfl

theorem allRawFree_bare : ∀ ns : List Node, allRawFree (bareAll ns) = allRawFree ns
  | [] => rfl
  | n :: ns => congrArg₂ _ (rawFree_bare n) (allRawFree_bare ns)

end

mutual

theorem items_bare (ci : Bool) : ∀ (n : Node) (g : ℕ), n.bare.items ci g = n.items ci g
  | .path _ absolute ns, g =>
    congrArg ((if absolute then [charExpr ci '/'] else []) ++ ·)
      (itemsOf_bare ci [charExpr ci '/'] ns g)
  | .segment _ ns, g => itemsOf_bare ci [] ns g
  | .alternation _ ns, g => congrArg (fun es => [Expr.ofAlternatives es]) (alternativesOf_bare ci ns g)
  | .variable _ _ (some c), g =>
    congrArg (fun es => [Expr.group (g + 1) none (.sequence es)]) (items_bare ci c (g + 1))
  | .wildcard _ greedy, _ => by cases greedy <;> rfl
  | .variable _ _ none, _ | .regexp .., _ | .text .., _ => rfl

theorem itemsOf_bare (ci : Bool) (between : List Expr) : ∀ (ns : List Node) (g : ℕ),
    itemsOf ci between g (bareAll ns) = itemsOf ci between g ns
  | [], _ => rfl
  | [n], g => items_bare ci n g
  | n :: m :: ns, g => by
    have h := itemsOf_bare ci between (m :: ns) (g + n.variableNames.length)
    simp only [bareAll] at h ⊢
    rw [itemsOf, itemsOf, items_bare ci n, variableNames_bare n, h]

theorem alternativesOf_bare (ci : Bool) : ∀ (ns : List Node) (g : ℕ),
    alternativesOf ci g (bareAll ns) = alternativesOf ci g ns
  | [], _ => rfl
  | [n], g => congrArg (fun es => [Expr.sequence es]) (items_bare ci n g)
  | n :: m :: ns, g => by
    have h := alternativesOf_bare ci (m :: ns) (g + n.variableNames.length)
    simp only [bareAll] at h ⊢
    rw [alternativesOf, alternativesOf, items_bare ci n, variableNames_bare n, h]

end

theorem namesOf_append (ns ms : List Node) : namesOf (ns ++ ms) = namesOf ns ++ namesOf ms := by
  induction ns with
  | nil => rfl
  | cons n ns ih => simp only [List.cons_append, namesOf, ih, List.append_assoc]

theorem allRawFree_append (ns ms : List Node) :
    allRawFree (ns ++ ms) = (allRawFree ns && allRawFree ms) := by
  induction ns with
  | nil => rfl
  | cons n ns ih => simp only [List.cons_append, allRawFree, ih, Bool.and_assoc]

theorem itemsOf_append (ci : Bool) (between : List Expr) {ns ms : List Node} (hns : ns ≠ [])
    (hms : ms ≠ []) (g : ℕ) : itemsOf ci between g (ns ++ ms) =
      itemsOf ci between g ns ++ between ++ itemsOf ci between (g + (namesOf ns).length) ms := by
  induction ns generalizing g with
  | nil => exact absurd rfl hns
  | cons n ns ih =>
    match ns, ms with
    | [], m :: ms => simp only [List.cons_append, List.nil_append, itemsOf, namesOf, List.append_nil]
    | n' :: ns, m :: ms =>
      have h := ih (by simp) (g + n.variableNames.length)
      simp only [List.cons_append] at h ⊢
      rw [itemsOf, h, itemsOf]
      simp only [namesOf, List.length_append, List.append_assoc, Nat.add_assoc]

end Node

namespace Joined

variable {a b c : Node}

theorem variableNames (h : Joined a.bare b.bare c.bare) :
    c.variableNames = a.variableNames ++ b.variableNames := by
  rw [← a.variableNames_bare, ← b.variableNames_bare, ← c.variableNames_bare]
  generalize a.bare = a', b.bare = b', c.bare = c' at h
  cases h with
  | empty => rfl
  | segments => exact Node.namesOf_append _ _

theorem rawFree (h : Joined a.bare b.bare c.bare) : c.rawFree = (a.rawFree && b.rawFree) := by
  rw [← a.rawFree_bare, ← b.rawFree_bare, ← c.rawFree_bare]
  generalize a.bare = a', b.bare = b', c.bare = c' at h
  cases h with
  | empty => rfl
  | segments => exact Node.allRawFree_append _ _

/-- **Joined trees** are read one behind the other. -/
theorem items (h : Joined a.bare b.bare c.bare) (ci : Bool) (g : ℕ) :
    c.items ci g = a.items ci g ++ b.items ci (g + a.variableNames.length) := by
  rw [← a.items_bare, ← b.items_bare, ← c.items_bare, ← a.variableNames_bare]
  generalize a.bare = a', b.bare = b', c.bare = c' at h
  cases h with
  | empty => rfl
  | @segments absolute ns ms hns hms =>
    simp only [Node.items, Node.variableNames, Node.itemsOf_append ci _ hns hms, if_true,
      List.append_assoc]

end Joined

/-! ## Behind other groups -/

namespace Lowers

variable {cs : Bool} {p : Expr → Bool} {all : Bool} {s : Source} {xs : List Text}
  {es : ℕ → List Expr} {q : ℕ → Bool} {w : ℕ → Expr} {f : Ways}

/-- Behind other groups a source is read alike. -/
theorem items_shifted (h : Lowers cs p all s xs es q w f) (n g : ℕ) :
    es (g + n) = (es g).map (Expr.shifted n) := by
  induction h generalizing g with
  | nil => rfl
  | char c =>
    exact congrArg (fun e => [e]) (Expr.shifted_ofSet n _).symm
  | run => rfl
  | append _ _ iha ihb =>
    dsimp only
    rw [iha, Nat.add_right_comm, ihb, List.map_append]
  | capture _ _ ih =>
    dsimp only
    rw [Nat.add_right_comm, ih, Expr.sequence_shifted]
    rfl
  | single _ ih =>
    dsimp only
    rw [ih, Expr.sequence_shifted]
    rfl
  | cons _ _ iha ihb =>
    dsimp only
    rw [iha, Nat.add_right_comm, ihb, Expr.sequence_shifted]
    rfl
  | group _ ih =>
    dsimp only
    rw [ih, Expr.ofAlternatives_shifted]
    rfl

theorem written_lookless (h : Lowers cs p all s xs es q w f) (g : ℕ) : (w g).Lookless := by
  induction h generalizing g with
  | nil | run => trivial
  | char c => exact (Expr.structural_lookless.holding.of_ofSet _).mpr trivial
  | append _ _ ha hb | cons _ _ ha hb => exact ⟨ha g, hb _⟩
  | capture _ _ ih => exact ih (g + 1)
  | single _ ih | group _ ih => exact ih g

end Lowers

/-! ## Ways further on in a text -/

section
variable {t : Text} {saves : Saves} {xs : List Text} {d n k : ℕ}

theorem lookup_shifted (saves : Saves) (k n d : ℕ) :
    (saves.map fun s => (s.1 + 2 * n, s.2 + d)).lookup (k + 2 * n) =
      (saves.lookup k).map (· + d) := by
  induction saves with
  | nil => rfl
  | cons s saves ih =>
    rw [List.map_cons, List.lookup_cons, List.lookup_cons, ih]
    have hbeq : (k + 2 * n == s.1 + 2 * n) = (k == s.1) := by
      rw [Bool.eq_iff_iff, beq_iff_eq, beq_iff_eq, Nat.add_right_cancel_iff]
    rw [hbeq]
    cases k == s.1 <;> rfl

theorem slice_drop (t : Text) (d start stop : ℕ) :
    Text.slice (t.drop d) start stop = t.slice (start + d) (stop + d) := by
  simp only [Text.slice, List.take_drop, List.drop_drop, Nat.add_comm d]

theorem group?_shifted (hk : k ≠ 0) :
    (Captures.mk t 0 0 (saves.map fun s => (s.1 + 2 * n, s.2 + d))).group? (k + n) =
      (Captures.mk (t.drop d) 0 0 saves).group? k := by
  have h1 : 2 * (k + n) = 2 * k + 2 * n := Nat.mul_add 2 k n
  have h2 : 2 * k + 2 * n + 1 = 2 * k + 1 + 2 * n := Nat.add_right_comm _ _ _
  simp only [Captures.group?, Captures.span?, if_neg hk, if_neg (show k + n ≠ 0 by omega), h1, h2,
    lookup_shifted]
  cases saves.lookup (2 * k) with
  | none => rfl
  | some start =>
    cases saves.lookup (2 * k + 1) with
    | none => rfl
    | some stop => simp only [Option.map_some, slice_drop]

theorem boundBy_shifted (xs : List Text) {first : ℕ} (hf : first ≠ 0) :
    boundBy t (saves.map fun s => (s.1 + 2 * n, s.2 + d)) xs (first + n) =
      boundBy (t.drop d) saves xs first := by
  induction xs generalizing first with
  | nil => rfl
  | cons x xs ih =>
    have htail := ih (Nat.succ_ne_zero first)
    rw [Nat.succ_add] at htail
    simp only [boundBy, List.zipIdx_cons, List.filterMap_cons, group?_shifted hf] at htail ⊢
    rw [htail]

end

/-- A way in what a match leaves of a text is a way in the text. -/
theorem Arrives.ahead {t : Text} {ys : List Text} {y z z' : Point} {w : Way} {n : ℕ}
    (hy : y.1.rest = t.drop y.1.pos) (h : Arrives y.1.rest 0 ys (startOf y.1.rest) z w)
    (hz : Ahead y.1.pos n y.2 z z') : Arrives t n ys y z' w := by
  obtain ⟨saves, hsaves, hwithin, hbound⟩ := h.notes
  refine ⟨h.front, hz.rest.trans h.rest, ?_, saves.map fun s => (s.1 + 2 * n, s.2 + y.1.pos), ?_,
    ?_, ?_⟩
  · rw [hz.pos, h.pos, Nat.add_comm]
    exact congrArg (y.1.pos + ·) (Nat.zero_add _)
  · rw [hz.saves, hsaves]
    exact congrArg (List.map _ · ++ y.2) (List.append_nil saves)
  · intro s hs
    obtain ⟨s', hs', rfl⟩ := List.mem_map.1 hs
    have := hwithin s' hs'
    dsimp only
    omega
  · have hshift : boundBy t (saves.map fun s => (s.1 + 2 * n, s.2 + y.1.pos)) ys (1 + n) =
        boundBy (t.drop y.1.pos) saves ys 1 := boundBy_shifted ys (Nat.succ_ne_zero 0)
    rw [← hbound, hy, ← hshift, Nat.add_comm n]

/-! ## The first match -/

theorem head?_ends {e : Expr} (he : e.Plain) (x : Point) : (e.ends x).head? = e.first? x some := by
  rw [first?_eq he]
  cases e.ends x <;> rfl

/-- What corresponds to a member of a list. -/
theorem exists_of_forall₂ {α β : Type} {r : α → β → Prop} {as : List α} {bs : List β}
    (h : List.Forall₂ r as bs) {a : α} (ha : a ∈ as) : ∃ b ∈ bs, r a b := by
  induction h with
  | nil => cases ha
  | cons hr _ ih =>
    rcases List.mem_cons.1 ha with rfl | ha
    · exact ⟨_, List.mem_cons_self .., hr⟩
    · obtain ⟨b, hb, hr⟩ := ih ha
      exact ⟨b, List.mem_cons_of_mem _ hb, hr⟩

/-- What corresponds to the head of a list. -/
theorem head?_of_forall₂ {α β : Type} {r : α → β → Prop} {as : List α} {bs : List β}
    (h : List.Forall₂ r as bs) {a : α} (ha : as.head? = some a) :
    ∃ b, bs.head? = some b ∧ r a b := by
  cases h with
  | nil => cases ha
  | cons hr _ =>
    cases ha
    exact ⟨_, rfl, hr⟩

/-- What comes behind the first match is tried first. -/
theorem first?_sequence_append {as bs : List Expr} (ha : (Expr.sequence as).Plain) {x y z : Point}
    (hy : (Expr.sequence as).first? x some = some y)
    (hz : (Expr.sequence bs).first? y some = some z) :
    (Expr.sequence (as ++ bs)).first? x some = some z := by
  have happend : (Expr.sequence (as ++ bs)).first? x some =
      (Expr.sequence as).first? x fun y => (Expr.sequence bs).first? y some := by
    have h := (ordered Point).of_sequence (as ++ bs)
    rw [(ordered Point).prod_append, ← (ordered Point).of_sequence,
      ← (ordered Point).of_sequence] at h
    exact congrFun (congrFun h x) some
  rw [← head?_ends ha] at hy
  rw [happend, first?_eq ha]
  cases hl : (Expr.sequence as).ends x with
  | nil => rw [hl] at hy; cases hy
  | cons y' l =>
    rw [hl] at hy
    cases hy
    rw [List.findSome?_cons, hz]

namespace Node

variable {n : Node} {cs : Bool}

theorem sequence_items_plain (hw : n.WellFormed) (hr : n.rawFree) (g : ℕ) :
    (Expr.sequence (n.items (!cs) g)).Plain := by
  have hl : Lowers cs (fun _ => true) _ _ _ _ _ _ _ := lowers n hw hr
  exact (structural_plain.holding.of_sequence _).mpr ((hl.of_written structural_plain.holding
    (fun _ _ _ h => h) (fun e _ => structural_plain.holding_splits e.Plain)
      (hl.shares_true g)).mpr (hl.written_plain g))

theorem sequence_items_lookless (hw : n.WellFormed) (hr : n.rawFree) (g : ℕ) :
    (Expr.sequence (n.items (!cs) g)).Lookless := by
  have hl : Lowers cs (fun _ => true) _ _ _ _ _ _ _ := lowers n hw hr
  exact (Expr.structural_lookless.holding.of_sequence _).mpr
    ((hl.of_written Expr.structural_lookless.holding (fun _ _ _ h => h)
      (fun e _ => Expr.structural_lookless.holding_splits e.Lookless)
        (hl.shares_true g)).mpr (hl.written_lookless g))

/-- Behind other groups a tree is read alike. -/
theorem sequence_items_shifted (hw : n.WellFormed) (hr : n.rawFree) (g : ℕ) :
    Expr.sequence (n.items (!cs) g) = (Expr.sequence (n.items (!cs) 0)).shifted g := by
  have hl : Lowers cs (fun _ => true) _ _ _ _ _ _ _ := lowers n hw hr
  have hitems := hl.items_shifted g 0
  rw [Nat.zero_add] at hitems
  rw [hitems, Expr.sequence_shifted]

/-- At the start of a text the `^` is passed. -/
theorem head?_compiled (hw : n.WellFormed) (hr : n.rawFree) (t : Text) :
    ((n.compiled (!cs)).ends (startOf t)).head? =
      (Expr.sequence (n.items (!cs) 0)).first? (startOf t) some := by
  rw [head?_ends (compiled_plain hw hr)]
  exact congrFun (congrFun ((ordered Point).of_sequence
    [.look .textStart, .sequence (n.items (!cs) 0)]) (startOf t)) some

/-- Each match of what is compiled arrives where a way ends. -/
theorem exists_arrives (hw : n.WellFormed) (hr : n.rawFree) {t : Text} {y : Point}
    (hy : ((n.compiled (!cs)).ends (startOf t)).head? = some y) :
    ∃ w, Arrives t 0 n.variableNames (startOf t) y w := by
  have hl : Lowers cs (fun _ => true) _ _ _ _ _ _ _ := lowers n hw hr
  have h := hl.arrives (x := startOf t) rfl 0
  have hmem := (mem_compiled_ends hw hr).1 (List.mem_of_mem_head? hy)
  rw [asWritten, ends_atStart] at hmem
  obtain ⟨w, -, hw⟩ := exists_of_forall₂ h hmem
  exact ⟨w, hw⟩

end Node

/-- **Joined patterns.** Behind the first match of the first tree, the first match of the
    second one in what is left is the first match of the joined tree. -/
theorem Joined.head?_ends {a b c : Node} (h : Joined a.bare b.bare c.bare) {cs : Bool}
    (ha : a.WellFormed) (hb : b.WellFormed) (hc : c.WellFormed) (hra : a.rawFree)
    (hrb : b.rawFree) {t : Text} {y z : Point}
    (hy : ((a.compiled (!cs)).ends (startOf t)).head? = some y)
    (hz : ((b.compiled (!cs)).ends (startOf y.1.rest)).head? = some z) :
    ∃ v w z', Arrives t 0 a.variableNames (startOf t) y v ∧
      Arrives y.1.rest 0 b.variableNames (startOf y.1.rest) z w ∧
      ((c.compiled (!cs)).ends (startOf t)).head? = some z' ∧
      Arrives t 0 c.variableNames (startOf t) z' ⟨v.taken ++ w.taken, w.rest, v.bound ++ w.bound⟩ := by
  have hrc : c.rawFree := by rw [h.rawFree, hra, hrb]; rfl
  obtain ⟨v, hv⟩ := Node.exists_arrives ha hra hy
  obtain ⟨w, hw⟩ := Node.exists_arrives hb hrb hz
  -- the second tree behind the first match
  have hshift := @Node.sequence_items_shifted b cs hb hrb a.variableNames.length
  have hlookless : (Expr.sequence (b.items (!cs) 0)).Lookless :=
    Node.sequence_items_lookless hb hrb 0
  have hstart : Ahead y.1.pos a.variableNames.length y.2 (startOf y.1.rest) y :=
    ⟨(Nat.zero_add _).symm, rfl, rfl⟩
  have hahead := ends_shifted hlookless hstart
  rw [← hshift] at hahead
  rw [Node.head?_compiled hb hrb, ← Pattern.head?_ends (Node.sequence_items_plain hb hrb 0)] at hz
  obtain ⟨z', hz', hzz'⟩ := head?_of_forall₂ hahead hz
  have hsecond := hw.ahead (hv.drop rfl) hzz'
  refine ⟨v, w, z', hv, hw, ?_, ?_⟩
  · rw [Node.head?_compiled ha hra] at hy
    rw [Pattern.head?_ends (Node.sequence_items_plain hb hrb _)] at hz'
    rw [Node.head?_compiled hc hrc, h.items, Nat.zero_add]
    exact first?_sequence_append (Node.sequence_items_plain ha hra 0) hy hz'
  · rw [h.variableNames]
    exact hv.andThen (by rwa [Nat.zero_add])

end PathRouting.Pattern
