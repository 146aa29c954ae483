/-
  The cells of a pattern as a tree.

  * `Arena.IsTree`: the links of the cells are those of a single tree from the first cell.
  * `Arena.Admits`: below a node there are only such as may stand there.
  * `parse_cells`: the cells of a pattern are the tree of the pattern, linked and shaped so.
-/
import PathRouting.Proofs.Pattern.Kinds
import PathRouting.Proofs.Pattern.Lockstep

namespace PathRouting.Pattern

open Numbered (nodes FitAll cellsBelow)

namespace Arena

/-- The cells are linked as a single tree: the first one is a path with nothing above it,
    every other one is below just one, once, which is the one that it names as above it, and a
    walk from the first one visits each of them once. -/
structure IsTree (a : Arena) : Prop where
  root : a.kind? 0 = some .path ∧ a.parent? 0 = none
  once : ∀ i, (a.flatMap fun c => c.entry.below).count i = if 0 < i ∧ i < a.length then 1 else 0
  parent : ∀ i j, a.parent? j = some i ↔ ∃ e, a.entryOf? i = some e ∧ j ∈ e.below
  walk : a.walk.Perm (List.range a.length)

/-- Below a node there are only such as may stand there. -/
def Admits (a : Arena) : Entry → Prop
  | .path ids absolute =>
    (∀ i ∈ ids, a.kind? i = some .segment) ∧ (absolute = true → ids ≠ []) ∧
      (absolute = false → ∀ i ∈ ids.head?, ∃ e, a.entryOf? i = some e ∧ e.below ≠ [])
  | .segment ids => ∀ i ∈ ids, ∃ kind, a.kind? i = some kind ∧ kind ≠ .path ∧ kind ≠ .segment
  | .alternation ids => ids ≠ [] ∧ ∀ i ∈ ids, a.kind? i = some .path
  | .variable _ c =>
    ∀ i ∈ c, ∃ kind, a.kind? i = some kind ∧ kind ≠ .path ∧ kind ≠ .segment ∧ kind ≠ .variable
  | .wildcard _ | .regexp _ | .text _ => True

/-! ## Links -/

namespace Stores

variable {a : Arena} {l : List (ℕ × Cell)} {t : Numbered}

theorem getElem?_iff (h : a.Stores l) {i : ℕ} {c : Cell} : a[i]? = some c ↔ (i, c) ∈ l := by
  refine ⟨fun hc => ?_, h.holds (i, c)⟩
  obtain ⟨c', hc'⟩ := h.mem_iff.2 (List.getElem?_eq_some_iff.1 hc).1
  have hsame := h.holds _ hc'
  rw [hc] at hsame
  exact Option.some.inj hsame ▸ hc'

/-- The given cells are all there are, in some order. -/
theorem perm_cells (h : a.Stores l) : (l.map Prod.snd).Perm a := by
  have hleft : (l.map Prod.fst).filterMap (fun i => a[i]?) = l.map Prod.snd := by
    rw [List.filterMap_map, ← List.filterMap_eq_map]
    exact List.filterMap_congr fun x hx => h.holds x hx
  have hright : (List.range a.length).filterMap (fun i => a[i]?) = a := by
    clear h hleft
    induction a with
    | nil => rfl
    | cons c a ih =>
      rw [List.length_cons, List.range_succ_eq_map, List.filterMap_cons, List.filterMap_map]
      exact congrArg (c :: ·) ih
  rw [← hleft]
  exact (h.all.filterMap _).trans (.of_eq hright)

theorem parent?_iff (h : a.Stores l) {i j : ℕ} :
    a.parent? j = some i ↔ (some i, j) ∈ l.map upward := by
  rw [parent?, Option.bind_eq_some_iff, List.mem_map]
  constructor
  · rintro ⟨c, hc, hp⟩
    exact ⟨(j, c), h.getElem?_iff.1 hc, Prod.ext hp rfl⟩
  · rintro ⟨⟨j', c⟩, hmem, hlink⟩
    obtain ⟨hp, rfl⟩ := Prod.ext_iff.1 hlink
    exact ⟨c, h.getElem?_iff.2 hmem, hp⟩

theorem below_iff (h : a.Stores l) {i j : ℕ} :
    (∃ e, a.entryOf? i = some e ∧ j ∈ e.below) ↔ (some i, j) ∈ l.flatMap downward := by
  rw [List.mem_flatMap]
  constructor
  · rintro ⟨e, he, hj⟩
    obtain ⟨c, hc, rfl⟩ := Option.map_eq_some_iff.1 he
    exact ⟨(i, c), h.getElem?_iff.1 hc, List.mem_map.2 ⟨j, hj, rfl⟩⟩
  · rintro ⟨⟨i', c⟩, hmem, hlink⟩
    obtain ⟨j', hj, heq⟩ := List.mem_map.1 hlink
    cases heq
    exact ⟨c.entry, by simp [entryOf?, h.getElem?_iff.2 hmem], hj⟩

/-- The cells of a tree are linked as a tree. -/
theorem isTree (h : a.Stores (t.cells none)) (ht : t.Fits) (hi : t.id = 0)
    (hpath : t.node.kind = .path) : a.IsTree := by
  have hlinks := t.upward_perm none ht
  refine ⟨?_, fun i => ?_, fun i j => ?_, ?_⟩
  · obtain ⟨i, form, span, ts⟩ := t
    obtain rfl : i = 0 := hi
    have hroot := h.holds (0, ⟨form.entry (ts.map Numbered.id), none, span⟩)
      (by simp [Numbered.cells])
    have hkind : form.kind = .path := by simpa [Numbered.node] using hpath
    simp [kind?, entryOf?, parent?, hroot, hkind]
  · have hbelow : (a.flatMap fun c => c.entry.below).Perm
        ((t.cells none).flatMap fun x => x.2.entry.below) := by
      have := h.perm_cells.symm.flatMap_right fun c => c.entry.below
      rwa [List.flatMap_map] at this
    have hsnd : ((t.cells none).flatMap downward).map Prod.snd =
        (t.cells none).flatMap fun x => x.2.entry.below := by
      simp [List.map_flatMap, downward, Function.comp_def]
    -- The numbers of all nodes are 0 and those of the nodes below others.
    have hall : (List.range a.length).Perm (0 :: a.flatMap fun c => c.entry.below) := by
      have hids := hlinks.map Prod.snd
      rw [List.map_map, List.map_cons, hsnd, hi] at hids
      exact (h.all.symm.trans hids).trans (hbelow.symm.cons 0)
    have hcount := hall.count_eq i
    rw [List.nodup_range.count, List.count_cons] at hcount
    simp only [List.mem_range, beq_iff_eq] at hcount
    split_ifs at hcount ⊢ <;> omega
  · rw [h.parent?_iff, h.below_iff, hlinks.mem_iff, List.mem_cons]
    simp
  · rw [h.walk_eq ht hi]
    exact h.all

end Stores

end Arena

/-! ## Sizes and shapes -/

theorem Node.size_eq (n : Node) : n.size = 1 + Node.sizes n.children := by
  cases n with
  | path | segment | alternation | wildcard | regexp | text => rfl
  | «variable» span name c => cases c <;> rfl

/-- A walk that enters every node goes on with those below. -/
theorem Node.walkFrom_all (n : Node) (depth : ℕ) (above : Option Node) :
    n.walkFrom (fun _ => true) depth above =
      ⟨depth, n, above⟩ :: Node.walkAll (fun _ => true) (depth + 1) n n.children := by
  cases n with
  | path | segment | alternation | wildcard | regexp | text => rfl
  | «variable» span name c =>
    cases c with
    | none => rfl
    | some c => simp [walkFrom, walkAll, children]

theorem Node.Shaped.children {n : Node} (h : n.Shaped) : Node.AllShaped n.children := by
  cases n with
  | path => exact h.2.2.2
  | segment => exact h.2
  | alternation => exact h.2.2
  | «variable» span name c =>
    cases c with
    | none => trivial
    | some c => exact ⟨h.2, trivial⟩
  | wildcard | regexp | text => trivial

theorem Form.children_node {f : Form} {ids : List ℕ} {ns : List Node} (h : f.Admits ids)
    (hlength : ids.length = ns.length) (span : Span) : (f.node span ns).children = ns := by
  rw [Form.Admits] at h
  cases f with
  | path | segment | alternation => rfl
  | wildcard | regexp | text =>
    rw [← h] at hlength
    exact (List.length_eq_zero_iff.1 hlength.symm).symm
  | «variable» name =>
    match ids, ns with
    | [], [] => rfl
    | [_], [_] => rfl
    | _ :: _ :: _, _ => simp [Form.entry, Entry.below] at h

namespace Numbered

variable {a : Arena}

theorem children_node {i : ℕ} {form : Form} {span : Span} {ts : List Numbered}
    (ht : Fits ⟨i, form, span, ts⟩) : (node ⟨i, form, span, ts⟩).children = nodes ts :=
  Form.children_node ht.1 (by simp [nodes_eq]) span

mutual

/-- A tree has as many cells as nodes. -/
theorem length_cells : ∀ (t : Numbered) (parent : Option ℕ), t.Fits →
    (t.cells parent).length = t.node.size
  | ⟨i, form, span, ts⟩, parent, ht => by
    rw [Node.size_eq, children_node ht, cells, List.length_cons, length_cellsBelow ts i ht.2,
      Nat.add_comm]

theorem length_cellsBelow : ∀ (ts : List Numbered) (i : ℕ), FitAll ts →
    (cellsBelow i ts).length = Node.sizes (nodes ts)
  | [], _, _ => rfl
  | t :: ts, i, ⟨ht, hts⟩ => by
    rw [cellsBelow, List.length_append, length_cells t (some i) ht, length_cellsBelow ts i hts,
      nodes, Node.sizes]

end

mutual

/-- A walk of a tree meets nodes of the kinds of its cells, in the same order. -/
theorem kinds_walkFrom : ∀ (t : Numbered) (parent : Option ℕ) (depth : ℕ) (above : Option Node),
    t.Fits → (t.node.walkFrom (fun _ => true) depth above).map (·.node.kind) =
      (t.cells parent).map (·.2.entry.kind)
  | ⟨i, form, span, ts⟩, parent, depth, above, ht => by
    rw [Node.walkFrom_all, children_node ht, List.map_cons, kinds_walkAll ts i _ _ ht.2, cells,
      List.map_cons, Form.kind_entry, node, Form.kind_node]

theorem kinds_walkAll : ∀ (ts : List Numbered) (i depth : ℕ) (above : Node), FitAll ts →
    (Node.walkAll (fun _ => true) depth above (nodes ts)).map (·.node.kind) =
      (cellsBelow i ts).map (·.2.entry.kind)
  | [], _, _, _, _ => rfl
  | t :: ts, i, depth, above, ⟨ht, hts⟩ => by
    rw [nodes, Node.walkAll, List.map_append, kinds_walkFrom t (some i) _ _ ht,
      kinds_walkAll ts i _ _ hts, cellsBelow, List.map_append]

end

/-- The first cell of a tree says of which kind it is, and what is below. -/
theorem entryOf?_eq {t : Numbered} {parent : Option ℕ} (ht : t.Fits)
    (h : ∀ x ∈ t.cells parent, a[x.1]? = some x.2) :
    ∃ e, a.entryOf? t.id = some e ∧ e.kind = t.node.kind ∧
      (t.node.children ≠ [] → e.below ≠ []) := by
  obtain ⟨i, form, span, ts⟩ := t
  have hroot := h (i, ⟨form.entry (ts.map id), parent, span⟩) (by simp [cells])
  refine ⟨form.entry (ts.map id), by simp [Arena.entryOf?, Numbered.id, hroot], by simp [node], ?_⟩
  rw [children_node ht, nodes_eq, ht.1]
  simp

theorem entryOf?_eq_below {i : ℕ} {ts : List Numbered} (hts : FitAll ts)
    (h : ∀ x ∈ cellsBelow i ts, a[x.1]? = some x.2) : ∀ t ∈ ts, ∃ e, a.entryOf? t.id = some e ∧
      e.kind = t.node.kind ∧ (t.node.children ≠ [] → e.below ≠ []) := by
  induction ts with
  | nil => exact fun t ht => (nomatch ht)
  | cons t ts ih =>
    have hhead : ∀ x ∈ t.cells (some i), a[x.1]? = some x.2 :=
      fun x hx => h x (List.mem_append_left _ hx)
    exact List.forall_mem_cons.2 ⟨entryOf?_eq hts.1 hhead,
      ih hts.2 fun x hx => h x (List.mem_append_right _ hx)⟩

/-- The first cell of a tree of the right shape. -/
theorem admits_root {i : ℕ} {form : Form} {span : Span} {ts : List Numbered}
    (ht : Fits ⟨i, form, span, ts⟩) (hs : (node ⟨i, form, span, ts⟩).Shaped)
    (hts : ∀ t ∈ ts, ∃ e, a.entryOf? t.id = some e ∧ e.kind = t.node.kind ∧
      (t.node.children ≠ [] → e.below ≠ [])) : a.Admits (form.entry (ts.map id)) := by
  have hkind : ∀ t ∈ ts, a.kind? t.id = some t.node.kind := by
    intro t ht
    obtain ⟨e, he, hk, -⟩ := hts t ht
    rw [Arena.kind?, he, ← hk]
    rfl
  rw [node, nodes_eq] at hs
  cases form with
  | path absolute =>
    obtain ⟨hsegments, habsolute, hfirst, -⟩ := hs
    refine ⟨List.forall_mem_map.2 fun t ht => ?_, fun ha => ?_, fun ha j hj => ?_⟩
    · rw [hkind t ht, hsegments _ (List.mem_map_of_mem ht)]
    · simpa using habsolute ha
    · rw [List.head?_map] at hj hfirst
      obtain ⟨t, ht, rfl⟩ := Option.map_eq_some_iff.1 hj
      obtain ⟨e, he, -, hbelow⟩ := hts t (List.mem_of_mem_head? ht)
      exact ⟨e, he, hbelow (hfirst ha _ (Option.map_eq_some_iff.2 ⟨t, ht, rfl⟩))⟩
  | segment =>
    refine List.forall_mem_map.2 fun t ht => ⟨_, hkind t ht, ?_⟩
    exact hs.1 _ (List.mem_map_of_mem ht)
  | alternation =>
    obtain ⟨hne, hpaths, -⟩ := hs
    refine ⟨by simpa using hne, List.forall_mem_map.2 fun t ht => ?_⟩
    rw [hkind t ht, hpaths _ (List.mem_map_of_mem ht)]
  | «variable» name =>
    obtain _ | ⟨t, ts⟩ := ts
    · rintro j ⟨⟩
    · rintro j ⟨⟩
      have hunit : t.node.IsUnit := hs.1
      refine ⟨_, hkind t (by simp), hunit.isItem.1, hunit.isItem.2, fun hvariable => ?_⟩
      rw [Node.IsUnit, hvariable] at hunit
      simp at hunit
  | wildcard | regexp | text => trivial

mutual

/-- The cells of a tree of the right shape. -/
theorem admits_cells : ∀ (t : Numbered) (parent : Option ℕ), t.Fits → t.node.Shaped →
    (∀ x ∈ t.cells parent, a[x.1]? = some x.2) → ∀ x ∈ t.cells parent, a.Admits x.2.entry
  | ⟨i, form, span, ts⟩, parent, ht, hs, hx => by
    have hbelow : ∀ x ∈ cellsBelow i ts, a[x.1]? = some x.2 := fun x h => hx x (by simp [cells, h])
    have hshaped : Node.AllShaped (nodes ts) := children_node ht ▸ hs.children
    rw [cells]
    exact List.forall_mem_cons.2 ⟨admits_root ht hs (entryOf?_eq_below ht.2 hbelow),
      admits_cellsBelow ts i ht.2 hshaped hbelow⟩

theorem admits_cellsBelow : ∀ (ts : List Numbered) (i : ℕ), FitAll ts → Node.AllShaped (nodes ts) →
    (∀ x ∈ cellsBelow i ts, a[x.1]? = some x.2) → ∀ x ∈ cellsBelow i ts, a.Admits x.2.entry
  | [], _, _, _, _ => fun x h => (nomatch h)
  | t :: ts, i, ⟨ht, hts⟩, ⟨hs, hss⟩, hx => by
    have hhead := admits_cells t (some i) ht hs fun x h => hx x (by simp [cellsBelow, h])
    have htail := admits_cellsBelow ts i hts hss fun x h => hx x (by simp [cellsBelow, h])
    intro x h
    rcases List.mem_append.1 h with h | h
    · exact hhead x h
    · exact htail x h

end

end Numbered

/-- **Cells.** The cells of a pattern are the nodes of its tree, one each, and a walk of the
    one is a walk of the other. They are linked as a single tree from the first one, which is
    a path. Below a path there are segments, below
    a segment neither paths nor segments, below an alternation one path or more, and below a
    variable at most one node, none of these and no variable. An absolute path has a segment,
    and the first segment of a relative one is not empty. -/
theorem parse_cells {pattern : Text} {root : Node} (h : parse pattern = .ok root) :
    ∃ a, Arena.ofPattern pattern = .ok a ∧ a.tree? = some root ∧ a.length = root.size ∧
      a.walk.filterMap a.kind? = (root.walk fun _ => true).map (·.node.kind) ∧ a.IsTree ∧
        ∀ c ∈ a, a.Admits c.entry := by
  obtain ⟨hpath, hshaped⟩ := parse_shaped h
  have halike := ofPattern_alike pattern
  rw [h] at halike
  generalize Arena.ofPattern pattern = x at halike
  cases halike with
  | @ok a _ ht =>
    obtain ⟨t, hstores, hfits, hid, rfl⟩ := ht
    refine ⟨a, rfl, hstores.tree?_eq hfits hid, ?_, ?_, hstores.isTree hfits hid hpath,
      fun c hc => ?_⟩
    · rw [← hstores.length_eq, Numbered.length_cells t none hfits]
    · have hkinds : ∀ x ∈ t.cells none, a.kind? x.1 = some x.2.entry.kind := by
        intro x hx
        simp [Arena.kind?, Arena.entryOf?, hstores.holds x hx]
      rw [hstores.walk_eq hfits hid, Node.walk, Numbered.kinds_walkFrom t none _ _ hfits,
        List.filterMap_map, ← List.filterMap_eq_map]
      exact List.filterMap_congr hkinds
    · obtain ⟨x, hx, rfl⟩ := List.mem_map.1 (hstores.perm_cells.mem_iff.2 hc)
      exact Numbered.admits_cells t none hfits hshaped hstores.holds x hx

/-- A variable with an alternation as its constraint, and a text behind it. A segment that
    is opened for a node has a larger number than the node. -/
theorem parse_cells_constraint :
    ∃ root a, parse "/:a{x,y}z".toList = .ok root ∧
      Arena.ofPattern "/:a{x,y}z".toList = .ok a ∧ a.tree? = some root ∧ a.IsTree ∧
        a.map (fun c => (c.entry.below, c.parent)) =
          [([1], none), ([2, 10], some 0), ([3], some 1), ([4, 7], some 2), ([6], some 3),
            ([], some 6), ([5], some 4), ([9], some 3), ([], some 9), ([8], some 7),
            ([], some 1)] := by
  have hok : (parse "/:a{x,y}z".toList).isOk := by decide
  obtain ⟨root, hroot⟩ := exists_of_isOk hok
  obtain ⟨a, ha, htree, -, -, hlinked, -⟩ := parse_cells hroot
  have hcells : (Arena.ofPattern "/:a{x,y}z".toList).map (fun a =>
      a.map fun c => (c.entry.below, c.parent)) = .ok
        [([1], none), ([2, 10], some 0), ([3], some 1), ([4, 7], some 2), ([6], some 3),
          ([], some 6), ([5], some 4), ([9], some 3), ([], some 9), ([8], some 7),
          ([], some 1)] := by decide
  rw [ha] at hcells
  exact ⟨root, a, hroot, ha, htree, hlinked, Except.ok.inj hcells⟩

end PathRouting.Pattern
