/-
  Trees in cells.

  * A `Form` is what a node is without the nodes below it, and a `Numbered` is a tree whose
    nodes have numbers. `Numbered.node` forgets the numbers, `Numbered.cells` are its cells.
  * `Numbered.Fits`: no node has more nodes below it than its form has room for. Then the
    cells of the tree link to one another as the nodes do.
  * `Arena.Stores`: an arena consists of just the given cells. A cell may be added, and a
    cell may be changed.
  * `Stores.walk_eq`, `Stores.tree?_eq`: what is read back from the cells of a tree.
-/
import PathRouting.Pattern.Arena
import Mathlib.Tactic

namespace PathRouting.Pattern

/-! ## Numbered trees -/

/-- What a node is, without the nodes below it. -/
inductive Form where
  | path (absolute : Bool)
  | segment
  | alternation
  | variable (name : Text)
  | wildcard (greedy : Bool)
  | regexp (body : Text)
  | text (value : Text)

namespace Form

/-- The kind of a node. -/
def kind : Form → Node.Kind
  | .path _ => .path
  | .segment => .segment
  | .alternation => .alternation
  | .variable _ => .variable
  | .wildcard _ => .wildcard
  | .regexp _ => .regexp
  | .text _ => .text

/-- The entry of a node above those with the given numbers. -/
def entry (ids : List ℕ) : Form → Entry
  | .path absolute => .path ids absolute
  | .segment => .segment ids
  | .alternation => .alternation ids
  | .variable name => .variable name ids.head?
  | .wildcard greedy => .wildcard greedy
  | .regexp body => .regexp body
  | .text value => .text value

/-- The node above the given ones. -/
def node (span : Span) (ns : List Node) : Form → Node
  | .path absolute => .path span absolute ns
  | .segment => .segment span ns
  | .alternation => .alternation span ns
  | .variable name => .variable span name ns.head?
  | .wildcard greedy => .wildcard span greedy
  | .regexp body => .regexp span body
  | .text value => .text span value

@[simp] theorem kind_entry (f : Form) (ids : List ℕ) : (f.entry ids).kind = f.kind := by
  cases f <;> rfl

@[simp] theorem kind_node (f : Form) (span : Span) (ns : List Node) :
    (f.node span ns).kind = f.kind := by
  cases f <;> rfl

@[simp] theorem span_node (f : Form) (span : Span) (ns : List Node) :
    (f.node span ns).span = span := by
  cases f <;> rfl

/-- There is room for these nodes below one of the form. -/
def Admits (f : Form) (ids : List ℕ) : Prop :=
  (f.entry ids).below = ids

end Form

/-- A tree whose nodes have numbers. -/
inductive Numbered where
  | mk (id : ℕ) (form : Form) (span : Span) (below : List Numbered)

namespace Numbered

/-- The number of the root. -/
def id : Numbered → ℕ
  | ⟨i, _, _, _⟩ => i

mutual

/-- The tree without numbers. -/
def node : Numbered → Node
  | ⟨_, form, span, ts⟩ => form.node span (nodes ts)

/-- Several trees without numbers. -/
def nodes : List Numbered → List Node
  | [] => []
  | t :: ts => t.node :: nodes ts

end

mutual

/-- The cells of a tree, each with its number, if a node above it is given. -/
def cells (parent : Option ℕ) : Numbered → List (ℕ × Cell)
  | ⟨i, form, span, ts⟩ => (i, ⟨form.entry (ts.map id), parent, span⟩) :: cellsBelow i ts

/-- The cells of the trees below a node. -/
def cellsBelow (parent : ℕ) : List Numbered → List (ℕ × Cell)
  | [] => []
  | t :: ts => t.cells (some parent) ++ cellsBelow parent ts

end

mutual

/-- No node has more nodes below it than there is room for. -/
def Fits : Numbered → Prop
  | ⟨_, form, _, ts⟩ => form.Admits (ts.map id) ∧ FitAll ts

/-- The same of several trees. -/
def FitAll : List Numbered → Prop
  | [] => True
  | t :: ts => t.Fits ∧ FitAll ts

end

theorem nodes_eq (ts : List Numbered) : nodes ts = ts.map node := by
  induction ts with
  | nil => rfl
  | cons t ts ih => rw [nodes, ih, List.map_cons]

theorem cellsBelow_append (parent : ℕ) (ts us : List Numbered) :
    cellsBelow parent (ts ++ us) = cellsBelow parent ts ++ cellsBelow parent us := by
  induction ts with
  | nil => rfl
  | cons t ts ih => rw [List.cons_append, cellsBelow, cellsBelow, ih, List.append_assoc]

theorem fitAll_append {ts us : List Numbered} : FitAll (ts ++ us) ↔ FitAll ts ∧ FitAll us := by
  induction ts with
  | nil => simp [FitAll]
  | cons t ts ih => simp [FitAll, ih, and_assoc]

end Numbered

/-! ## Links -/

/-- The link from a cell to the one above it. -/
def upward (x : ℕ × Cell) : Option ℕ × ℕ :=
  (x.2.parent, x.1)

/-- The links from a cell to those below it. -/
def downward (x : ℕ × Cell) : List (Option ℕ × ℕ) :=
  x.2.entry.below.map fun j => (some x.1, j)

namespace Numbered

mutual

/-- The nodes of a tree are linked both ways: each but the root is below the node that it
    names as the one above it, just once, and below no other. -/
theorem upward_perm : ∀ (t : Numbered) (parent : Option ℕ), t.Fits →
    ((t.cells parent).map upward).Perm ((parent, t.id) :: (t.cells parent).flatMap downward)
  | ⟨i, form, span, ts⟩, parent, ⟨hadmits, hts⟩ => by
    have hdown : downward (i, ⟨form.entry (ts.map id), parent, span⟩) =
        ts.map fun t => (some i, t.id) := by
      rw [downward, hadmits, List.map_map]
      rfl
    rw [cells, List.map_cons, List.flatMap_cons, hdown]
    exact .cons _ (upward_perm_below ts i hts)

theorem upward_perm_below : ∀ (ts : List Numbered) (i : ℕ), FitAll ts →
    ((cellsBelow i ts).map upward).Perm
      ((ts.map fun t => (some i, t.id)) ++ (cellsBelow i ts).flatMap downward)
  | [], _, _ => .refl _
  | t :: ts, i, ⟨ht, hts⟩ => by
    have happend := (upward_perm t (some i) ht).append (upward_perm_below ts i hts)
    rw [cellsBelow, List.map_append, List.flatMap_append]
    refine happend.trans (.cons _ ?_)
    exact List.perm_append_comm_assoc _ _ _

end

end Numbered

/-! ## Arenas that consist of given cells -/

namespace Arena

/-- An arena consists of just these cells, each of which is given with its number. -/
structure Stores (a : Arena) (l : List (ℕ × Cell)) : Prop where
  holds : ∀ x ∈ l, a[x.1]? = some x.2
  all : (l.map Prod.fst).Perm (List.range a.length)

namespace Stores

variable {a : Arena} {l l' : List (ℕ × Cell)} {i : ℕ} {c : Cell}

theorem perm (h : a.Stores l) (hp : l.Perm l') : a.Stores l' :=
  ⟨fun x hx => h.holds x (hp.mem_iff.2 hx), (hp.map Prod.fst).symm.trans h.all⟩

theorem length_eq (h : a.Stores l) : l.length = a.length := by
  rw [← List.length_map Prod.fst, h.all.length_eq, List.length_range]

theorem nodup (h : a.Stores l) : (l.map Prod.fst).Nodup :=
  h.all.nodup_iff.2 List.nodup_range

theorem mem_iff (h : a.Stores l) : (∃ c, (i, c) ∈ l) ↔ i < a.length := by
  rw [← List.mem_range, ← h.all.mem_iff, List.mem_map]
  exact ⟨fun ⟨c, hc⟩ => ⟨(i, c), hc, rfl⟩, fun ⟨(_, c), hc, hi⟩ => ⟨c, hi ▸ hc⟩⟩

/-- A new cell comes last. -/
theorem alloc (h : a.Stores l) (c : Cell) : (a.alloc c).Stores ((a.length, c) :: l) := by
  refine ⟨fun x hx => ?_, ?_⟩
  · rcases List.mem_cons.1 hx with rfl | hx
    · exact List.getElem?_concat_length
    · have hlt : x.1 < a.length := h.mem_iff.1 ⟨x.2, hx⟩
      rw [Arena.alloc, List.getElem?_append_left hlt]
      exact h.holds x hx
  · rw [List.map_cons, Arena.alloc, List.length_append, List.length_singleton, List.range_succ]
    exact (h.all.cons _).trans (List.perm_append_singleton _ _).symm

/-- One of the cells is changed. -/
theorem update (h : a.Stores ((i, c) :: l)) (f : Cell → Cell) :
    (a.update i f).Stores ((i, f c) :: l) := by
  refine ⟨fun x hx => ?_, ?_⟩
  · rcases List.mem_cons.1 hx with rfl | hx
    · rw [Arena.update, List.getElem?_modify_eq, h.holds (i, c) (by simp)]
      rfl
    · have hne : i ≠ x.1 := by
        have hnodup := h.nodup
        rw [List.map_cons, List.nodup_cons] at hnodup
        exact fun he => hnodup.1 (List.mem_map.2 ⟨x, hx, he.symm⟩)
      rw [Arena.update, List.getElem?_modify_ne _ _ hne]
      exact h.holds x (by simp [hx])
  · rw [Arena.update, List.length_modify]
    exact h.all

end Stores

end Arena

/-! ## Reading a tree back -/

namespace Numbered

variable {a : Arena}

mutual

theorem walkWithin_eq : ∀ (t : Numbered) (parent : Option ℕ) (fuel : ℕ), t.Fits →
    (∀ x ∈ t.cells parent, a[x.1]? = some x.2) → (t.cells parent).length ≤ fuel →
    a.walkWithin fuel t.id = (t.cells parent).map Prod.fst
  | ⟨i, form, span, ts⟩, parent, 0, _, _, hf => by simp [cells] at hf
  | ⟨i, form, span, ts⟩, parent, fuel + 1, ⟨hadmits, hts⟩, hx, hf => by
    have hroot := hx (i, ⟨form.entry (ts.map id), parent, span⟩) (by simp [cells])
    have hbelow := walkWithin_eq_below ts i fuel hts (fun x h => hx x (by simp [cells, h]))
      (by simpa [cells] using hf)
    rw [Numbered.id, Arena.walkWithin, Arena.entryOf?, hroot, cells, List.map_cons, ← hbelow]
    exact congrArg (fun ids : List ℕ => i :: ids.flatMap (a.walkWithin fuel)) hadmits

theorem walkWithin_eq_below : ∀ (ts : List Numbered) (i fuel : ℕ), FitAll ts →
    (∀ x ∈ cellsBelow i ts, a[x.1]? = some x.2) → (cellsBelow i ts).length ≤ fuel →
    (ts.map id).flatMap (a.walkWithin fuel) = (cellsBelow i ts).map Prod.fst
  | [], _, _, _, _, _ => rfl
  | t :: ts, i, fuel, ⟨ht, hts⟩, hx, hf => by
    rw [cellsBelow, List.length_append] at hf
    have hhead := walkWithin_eq t (some i) fuel ht (fun x h => hx x (by simp [cellsBelow, h]))
      (by omega)
    have htail := walkWithin_eq_below ts i fuel hts (fun x h => hx x (by simp [cellsBelow, h]))
      (by omega)
    rw [cellsBelow, List.map_append, List.map_cons, List.flatMap_cons, hhead, htail]

end

mutual

theorem treeWithin?_eq : ∀ (t : Numbered) (parent : Option ℕ) (fuel : ℕ), t.Fits →
    (∀ x ∈ t.cells parent, a[x.1]? = some x.2) → (t.cells parent).length ≤ fuel →
    a.treeWithin? fuel t.id = some t.node
  | ⟨i, form, span, ts⟩, parent, 0, _, _, hf => by simp [cells] at hf
  | ⟨i, form, span, ts⟩, parent, fuel + 1, ⟨hadmits, hts⟩, hx, hf => by
    have hroot := hx (i, ⟨form.entry (ts.map id), parent, span⟩) (by simp [cells])
    have hbelow := treeWithin?_eq_below ts i fuel hts (fun x h => hx x (by simp [cells, h]))
      (by simpa [cells] using hf)
    rw [Numbered.id, Arena.treeWithin?, hroot, node, Option.bind_some]
    cases form with
    | path | segment | alternation => simp [Form.entry, Form.node, hbelow]
    | wildcard | regexp | text => rfl
    | «variable» name =>
      -- A variable has at most one node below it.
      match ts, hadmits, hbelow with
      | [], _, _ => rfl
      | [t], _, hbelow =>
        have ht : a.treeWithin? fuel t.id = some t.node := by
          cases h : a.treeWithin? fuel t.id <;> simp_all [nodes]
        simp [Form.entry, Form.node, nodes, ht]
      | _ :: _ :: _, hadmits, _ => simp [Form.Admits, Form.entry, Entry.below] at hadmits

theorem treeWithin?_eq_below : ∀ (ts : List Numbered) (i fuel : ℕ), FitAll ts →
    (∀ x ∈ cellsBelow i ts, a[x.1]? = some x.2) → (cellsBelow i ts).length ≤ fuel →
    (ts.map id).mapM (a.treeWithin? fuel) = some (nodes ts)
  | [], _, _, _, _, _ => rfl
  | t :: ts, i, fuel, ⟨ht, hts⟩, hx, hf => by
    rw [cellsBelow, List.length_append] at hf
    have hhead := treeWithin?_eq t (some i) fuel ht (fun x h => hx x (by simp [cellsBelow, h]))
      (by omega)
    have htail := treeWithin?_eq_below ts i fuel hts (fun x h => hx x (by simp [cellsBelow, h]))
      (by omega)
    simp [hhead, htail, nodes]

end

end Numbered

namespace Arena.Stores

variable {a : Arena} {t : Numbered}

/-- A walk visits the cells of a tree in order. -/
theorem walk_eq (h : a.Stores (t.cells none)) (ht : t.Fits) (hi : t.id = 0) :
    a.walk = (t.cells none).map Prod.fst := by
  have := t.walkWithin_eq none a.length ht h.holds h.length_eq.le
  rwa [hi] at this

/-- What is read back is the tree. -/
theorem tree?_eq (h : a.Stores (t.cells none)) (ht : t.Fits) (hi : t.id = 0) :
    a.tree? = some t.node := by
  have := t.treeWithin?_eq none a.length ht h.holds h.length_eq.le
  rwa [hi] at this

end Arena.Stores

end PathRouting.Pattern
