/-
  Which nodes stand below which in the tree of a pattern.

  * `Node.Shaped`: below a path there are segments, below a segment neither paths nor
    segments, below an alternation paths, and below a variable at most a unit. An absolute
    path has a segment, and a relative one does not begin with an empty segment.
  * `parse_shaped`: the tree of a pattern is of this shape.
-/
import PathRouting.Proofs.Pattern.Flattening

namespace PathRouting.Pattern

/-! ## The shape of a tree -/

namespace Node

/-- A node that may stand in a segment. -/
def IsItem (n : Node) : Prop :=
  n.kind ≠ .path ∧ n.kind ≠ .segment

theorem IsUnit.isItem {n : Node} (h : n.IsUnit) : n.IsItem := by
  cases n <;> simp_all [IsUnit, IsItem, kind]

mutual

/-- Below each node there are only such as may stand there. -/
def Shaped : Node → Prop
  | .path _ absolute ns =>
    (∀ n ∈ ns, n.kind = .segment) ∧ (absolute = true → ns ≠ []) ∧
      (absolute = false → ∀ n ∈ ns.head?, n.children ≠ []) ∧ AllShaped ns
  | .segment _ ns => (∀ n ∈ ns, n.IsItem) ∧ AllShaped ns
  | .alternation _ ns => ns ≠ [] ∧ (∀ n ∈ ns, n.kind = .path) ∧ AllShaped ns
  | .variable _ _ (some n) => n.IsUnit ∧ n.Shaped
  | .variable _ _ none | .wildcard .. | .regexp .. | .text .. => True

/-- The same of several trees. -/
def AllShaped : List Node → Prop
  | [] => True
  | n :: ns => n.Shaped ∧ AllShaped ns

end

theorem allShaped_iff {ns : List Node} : AllShaped ns ↔ ∀ n ∈ ns, n.Shaped := by
  induction ns with
  | nil => simp [AllShaped]
  | cons n ns ih => simp [AllShaped, ih]

end Node

/-! ## Unfinished trees -/

namespace OpenSegment

variable {s : OpenSegment} {n : Node}

/-- The items of a segment may stand there. -/
def Shaped (s : OpenSegment) : Prop :=
  ∀ n ∈ s.items, n.IsItem ∧ n.Shaped

theorem Shaped.settled (hs : s.Shaped) : ∀ n ∈ s.settled, n.IsItem ∧ n.Shaped := by
  unfold OpenSegment.settled
  split
  · refine List.forall_mem_cons.2 ⟨⟨?_, trivial⟩, hs⟩
    simp [Node.IsItem, Node.kind]
  · exact hs

theorem Shaped.attach (hs : s.Shaped) (hu : n.IsUnit) (hn : n.Shaped) : (s.attach n).Shaped := by
  unfold OpenSegment.attach
  split
  · refine List.forall_mem_cons.2 ⟨⟨?_, hu, hn⟩, hs⟩
    simp [Node.IsItem, Node.kind]
  · exact List.forall_mem_cons.2 ⟨⟨hu.isItem, hn⟩, hs⟩

theorem Shaped.close (hs : s.Shaped) : s.close.Shaped := by
  have hitems : ∀ n ∈ s.settled.reverse, n.IsItem ∧ n.Shaped :=
    fun n hn => hs.settled n (List.mem_reverse.1 hn)
  exact ⟨fun n hn => (hitems n hn).1, Node.allShaped_iff.2 fun n hn => (hitems n hn).2⟩

theorem children_close_attach (s : OpenSegment) (n : Node) : (s.attach n).close.children ≠ [] := by
  cases h : s.awaiting <;> simp [attach, close, settled, Node.children, h]

theorem children_close_attachVariable (s : OpenSegment) (span : Span) (name : Text) :
    (s.attachVariable span name).close.children ≠ [] := by
  simp [attachVariable, close, settled, Node.children]

end OpenSegment

/-- The segments of a path may stand there. A relative path begins with a segment that is
    not empty. -/
structure OpenPath.Shaped (p : OpenPath) : Prop where
  begun : p.Begun
  segments : ∀ n ∈ p.segments, n.kind = .segment ∧ n.Shaped
  current : ∀ s, p.current = some s → s.Shaped
  first : p.absolute = false → ∀ s, p.current = some s →
    ∀ n ∈ (s.close :: p.segments).getLast?, n.children ≠ []

namespace OpenPath

variable {p : OpenPath} {n : Node}

theorem shaped_empty (start : ℕ) : (empty start).Shaped :=
  ⟨begun_empty start, fun _ h => (nomatch h), fun _ h => (nomatch h), fun _ _ h => (nomatch h)⟩

theorem Shaped.opened (hp : p.Shaped) (start : ℕ) : (p.opened start).Shaped := by
  unfold OpenPath.opened
  cases hc : p.current with
  | none => exact fun n hn => (nomatch hn)
  | some s => exact hp.current s hc

/-- The first segment of a relative path is not empty once there is something in the segment
    at the cursor. -/
theorem Shaped.first_of_children (hp : p.Shaped) {m : Node} (hm : m.children ≠ [])
    (ha : p.absolute = false) : ∀ n ∈ (m :: p.segments).getLast?, n.children ≠ [] := by
  intro n hn
  cases hs : p.segments with
  | nil =>
    rw [hs, List.getLast?_singleton] at hn
    exact Option.some.inj hn ▸ hm
  | cons k ks =>
    cases hc : p.current with
    | none => simp [(hp.begun hc).1] at hs
    | some s =>
      have hfirst := hp.first ha s hc n
      rw [hs, List.getLast?_cons_cons] at hfirst hn
      exact hfirst hn

theorem Shaped.attach (hp : p.Shaped) (hu : n.IsUnit) (hn : n.Shaped) : (p.attach n).Shaped := by
  refine ⟨begun_of_current (attach_current p n), ?_, fun s hs => ?_, fun ha s hs => ?_⟩
  · simpa using hp.segments
  · rw [attach_current] at hs
    cases hs
    exact (hp.opened _).attach hu hn
  · rw [attach_current] at hs
    cases hs
    rw [attach_segments]
    exact hp.first_of_children (OpenSegment.children_close_attach _ n) (by simpa using ha)

theorem Shaped.attachVariable (hp : p.Shaped) (span : Span) (name : Text) :
    (p.attachVariable span name).Shaped := by
  refine ⟨begun_of_current (attachVariable_current p span name), ?_, fun s hs => ?_,
    fun ha s hs => ?_⟩
  · simpa using hp.segments
  · rw [attachVariable_current] at hs
    cases hs
    exact (hp.opened _).settled
  · rw [attachVariable_current] at hs
    cases hs
    rw [attachVariable_segments]
    exact hp.first_of_children (OpenSegment.children_close_attachVariable _ span name)
      (by simpa using ha)

theorem Shaped.separate (hp : p.Shaped) (span : Span) : (p.separate span).Shaped := by
  have hnil : OpenSegment.Shaped ⟨span.start, span.stop, [], none⟩ := List.forall_mem_nil _
  cases hc : p.current with
  | none =>
    have hseparate : p.separate span = { p with
        start := span.start
        absolute := true
        current := some ⟨span.start, span.stop, [], none⟩ } := by
      simp [OpenPath.separate, hc]
    rw [hseparate]
    refine ⟨begun_of_current rfl, hp.segments, fun s hs => ?_, fun ha => ?_⟩
    · cases hs
      exact hnil
    · cases ha
  | some s =>
    have hseparate : p.separate span = { p with
        segments := s.close :: p.segments
        current := some ⟨span.start, span.stop, [], none⟩ } := by
      simp [OpenPath.separate, hc]
    have hsegments : ∀ n ∈ s.close :: p.segments, n.kind = .segment ∧ n.Shaped :=
      List.forall_mem_cons.2 ⟨⟨rfl, (hp.current s hc).close⟩, hp.segments⟩
    rw [hseparate]
    refine ⟨begun_of_current rfl, hsegments, fun s' hs => ?_, fun ha s' hs => ?_⟩
    · cases hs
      exact hnil
    · rw [List.getLast?_cons_cons]
      exact hp.first ha s hc

theorem Shaped.close (hp : p.Shaped) : p.close.Shaped := by
  cases hc : p.current with
  | none =>
    obtain ⟨hs, ha⟩ := hp.begun hc
    simp [OpenPath.close, hc, hs, ha, Node.Shaped, Node.AllShaped]
  | some s =>
    have hall : ∀ n ∈ (s.close :: p.segments).reverse, n.kind = .segment ∧ n.Shaped := by
      intro n hn
      rcases List.mem_cons.1 (List.mem_reverse.1 hn) with rfl | hn
      · exact ⟨rfl, (hp.current s hc).close⟩
      · exact hp.segments n hn
    have hclose : p.close = .path ⟨p.start, s.stop⟩ p.absolute (s.close :: p.segments).reverse := by
      simp [OpenPath.close, hc]
    rw [hclose]
    refine ⟨fun n hn => (hall n hn).1, fun _ => by simp, fun ha => ?_,
      Node.allShaped_iff.2 fun n hn => (hall n hn).2⟩
    rw [List.head?_reverse]
    exact hp.first ha s hc

theorem kind_close (p : OpenPath) : p.close.kind = .path := by
  cases hc : p.current <;> simp [close, hc, Node.kind]

end OpenPath

namespace Cursor

variable {c c' : Cursor} {t : Token}

/-- Below each node of an unfinished tree there are only such as may stand there. -/
structure Shaped (c : Cursor) : Prop where
  path : c.path.Shaped
  enclosing : ∀ a ∈ c.enclosing, a.outer.Shaped ∧ ∀ n ∈ a.branches, n.kind = .path ∧ n.Shaped

theorem shaped_initial : initial.Shaped :=
  ⟨OpenPath.shaped_empty 0, fun _ h => (nomatch h)⟩

theorem Shaped.step (hc : c.Shaped) (h : c.step t = .ok c') : c'.Shaped := by
  have hleaf : ∀ n : Node, n.IsUnit → n.Shaped → (c.attach n).Shaped :=
    fun n hu hn => ⟨hc.path.attach hu hn, hc.enclosing⟩
  have hclose : c.path.close.kind = .path ∧ c.path.close.Shaped :=
    ⟨c.path.kind_close, hc.path.close⟩
  cases step_eq_ok.1 h with
  | text | wildcard | regexp => exact hleaf _ (by simp [Node.IsUnit, Node.kind]) trivial
  | named => exact ⟨hc.path.attachVariable _ _, hc.enclosing⟩
  | pathSeparator => exact ⟨hc.path.separate _, hc.enclosing⟩
  | altStart =>
    exact ⟨OpenPath.shaped_empty _,
      List.forall_mem_cons.2 ⟨⟨hc.path, List.forall_mem_nil _⟩, hc.enclosing⟩⟩
  | @altSeparator a _ p =>
    obtain ⟨ha, has⟩ := List.forall_mem_cons.1 hc.enclosing
    have hbranches : ∀ n ∈ p.close :: a.branches, n.kind = .path ∧ n.Shaped :=
      List.forall_mem_cons.2 ⟨hclose, ha.2⟩
    exact ⟨OpenPath.shaped_empty _, List.forall_mem_cons.2 ⟨⟨ha.1, hbranches⟩, has⟩⟩
  | @altEnd a _ p =>
    obtain ⟨ha, has⟩ := List.forall_mem_cons.1 hc.enclosing
    have hbranches : ∀ n ∈ p.close :: a.branches, n.kind = .path ∧ n.Shaped :=
      List.forall_mem_cons.2 ⟨hclose, ha.2⟩
    have hall : ∀ n ∈ (p.close :: a.branches).reverse, n.kind = .path ∧ n.Shaped :=
      fun n hn => hbranches n (List.mem_reverse.1 hn)
    exact ⟨ha.1.attach (by simp [Node.IsUnit, Node.kind]) ⟨by simp, fun n hn => (hall n hn).1,
      Node.allShaped_iff.2 fun n hn => (hall n hn).2⟩, has⟩

end Cursor

/-- **Shape.** Below each node of the tree of a pattern there are only such as may stand
    there. -/
theorem parse_shaped {pattern : Text} {root : Node} (h : parse pattern = .ok root) :
    root.kind = .path ∧ root.Shaped := by
  obtain ⟨p, hp, rfl⟩ := parse_induction (P := fun _ c => c.Shaped) h Cursor.shaped_initial
    fun _ _ _ _ _ hc hstep => hc.step hstep
  exact ⟨p.kind_close, hp.path.close⟩

end PathRouting.Pattern
