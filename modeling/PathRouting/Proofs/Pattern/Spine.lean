/-
  The unfinished part of a tree in cells.

  The nodes that may still be given nodes below them are the cursor and those above it.
  Each of them is a `Frame`, which has the finished trees below it.

  * `spread` are the cells of a list of frames, the innermost one first, each below the next.
  * `Stores.up`: a finished frame is a finished tree below the next one. No cell changes.
  * `Stores.change` changes the cell of a frame, and `Stores.setEnd` moves the ends of all.
  * `Stores.lineage_eq`, `Stores.nearest?_eq`: looking upwards from a cell goes from frame
    to frame.
-/
import PathRouting.Proofs.Pattern.Cells

namespace PathRouting.Pattern

open Numbered (cellsBelow)

/-! ## Frames -/

/-- A node that may still be given nodes below it, with the finished trees below it. -/
structure Frame where
  id : ℕ
  form : Form
  span : Span
  done : List Numbered

namespace Frame

/-- The tree of a frame that is finished. -/
def tree (f : Frame) : Numbered :=
  ⟨f.id, f.form, f.span, f.done⟩

/-- Puts a finished tree below. -/
def take (f : Frame) (t : Numbered) : Frame :=
  { f with done := f.done ++ [t] }

/-- Moves the start. -/
def setStart (f : Frame) (start : ℕ) : Frame :=
  { f with span := { f.span with start } }

/-- Moves the end. -/
def setStop (f : Frame) (stop : ℕ) : Frame :=
  { f with span := { f.span with stop } }

/-- The numbers of the nodes below, of which the last one may be that of a frame. -/
def below (f : Frame) (next : Option ℕ) : List ℕ :=
  f.done.map Numbered.id ++ next.toList

/-- The cell of a frame. -/
def cell (f : Frame) (next above : Option ℕ) : Cell :=
  ⟨f.form.entry (f.below next), above, f.span⟩

end Frame

/-- The number of the innermost frame. -/
def innermost (fs : List Frame) : Option ℕ :=
  fs.head?.map (·.id)

/-- The cells of frames, the innermost one first, and of the trees below them. There may
    be a node below the innermost one whose cells are left out. -/
def spread (next : Option ℕ) : List Frame → List (ℕ × Cell)
  | [] => []
  | f :: fs =>
    (f.id, f.cell next (innermost fs)) :: (cellsBelow f.id f.done ++ spread (some f.id) fs)

theorem length_le_spread (next : Option ℕ) (fs : List Frame) :
    fs.length ≤ (spread next fs).length := by
  induction fs generalizing next with
  | nil => exact le_refl 0
  | cons f fs ih =>
    have := ih (some f.id)
    simp only [spread, List.length_cons, List.length_append]
    omega

/-- Each frame has its cell. -/
theorem exists_mem_spread {next : Option ℕ} {fs : List Frame} {f : Frame} (hf : f ∈ fs) :
    ∃ next' above, (f.id, f.cell next' above) ∈ spread next fs := by
  induction fs generalizing next with
  | nil => cases hf
  | cons g fs ih =>
    rcases List.mem_cons.1 hf with rfl | hf
    · exact ⟨next, innermost fs, by simp [spread]⟩
    · obtain ⟨next', above, hmem⟩ := @ih (some g.id) hf
      exact ⟨next', above, by simp [spread, hmem]⟩

/-- The cells of a finished frame are those of a finished tree below the next one. -/
theorem spread_up (f g : Frame) (fs : List Frame) :
    (spread none (f :: g :: fs)).Perm (spread none (g.take f.tree :: fs)) := by
  have htree : cellsBelow g.id (g.done ++ [f.tree]) =
      cellsBelow g.id g.done ++ (f.id, f.cell none (some g.id)) :: cellsBelow f.id f.done := by
    simp [Numbered.cellsBelow_append, cellsBelow, Frame.tree, Numbered.cells, Frame.cell,
      Frame.below]
  have hcell : (g.take f.tree).cell none (innermost fs) = g.cell (some f.id) (innermost fs) := by
    simp [Frame.cell, Frame.take, Frame.below, Frame.tree, Numbered.id]
  have hleft : spread none (f :: g :: fs) =
      ((f.id, f.cell none (some g.id)) :: cellsBelow f.id f.done) ++
        (g.id, g.cell (some f.id) (innermost fs)) ::
          (cellsBelow g.id g.done ++ spread (some g.id) fs) := rfl
  have hright : spread none (g.take f.tree :: fs) =
      (g.id, g.cell (some f.id) (innermost fs)) ::
        (cellsBelow g.id g.done ++ (((f.id, f.cell none (some g.id)) :: cellsBelow f.id f.done) ++
          spread (some g.id) fs)) := by
    rw [spread, hcell]
    simp only [Frame.take, htree, List.append_assoc]
  rw [hleft, hright]
  refine List.perm_middle.trans (.cons _ ?_)
  exact List.perm_append_comm_assoc _ _ _

/-! ## Arenas that hold frames -/

namespace Arena

variable {a : Arena}

/-- Looking upwards goes from frame to frame. -/
theorem lineageWithin_eq {next : Option ℕ} {f : Frame} {fs : List Frame} {fuel : ℕ}
    (h : ∀ x ∈ spread next (f :: fs), a[x.1]? = some x.2) (hf : (f :: fs).length ≤ fuel) :
    a.lineageWithin fuel f.id = (f :: fs).map (·.id) := by
  induction fs generalizing next f fuel with
  | nil =>
    obtain _ | fuel := fuel
    · cases hf
    · have hcell := h (f.id, f.cell next none) (by simp [spread, innermost])
      simp [lineageWithin, parent?, hcell, Frame.cell]
  | cons g fs ih =>
    obtain _ | fuel := fuel
    · cases hf
    · have hcell := h (f.id, f.cell next (some g.id)) (by simp [spread, innermost])
      have habove : ∀ x ∈ spread (some f.id) (g :: fs), a[x.1]? = some x.2 :=
        fun x hx => h x (.tail _ (List.mem_append_right _ hx))
      have hrest := ih habove (Nat.le_of_succ_le_succ hf)
      simp [lineageWithin, parent?, hcell, Frame.cell, hrest]

namespace Stores

variable {l : List (ℕ × Cell)} {next : Option ℕ} {f g : Frame} {fs : List Frame}

theorem up (h : a.Stores (spread none (f :: g :: fs))) :
    a.Stores (spread none (g.take f.tree :: fs)) :=
  h.perm (spread_up f g fs)

theorem cell_eq (h : a.Stores (l ++ spread next (f :: fs))) :
    a[f.id]? = some (f.cell next (innermost fs)) :=
  h.holds (f.id, f.cell next (innermost fs)) (by simp [spread])

theorem entryOf?_eq (h : a.Stores (l ++ spread next (f :: fs))) :
    a.entryOf? f.id = some (f.form.entry (f.below next)) := by
  rw [entryOf?, h.cell_eq]
  rfl

theorem parent?_eq (h : a.Stores (l ++ spread next (f :: fs))) :
    a.parent? f.id = innermost fs := by
  rw [parent?, h.cell_eq]
  rfl

theorem kind?_eq (h : a.Stores (l ++ spread next fs)) (hf : f ∈ fs) :
    a.kind? f.id = some f.form.kind := by
  obtain ⟨next', above, hmem⟩ := @exists_mem_spread next fs f hf
  have hcell := h.holds _ (List.mem_append_right l hmem)
  simp [kind?, entryOf?, hcell, Frame.cell]

theorem lineage_eq (h : a.Stores (l ++ spread next (f :: fs))) :
    a.lineage f.id = (f :: fs).map (·.id) := by
  refine lineageWithin_eq (fun x hx => h.holds x (List.mem_append_right l hx)) ?_
  calc (f :: fs).length ≤ (spread next (f :: fs)).length := length_le_spread next _
    _ ≤ (l ++ spread next (f :: fs)).length := by simp
    _ = a.length := h.length_eq

theorem nearest?_eq (h : a.Stores (l ++ spread next (f :: fs))) (kind : Node.Kind) :
    a.nearest? f.id kind = ((f :: fs).find? fun g => g.form.kind = kind).map (·.id) := by
  have hkind : ∀ g ∈ f :: fs, a.kind? g.id = some g.form.kind := fun g hg => h.kind?_eq hg
  rw [nearest?, h.lineage_eq]
  generalize f :: fs = gs at hkind
  induction gs with
  | nil => rfl
  | cons g gs ih =>
    have hrest := ih fun g' hg' => hkind g' (by simp [hg'])
    by_cases hg : g.form.kind = kind
    · simp [hkind g, hg]
    · simp [hkind g, hg, hrest]

/-- The cell of the innermost frame is changed. -/
theorem change {next' : Option ℕ} {f' : Frame} {φ : Cell → Cell}
    (h : a.Stores (l ++ spread next (f :: fs))) (hid : f'.id = f.id) (hdone : f'.done = f.done)
    (hφ : φ (f.cell next (innermost fs)) = f'.cell next' (innermost fs)) :
    (a.update f.id φ).Stores (l ++ spread next' (f' :: fs)) := by
  have hupdate := (h.perm List.perm_middle).update φ
  rw [spread, hid, hdone, ← hφ]
  exact hupdate.perm List.perm_middle.symm

/-- The ends of all frames are moved. -/
theorem setEnd (h : a.Stores (l ++ spread next (f :: fs))) (stop : ℕ) :
    (a.setEnd f.id stop).Stores (l ++ spread next ((f :: fs).map (·.setStop stop))) := by
  rw [Arena.setEnd, h.lineage_eq]
  generalize f :: fs = gs at h
  induction gs generalizing a l next with
  | nil => exact h
  | cons g gs ih =>
    have hinner : innermost (gs.map (·.setStop stop)) = innermost gs := by
      cases gs <;> rfl
    have hg : (a.update g.id (·.setStop stop)).Stores (l ++ spread next (g.setStop stop :: gs)) :=
      h.change rfl rfl rfl
    have hsplit : l ++ spread next (g.setStop stop :: gs) =
        (l ++ (g.id, (g.setStop stop).cell next (innermost gs)) :: cellsBelow g.id g.done) ++
          spread (some g.id) gs := by
      simp [spread, Frame.setStop]
    rw [hsplit] at hg
    have hrest := ih hg
    rw [List.map_cons, List.map_cons, List.foldl_cons, spread, hinner]
    simpa [Frame.setStop] using hrest

end Stores

end Arena

end PathRouting.Pattern
