/-
  Building a pattern's tree in cells.

  The builder has the nodes of an unfinished tree in cells, where it can only be seen by
  going up from the cursor. The cells are those of frames (`Reaches`), and the frames are
  those of an unfinished tree of the other kind (`Shows`):

  * `Lays`: a segment and the path around it, `Receives`: with the variable that awaits a
    constraint, `Encloses`: open alternations, each with the path around it.
  * `Shows.push`: a node is put where the unfinished tree takes it. It never fails.
  * `Shows.close`: what is found by looking upwards for a path or an alternation.
-/
import PathRouting.Proofs.Pattern.Flattening
import PathRouting.Proofs.Pattern.Spine

namespace PathRouting.Pattern

open Numbered (nodes FitAll)

/-! ## A node that is put below another one -/

/-- A node with nothing below it. -/
def Frame.fresh (id : ℕ) (form : Form) (span : Span) : Frame :=
  ⟨id, form, span, []⟩

namespace Arena.Stores

variable {a : Arena} {n : ℕ} {form : Form} {span : Span} {f f' : Frame} {fs : List Frame}

/-- A new node below the innermost frame, the cell of which may change otherwise, too. -/
theorem grow {φ : Cell → Cell} (h : a.Stores (spread none (f :: fs))) (form : Form) (span : Span)
    (hid : f'.id = f.id) (hdone : f'.done = f.done)
    (hφ : φ (f.cell none (innermost fs)) = f'.cell (some a.length) (innermost fs)) :
    ((a.alloc ⟨form.entry [], some f.id, span⟩).update f.id φ).Stores
      (spread none (.fresh a.length form span :: f' :: fs)) := by
  have halloc : (a.alloc ⟨form.entry [], some f.id, span⟩).Stores
      ([(a.length, ⟨form.entry [], some f.id, span⟩)] ++ spread none (f :: fs)) := h.alloc _
  have hchange := halloc.change hid hdone hφ
  rw [← hid] at hchange ⊢
  exact hchange

/-- A node in its cell is put below the innermost frame. -/
theorem link (h : a.Stores ((n, ⟨form.entry [], none, span⟩) :: spread none (f :: fs)))
    (hadd : (f.form.entry (f.below none)).add n = f.form.entry (f.below (some n))) (stop : ℕ) :
    ((a.link n f.id).setEnd f.id stop).Stores
      (spread none (.fresh n form span :: (f :: fs).map (·.setStop stop))) := by
  have hf : (a.update f.id (·.add n)).Stores
      ([(n, ⟨form.entry [], none, span⟩)] ++ spread (some n) (f :: fs)) := by
    refine change h rfl rfl ?_
    rw [Cell.add, Frame.cell, Frame.cell, hadd]
  have hn : (a.link n f.id).Stores
      ([(n, ⟨form.entry [], some f.id, span⟩)] ++ spread (some n) (f :: fs)) :=
    hf.update (·.setParent f.id)
  exact hn.setEnd stop

/-- A node in its cell is put below a new segment of a path without segments. -/
theorem linkSegment {absolute : Bool}
    (h : a.Stores ((n, ⟨form.entry [], none, span⟩) :: spread none (f :: fs)))
    (hform : f.form = .path absolute) (hdone : f.done = []) :
    (((((a.alloc ⟨.segment [n], some f.id, ⟨span.start, span.start⟩⟩).update f.id
      (·.add a.length)).update f.id (·.setStart span.start)).update n
        (·.setParent a.length)).setEnd a.length span.stop).Stores
      (spread none (.fresh n form span ::
        (.fresh a.length .segment ⟨span.start, span.start⟩ :: f.setStart span.start :: fs).map
          (·.setStop span.stop))) := by
  let cells : List (ℕ × Cell) := [(a.length, ⟨.segment [n], some f.id, ⟨span.start, span.start⟩⟩),
    (n, ⟨form.entry [], none, span⟩)]
  let a₁ : Arena := a.alloc ⟨.segment [n], some f.id, ⟨span.start, span.start⟩⟩
  have halloc : a₁.Stores (cells ++ spread none (f :: fs)) := h.alloc _
  have hadd : (a₁.update f.id (·.add a.length)).Stores
      (cells ++ spread (some a.length) (f :: fs)) := by
    refine halloc.change rfl rfl ?_
    simp [Cell.add, Frame.cell, hform, hdone, Form.entry, Frame.below, Entry.add]
  have hstart : ((a₁.update f.id (·.add a.length)).update f.id (·.setStart span.start)).Stores
      (cells ++ spread (some a.length) (f.setStart span.start :: fs)) :=
    hadd.change rfl rfl rfl
  have hn := (hstart.perm (List.Perm.swap _ _ _)).update (·.setParent a.length)
  have hsegment : ∀ b : Arena, b.Stores ((n, ⟨form.entry [], some a.length, span⟩) ::
      (a.length, ⟨.segment [n], some f.id, ⟨span.start, span.start⟩⟩) ::
        spread (some a.length) (f.setStart span.start :: fs)) →
      b.Stores ([(n, ⟨form.entry [], some a.length, span⟩)] ++ spread (some n)
        (.fresh a.length .segment ⟨span.start, span.start⟩ :: f.setStart span.start :: fs)) :=
    fun _ h => h
  exact (hsegment _ hn).setEnd span.stop

end Arena.Stores

/-! ## Frames of an unfinished tree -/

namespace OpenSegment

theorem settled_of_none {s : OpenSegment} (h : s.awaiting = none) : s.settled = s.items := by
  simp [settled, h]

/-- Behind a node nothing awaits a constraint. -/
theorem awaiting_attach (s : OpenSegment) (n : Node) : (s.attach n).awaiting = none := by
  cases h : s.awaiting <;> simp [attach, h]

end OpenSegment

namespace OpenPath

/-- The path with a segment at the cursor. -/
def withSegment (p : OpenPath) (start : ℕ) : OpenPath :=
  match p.current with
  | some _ => p
  | none => { p with start, current := some ⟨start, start, [], none⟩ }

theorem withSegment_of_current {p : OpenPath} {s : OpenSegment} (h : p.current = some s)
    (start : ℕ) : p.withSegment start = p := by
  simp [withSegment, h]

/-- A node is put into the segment at the cursor. -/
theorem attach_withSegment (p : OpenPath) (n : Node) :
    (p.withSegment n.span.start).attach n = p.attach n := by
  cases h : p.current <;> simp [withSegment, attach, h]

theorem attachVariable_withSegment (p : OpenPath) (span : Span) (name : Text) :
    (p.withSegment span.start).attachVariable span name = p.attachVariable span name := by
  cases h : p.current <;> simp [withSegment, attachVariable, h]

/-- The segments of a path, the last one first, with the one at the cursor finished. -/
def shut (p : OpenPath) : List Node :=
  match p.current with
  | some s => s.close :: p.segments
  | none => p.segments

/-- What a path holds ends at `stop`. -/
def EndsAt (p : OpenPath) (stop : ℕ) : Prop :=
  match p.current with
  | some s => s.stop = stop ∧ ∀ v ∈ s.awaiting, v.1.stop = stop
  | none => p.start = stop

theorem close_eq {p : OpenPath} {stop : ℕ} (h : p.EndsAt stop) :
    p.close = .path ⟨p.start, stop⟩ p.absolute p.shut.reverse := by
  unfold EndsAt at h
  cases hc : p.current with
  | none =>
    simp only [hc] at h
    simp [close, shut, hc, ← h]
  | some s =>
    simp only [hc] at h
    simp [close, shut, hc, h.1]

/-- The variable that awaits a constraint ends there, too. -/
theorem EndsAt.span_eq {p : OpenPath} {s : OpenSegment} {stop : ℕ} {span span' : Span} {name : Text}
    (h : p.EndsAt stop) (hp : p.current = some s) (hs : s.awaiting = some (span, name))
    (hstart : span'.start = span.start) (hstop : span'.stop = stop) : span' = span := by
  rw [EndsAt, hp] at h
  have hspan : span.stop = stop := h.2 (span, name) hs
  calc span' = ⟨span'.start, span'.stop⟩ := rfl
    _ = ⟨span.start, span.stop⟩ := by rw [hstart, hstop, hspan]

end OpenPath

/-- The frames of a segment, which has the given items, and of the path around it. -/
structure Lays (p : OpenPath) (s : OpenSegment) (items : List Node) (f g : Frame) : Prop where
  current : p.current = some s
  segmentForm : f.form = .segment
  segmentStart : f.span.start = s.start
  segmentNodes : nodes f.done = items.reverse
  segmentFits : FitAll f.done
  pathForm : g.form = .path p.absolute
  pathStart : g.span.start = p.start
  pathNodes : nodes g.done = p.segments.reverse
  pathFits : FitAll g.done

/-- The frames of a path at which it takes a node: of the variable that awaits a
    constraint, of the segment, which is given, and of the path. -/
inductive Receives (p : OpenPath) : Frame → List Frame → Prop
  | plain {s : OpenSegment} {f g : Frame} (hs : s.awaiting = none) (h : Lays p s s.items f g) :
    Receives p f [f, g]
  | awaiting {s : OpenSegment} {v f g : Frame} {span : Span} {name : Text}
    (hs : s.awaiting = some (span, name)) (h : Lays p s s.items f g)
    (hv : v.form = .variable name) (hstart : v.span.start = span.start) (hdone : v.done = []) :
    Receives p f [v, f, g]

/-- The frames of open alternations and of the paths around them. -/
inductive Encloses : List OpenAlternation → List Frame → Prop
  | nil : Encloses [] []
  | cons {a : OpenAlternation} {as : List OpenAlternation} {alt f : Frame} {hs fs : List Frame}
    (hform : alt.form = .alternation) (hstart : alt.span.start = a.start)
    (hnodes : nodes alt.done = a.branches.reverse) (hfits : FitAll alt.done)
    (h : Receives (a.outer.withSegment a.start) f hs) (hrest : Encloses as fs) :
    Encloses (a :: as) (alt :: (hs ++ fs))

/-- The frames of an unfinished tree. They may begin at a variable with a constraint, which
    is an alternation that was closed last. -/
inductive Shows (c : Cursor) : List Frame → Prop
  | fresh {g : Frame} {fs : List Frame} (hpath : c.path = .empty g.span.start)
    (hform : g.form = .path false) (hdone : g.done = []) (hrest : Encloses c.enclosing fs) :
    Shows c (g :: fs)
  | within {f : Frame} {hs fs : List Frame} (h : Receives c.path f hs)
    (hrest : Encloses c.enclosing fs) : Shows c (hs ++ fs)
  | bound {s : OpenSegment} {v f g : Frame} {fs : List Frame} {name : Text} {t : Numbered}
    (hv : v.form = .variable name) (hdone : v.done = [t]) (hs : s.awaiting = none)
    (h : Lays c.path s s.items (f.take v.tree) g) (hrest : Encloses c.enclosing fs) :
    Shows c (v :: f :: g :: fs)

/-! Moving the ends of frames keeps them where they are. -/

theorem Lays.setStop {p : OpenPath} {s : OpenSegment} {items : List Node} {f g : Frame}
    (h : Lays p s items f g) (stop : ℕ) : Lays p s items (f.setStop stop) (g.setStop stop) :=
  ⟨h.current, h.segmentForm, h.segmentStart, h.segmentNodes, h.segmentFits, h.pathForm,
    h.pathStart, h.pathNodes, h.pathFits⟩

theorem Receives.setStop {p : OpenPath} {f : Frame} {hs : List Frame} (h : Receives p f hs)
    (stop : ℕ) : Receives p (f.setStop stop) (hs.map (·.setStop stop)) := by
  cases h with
  | plain hs h => exact .plain hs (h.setStop stop)
  | awaiting hs h hv hstart hdone => exact .awaiting hs (h.setStop stop) hv hstart hdone

theorem Encloses.setStop {as : List OpenAlternation} {fs : List Frame} (h : Encloses as fs)
    (stop : ℕ) : Encloses as (fs.map (·.setStop stop)) := by
  induction h with
  | nil => exact .nil
  | cons hform hstart hnodes hfits h _ ih =>
    rw [List.map_cons, List.map_append]
    exact .cons hform hstart hnodes hfits (h.setStop stop) ih

/-- The outermost frame is that of the first cell. -/
def Rooted (fs : List Frame) : Prop :=
  (fs.map (·.id)).getLast? = some 0

namespace Rooted

variable {f g : Frame} {fs : List Frame}

theorem cons_iff : Rooted (f :: g :: fs) ↔ Rooted (g :: fs) := by
  simp only [Rooted, List.map_cons, List.getLast?_cons_cons]

theorem cons (h : Rooted fs) (f : Frame) : Rooted (f :: fs) := by
  obtain _ | ⟨g, fs⟩ := fs
  · cases h
  · exact cons_iff.2 h

theorem setStop (h : Rooted fs) (stop : ℕ) : Rooted (fs.map (·.setStop stop)) := by
  rw [Rooted, List.map_map]
  exact h

end Rooted

/-- The cells of a builder are those of frames. The innermost one is its cursor, the
    outermost one is the root, and all of them end at the same place. -/
structure Reaches (b : Builder) (stop : ℕ) (fs : List Frame) : Prop where
  stores : b.arena.Stores (spread none fs)
  cursor : innermost fs = some b.cursor
  root : Rooted fs
  stops : ∀ f ∈ fs, f.span.stop = stop

/-! ## Putting a node -/

/-- A builder has put the node of the frame `k` where a path takes it, and its cursor is the
    segment there. -/
structure Puts (b : Builder) (p : OpenPath) (as : List OpenAlternation) (k f : Frame) (stop : ℕ)
    (hs fs : List Frame) : Prop where
  stores : b.arena.Stores (spread none (k :: (hs ++ fs)))
  cursor : b.cursor = f.id
  receives : Receives p f hs
  encloses : Encloses as fs
  root : Rooted (hs ++ fs)
  stops : ∀ f ∈ hs ++ fs, f.span.stop = stop

theorem stops_take {fs : List Frame} {stop : ℕ} {f g : Frame}
    (h : ∀ k ∈ f :: g :: fs, k.span.stop = stop) (t : Numbered) :
    ∀ k ∈ g.take t :: fs, k.span.stop = stop := by
  intro k hk
  rcases List.mem_cons.1 hk with rfl | hk
  · exact h g (by simp)
  · exact h k (by simp [hk])

theorem stop_of_mem_setStop {fs : List Frame} {stop : ℕ} {f : Frame}
    (h : f ∈ fs.map (·.setStop stop)) : f.span.stop = stop := by
  obtain ⟨g, _, rfl⟩ := List.mem_map.1 h
  rfl

section Attaching

variable {b : Builder} {c : Cursor} {p : OpenPath} {s : OpenSegment} {as : List OpenAlternation}
  {n i : ℕ} {is : List ℕ} {form : Form} {span : Span} {v f g : Frame} {fs : List Frame}

theorem attachTo_path {absolute : Bool} (h : b.arena.entryOf? i = some (.path [] absolute)) :
    b.attachTo n span (i :: is) = .ok { b with
      arena := ((((b.arena.alloc ⟨.segment [n], some i, ⟨span.start, span.start⟩⟩).update i
        (·.add b.arena.length)).update i (·.setStart span.start)).update n
          (·.setParent b.arena.length)).setEnd b.arena.length span.stop
      cursor := b.arena.length } := by
  simp [Builder.attachTo, h]

theorem attachTo_segment {ids : List ℕ} (h : b.arena.entryOf? i = some (.segment ids)) :
    b.attachTo n span (i :: is) =
      .ok { b with arena := (b.arena.link n i).setEnd i span.stop, cursor := i } := by
  simp [Builder.attachTo, h]

theorem attachTo_variable {name : Text} {j : ℕ}
    (h : b.arena.entryOf? i = some (.variable name none)) :
    b.attachTo n span (i :: j :: is) =
      .ok { b with arena := (b.arena.link n i).setEnd i span.stop, cursor := j } := by
  simp [Builder.attachTo, h]

theorem attachTo_constrained {name : Text} {j : ℕ}
    (h : b.arena.entryOf? i = some (.variable name (some j))) :
    b.attachTo n span (i :: is) = b.attachTo n span is := by
  simp [Builder.attachTo, h]

/-- A path without segments is given one for the node. -/
theorem attachTo_fresh (hpath : p = .empty g.span.start) (hform : g.form = .path false)
    (hdone : g.done = []) (hrest : Encloses as fs)
    (hb : b.arena.Stores ([(n, ⟨form.entry [], none, span⟩)] ++ spread none (g :: fs)))
    (hroot : Rooted (g :: fs)) :
    ∃ b' seg hs fs', b.attachTo n span ((g :: fs).map (·.id)) = .ok b' ∧ b'.altDepth = b.altDepth ∧
      Puts b' (p.withSegment span.start) as (.fresh n form span) seg span.stop hs fs' := by
  have hentry : b.arena.entryOf? g.id = some (.path [] false) := by
    rw [hb.entryOf?_eq, hform]
    simp [Form.entry, Frame.below, hdone]
  let f : Frame := .fresh b.arena.length .segment ⟨span.start, span.stop⟩
  let g' : Frame := (g.setStart span.start).setStop span.stop
  have hlays : Lays (p.withSegment span.start) ⟨span.start, span.start, [], none⟩ [] f g' := by
    subst hpath
    refine ⟨rfl, rfl, rfl, rfl, trivial, hform, rfl, ?_, ?_⟩
    · change nodes g.done = []
      rw [hdone]
      rfl
    · change FitAll g.done
      rw [hdone]
      trivial
  have hstop : ∀ h ∈ (f :: g.setStart span.start :: fs).map (·.setStop span.stop),
      h.span.stop = span.stop := fun h => stop_of_mem_setStop
  refine ⟨_, f, [f, g'], fs.map (·.setStop span.stop), attachTo_path hentry, rfl, ?_⟩
  exact ⟨hb.linkSegment hform hdone, rfl, .plain rfl hlays, hrest.setStop _,
    Rooted.cons_iff.2 (hroot.setStop span.stop), hstop⟩

/-- A segment takes the node. -/
theorem attachTo_plain (hs : s.awaiting = none) (h : Lays p s s.items f g)
    (hrest : Encloses as fs)
    (hb : b.arena.Stores ([(n, ⟨form.entry [], none, span⟩)] ++ spread none (f :: g :: fs)))
    (hroot : Rooted (f :: g :: fs)) :
    ∃ b' seg hs fs', b.attachTo n span ((f :: g :: fs).map (·.id)) = .ok b' ∧
      b'.altDepth = b.altDepth ∧
      Puts b' (p.withSegment span.start) as (.fresh n form span) seg span.stop hs fs' := by
  have hentry := hb.entryOf?_eq
  rw [h.segmentForm] at hentry
  have hadd : (f.form.entry (f.below none)).add n = f.form.entry (f.below (some n)) := by
    rw [h.segmentForm]
    simp [Form.entry, Entry.add, Frame.below]
  rw [OpenPath.withSegment_of_current h.current]
  have hstop : ∀ h ∈ (f :: g :: fs).map (·.setStop span.stop), h.span.stop = span.stop :=
    fun h => stop_of_mem_setStop
  refine ⟨_, f.setStop span.stop, [f.setStop span.stop, g.setStop span.stop],
    fs.map (·.setStop span.stop), attachTo_segment hentry, rfl, ?_⟩
  exact ⟨Arena.Stores.link hb hadd span.stop, rfl, .plain hs (h.setStop _), hrest.setStop _,
    hroot.setStop _, hstop⟩

/-- A variable that awaits a constraint takes the node. -/
theorem attachTo_awaiting {sp : Span} {name : Text} (hs : s.awaiting = some (sp, name))
    (h : Lays p s s.items f g) (hv : v.form = .variable name) (hstart : v.span.start = sp.start)
    (hdone : v.done = []) (hrest : Encloses as fs)
    (hb : b.arena.Stores ([(n, ⟨form.entry [], none, span⟩)] ++ spread none (v :: f :: g :: fs)))
    (hroot : Rooted (v :: f :: g :: fs)) :
    ∃ b' seg hs fs', b.attachTo n span ((v :: f :: g :: fs).map (·.id)) = .ok b' ∧
      b'.altDepth = b.altDepth ∧
      Puts b' (p.withSegment span.start) as (.fresh n form span) seg span.stop hs fs' := by
  have hentry : b.arena.entryOf? v.id = some (.variable name none) := by
    rw [hb.entryOf?_eq, hv]
    simp [Form.entry, Frame.below, hdone]
  have hadd : (v.form.entry (v.below none)).add n = v.form.entry (v.below (some n)) := by
    rw [hv]
    simp [Form.entry, Entry.add, Frame.below, hdone]
  rw [OpenPath.withSegment_of_current h.current]
  have hstop : ∀ h ∈ (v :: f :: g :: fs).map (·.setStop span.stop), h.span.stop = span.stop :=
    fun h => stop_of_mem_setStop
  refine ⟨_, f.setStop span.stop, [v, f, g].map (·.setStop span.stop),
    fs.map (·.setStop span.stop), attachTo_variable hentry, rfl, ?_⟩
  exact ⟨Arena.Stores.link hb hadd span.stop, rfl,
    .awaiting hs (h.setStop _) hv hstart hdone, hrest.setStop _, hroot.setStop _, hstop⟩

end Attaching

/-- A node is put where the unfinished tree takes it. -/
theorem Shows.push {c : Cursor} {b : Builder} {stop : ℕ} {fs : List Frame} (hc : Shows c fs)
    (hb : Reaches b stop fs) (form : Form) (span : Span) :
    ∃ b' seg hs fs', b.push (form.entry []) span = .ok b' ∧ b'.altDepth = b.altDepth ∧
      Puts b' (c.path.withSegment span.start) c.enclosing (.fresh b.arena.length form span) seg
        span.stop hs fs' := by
  obtain ⟨hstores, hcursor, hroot, -⟩ := hb
  have halloc : (b.arena.alloc ⟨form.entry [], none, span⟩).Stores
      ([(b.arena.length, ⟨form.entry [], none, span⟩)] ++ spread none fs) := hstores.alloc _
  obtain _ | ⟨f, gs⟩ := fs
  · cases hcursor
  let b₁ : Builder := { b with arena := b.arena.alloc ⟨form.entry [], none, span⟩ }
  have hlineage : b₁.arena.lineage b.cursor = (f :: gs).map (·.id) := by
    rw [← Option.some.inj hcursor]
    exact halloc.lineage_eq
  rw [Builder.push, hlineage]
  generalize hfs : f :: gs = fs at hc halloc hroot
  cases hc with
  | fresh hpath hform hdone hrest =>
    exact attachTo_fresh (b := b₁) hpath hform hdone hrest halloc hroot
  | within h hrest =>
    cases h with
    | plain hs h =>
      exact attachTo_plain (b := b₁) hs h hrest halloc hroot
    | awaiting hs h hv hstart hdone =>
      exact attachTo_awaiting (b := b₁) hs h hv hstart hdone hrest halloc hroot
  | @bound s v f g fs name t hv hdone hs h hrest =>
    -- The variable has its constraint, so the node goes to the segment.
    have hentry : (b.arena.alloc ⟨form.entry [], none, span⟩).entryOf? v.id =
        some (.variable name (some t.id)) := by
      rw [halloc.entryOf?_eq, hv]
      simp [Form.entry, Frame.below, hdone]
    have hup : (b.arena.alloc ⟨form.entry [], none, span⟩).Stores
        ([(b.arena.length, ⟨form.entry [], none, span⟩)] ++
          spread none (f.take v.tree :: g :: fs)) :=
      halloc.perm ((spread_up v f (g :: fs)).cons _)
    rw [List.map_cons, attachTo_constrained hentry]
    have hplain := attachTo_plain (b := b₁) hs h hrest hup (Rooted.cons_iff.1 hroot)
    exact hplain

/-! ## Closing a path -/

namespace Lays

variable {p : OpenPath} {s : OpenSegment} {v f g : Frame} {items : List Node}

/-- A variable without constraint is an item of its segment. -/
theorem settle {span : Span} {name : Text} (h : Lays p s s.items f g)
    (hs : s.awaiting = some (span, name)) (hv : v.form = .variable name) (hspan : v.span = span)
    (hdone : v.done = []) : Lays p s s.settled (f.take v.tree) g := by
  refine { h with segmentNodes := ?_, segmentFits := ?_ }
  · have hnodes := h.segmentNodes
    rw [Numbered.nodes_eq] at hnodes ⊢
    simp [Frame.take, Frame.tree, hnodes, OpenSegment.settled, hs, Numbered.node, hv, hspan, hdone,
      Numbered.nodes, Form.node]
  · refine Numbered.fitAll_append.2 ⟨h.segmentFits, ?_, trivial⟩
    rw [Frame.tree, hv, hdone]
    exact ⟨rfl, trivial⟩

/-- The finished segment. -/
theorem node_tree (h : Lays p s s.settled f g) (hstop : f.span.stop = s.stop) :
    f.tree.node = s.close := by
  have hspan : f.span = ⟨s.start, s.stop⟩ := by rw [← h.segmentStart, ← hstop]
  rw [Frame.tree, Numbered.node, h.segmentForm, h.segmentNodes, hspan]
  rfl

theorem fits_tree (h : Lays p s items f g) : f.tree.Fits := by
  refine ⟨?_, h.segmentFits⟩
  rw [h.segmentForm]
  rfl

theorem nodes_take (h : Lays p s s.settled f g) (hstop : f.span.stop = s.stop) :
    nodes (g.take f.tree).done = p.shut.reverse := by
  have hnodes := h.pathNodes
  rw [Numbered.nodes_eq] at hnodes ⊢
  simp [Frame.take, hnodes, h.node_tree hstop, OpenPath.shut, h.current]

theorem fits_take (h : Lays p s items f g) : FitAll (g.take f.tree).done :=
  Numbered.fitAll_append.2 ⟨h.pathFits, h.fits_tree, trivial⟩

end Lays

theorem Reaches.nearest?_eq {b : Builder} {stop : ℕ} {fs : List Frame} (h : Reaches b stop fs)
    (kind : Node.Kind) :
    b.arena.nearest? b.cursor kind = (fs.find? fun g => g.form.kind = kind).map (·.id) := by
  obtain ⟨hstores, hcursor, -, -⟩ := h
  obtain _ | ⟨f, fs⟩ := fs
  · cases hcursor
  · rw [← Option.some.inj hcursor]
    exact Arena.Stores.nearest?_eq (l := []) hstores kind

/-- The first frame around a path is an alternation, if there is one. -/
theorem Encloses.find?_alternation {as : List OpenAlternation} {fs : List Frame}
    (h : Encloses as fs) :
    (fs.find? fun g => g.form.kind = .alternation).map (·.id) = innermost fs := by
  cases h with
  | nil => rfl
  | cons hform hstart hnodes hfits h hrest => simp [hform, Form.kind, innermost]

/-- The cells of a builder are those of frames of which the innermost one is the path at the
    cursor, when that is finished. It is what the builder finds upwards, and the alternation
    that it finds is the next frame. -/
structure Closes (b : Builder) (c : Cursor) (stop : ℕ) (g : Frame) (fs : List Frame) : Prop where
  stores : b.arena.Stores (spread none (g :: fs))
  encloses : Encloses c.enclosing fs
  form : g.form = .path c.path.absolute
  start : g.span.start = c.path.start
  nodes : nodes g.done = c.path.shut.reverse
  fits : FitAll g.done
  root : Rooted (g :: fs)
  stops : ∀ f ∈ g :: fs, f.span.stop = stop
  path : b.arena.nearest? b.cursor .path = some g.id
  alternation : b.arena.nearest? b.cursor .alternation = innermost fs

/-- The path below a segment at which nothing awaits a constraint. -/
theorem Lays.closes {b : Builder} {c : Cursor} {s : OpenSegment} {f g : Frame} {fs : List Frame}
    {stop : ℕ} (h : Lays c.path s s.settled f g) (hstop : c.path.EndsAt stop)
    (hrest : Encloses c.enclosing fs) (hstores : b.arena.Stores (spread none (f :: g :: fs)))
    (hroot : Rooted (f :: g :: fs)) (hstops : ∀ k ∈ f :: g :: fs, k.span.stop = stop)
    (hpath : b.arena.nearest? b.cursor .path = some g.id)
    (halternation : b.arena.nearest? b.cursor .alternation = innermost fs) :
    Closes b c stop (g.take f.tree) fs := by
  have hs : f.span.stop = s.stop := by
    rw [OpenPath.EndsAt, h.current] at hstop
    rw [hstops f (by simp), hstop.1]
  exact ⟨hstores.up, hrest, h.pathForm, h.pathStart, h.nodes_take hs, h.fits_take,
    Rooted.cons_iff.1 hroot, stops_take hstops _, hpath, halternation⟩

/-- The path at the cursor is finished. -/
theorem Shows.close {c : Cursor} {b : Builder} {stop : ℕ} {fs : List Frame} (hc : Shows c fs)
    (hb : Reaches b stop fs) (hstop : c.path.EndsAt stop) : ∃ g fs', Closes b c stop g fs' := by
  have hnearest := hb.nearest?_eq
  obtain ⟨hstores, -, hroot, hstops⟩ := hb
  cases hc with
  | @fresh g fs hempty hform hdone hrest =>
    have hpath : b.arena.nearest? b.cursor .path = some g.id := by
      simp [hnearest, hform, Form.kind]
    have halternation : b.arena.nearest? b.cursor .alternation = innermost fs := by
      simp [hnearest, hform, Form.kind, ← hrest.find?_alternation]
    refine ⟨g, fs, hstores, hrest, ?_, ?_, ?_, ?_, hroot, hstops, hpath, halternation⟩
    · rw [hform, hempty]
      rfl
    · rw [hempty]
      rfl
    · rw [hdone, hempty]
      rfl
    · rw [hdone]
      trivial
  | @within f hs fs h hrest =>
    cases h with
    | @plain s f g hs h =>
      have hpath : b.arena.nearest? b.cursor .path = some g.id := by
        simp [hnearest, h.segmentForm, h.pathForm, Form.kind]
      have halternation : b.arena.nearest? b.cursor .alternation = innermost fs := by
        simp [hnearest, h.segmentForm, h.pathForm, Form.kind, ← hrest.find?_alternation]
      rw [← OpenSegment.settled_of_none hs] at h
      exact ⟨_, _, h.closes hstop hrest hstores hroot hstops hpath halternation⟩
    | @awaiting s v f g span name hs h hv hstart hdone =>
      have hspan : v.span = span := hstop.span_eq h.current hs hstart (hstops v (by simp))
      have hpath : b.arena.nearest? b.cursor .path = some g.id := by
        simp [hnearest, hv, h.segmentForm, h.pathForm, Form.kind]
      have halternation : b.arena.nearest? b.cursor .alternation = innermost fs := by
        simp [hnearest, hv, h.segmentForm, h.pathForm, Form.kind, ← hrest.find?_alternation]
      have hclosed := h.settle hs hv hspan hdone
      exact ⟨_, _, hclosed.closes hstop hrest hstores.up (Rooted.cons_iff.1 hroot)
        (stops_take hstops _) hpath halternation⟩
  | @bound s v f g fs name t hv hdone hs h hrest =>
    have hform : f.form = .segment := h.segmentForm
    have hpath : b.arena.nearest? b.cursor .path = some g.id := by
      simp [hnearest, hv, hform, h.pathForm, Form.kind]
    have halternation : b.arena.nearest? b.cursor .alternation = innermost fs := by
      simp [hnearest, hv, hform, h.pathForm, Form.kind, ← hrest.find?_alternation]
    rw [← OpenSegment.settled_of_none hs] at h
    exact ⟨_, _, h.closes hstop hrest hstores.up (Rooted.cons_iff.1 hroot)
      (stops_take hstops _) hpath halternation⟩

end PathRouting.Pattern
