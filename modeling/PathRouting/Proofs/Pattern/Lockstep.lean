/-
  The two ways of building a pattern's tree, token by token.

  * `Follows`: a builder of cells is where a cursor of an unfinished tree is.
  * `Follows.leaf`, `Follows.altStart` and the like: so it is after each token.
  * `Follows.step`: a token that the one refuses the other one refuses, too.
  * `ofPattern_alike`: the cells of a pattern are those of its tree, and if it has none
    they are refused with the same error.
-/
import PathRouting.Proofs.Pattern.Building
import PathRouting.Proofs.Pattern.Streaming

namespace PathRouting.Pattern

open Numbered (nodes FitAll)

/-! ## Related results -/

section Alike

variable {ε α β γ δ σ τ : Type}

/-- Results that are related, or the same error. -/
inductive Alike (r : α → β → Prop) : Except ε α → Except ε β → Prop
  | ok {a : α} {b : β} : r a b → Alike r (.ok a) (.ok b)
  | error (e : ε) : Alike r (.error e) (.error e)

variable {r : α → β → Prop} {x : Except ε α} {y : Except ε β}

theorem Alike.bind {q : γ → δ → Prop} {f : α → Except ε γ} {g : β → Except ε δ} (h : Alike r x y)
    (hfg : ∀ a b, r a b → Alike q (f a) (g b)) : Alike q (x.bind f) (y.bind g) := by
  cases h with
  | ok h => exact hfg _ _ h
  | error e => exact .error e

theorem Alike.map_eq {f : α → γ} {g : β → γ} (h : Alike r x y) (hfg : ∀ a b, r a b → f a = g b) :
    x.map f = y.map g := by
  cases h with
  | ok h => exact congrArg Except.ok (hfg _ _ h)
  | error e => rfl

/-- Handlers that go together on each token go together on all tokens. -/
theorem Alike.feed {r : σ → τ → Prop} {f : σ → Token → Except ε σ} {g : τ → Token → Except ε τ}
    (h : ∀ s t, r s t → ∀ k, Alike r (f s k) (g t k)) {s : σ} {t : τ} (hst : r s t)
    (ks : List Token) : Alike r (feed f s ks) (feed g t ks) := by
  induction ks generalizing s t with
  | nil => exact .ok hst
  | cons k ks ih => exact (h s t hst k).bind fun _ _ h => ih h

end Alike

/-! ## Nodes that a path takes -/

namespace Lays

variable {p : OpenPath} {s : OpenSegment} {v f g : Frame} {t : Numbered} {n : Node}

/-- A segment takes a node. -/
theorem attach (h : Lays p s s.items f g) (hs : s.awaiting = none) (hn : t.node = n)
    (ht : t.Fits) : Lays (p.attach n) (s.attach n) (s.attach n).items (f.take t) g := by
  have hattach : p.attach n = { p with current := some (s.attach n) } := by
    simp [OpenPath.attach, h.current]
  have hitems : s.attach n = ⟨s.start, n.span.stop, n :: s.items, none⟩ := by
    simp [OpenSegment.attach, hs]
  have hnodes := h.segmentNodes
  rw [Numbered.nodes_eq] at hnodes
  rw [hattach, hitems]
  refine ⟨rfl, h.segmentForm, h.segmentStart, ?_,
    Numbered.fitAll_append.2 ⟨h.segmentFits, ht, trivial⟩, h.pathForm, h.pathStart, h.pathNodes,
    h.pathFits⟩
  simp [Numbered.nodes_eq, Frame.take, hnodes, hn]

/-- A variable takes a node as its constraint. -/
theorem constrain {span : Span} {name : Text} (h : Lays p s s.items f g)
    (hs : s.awaiting = some (span, name)) (hv : v.form = .variable name)
    (hstart : v.span.start = span.start) (hstop : v.span.stop = n.span.stop)
    (hdone : v.done = [t]) (hn : t.node = n) (ht : t.Fits) :
    Lays (p.attach n) (s.attach n) (s.attach n).items (f.take v.tree) g := by
  have hattach : p.attach n = { p with current := some (s.attach n) } := by
    simp [OpenPath.attach, h.current]
  have hitems : s.attach n = ⟨s.start, n.span.stop,
      .variable ⟨span.start, n.span.stop⟩ name (some n) :: s.items, none⟩ := by
    simp [OpenSegment.attach, hs]
  have hspan : v.span = ⟨span.start, n.span.stop⟩ := by rw [← hstart, ← hstop]
  have hfits : v.tree.Fits := by
    rw [Frame.tree, hv, hdone]
    exact ⟨rfl, ht, trivial⟩
  have hnodes := h.segmentNodes
  rw [Numbered.nodes_eq] at hnodes
  rw [hattach, hitems]
  refine ⟨rfl, h.segmentForm, h.segmentStart, ?_,
    Numbered.fitAll_append.2 ⟨h.segmentFits, hfits, trivial⟩, h.pathForm, h.pathStart, h.pathNodes,
    h.pathFits⟩
  simp [Numbered.nodes_eq, Frame.take, Frame.tree, Numbered.node, hnodes, hv, hspan, hdone, hn,
    Form.node]

/-- A segment at which nothing awaits a constraint goes on with a variable. -/
theorem attachVariable (h : Lays p s s.items f g) (hs : s.awaiting = none) (span : Span)
    (name : Text) : Lays (p.attachVariable span name) (s.attachVariable span name)
      (s.attachVariable span name).items f g := by
  have hattach : p.attachVariable span name =
      { p with current := some (s.attachVariable span name) } := by
    simp [OpenPath.attachVariable, h.current]
  have hitems : s.attachVariable span name = ⟨s.start, span.stop, s.items, some (span, name)⟩ := by
    simp [OpenSegment.attachVariable, OpenSegment.settled, hs]
  rw [hattach, hitems]
  exact ⟨rfl, h.segmentForm, h.segmentStart, h.segmentNodes, h.segmentFits, h.pathForm,
    h.pathStart, h.pathNodes, h.pathFits⟩

end Lays

/-! ## Each token -/

/-- A builder is where a cursor is. -/
def Follows (b : Builder) (c : Cursor) : Prop :=
  ∃ fs stop, Shows c fs ∧ Reaches b stop fs ∧ c.path.EndsAt stop ∧
    b.altDepth = c.enclosing.length

theorem OpenPath.endsAt_attach (p : OpenPath) (n : Node) : (p.attach n).EndsAt n.span.stop := by
  rw [OpenPath.EndsAt, OpenPath.attach_current]
  cases h : (p.opened n.span.start).awaiting <;> simp [OpenSegment.attach, h]

theorem OpenPath.endsAt_attachVariable (p : OpenPath) (span : Span) (name : Text) :
    (p.attachVariable span name).EndsAt span.stop := by
  rw [OpenPath.EndsAt, OpenPath.attachVariable_current]
  simp [OpenSegment.attachVariable]

/-- A text, a wildcard or a raw regular expression. -/
theorem Follows.leaf {b : Builder} {c : Cursor} (h : Follows b c) (form : Form)
    (hleaf : form.Admits []) (span : Span) :
    ∃ b', b.push (form.entry []) span = .ok b' ∧ Follows b' (c.attach (form.node span [])) := by
  obtain ⟨fs, stop, hc, hb, -, hdepth⟩ := h
  obtain ⟨b', seg, hs, fs', hpush, hdepth', hputs⟩ := hc.push hb form span
  obtain ⟨hstores, hcursor, hreceives, hrest, hroot, hstops⟩ := hputs
  let t : Numbered := (Frame.fresh b.arena.length form span).tree
  have hn : t.node = form.node span [] := rfl
  have ht : t.Fits := ⟨hleaf, trivial⟩
  have hstart : (form.node span []).span.start = span.start := by rw [Form.span_node]
  have hstop : (form.node span []).span.stop = span.stop := by rw [Form.span_node]
  have hpath : (c.path.withSegment span.start).attach (form.node span []) =
      c.path.attach (form.node span []) := by
    rw [← hstart, OpenPath.attach_withSegment]
  have hstops' : ∀ k ∈ Frame.fresh b.arena.length form span :: (hs ++ fs'),
      k.span.stop = span.stop := List.forall_mem_cons.2 ⟨rfl, hstops⟩
  have hends : (c.attach (form.node span [])).path.EndsAt span.stop := by
    rw [← hstop]
    exact OpenPath.endsAt_attach _ _
  refine ⟨b', hpush, ?_⟩
  cases hreceives with
  | @plain s _ g hs h =>
    have hlays := h.attach hs hn ht
    rw [hpath] at hlays
    have hnone := s.awaiting_attach (form.node span [])
    refine ⟨seg.take t :: g :: fs', span.stop, .within (.plain hnone hlays) hrest, ?_, hends,
      hdepth'.trans hdepth⟩
    exact ⟨hstores.up, congrArg some hcursor.symm, hroot, stops_take hstops' t⟩
  | @awaiting s v _ g sp name hs h hv hvstart hdone =>
    have hvstop : (v.take t).span.stop = (form.node span []).span.stop := by
      rw [hstop]
      exact hstops v (by simp)
    have hvdone : (v.take t).done = [t] := by simp [Frame.take, hdone]
    have hlays := h.constrain hs (v := v.take t) hv hvstart hvstop hvdone hn ht
    rw [hpath] at hlays
    have hnone := s.awaiting_attach (form.node span [])
    have htop := stops_take hstops' t
    refine ⟨seg.take (v.take t).tree :: g :: fs', span.stop, .within (.plain hnone hlays) hrest, ?_,
      hends, hdepth'.trans hdepth⟩
    exact ⟨hstores.up.up, congrArg some hcursor.symm, Rooted.cons_iff.1 hroot, stops_take htop _⟩

/-- The beginning of an alternation. -/
theorem Follows.altStart {b : Builder} {c : Cursor} (h : Follows b c) (span : Span) :
    ∃ b', b.step ⟨.altStart, span⟩ = .ok b' ∧
      Follows b' ⟨⟨c.path, span.start, []⟩ :: c.enclosing, .empty span.stop⟩ := by
  obtain ⟨fs, stop, hc, hb, -, hdepth⟩ := h
  obtain ⟨b', seg, hs, fs', hpush, hdepth', hputs⟩ := hc.push hb .alternation span
  obtain ⟨hstores, -, hreceives, hrest, hroot, hstops⟩ := hputs
  let alt : Frame := .fresh b.arena.length .alternation span
  let branch : Frame := .fresh b'.arena.length (.path false) ⟨span.stop, span.stop⟩
  have hgrow : (b'.openBranch alt.id span.stop).arena.Stores
      (spread none (branch :: alt :: (hs ++ fs'))) :=
    hstores.grow (.path false) ⟨span.stop, span.stop⟩ rfl rfl rfl
  have hencloses : Encloses (⟨c.path, span.start, []⟩ :: c.enclosing) (alt :: (hs ++ fs')) :=
    .cons rfl rfl rfl trivial hreceives hrest
  refine ⟨{ b'.openBranch alt.id span.stop with altDepth := b'.altDepth + 1 }, ?_,
    branch :: alt :: (hs ++ fs'), span.stop, .fresh rfl rfl rfl hencloses, ?_, rfl, ?_⟩
  · rw [Builder.step]
    change (b.push (Form.alternation.entry []) span).map _ = _
    rw [hpush]
    rfl
  · exact ⟨hgrow, rfl, (hroot.cons _).cons _,
      List.forall_mem_cons.2 ⟨rfl, List.forall_mem_cons.2 ⟨rfl, hstops⟩⟩⟩
  · change b'.altDepth + 1 = c.enclosing.length + 1
    rw [hdepth', hdepth]

/-! A variable leaves the one in front of it without a constraint. -/

/-- The path with the variable that awaits a constraint left without one. -/
def OpenPath.settled (p : OpenPath) : OpenPath :=
  match p.current with
  | some s => { p with current := some { s with items := s.settled, awaiting := none } }
  | none => p

theorem OpenPath.attachVariable_settled (p : OpenPath) (span : Span) (name : Text) :
    p.settled.attachVariable span name = p.attachVariable span name := by
  cases h : p.current with
  | none => simp [settled, h]
  | some s => simp [settled, attachVariable, h, OpenSegment.attachVariable, OpenSegment.settled]

theorem OpenPath.awaiting_settled {p : OpenPath} {s : OpenSegment} {start : ℕ}
    (h : (p.settled.withSegment start).current = some s) : s.awaiting = none := by
  cases hp : p.current with
  | none =>
    simp only [settled, withSegment, hp, Option.some.injEq] at h
    rw [← h]
  | some s' =>
    simp only [settled, withSegment, hp, Option.some.injEq] at h
    rw [← h]

theorem Lays.settled {p : OpenPath} {s : OpenSegment} {f g : Frame} (h : Lays p s s.settled f g) :
    Receives p.settled f [f, g] := by
  have hcurrent : p.settled =
      { p with current := some { s with items := s.settled, awaiting := none } } := by
    simp [OpenPath.settled, h.current]
  rw [hcurrent]
  exact .plain rfl ⟨rfl, h.segmentForm, h.segmentStart, h.segmentNodes, h.segmentFits, h.pathForm,
    h.pathStart, h.pathNodes, h.pathFits⟩

theorem Reaches.kind?_eq {b : Builder} {stop : ℕ} {f : Frame} {fs : List Frame}
    (h : Reaches b stop (f :: fs)) : b.arena.kind? b.cursor = some f.form.kind := by
  have hstores : b.arena.Stores ([] ++ spread none (f :: fs)) := h.stores
  have hid : f.id = b.cursor := Option.some.inj h.cursor
  rw [← hid, hstores.kind?_eq List.mem_cons_self]

theorem Reaches.parent?_eq {b : Builder} {stop : ℕ} {f : Frame} {fs : List Frame}
    (h : Reaches b stop (f :: fs)) : b.arena.parent? b.cursor = innermost fs := by
  have hstores : b.arena.Stores ([] ++ spread none (f :: fs)) := h.stores
  have hid : f.id = b.cursor := Option.some.inj h.cursor
  rw [← hid, hstores.parent?_eq]

theorem leaveVariable_of_ne {b : Builder} {stop : ℕ} {f : Frame} {fs : List Frame}
    (hb : Reaches b stop (f :: fs)) (hf : f.form.kind ≠ .variable) : b.leaveVariable = b := by
  simp [Builder.leaveVariable, hb.kind?_eq, hf]

theorem leaveVariable_of_variable {b : Builder} {stop : ℕ} {v f : Frame} {fs : List Frame}
    {name : Text} (hb : Reaches b stop (v :: f :: fs)) (hv : v.form = .variable name) :
    b.leaveVariable = { b with cursor := f.id } := by
  simp [Builder.leaveVariable, hb.kind?_eq, hb.parent?_eq, hv, Form.kind, innermost]

/-- A variable at the cursor is left. -/
theorem Shows.leaveVariable {b : Builder} {c : Cursor} {stop : ℕ} {fs : List Frame}
    (hc : Shows c fs) (hb : Reaches b stop fs) (hstop : c.path.EndsAt stop) :
    ∃ i fs', b.leaveVariable = { b with cursor := i } ∧
      Shows { c with path := c.path.settled } fs' ∧ Reaches { b with cursor := i } stop fs' := by
  let c' : Cursor := { c with path := c.path.settled }
  have hshows : ∀ {s f g fs}, Lays c.path s s.settled f g → Encloses c.enclosing fs →
      Shows c' (f :: g :: fs) := by
    intro s f g fs h hrest
    have hreceives : Receives c'.path f [f, g] := h.settled
    exact .within hreceives hrest
  -- A variable is finished whether it has a constraint or not.
  have hleave : ∀ {s v f g fs name}, Reaches b stop (v :: f :: g :: fs) → v.form = .variable name →
      Lays c.path s s.settled (f.take v.tree) g → Encloses c.enclosing fs →
      ∃ i fs', b.leaveVariable = { b with cursor := i } ∧ Shows c' fs' ∧
        Reaches { b with cursor := i } stop fs' := by
    intro s v f g fs name hb hv h hrest
    exact ⟨f.id, f.take v.tree :: g :: fs, leaveVariable_of_variable hb hv, hshows h hrest,
      hb.stores.up, rfl, Rooted.cons_iff.1 hb.root, stops_take hb.stops _⟩
  cases hc with
  | @fresh g fs hempty hform hdone hrest =>
    have hleft := leaveVariable_of_ne hb (by simp [hform, Form.kind])
    refine ⟨b.cursor, g :: fs, hleft, .fresh ?_ hform hdone hrest, hb⟩
    simp only [hempty]
    rfl
  | @within f hs fs h hrest =>
    cases h with
    | @plain s f g hs h =>
      have hleft := leaveVariable_of_ne hb (by simp [h.segmentForm, Form.kind])
      rw [← OpenSegment.settled_of_none hs] at h
      exact ⟨b.cursor, _, hleft, hshows h hrest, hb⟩
    | @awaiting s v f g span name hs h hv hstart hdone =>
      have hspan : v.span = span := hstop.span_eq h.current hs hstart (hb.stops v (by simp))
      exact hleave hb hv (h.settle hs hv hspan hdone) hrest
  | @bound s v f g fs name t hv hdone hs h hrest =>
    rw [← OpenSegment.settled_of_none hs] at h
    exact hleave hb hv h hrest

/-- A variable. -/
theorem Follows.variable {b : Builder} {c : Cursor} (h : Follows b c) (name : Text) (span : Span) :
    ∃ b', b.step ⟨.variable name, span⟩ = .ok b' ∧
      Follows b' { c with path := c.path.attachVariable span name } := by
  obtain ⟨fs, stop, hc, hb, hstop, hdepth⟩ := h
  obtain ⟨i, fs₁, hleft, hc₁, hb₁⟩ := hc.leaveVariable hb hstop
  obtain ⟨b', seg, hs, fs', hpush, hdepth', hputs⟩ := hc₁.push hb₁ (.variable name) span
  obtain ⟨hstores, -, hreceives, hrest, hroot, hstops⟩ := hputs
  let v : Frame := .fresh b.arena.length (.variable name) span
  refine ⟨{ b' with cursor := b.arena.length }, ?_, v :: (hs ++ fs'), span.stop, ?_,
    ⟨hstores, rfl, hroot.cons _, List.forall_mem_cons.2 ⟨rfl, hstops⟩⟩, ?_, hdepth'.trans hdepth⟩
  · rw [Builder.step]
    change (b.leaveVariable.push ((Form.variable name).entry []) span).map _ = _
    rw [hleft, hpush]
    rfl
  · rw [← OpenPath.attachVariable_settled, ← OpenPath.attachVariable_withSegment]
    cases hreceives with
    | @plain s _ g hs h =>
      have hlays := h.attachVariable hs span name
      let c' : Cursor :=
        { c with path := (c.path.settled.withSegment span.start).attachVariable span name }
      have hreceives : Receives c'.path seg [v, seg, g] := .awaiting rfl hlays rfl rfl rfl
      have hshows : Shows c' ([v, seg, g] ++ fs') := .within hreceives hrest
      exact hshows
    | awaiting hs h =>
      rw [OpenPath.awaiting_settled h.current] at hs
      cases hs
  · exact OpenPath.endsAt_attachVariable _ _ _

/-! Separators and ends finish the path at the cursor. -/

theorem Shows.begun {c : Cursor} {fs : List Frame} (h : Shows c fs) : c.path.Begun := by
  cases h with
  | fresh hpath => rw [hpath]; exact OpenPath.begun_empty _
  | within h =>
    cases h with
    | plain _ h => exact OpenPath.begun_of_current h.current
    | awaiting _ h => exact OpenPath.begun_of_current h.current
  | bound _ _ _ h => exact OpenPath.begun_of_current h.current

namespace Closes

variable {b : Builder} {c : Cursor} {stop : ℕ} {g : Frame} {fs : List Frame}

theorem fits_tree (h : Closes b c stop g fs) : g.tree.Fits := by
  refine ⟨?_, h.fits⟩
  rw [h.form]
  rfl

/-- The finished path. -/
theorem node_tree (h : Closes b c stop g fs) (hstop : c.path.EndsAt stop) :
    g.tree.node = c.path.close := by
  have hspan : g.span = ⟨c.path.start, stop⟩ := by rw [← h.start, ← h.stops g (by simp)]
  rw [Frame.tree, Numbered.node, h.form, h.nodes, hspan, OpenPath.close_eq hstop]
  rfl

end Closes

/-- A path behind which a separator stands. -/
theorem Closes.separate {b : Builder} {c : Cursor} {stop n : ℕ} {g : Frame} {fs : List Frame}
    (h : Closes b c stop g fs) (hbegun : c.path.Begun) (span : Span) :
    ∃ g' : Frame, g'.id = g.id ∧ g'.done = g.done ∧
      (g.cell none (innermost fs)).addSegment n span.start = g'.cell (some n) (innermost fs) ∧
      Lays (c.path.separate span) ⟨span.start, span.stop, [], none⟩ [] (.fresh n .segment span)
        g' := by
  cases hp : c.path.current with
  | none =>
    obtain ⟨hsegments, habsolute⟩ := hbegun hp
    have hdone : g.done = [] := by
      have hnodes := h.nodes
      rw [Numbered.nodes_eq] at hnodes
      simpa [OpenPath.shut, hp, hsegments] using hnodes
    refine ⟨{ g with form := .path true, span := { g.span with start := span.start } }, rfl, rfl,
      ?_, ?_⟩
    · simp [Cell.addSegment, Frame.cell, Frame.below, h.form, hdone, Form.entry]
    · refine ⟨OpenPath.separate_current _ _, rfl, rfl, rfl, trivial, ?_, ?_, ?_, h.fits⟩
      · simp [OpenPath.separate, hp]
      · simp [OpenPath.separate, hp]
      · simpa [OpenPath.separate, OpenPath.shut, hp] using h.nodes
  | some s =>
    have hdone : g.done ≠ [] := by
      intro hdone
      have hnodes := h.nodes
      rw [hdone] at hnodes
      simp [OpenPath.shut, hp, Numbered.nodes] at hnodes
    obtain ⟨t, ts, hts⟩ := List.exists_cons_of_ne_nil hdone
    refine ⟨g, rfl, rfl, ?_, ?_⟩
    · simp [Cell.addSegment, Frame.cell, Frame.below, h.form, hts, Form.entry, Cell.add, Entry.add]
    · refine ⟨OpenPath.separate_current _ _, rfl, rfl, rfl, trivial, ?_, ?_, ?_, h.fits⟩
      · simp [OpenPath.separate, hp, h.form]
      · simp [OpenPath.separate, hp, h.start]
      · simpa [OpenPath.separate, OpenPath.shut, hp] using h.nodes

/-- A separator. -/
theorem Follows.separate {b : Builder} {c : Cursor} (h : Follows b c) (span : Span) :
    ∃ b', b.step ⟨.pathSeparator, span⟩ = .ok b' ∧
      Follows b' { c with path := c.path.separate span } := by
  obtain ⟨fs, stop, hc, hb, hstop, hdepth⟩ := h
  obtain ⟨g, fs', hclosed⟩ := hc.close hb hstop
  obtain ⟨g', hid, hdone, hcell, hlays⟩ := hclosed.separate (n := b.arena.length) hc.begun span
  let f : Frame := .fresh b.arena.length .segment span
  have hgrow : ((b.arena.alloc ⟨.segment [], some g.id, span⟩).update g.id
      (·.addSegment b.arena.length span.start)).Stores (spread none (f :: g' :: fs')) :=
    hclosed.stores.grow .segment span hid hdone hcell
  have hend : (b.separate g.id span).arena.Stores
      (spread none ((f :: g' :: fs').map (·.setStop span.stop))) :=
    Arena.Stores.setEnd (l := []) hgrow span.stop
  let c' : Cursor := { c with path := c.path.separate span }
  let gs : List Frame := (f :: g' :: fs').map (·.setStop span.stop)
  have hreceives : Receives c'.path (f.setStop span.stop) ([f, g'].map (·.setStop span.stop)) :=
    (Receives.plain rfl hlays).setStop span.stop
  have hshows : Shows c' gs := .within hreceives (hclosed.encloses.setStop _)
  refine ⟨b.separate g.id span, ?_, gs, span.stop, hshows,
    ⟨hend, rfl, ?_, fun k => stop_of_mem_setStop⟩, ?_, hdepth⟩
  · simp [Builder.step, hclosed.path]
  · have hroot : Rooted (g' :: fs') := by
      rw [Rooted, List.map_cons, hid]
      exact hclosed.root
    exact (hroot.cons f).setStop _
  · simp [OpenPath.EndsAt]

/-- The cells of a builder are those of frames of which the innermost one is the open
    alternation around the cursor, when its branch at the cursor is finished. -/
structure Branches (b : Builder) (c : Cursor) (a : OpenAlternation) (as : List OpenAlternation)
    (alt f : Frame) (hs fs : List Frame) : Prop where
  stores : b.arena.Stores (spread none (alt :: (hs ++ fs)))
  form : alt.form = .alternation
  start : alt.span.start = a.start
  nodes : nodes alt.done = (c.path.close :: a.branches).reverse
  fits : FitAll alt.done
  receives : Receives (a.outer.withSegment a.start) f hs
  encloses : Encloses as fs
  root : Rooted (alt :: (hs ++ fs))
  nearest : b.arena.nearest? b.cursor .alternation = some alt.id

/-- The finished path at the cursor is a branch of the alternation around it. -/
theorem Closes.branches {b : Builder} {c : Cursor} {stop : ℕ} {g : Frame} {fs : List Frame}
    {a : OpenAlternation} {as : List OpenAlternation} (h : Closes b c stop g fs)
    (hstop : c.path.EndsAt stop) (hc : c.enclosing = a :: as) :
    ∃ alt f hs fs', Branches b c a as alt f hs fs' := by
  have hencloses := h.encloses
  have hnearest := h.alternation
  have hstores := h.stores
  have hroot := h.root
  rw [hc] at hencloses
  cases hencloses with
  | @cons _ _ alt f hs fs hform hstart hnodes hfits hreceives hrest =>
    refine ⟨alt.take g.tree, f, hs, fs, hstores.up, hform, hstart, ?_,
      Numbered.fitAll_append.2 ⟨hfits, h.fits_tree, trivial⟩, hreceives, hrest,
      Rooted.cons_iff.1 hroot, hnearest⟩
    rw [Numbered.nodes_eq] at hnodes ⊢
    simp [Frame.take, hnodes, h.node_tree hstop]

/-- A `,` in an alternation. -/
theorem Follows.altSeparator {b : Builder} {c : Cursor} {a : OpenAlternation}
    {as : List OpenAlternation} (h : Follows b c) (hc : c.enclosing = a :: as) (span : Span) :
    ∃ b', b.step ⟨.altSeparator, span⟩ = .ok b' ∧
      Follows b' ⟨{ a with branches := c.path.close :: a.branches } :: as, .empty span.stop⟩ := by
  obtain ⟨fs, stop, hshows, hb, hstop, hdepth⟩ := h
  obtain ⟨g, gs, hclosed⟩ := hshows.close hb hstop
  obtain ⟨alt, f, hs, fs', hbranches⟩ := hclosed.branches hstop hc
  let branch : Frame := .fresh b.arena.length (.path false) ⟨span.stop, span.stop⟩
  have hadd : (alt.cell none (innermost (hs ++ fs'))).add b.arena.length =
      alt.cell (some b.arena.length) (innermost (hs ++ fs')) := by
    simp [Cell.add, Frame.cell, Frame.below, hbranches.form, Form.entry, Entry.add]
  have hgrow : (b.openBranch alt.id span.stop).arena.Stores
      (spread none (branch :: alt :: (hs ++ fs'))) :=
    hbranches.stores.grow (.path false) ⟨span.stop, span.stop⟩ rfl rfl hadd
  have hend : ((b.openBranch alt.id span.stop).arena.setEnd branch.id span.stop).Stores
      (spread none ((branch :: alt :: (hs ++ fs')).map (·.setStop span.stop))) :=
    Arena.Stores.setEnd (l := []) hgrow span.stop
  have hencloses : Encloses ({ a with branches := c.path.close :: a.branches } :: as)
      (alt :: (hs ++ fs')) :=
    .cons hbranches.form hbranches.start hbranches.nodes hbranches.fits hbranches.receives
      hbranches.encloses
  let b' : Builder := { b.openBranch alt.id span.stop with
    arena := (b.openBranch alt.id span.stop).arena.setEnd branch.id span.stop }
  have hstep : b.step ⟨.altSeparator, span⟩ = .ok b' := by
    simp only [Builder.step, hbranches.nearest]
    rfl
  have hdepth' : b'.altDepth = (as.length + 1) := by
    change b.altDepth = _
    rw [hdepth, hc, List.length_cons]
  exact ⟨b', hstep, (branch :: alt :: (hs ++ fs')).map (·.setStop span.stop), span.stop,
    .fresh rfl rfl rfl (hencloses.setStop _), ⟨hend, rfl, (hbranches.root.cons _).setStop _,
      fun k => stop_of_mem_setStop⟩, rfl, hdepth'⟩

theorem step_altEnd {b : Builder} {span : Span} {i above : ℕ}
    (hnearest : b.arena.nearest? b.cursor .alternation = some i)
    (hparent : (b.arena.setEnd i span.stop).parent? i = some above) :
    b.step ⟨.altEnd, span⟩ = .ok ⟨b.arena.setEnd i span.stop, above, b.altDepth - 1⟩ := by
  simp [Builder.step, hnearest, hparent]

/-- The end of an alternation. -/
theorem Follows.altEnd {b : Builder} {c : Cursor} {a : OpenAlternation}
    {as : List OpenAlternation} (h : Follows b c) (hc : c.enclosing = a :: as) (span : Span) :
    ∃ b', b.step ⟨.altEnd, span⟩ = .ok b' ∧
      Follows b' ⟨as, a.outer.attach
        (.alternation ⟨a.start, span.stop⟩ (c.path.close :: a.branches).reverse)⟩ := by
  obtain ⟨fs, stop, hshows, hb, hstop, hdepth⟩ := h
  obtain ⟨g, gs, hclosed⟩ := hshows.close hb hstop
  obtain ⟨alt, f, hs, fs', hbranches⟩ := hclosed.branches hstop hc
  let n : Node := .alternation ⟨a.start, span.stop⟩ (c.path.close :: a.branches).reverse
  let alt' : Frame := alt.setStop span.stop
  let gs' : List Frame := (hs ++ fs').map (·.setStop span.stop)
  let a' : Arena := b.arena.setEnd alt.id span.stop
  have hend : a'.Stores ([] ++ spread none (alt' :: gs')) :=
    Arena.Stores.setEnd (l := []) hbranches.stores span.stop
  have hparent : a'.parent? alt.id = innermost gs' := hend.parent?_eq
  have hn : alt'.tree.node = n := by
    have hspan : alt'.span = ⟨a.start, span.stop⟩ := by
      rw [← hbranches.start]
      rfl
    have hnodes : nodes alt'.done = (c.path.close :: a.branches).reverse := hbranches.nodes
    have hform : alt'.form = .alternation := hbranches.form
    simp only [Frame.tree, Numbered.node, hform, hnodes, hspan, Form.node, n]
  have ht : alt'.tree.Fits := by
    refine ⟨?_, hbranches.fits⟩
    change alt.form.Admits _
    rw [hbranches.form]
    rfl
  have hpath : (a.outer.withSegment a.start).attach n = a.outer.attach n :=
    OpenPath.attach_withSegment a.outer n
  have hdepth' : b.altDepth - 1 = as.length := by
    rw [hdepth, hc, List.length_cons, Nat.add_sub_cancel]
  have hroot : Rooted (alt' :: gs') := hbranches.root.setStop _
  have hstops : ∀ k ∈ (alt :: (hs ++ fs')).map (·.setStop span.stop), k.span.stop = span.stop :=
    fun k => stop_of_mem_setStop
  have hrest := hbranches.encloses.setStop span.stop
  let c' : Cursor := ⟨as, a.outer.attach n⟩
  have hends : c'.path.EndsAt span.stop := OpenPath.endsAt_attach a.outer n
  have hreceives := hbranches.receives
  cases hreceives with
  | @plain s _ g hs h =>
    have hlays := (h.setStop span.stop).attach hs hn ht
    rw [hpath] at hlays
    have hnone := s.awaiting_attach n
    have hreceives : Receives c'.path ((f.setStop span.stop).take alt'.tree)
        [(f.setStop span.stop).take alt'.tree, g.setStop span.stop] := .plain hnone hlays
    exact ⟨⟨a', f.id, b.altDepth - 1⟩, step_altEnd hbranches.nearest hparent, _, span.stop,
      .within hreceives hrest, ⟨hend.up, rfl, Rooted.cons_iff.1 hroot, stops_take hstops _⟩, hends,
      hdepth'⟩
  | @awaiting s v _ g sp name hs h hv hvstart hdone =>
    let v' : Frame := (v.setStop span.stop).take alt'.tree
    have hvdone : v'.done = [alt'.tree] := by
      change v.done ++ [alt'.tree] = _
      rw [hdone, List.nil_append]
    have hlays := (h.setStop span.stop).constrain hs (v := v') hv hvstart rfl hvdone hn ht
    rw [hpath] at hlays
    have hnone := s.awaiting_attach n
    have hshows : Shows c' (v' :: f.setStop span.stop :: g.setStop span.stop ::
        fs'.map (·.setStop span.stop)) := .bound hv hvdone hnone hlays hrest
    exact ⟨⟨a', v.id, b.altDepth - 1⟩, step_altEnd hbranches.nearest hparent, _, span.stop,
      hshows, ⟨hend.up, rfl, Rooted.cons_iff.1 hroot, stops_take hstops _⟩, hends, hdepth'⟩

/-! ## All tokens -/

theorem follows_initial : Follows .initial .initial := by
  let root : Frame := .fresh 0 (.path false) ⟨0, 0⟩
  have hstores : Arena.empty.Stores (spread none [root]) := by
    refine ⟨fun x hx => ?_, .refl _⟩
    rw [List.mem_singleton.1 hx]
    rfl
  have hshows : Shows .initial [root] := .fresh rfl rfl rfl .nil
  exact ⟨[root], 0, hshows, ⟨hstores, rfl, rfl, List.forall_mem_cons.2 ⟨rfl, by simp⟩⟩, rfl, rfl⟩

/-- Outside of alternations none is found upwards. -/
theorem Follows.nearest?_eq_none_iff {b : Builder} {c : Cursor} (h : Follows b c) :
    b.arena.nearest? b.cursor .alternation = none ↔ c.enclosing = [] := by
  obtain ⟨fs, stop, hshows, hb, hstop, -⟩ := h
  obtain ⟨g, gs, hclosed⟩ := hshows.close hb hstop
  have hencloses := hclosed.encloses
  rw [hclosed.alternation]
  generalize c.enclosing = as at hencloses
  cases hencloses with
  | nil => exact iff_of_true rfl rfl
  | cons => exact iff_of_false (by simp [innermost]) (by simp)

/-- A token. -/
theorem Follows.step {b : Builder} {c : Cursor} (h : Follows b c) (t : Token) :
    Alike Follows (b.step t) (c.step t) := by
  have hok : ∀ {x : Except PatternError Builder} {c' : Cursor}, (∃ b', x = .ok b' ∧ Follows b' c') →
      Alike Follows x (.ok c') := by
    rintro x c' ⟨b', rfl, h⟩
    exact .ok h
  obtain ⟨lexeme, span⟩ := t
  cases lexeme with
  | text value => exact hok (h.leaf (.text value) rfl span)
  | wildcard greedy => exact hok (h.leaf (.wildcard greedy) rfl span)
  | regexp body => exact hok (h.leaf (.regexp body) rfl span)
  | «variable» name => exact hok (h.variable name span)
  | pathSeparator => exact hok (h.separate span)
  | altStart => exact hok (h.altStart span)
  | altSeparator =>
    cases hc : c.enclosing with
    | nil =>
      have hnone := h.nearest?_eq_none_iff.2 hc
      simp only [Builder.step, Cursor.step, hnone, hc]
      exact .error _
    | cons a as =>
      simp only [Cursor.step, hc]
      exact hok (h.altSeparator hc span)
  | altEnd =>
    cases hc : c.enclosing with
    | nil =>
      have hnone := h.nearest?_eq_none_iff.2 hc
      simp only [Builder.step, Cursor.step, hnone, hc]
      exact .error _
    | cons a as =>
      simp only [Cursor.step, hc]
      exact hok (h.altEnd hc span)

/-- The number of open alternations is that of the cursor. -/
theorem Follows.altDepth_eq {b : Builder} {c : Cursor} (h : Follows b c) :
    b.altDepth = c.enclosing.length :=
  h.elim fun _ ⟨_, _, _, _, hdepth⟩ => hdepth

/-- Outside of alternations, the cells are those of the finished tree. -/
theorem Follows.finish {b : Builder} {c : Cursor} (h : Follows b c) (hc : c.enclosing = []) :
    ∃ t : Numbered, b.arena.Stores (t.cells none) ∧ t.Fits ∧ t.id = 0 ∧ t.node = c.path.close := by
  obtain ⟨fs, stop, hshows, hb, hstop, -⟩ := h
  obtain ⟨g, gs, hclosed⟩ := hshows.close hb hstop
  have hencloses := hclosed.encloses
  rw [hc] at hencloses
  cases hencloses
  have hstores := hclosed.stores
  have hcells : spread none [g] = g.tree.cells none := by
    simp [spread, Frame.tree, Numbered.cells, Frame.cell, Frame.below, innermost]
  rw [hcells] at hstores
  exact ⟨g.tree, hstores, hclosed.fits_tree, Option.some.inj hclosed.root, hclosed.node_tree hstop⟩

/-- What the end of a pattern makes of a builder. -/
def Builder.finish (b : Builder) (consumed length : ℕ) : Except PatternError Arena :=
  if consumed ≠ length then .error (.unexpectedSyntax consumed)
  else if b.altDepth ≠ 0 then .error (.unterminatedAlternation consumed)
  else .ok b.arena

theorem ofPattern_eq_feed (pattern : Text) :
    Arena.ofPattern pattern = (feed Builder.step .initial (tokens pattern).1).bind fun b =>
      b.finish (tokens pattern).2 pattern.length := by
  rw [Arena.ofPattern, stream_eq_feed]
  cases feed Builder.step .initial (tokens pattern).1 <;> rfl

theorem follows_feed (ts : List Token) :
    Alike Follows (feed Builder.step .initial ts) (feed Cursor.step .initial ts) :=
  Alike.feed (fun _ _ h => h.step) follows_initial ts

/-- **Cells and trees.** The cells of a pattern are those of its tree. A pattern without a
    tree has no cells either, for the same reason. -/
theorem ofPattern_alike (pattern : Text) :
    Alike (fun a root => ∃ t : Numbered, a.Stores (t.cells none) ∧ t.Fits ∧ t.id = 0 ∧
      t.node = root) (Arena.ofPattern pattern) (parse pattern) := by
  rw [ofPattern_eq_feed, parse_eq_feed]
  refine (follows_feed _).bind fun b c h => ?_
  have hle := consumed_le_length pattern
  unfold Builder.finish Cursor.finish
  by_cases hlt : (tokens pattern).2 < pattern.length
  · rw [if_pos hlt.ne, if_pos hlt]
    exact .error _
  · rw [if_neg (by omega), if_neg hlt, h.altDepth_eq]
    cases hc : c.enclosing with
    | nil => exact .ok (h.finish hc)
    | cons a as => exact .error _

end PathRouting.Pattern
