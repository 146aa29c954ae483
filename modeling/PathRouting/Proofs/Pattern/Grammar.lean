/-
  The nodes of a tree and the tokens that they were read from.

  A node stands where its tokens stand. There are two exceptions: a segment behind a
  separator begins with that separator, and an empty path stands behind the token in front
  of it.

  * `extent`: where some tokens stand, from the start of the first to the end of the last.
  * `ItemOf`, `ItemsOf`, `SegmentsOf`, `PathOf`, `BranchesOf`: nodes that were read from
    some tokens, and where they stand.
  * `Cursor.ReadFrom`: an unfinished tree that was read from some tokens.
    `Cursor.ReadFrom.step`: a token is added at their end.
  * `pathOf_parse`: the tree of a pattern was read from the tokens of the pattern.
-/
import PathRouting.Proofs.Pattern.Streaming

namespace PathRouting.Pattern

/-! ## Where tokens stand -/

/-- From the start of the first of some tokens to the end of the last one. -/
def extent (ts : List Token) : Span :=
  ⟨(ts.head?.map (·.span.start)).getD 0, (ts.getLast?.map (·.span.stop)).getD 0⟩

section
variable {ts us : List Token}

theorem extent_singleton (t : Token) : extent [t] = t.span := rfl

theorem extent_start_append (h : ts ≠ []) (us : List Token) :
    (extent (ts ++ us)).start = (extent ts).start := by
  cases ts with
  | nil => exact absurd rfl h
  | cons t ts => rfl

theorem extent_start_snoc (ts : List Token) (t : Token) (us : List Token) :
    (extent (ts ++ [t])).start = (extent (ts ++ t :: us)).start := by
  cases ts <;> rfl

theorem extent_stop_append (ts : List Token) (h : us ≠ []) :
    (extent (ts ++ us)).stop = (extent us).stop := by
  rw [extent, extent, List.getLast?_append_of_ne_nil _ h]

theorem extent_append (ht : ts ≠ []) (hu : us ≠ []) :
    extent (ts ++ us) = ⟨(extent ts).start, (extent us).stop⟩ := by
  rw [← extent_start_append ht us, ← extent_stop_append ts hu]

end

/-! ## Finished nodes -/

mutual

/-- What stands in a segment. A text, a wildcard and a raw regular expression stand where
    their token stands, a variable stands there too, but goes on to the end of its
    constraint, and an alternation goes from its `{` up to its `}`. -/
inductive ItemOf : List Token → Node → Prop
  | text {span value} : ItemOf [⟨.text value, span⟩] (.text span value)
  | wildcard {span greedy} : ItemOf [⟨.wildcard greedy, span⟩] (.wildcard span greedy)
  | regexp {span body} : ItemOf [⟨.regexp body, span⟩] (.regexp span body)
  | variable {span name} : ItemOf [⟨.variable name, span⟩] (.variable span name none)
  | constrained {span name ts c} : ItemOf ts c →
      ItemOf (⟨.variable name, span⟩ :: ts) (.variable ⟨span.start, c.span.stop⟩ name (some c))
  | alternation {first ts branches here us n last} : first.lexeme = .altStart →
      BranchesOf first.span.stop ts branches here → PathOf here us n → last.lexeme = .altEnd →
      ItemOf (first :: ts ++ us ++ [last])
        (.alternation ⟨first.span.start, last.span.stop⟩ (branches ++ [n]))

/-- Items one after the other. -/
inductive ItemsOf : List Token → List Node → Prop
  | nil : ItemsOf [] []
  | snoc {ts ns us n} : ItemsOf ts ns → ItemOf us n → ItemsOf (ts ++ us) (ns ++ [n])

/-- Segments one after the other. Each stands behind a separator and begins with it, but for
    the first one of a path that is not absolute. -/
inductive SegmentsOf : Bool → List Token → List Node → Prop
  | absolute : SegmentsOf true [] []
  | relative {ts items} : ts ≠ [] → ItemsOf ts items →
      SegmentsOf false ts [.segment (extent ts) items]
  | snoc {absolute ts ns separator us items} : SegmentsOf absolute ts ns →
      separator.lexeme = .pathSeparator → ItemsOf us items →
      SegmentsOf absolute (ts ++ separator :: us)
        (ns ++ [.segment (extent (separator :: us)) items])

/-- A path. If it is empty, it stands at the place `here`. -/
inductive PathOf : ℕ → List Token → Node → Prop
  | empty {here} : PathOf here [] (.path ⟨here, here⟩ false [])
  | full {here absolute ts ns} : SegmentsOf absolute ts ns → ts ≠ [] →
      PathOf here ts (.path (extent ts) absolute ns)

/-- Paths one after the other, each with a `,` behind it: where they begin, and where the
    last `,` ends. -/
inductive BranchesOf : ℕ → List Token → List Node → ℕ → Prop
  | nil {here} : BranchesOf here [] [] here
  | snoc {first ts ns here us n separator} : BranchesOf first ts ns here → PathOf here us n →
      separator.lexeme = .altSeparator →
      BranchesOf first (ts ++ us ++ [separator]) (ns ++ [n]) separator.span.stop

end

/-- An item stands where its tokens stand. -/
theorem ItemOf.span_eq : ∀ {ts : List Token} {n : Node}, ItemOf ts n →
    ts ≠ [] ∧ n.span = extent ts
  | _, _, .text | _, _, .wildcard | _, _, .regexp | _, _, .variable => ⟨List.cons_ne_nil _ _, rfl⟩
  | _, _, @ItemOf.constrained span name ts c h => by
    obtain ⟨hne, hc⟩ := h.span_eq
    refine ⟨List.cons_ne_nil _ _, ?_⟩
    rw [← List.singleton_append, extent_append (List.cons_ne_nil _ _) hne, ← hc]
    rfl
  | _, _, @ItemOf.alternation first ts _ _ us _ last _ _ _ _ => by
    have hne : first :: ts ++ us ≠ [] := List.cons_ne_nil _ _
    refine ⟨List.cons_ne_nil _ _, ?_⟩
    rw [extent_append hne (List.cons_ne_nil last [])]
    rfl

/-- So does the path of a whole pattern, even if it is empty. -/
theorem PathOf.span_eq {ts : List Token} {n : Node} (h : PathOf 0 ts n) : n.span = extent ts := by
  cases h with
  | empty => rfl
  | full => rfl

/-! ## Unfinished nodes -/

namespace OpenSegment

variable {s : OpenSegment} {front ts us : List Token} {n : Node}

/-- The items of an unfinished segment, of which the last one may await a constraint. -/
inductive ItemsRead : OpenSegment → List Token → Prop
  | settled {start stop items ts} : ItemsOf ts items.reverse →
      ItemsRead ⟨start, stop, items, none⟩ ts
  | awaiting {start stop items ts span name} : ItemsOf ts items.reverse →
      ItemsRead ⟨start, stop, items, some (span, name)⟩ (ts ++ [⟨.variable name, span⟩])

/-- An unfinished segment was read from some tokens; those in `front` belong to it as its
    separator. -/
structure ReadFrom (front : List Token) (s : OpenSegment) (ts : List Token) : Prop where
  items : s.ItemsRead ts
  span : (⟨s.start, s.stop⟩ : Span) = extent (front ++ ts)

theorem ItemsRead.settle (h : s.ItemsRead ts) : ItemsOf ts s.settled.reverse := by
  cases h with
  | settled h => exact h
  | awaiting h =>
    rw [OpenSegment.settled, List.reverse_cons]
    exact h.snoc .variable

theorem ItemsRead.attach (h : s.ItemsRead ts) (hn : ItemOf us n) :
    (s.attach n).ItemsRead (ts ++ us) := by
  cases h with
  | settled h =>
    refine .settled ?_
    rw [List.reverse_cons]
    exact h.snoc hn
  | awaiting h =>
    refine .settled ?_
    rw [List.reverse_cons, List.append_assoc]
    exact h.snoc hn.constrained

theorem ItemsRead.attachVariable (h : s.ItemsRead ts) (span : Span) (name : Text) :
    (s.attachVariable span name).ItemsRead (ts ++ [⟨.variable name, span⟩]) :=
  .awaiting h.settle

theorem attach_start (s : OpenSegment) (n : Node) : (s.attach n).start = s.start := by
  unfold attach
  split <;> rfl

theorem attach_stop (s : OpenSegment) (n : Node) : (s.attach n).stop = n.span.stop := by
  unfold attach
  split <;> rfl

theorem ReadFrom.attach (h : s.ReadFrom front ts) (hne : front ++ ts ≠ []) (hn : ItemOf us n) :
    (s.attach n).ReadFrom front (ts ++ us) := by
  obtain ⟨hus, hspan⟩ := hn.span_eq
  refine ⟨h.items.attach hn, ?_⟩
  rw [attach_start, attach_stop, ← List.append_assoc, extent_append hne hus, ← h.span, ← hspan]

theorem ReadFrom.attachVariable (h : s.ReadFrom front ts) (hne : front ++ ts ≠ [])
    (span : Span) (name : Text) :
    (s.attachVariable span name).ReadFrom front (ts ++ [⟨.variable name, span⟩]) := by
  refine ⟨h.items.attachVariable span name, ?_⟩
  rw [← List.append_assoc, extent_append hne (List.cons_ne_nil _ _), ← h.span, extent_singleton]
  rfl

/-- A first segment begins with its first item. -/
theorem readFrom_attach (hn : ItemOf us n) :
    (attach ⟨n.span.start, n.span.start, [], none⟩ n).ReadFrom [] us := by
  have hitems : ItemsRead ⟨n.span.start, n.span.start, [], none⟩ [] := .settled .nil
  exact ⟨hitems.attach hn, hn.span_eq.2⟩

theorem readFrom_attachVariable (span : Span) (name : Text) :
    (attachVariable ⟨span.start, span.start, [], none⟩ span name).ReadFrom []
      [⟨.variable name, span⟩] := by
  have hitems : ItemsRead ⟨span.start, span.start, [], none⟩ [] := .settled .nil
  exact ⟨hitems.attachVariable span name, rfl⟩

theorem ReadFrom.close_eq (h : s.ReadFrom front ts) :
    s.close = .segment (extent (front ++ ts)) s.settled.reverse := by
  rw [close, h.span]

end OpenSegment

namespace OpenPath

variable {p : OpenPath} {here : ℕ} {ts us : List Token} {n : Node} {t : Token}

/-- An unfinished path from the place `here` on was read from some tokens. -/
inductive ReadFrom (here : ℕ) : OpenPath → List Token → Prop
  | empty : ReadFrom here (.empty here) []
  | first {start s ts} : start = (extent ts).start → ts ≠ [] → s.ReadFrom [] ts →
      ReadFrom here ⟨start, false, [], some s⟩ ts
  | later {start absolute segments us separator s ts} :
      start = (extent (us ++ [separator])).start →
      SegmentsOf absolute us segments.reverse → separator.lexeme = .pathSeparator →
      s.ReadFrom [separator] ts →
      ReadFrom here ⟨start, absolute, segments, some s⟩ (us ++ separator :: ts)

theorem ReadFrom.attach (h : p.ReadFrom here ts) (hn : ItemOf us n) :
    (p.attach n).ReadFrom here (ts ++ us) := by
  cases h with
  | empty =>
    obtain ⟨hne, hspan⟩ := hn.span_eq
    exact .first (congrArg Span.start hspan) hne (OpenSegment.readFrom_attach hn)
  | first hstart hne hs =>
    refine .first ?_ (List.append_ne_nil_of_left_ne_nil hne us) (hs.attach hne hn)
    rw [hstart, extent_start_append hne]
  | @later start absolute segments vs separator s ts hstart hsegments hl hs =>
    rw [List.append_assoc, List.cons_append]
    exact .later hstart hsegments hl (hs.attach (List.cons_ne_nil _ _) hn)

theorem ReadFrom.attachVariable (h : p.ReadFrom here ts) (span : Span) (name : Text) :
    (p.attachVariable span name).ReadFrom here (ts ++ [⟨.variable name, span⟩]) := by
  cases h with
  | empty => exact .first rfl (List.cons_ne_nil _ _) (OpenSegment.readFrom_attachVariable span name)
  | first hstart hne hs =>
    refine .first ?_ (by simp) (hs.attachVariable hne span name)
    rw [hstart, extent_start_append hne]
  | @later start absolute segments vs separator s ts hstart hsegments hl hs =>
    rw [List.append_assoc, List.cons_append]
    exact .later hstart hsegments hl (hs.attachVariable (List.cons_ne_nil _ _) span name)

theorem ReadFrom.separate (h : p.ReadFrom here ts) (ht : t.lexeme = .pathSeparator) :
    (p.separate t.span).ReadFrom here (ts ++ [t]) := by
  have hs : OpenSegment.ReadFrom [t] ⟨t.span.start, t.span.stop, [], none⟩ [] :=
    ⟨.settled .nil, rfl⟩
  cases h with
  | empty =>
    have hnone : SegmentsOf true [] [].reverse := .absolute
    exact .later rfl hnone ht hs
  | @first start s ts hstart hne hfirst =>
    refine .later ?_ ?_ ht hs
    · rw [hstart, extent_start_append hne]
    · rw [hfirst.close_eq]
      exact .relative hne hfirst.items.settle
  | @later start absolute segments us separator s ts hstart hsegments hl hlast =>
    refine .later ?_ ?_ ht hs
    · rw [hstart, extent_start_snoc us separator (ts ++ [t]), List.append_assoc,
        List.cons_append]
    · rw [List.reverse_cons, hlast.close_eq]
      exact hsegments.snoc hl hlast.items.settle

theorem ReadFrom.close (h : p.ReadFrom here ts) : PathOf here ts p.close := by
  cases h with
  | empty => exact .empty
  | @first start s ts hstart hne hs =>
    have hspan : (⟨start, s.stop⟩ : Span) = extent ts := by
      have hstop : s.stop = (extent ts).stop := congrArg Span.stop hs.span
      rw [hstart, hstop]
    rw [OpenPath.close]
    dsimp only
    rw [hspan, hs.close_eq]
    exact .full (.relative hne hs.items.settle) hne
  | @later start absolute segments us separator s ts hstart hsegments hl hs =>
    have hspan : (⟨start, s.stop⟩ : Span) = extent (us ++ separator :: ts) := by
      have hstop : s.stop = (extent (separator :: ts)).stop := congrArg Span.stop hs.span
      rw [hstart, hstop, extent_start_snoc us separator ts,
        ← extent_stop_append us (List.cons_ne_nil _ _)]
    rw [OpenPath.close]
    dsimp only
    rw [hspan, List.reverse_cons, hs.close_eq]
    exact .full (hsegments.snoc hl hs.items.settle) (by simp)

end OpenPath

/-! ## Open alternations -/

/-- The open alternations around a path, the place where it begins, which is behind a `{` or a
    `,`, and the tokens in front of it. -/
inductive Surrounds : List OpenAlternation → ℕ → List Token → Prop
  | outside : Surrounds [] 0 []
  | within {as outside front outer us first vs branches here} : Surrounds as outside front →
      outer.ReadFrom outside us → first.lexeme = .altStart →
      BranchesOf first.span.stop vs branches.reverse here →
      Surrounds (⟨outer, first.span.start, branches⟩ :: as) here (front ++ us ++ first :: vs)

namespace Cursor

variable {c c' : Cursor} {ts us : List Token} {t : Token} {n : Node}

/-- An unfinished tree was read from some tokens. -/
inductive ReadFrom : Cursor → List Token → Prop
  | mk {as p here front us} : Surrounds as here front → p.ReadFrom here us →
      ReadFrom ⟨as, p⟩ (front ++ us)

theorem readFrom_initial : initial.ReadFrom [] :=
  .mk .outside .empty

theorem ReadFrom.of_eq (h : c.ReadFrom ts) (hts : ts = us) : c.ReadFrom us :=
  hts ▸ h

theorem ReadFrom.attach (h : c.ReadFrom ts) (hn : ItemOf us n) :
    (c.attach n).ReadFrom (ts ++ us) := by
  obtain ⟨has, hp⟩ := h
  rw [List.append_assoc]
  exact .mk has (hp.attach hn)

/-- A token is read at the end. -/
theorem ReadFrom.step (h : c.ReadFrom ts) (hstep : c.step t = .ok c') :
    c'.ReadFrom (ts ++ [t]) := by
  cases step_eq_ok.1 hstep with
  | text => exact h.attach .text
  | wildcard => exact h.attach .wildcard
  | regexp => exact h.attach .regexp
  | @named _ span name =>
    obtain ⟨has, hp⟩ := h
    rw [List.append_assoc]
    exact .mk has (hp.attachVariable span name)
  | @pathSeparator _ span =>
    obtain ⟨has, hp⟩ := h
    have hseparated := hp.separate (t := ⟨.pathSeparator, span⟩) rfl
    rw [List.append_assoc]
    exact .mk has hseparated
  | @altStart _ span =>
    -- an empty path begins behind a `{` or a `,`
    obtain ⟨has, hp⟩ := h
    have hfirst : (⟨.altStart, span⟩ : Token).lexeme = .altStart := rfl
    have hnone : BranchesOf span.stop [] [].reverse span.stop := .nil
    have hopened := ReadFrom.mk (.within has hp hfirst hnone) .empty
    rwa [List.append_nil] at hopened
  | @altSeparator _ _ _ span =>
    obtain ⟨has, hp⟩ := h
    have hlast : (⟨.altSeparator, span⟩ : Token).lexeme = .altSeparator := rfl
    cases has with
    | within has ho hfirst hb =>
      have hbranches := hb.snoc hp.close hlast
      rw [← List.reverse_cons] at hbranches
      exact .of_eq (.mk (.within has ho hfirst hbranches) .empty) (by simp)
  | @altEnd _ _ _ span =>
    obtain ⟨has, hp⟩ := h
    have hlast : (⟨.altEnd, span⟩ : Token).lexeme = .altEnd := rfl
    cases has with
    | within has ho hfirst hb =>
      rw [List.reverse_cons]
      exact .of_eq (.mk has (ho.attach (.alternation hfirst hb hp.close hlast))) (by simp)

end Cursor

/-- The tree of a pattern was read from the tokens of the pattern. -/
theorem pathOf_parse {pattern : Text} {root : Node} (h : parse pattern = .ok root) :
    PathOf 0 (tokens pattern).1 root := by
  have hstep : ∀ us (c c' : Cursor), ∀ t ∈ (tokens pattern).1,
      c.ReadFrom us → c.step t = .ok c' → c'.ReadFrom (us ++ [t]) :=
    fun _ _ _ _ _ hc hstep => hc.step hstep
  obtain ⟨p, hread, rfl⟩ := parse_induction (P := fun ts c => c.ReadFrom ts) h
    Cursor.readFrom_initial hstep
  generalize (tokens pattern).1 = ts at hread
  obtain ⟨⟨⟩, hp⟩ := hread
  exact hp.close

end PathRouting.Pattern
