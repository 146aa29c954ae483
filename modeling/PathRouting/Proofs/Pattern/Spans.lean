/-
  Where the nodes of a tree stand.

  * `Lined`: spans one behind the other between two places. The tokens of a pattern are
    (`tokens_lined`).
  * `Node.Framed`: the nodes right below a node are lined up inside of it, and so on below
    them. A tree that was read from tokens in line is (`PathOf.framed`).
  * `parse_spans`: the nodes of a pattern's tree stand where the tokens of the pattern stand,
    and are lined up so.
-/
import PathRouting.Proofs.Pattern.Covering
import PathRouting.Proofs.Pattern.Grammar
import PathRouting.Proofs.Pattern.Links

namespace PathRouting.Pattern

/-! ## Spans in line -/

/-- Spans stand one behind the other, from one place up to another. -/
def Lined : ℕ → ℕ → List Span → Prop
  | low, high, [] => low ≤ high
  | low, high, s :: ss => low ≤ s.start ∧ s.start ≤ s.stop ∧ Lined s.stop high ss

section
variable {low low' mid high high' : ℕ} {s : Span} {ss ss' : List Span} {ts us : List Token}

theorem Lined.le (h : Lined low high ss) : low ≤ high := by
  induction ss generalizing low with
  | nil => exact h
  | cons s ss ih =>
    have := ih h.2.2
    have := h.1
    have := h.2.1
    omega

/-- The same between places further apart. -/
theorem Lined.mono (h : Lined low high ss) (hlow : low' ≤ low) (hhigh : high ≤ high') :
    Lined low' high' ss := by
  induction ss generalizing low low' with
  | nil => exact (hlow.trans h).trans hhigh
  | cons s ss ih => exact ⟨hlow.trans h.1, h.2.1, ih h.2.2 le_rfl⟩

theorem Lined.append (h : Lined low mid ss) (h' : Lined mid high ss') :
    Lined low high (ss ++ ss') := by
  induction ss generalizing low with
  | nil => exact h'.mono h le_rfl
  | cons s ss ih => exact ⟨h.1, h.2.1, ih h.2.2⟩

theorem Lined.split (h : Lined low high (ss ++ ss')) :
    ∃ mid, Lined low mid ss ∧ Lined mid high ss' := by
  induction ss generalizing low with
  | nil => exact ⟨low, le_refl low, h⟩
  | cons s ss ih =>
    obtain ⟨mid, hs, hs'⟩ := ih h.2.2
    exact ⟨mid, ⟨h.1, h.2.1, hs⟩, hs'⟩

/-- Each of them lies between the two places. -/
theorem Lined.between (h : Lined low high ss) (hs : s ∈ ss) :
    low ≤ s.start ∧ s.start ≤ s.stop ∧ s.stop ≤ high := by
  obtain ⟨ss, ss', rfl⟩ := List.append_of_mem hs
  obtain ⟨mid, hfront, hstart, hle, hrest⟩ := h.split
  exact ⟨hfront.le.trans hstart, hle, hrest.le⟩

theorem Lined.pairwise (h : Lined low high ss) : ss.Pairwise fun s s' => s.stop ≤ s'.start := by
  induction ss generalizing low with
  | nil => exact .nil
  | cons s ss ih => exact .cons (fun s' hs' => (h.2.2.between hs').1) (ih h.2.2)

/-- Tokens in line are so where they stand. -/
theorem Lined.tight (h : Lined low high (ts.map Token.span)) (hne : ts ≠ []) :
    low ≤ (extent ts).start ∧ (extent ts).stop ≤ high ∧
      Lined (extent ts).start (extent ts).stop (ts.map Token.span) := by
  induction ts generalizing low with
  | nil => exact absurd rfl hne
  | cons t ts ih =>
    obtain ⟨hlow, hle, hrest⟩ := h
    by_cases hts : ts = []
    · subst hts
      exact ⟨hlow, hrest, le_refl _, hle, le_refl _⟩
    · obtain ⟨hstart, hstop, hlined⟩ := ih hrest hts
      have hextent : extent (t :: ts) = ⟨t.span.start, (extent ts).stop⟩ :=
        extent_append (List.cons_ne_nil t []) hts
      rw [hextent]
      exact ⟨hlow, hstop, le_refl _, hle, hlined.mono hstart le_rfl⟩

/-- Where tokens in line stand is a span in line. -/
theorem Lined.extent (h : Lined low high (ts.map Token.span)) (hne : ts ≠ []) :
    Lined low high [extent ts] :=
  let ⟨hstart, hstop, hlined⟩ := h.tight hne
  ⟨hstart, hlined.le, hstop⟩

theorem Lined.split_tokens (h : Lined low high ((ts ++ us).map Token.span)) :
    ∃ mid, Lined low mid (ts.map Token.span) ∧ Lined mid high (us.map Token.span) := by
  rw [List.map_append] at h
  exact h.split

end

/-! ## Nodes in line -/

/-- The nodes right below a node are lined up inside of it, and so on below them. -/
inductive Node.Framed : Node → Prop
  | intro {n} : Lined n.span.start n.span.stop (n.children.map Node.span) →
      (∀ c ∈ n.children, Node.Framed c) → Node.Framed n

/-- Nodes that are lined up between two places. -/
structure FramedBetween (low high : ℕ) (ns : List Node) : Prop where
  lined : Lined low high (ns.map Node.span)
  framed : ∀ n ∈ ns, n.Framed

section
variable {low low' mid high high' : ℕ} {n : Node} {ns ms : List Node}

theorem FramedBetween.nil (h : low ≤ high) : FramedBetween low high [] :=
  ⟨h, fun _ h => nomatch h⟩

theorem FramedBetween.single (hspan : Lined low high [n.span]) (hn : n.Framed) :
    FramedBetween low high [n] :=
  ⟨hspan, List.forall_mem_singleton.2 hn⟩

theorem FramedBetween.mono (h : FramedBetween low high ns) (hlow : low' ≤ low)
    (hhigh : high ≤ high') : FramedBetween low' high' ns :=
  ⟨h.lined.mono hlow hhigh, h.framed⟩

theorem FramedBetween.append (h : FramedBetween low mid ns) (h' : FramedBetween mid high ms) :
    FramedBetween low high (ns ++ ms) := by
  refine ⟨?_, List.forall_mem_append.2 ⟨h.framed, h'.framed⟩⟩
  rw [List.map_append]
  exact h.lined.append h'.lined

/-- What is below a node is lined up inside of it. -/
theorem Node.Framed.of_children (h : FramedBetween n.span.start n.span.stop n.children) :
    n.Framed :=
  .intro h.lined h.framed

theorem Node.framed_of_children_eq_nil (hn : n.children = []) (h : n.span.start ≤ n.span.stop) :
    n.Framed := by
  have hnone : FramedBetween n.span.start n.span.stop [] := .nil h
  rw [← hn] at hnone
  exact .of_children hnone

end

mutual

/-- An item that was read from tokens in line. -/
theorem ItemOf.framed : ∀ {ts : List Token} {n : Node} {low high : ℕ}, ItemOf ts n →
    Lined low high (ts.map Token.span) → n.Framed
  | _, _, _, _, .text, h | _, _, _, _, .wildcard, h | _, _, _, _, .regexp, h
  | _, _, _, _, .variable, h => Node.framed_of_children_eq_nil rfl h.2.1
  | _, _, _, _, .constrained hc, ⟨_, hle, h⟩ => by
    obtain ⟨hne, hspan⟩ := hc.span_eq
    obtain ⟨hstart, -, hlined⟩ := h.tight hne
    rw [← hspan] at hstart hlined
    have hbelow := FramedBetween.single ⟨le_refl _, hlined.le, le_refl _⟩ (hc.framed h)
    exact .of_children (hbelow.mono (hle.trans hstart) le_rfl)
  | _, _, _, _, .alternation _ hb hp _, h => by
    obtain ⟨_, h, hlast⟩ := h.split_tokens
    obtain ⟨_, h, hpath⟩ := h.split_tokens
    obtain ⟨hbranches, hhere⟩ := hb.framed h.2.2
    -- the last branch may be empty, and then it stands behind the last `,`
    have hbelow := hbranches.append (hp.framed (hpath.mono hhere le_rfl))
    exact .of_children (hbelow.mono h.2.1 (hlast.1.trans hlast.2.1))

theorem ItemsOf.framed : ∀ {ts : List Token} {ns : List Node} {low high : ℕ}, ItemsOf ts ns →
    Lined low high (ts.map Token.span) → FramedBetween low high ns
  | _, _, _, _, .nil, h => .nil h
  | _, _, _, _, .snoc hitems hitem, h => by
    obtain ⟨_, h, hlast⟩ := h.split_tokens
    obtain ⟨hne, hspan⟩ := hitem.span_eq
    have hin := hlast.extent hne
    rw [← hspan] at hin
    exact (hitems.framed h).append (.single hin (hitem.framed hlast))

theorem SegmentsOf.framed : ∀ {absolute : Bool} {ts : List Token} {ns : List Node} {low high : ℕ},
    SegmentsOf absolute ts ns → Lined low high (ts.map Token.span) → FramedBetween low high ns
  | _, _, _, _, _, .absolute, h => .nil h
  | _, _, _, _, _, .relative hne hitems, h =>
    .single (h.extent hne) (.of_children (hitems.framed (h.tight hne).2.2))
  | _, _, _, _, _, .snoc hsegments _ hitems, h => by
    obtain ⟨_, h, hlast⟩ := h.split_tokens
    obtain ⟨-, -, hstart, hle, hrest⟩ := hlast.tight (List.cons_ne_nil _ _)
    -- the items stand behind the separator with which the segment begins
    have hbelow := (hitems.framed hrest).mono (hstart.trans hle) le_rfl
    exact (hsegments.framed h).append
      (.single (hlast.extent (List.cons_ne_nil _ _)) (.of_children hbelow))

theorem PathOf.framed : ∀ {here : ℕ} {ts : List Token} {n : Node} {high : ℕ}, PathOf here ts n →
    Lined here high (ts.map Token.span) → FramedBetween here high [n]
  | _, _, _, _, .empty, h =>
    .single ⟨le_refl _, le_refl _, h⟩ (Node.framed_of_children_eq_nil rfl le_rfl)
  | _, _, _, _, .full hsegments hne, h =>
    .single (h.extent hne) (.of_children (hsegments.framed (h.tight hne).2.2))

/-- The last `,` ends in front of what follows. -/
theorem BranchesOf.framed : ∀ {first here high : ℕ} {ts : List Token} {ns : List Node},
    BranchesOf first ts ns here → Lined first high (ts.map Token.span) →
      FramedBetween first here ns ∧ here ≤ high
  | _, _, _, _, _, .nil, h => ⟨.nil le_rfl, h⟩
  | _, _, _, _, _, .snoc hb hp _, h => by
    obtain ⟨_, h, hlast⟩ := h.split_tokens
    obtain ⟨_, h, hpath⟩ := h.split_tokens
    obtain ⟨hbranches, hhere⟩ := hb.framed h
    have hall := hbranches.append (hp.framed (hpath.mono hhere le_rfl))
    exact ⟨hall.mono le_rfl (hlast.1.trans hlast.2.1), hlast.2.2⟩

end

/-! ## Patterns -/

/-- The tokens of a cut are in line. -/
theorem Cut.lined {n m : ℕ} {u v : Text} {ts : List Token} (h : Cut n u ts m v) :
    Lined n m (ts.map Token.span) := by
  induction h with
  | done => exact le_refl _
  | space _ _ ih => exact ih.mono (Nat.le_succ _) le_rfl
  | token _ _ _ ih => exact ⟨le_refl _, Nat.le_add_right _ _, ih⟩

theorem tokens_lined (p : Text) : ∃ high, Lined 0 high ((tokens p).1.map Token.span) := by
  obtain ⟨late, -, hcut, -⟩ := cut_read p
  obtain ⟨high, h, -⟩ := hcut.lined.split_tokens
  exact ⟨high, h⟩

/-! ## Walks -/

namespace Node

variable {enter : Node → Bool} {n parent : Node} {ns : List Node} {depth : ℕ} {above : Option Node}
  {v : Visit}

theorem mem_walkAll_iff : v ∈ walkAll enter depth parent ns ↔
    ∃ n ∈ ns, v ∈ n.walkFrom enter depth (some parent) := by
  induction ns with
  | nil => simp [walkAll]
  | cons n ns ih => simp [walkAll, ih]

theorem Framed.of_mem_walkFrom (h : n.Framed) (hv : v ∈ n.walkFrom (fun _ => true) depth above) :
    v.node.Framed := by
  induction h generalizing depth above with
  | @intro n hlined hbelow ih =>
    rw [walkFrom_all, List.mem_cons, mem_walkAll_iff] at hv
    rcases hv with rfl | ⟨c, hc, hv⟩
    · exact .intro hlined hbelow
    · exact ih c hc hv

end Node

/-- **Spans.** The nodes of a pattern's tree were read from its tokens, in the same order, and
    stand where these stand: a text, a wildcard and a raw regular expression at their token, a
    variable from its token up to the end of its constraint, an alternation from its `{` up to
    its `}`, and the whole tree from the first token up to the last. No node ends before it
    starts, and the nodes right below a node stand inside of it, one behind the other. -/
theorem parse_spans {pattern : Text} {root : Node} (h : parse pattern = .ok root) :
    PathOf 0 (tokens pattern).1 root ∧ root.span = extent (tokens pattern).1 ∧
      ∀ v ∈ root.walk fun _ => true, v.node.span.start ≤ v.node.span.stop ∧
        (∀ c ∈ v.node.children,
          v.node.span.start ≤ c.span.start ∧ c.span.stop ≤ v.node.span.stop) ∧
        v.node.children.Pairwise fun c d => c.span.stop ≤ d.span.start := by
  have hpath := pathOf_parse h
  obtain ⟨high, htokens⟩ := tokens_lined pattern
  have hroot : root.Framed := (hpath.framed htokens).framed root List.mem_cons_self
  refine ⟨hpath, hpath.span_eq, fun v hv => ?_⟩
  obtain ⟨hlined, -⟩ := hroot.of_mem_walkFrom hv
  refine ⟨hlined.le, fun c hc => ?_, List.pairwise_map.1 hlined.pairwise⟩
  obtain ⟨hstart, -, hstop⟩ := hlined.between (List.mem_map_of_mem hc)
  exact ⟨hstart, hstop⟩

/-- White space is left out around an empty branch, which stands behind its `,`, and at both
    ends of the tree. -/
theorem parse_spans_branches :
    ∃ root, parse " /:a{x , } y/ ".toList = .ok root ∧ root.span = ⟨1, 13⟩ ∧
      (root.walk fun _ => true).map (fun v => (v.depth, v.node.kind, v.node.span)) =
        [(0, .path, ⟨1, 13⟩), (1, .segment, ⟨1, 12⟩), (2, .variable, ⟨2, 10⟩),
          (3, .alternation, ⟨4, 10⟩), (4, .path, ⟨5, 6⟩), (5, .segment, ⟨5, 6⟩),
          (6, .text, ⟨5, 6⟩), (4, .path, ⟨8, 8⟩), (2, .text, ⟨11, 12⟩),
          (1, .segment, ⟨12, 13⟩)] := by
  have hok : (parse " /:a{x , } y/ ".toList).isOk := by decide
  obtain ⟨root, hroot⟩ := exists_of_isOk hok
  obtain ⟨-, hspan, -⟩ := parse_spans hroot
  have htokens : extent (tokens " /:a{x , } y/ ".toList).1 = ⟨1, 13⟩ := by decide
  have hwalk : (parse " /:a{x , } y/ ".toList).map (fun root =>
      (root.walk fun _ => true).map fun v => (v.depth, v.node.kind, v.node.span)) = .ok
        [(0, .path, ⟨1, 13⟩), (1, .segment, ⟨1, 12⟩), (2, .variable, ⟨2, 10⟩),
          (3, .alternation, ⟨4, 10⟩), (4, .path, ⟨5, 6⟩), (5, .segment, ⟨5, 6⟩),
          (6, .text, ⟨5, 6⟩), (4, .path, ⟨8, 8⟩), (2, .text, ⟨11, 12⟩),
          (1, .segment, ⟨12, 13⟩)] := by decide
  rw [hroot] at hwalk
  exact ⟨root, hroot, hspan.trans htokens, Except.ok.inj hwalk⟩

end PathRouting.Pattern
