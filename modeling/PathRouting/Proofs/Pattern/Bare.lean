/-
  The raw regular expressions of a pattern.

  * `Node.regexps` lists the raw regular expressions of a tree, and `Node.bareRegexps` those
    that stand in no constraint.
  * `parse_regexps`: the tree of a pattern has those of the pattern's tokens in their order.
    `starts_ordered`: the next one starts further behind.
  * `Node.lowerSegments_eq`: separators change neither the parameters nor whether there is a
    template.
  * `Node.lower_isOk`: lowering a tree fails only at those that stand in no constraint.
-/
import PathRouting.Proofs.Pattern.Covering
import PathRouting.Proofs.Pattern.Evaluation
import PathRouting.Proofs.Pattern.Flattening
import PathRouting.Proofs.Pattern.Ways

namespace PathRouting.Pattern

/-! ## Raw regular expressions -/

namespace Node

mutual

/-- The raw regular expressions of a tree in the order in which they stand. -/
def regexps : Node → List Span
  | .path _ _ ns | .segment _ ns | .alternation _ ns => regexpsOf ns
  | .variable _ _ (some c) => c.regexps
  | .regexp span _ => [span]
  | .variable _ _ none | .wildcard .. | .text .. => []

/-- Those of several trees. -/
def regexpsOf : List Node → List Span
  | [] => []
  | n :: ns => n.regexps ++ regexpsOf ns

end

mutual

/-- The raw regular expressions of a tree that are below none of its variables, in the order
    in which they stand. -/
def bareRegexps : Node → List Span
  | .path _ _ ns | .segment _ ns | .alternation _ ns => bareRegexpsOf ns
  | .regexp span _ => [span]
  | .variable .. | .wildcard .. | .text .. => []

/-- Those of several trees. -/
def bareRegexpsOf : List Node → List Span
  | [] => []
  | n :: ns => n.bareRegexps ++ bareRegexpsOf ns

end

theorem regexpsOf_eq (ns : List Node) : regexpsOf ns = ns.flatMap regexps := by
  induction ns with
  | nil => rfl
  | cons n ns ih => rw [regexpsOf, ih, List.flatMap_cons]

mutual

theorem bareRegexps_sublist : ∀ n : Node, n.bareRegexps.Sublist n.regexps
  | .path _ _ ns | .segment _ ns | .alternation _ ns => bareRegexpsOf_sublist ns
  | .variable _ _ (some _) => List.nil_sublist _
  | .regexp span _ => List.Sublist.refl [span]
  | .variable _ _ none | .wildcard .. | .text .. => List.Sublist.slnil

theorem bareRegexpsOf_sublist : ∀ ns : List Node, (bareRegexpsOf ns).Sublist (regexpsOf ns)
  | [] => List.Sublist.slnil
  | n :: ns => (bareRegexps_sublist n).append (bareRegexpsOf_sublist ns)

end

mutual

theorem bareRegexps_of_rawFree : ∀ n : Node, n.rawFree → n.bareRegexps = []
  | .path _ _ ns, h | .segment _ ns, h | .alternation _ ns, h => bareRegexpsOf_of_rawFree ns h
  | .variable .., _ | .wildcard .., _ | .text .., _ => rfl

theorem bareRegexpsOf_of_rawFree : ∀ ns : List Node, allRawFree ns → bareRegexpsOf ns = []
  | [], _ => rfl
  | n :: ns, h => by
    obtain ⟨hn, hns⟩ := Bool.and_eq_true_iff.1 h
    rw [bareRegexpsOf, bareRegexps_of_rawFree n hn, bareRegexpsOf_of_rawFree ns hns,
      List.append_nil]

end

end Node

/-! ## Their order -/

/-- Where a raw regular expression stands that is a token. -/
def Token.regexp? (t : Token) : Option Span :=
  match t.lexeme with
  | .regexp _ => some t.span
  | _ => none

namespace OpenSegment

theorem regexps_close (s : OpenSegment) :
    s.close.regexps = s.settled.reverse.flatMap Node.regexps :=
  Node.regexpsOf_eq _

theorem regexps_attach (s : OpenSegment) (n : Node) :
    (s.attach n).close.regexps = s.close.regexps ++ n.regexps := by
  simp only [regexps_close]
  cases h : s.awaiting <;> simp [attach, settled, h, Node.regexps]

theorem regexps_attachVariable (s : OpenSegment) (span : Span) (name : Text) :
    (s.attachVariable span name).close.regexps = s.close.regexps := by
  simp [regexps_close, attachVariable, settled, Node.regexps]

end OpenSegment

namespace OpenPath

theorem regexps_close (p : OpenPath) (start : ℕ) : p.close.regexps =
    p.segments.reverse.flatMap Node.regexps ++ (p.opened start).close.regexps := by
  cases hc : p.current with
  | none =>
    simp [close, opened, hc, Node.regexps, Node.regexpsOf_eq, OpenSegment.regexps_close,
      OpenSegment.settled]
  | some s => simp [close, opened, hc, Node.regexps, Node.regexpsOf_eq]

theorem regexps_close_of_current {p : OpenPath} {s : OpenSegment} (hs : p.current = some s) :
    p.close.regexps = p.segments.reverse.flatMap Node.regexps ++ s.close.regexps := by
  rw [regexps_close p 0, opened, hs, Option.getD_some]

theorem regexps_attach (p : OpenPath) (n : Node) :
    (p.attach n).close.regexps = p.close.regexps ++ n.regexps := by
  rw [regexps_close_of_current (attach_current p n), OpenSegment.regexps_attach, attach_segments,
    regexps_close p n.span.start, List.append_assoc]

theorem regexps_attachVariable (p : OpenPath) (span : Span) (name : Text) :
    (p.attachVariable span name).close.regexps = p.close.regexps := by
  rw [regexps_close_of_current (attachVariable_current p span name),
    OpenSegment.regexps_attachVariable, attachVariable_segments, regexps_close p span.start]

theorem regexps_separate (p : OpenPath) (span : Span) :
    (p.separate span).close.regexps = p.close.regexps := by
  rw [regexps_close_of_current (separate_current p span), regexps_close p span.start]
  cases hc : p.current <;>
    simp [separate, opened, hc, OpenSegment.regexps_close, OpenSegment.settled]

end OpenPath

namespace Cursor

/-- The raw regular expressions of an unfinished tree. -/
def regexps (c : Cursor) : List Span :=
  (c.enclosing.reverse.flatMap fun a =>
    a.outer.close.regexps ++ a.branches.reverse.flatMap Node.regexps) ++ c.path.close.regexps

/-- A token that is one is put at the end. -/
theorem regexps_step {c c' : Cursor} {t : Token} (h : c.step t = .ok c') :
    c'.regexps = c.regexps ++ t.regexp?.toList := by
  have hempty : ∀ start, (OpenPath.empty start).close.regexps = [] := fun _ => rfl
  cases step_eq_ok.1 h with
  | text | wildcard | regexp =>
    simp [Token.regexp?, regexps, Cursor.attach, OpenPath.regexps_attach, Node.regexps]
  | named => simp [Token.regexp?, regexps, OpenPath.regexps_attachVariable]
  | pathSeparator => simp [Token.regexp?, regexps, OpenPath.regexps_separate]
  | altStart | altSeparator => simp [Token.regexp?, regexps, hempty]
  | altEnd =>
    simp [Token.regexp?, regexps, OpenPath.regexps_attach, Node.regexps, Node.regexpsOf_eq]

end Cursor

/-- The raw regular expressions of a tree are the tokens of the pattern that are any. -/
theorem parse_regexps {pattern : Text} {root : Node} (h : parse pattern = .ok root) :
    root.regexps = (tokens pattern).1.filterMap Token.regexp? := by
  have hstep : ∀ us (c c' : Cursor), ∀ t ∈ (tokens pattern).1,
      c.regexps = us.filterMap Token.regexp? → c.step t = .ok c' →
        c'.regexps = (us ++ [t]).filterMap Token.regexp? := by
    intro us c c' t _ hc hstep
    rw [Cursor.regexps_step hstep, hc, List.filterMap_append]
    cases ht : t.regexp? <;> simp [ht]
  obtain ⟨p, hp, rfl⟩ := @parse_induction _ _
    (fun ts c => c.regexps = ts.filterMap Token.regexp?) h rfl hstep
  exact hp

/-- **Source order.** Each raw regular expression starts behind those in front of it. -/
theorem starts_ordered {pattern : Text} {root : Node} (h : parse pattern = .ok root) :
    root.regexps.Pairwise fun s s' => s.start < s'.start := by
  obtain ⟨late, -, hcut, -⟩ := cut_read pattern
  have htokens : (tokens pattern).1.Pairwise fun t t' => t.span.start < t'.span.start := by
    have hordered := hcut.ordered.sublist (List.sublist_append_left _ late)
    refine hordered.imp_of_mem fun {t t'} ht _ hle => ?_
    exact Nat.lt_of_lt_of_le (hcut.within (List.mem_append_left _ ht)).2.1 hle
  have hspan : ∀ {t : Token} {s}, s ∈ t.regexp? → s = t.span := by
    intro t s hs
    unfold Token.regexp? at hs
    split at hs
    · exact (Option.some.inj hs).symm
    · cases hs
  rw [parse_regexps h]
  refine htokens.filterMap _ fun t t' hlt s hs s' hs' => ?_
  rw [hspan hs, hspan hs']
  exact hlt

/-! ## Lowering trees without bare raw regular expressions -/

namespace Node

/-- Separators change neither the parameters nor whether there is a template. -/
theorem lowerSegments_eq (inVariable optional : Bool) (ns : List Node) (ps : List Parameter) :
    (lowerSegments inVariable optional ns ps).map (fun r => (r.1.isSome, r.2)) =
      (lowerItems inVariable optional ns ps).map fun r => (r.1.isSome, r.2) := by
  induction ns generalizing ps with
  | nil => rfl
  | cons n ns ih =>
    cases ns with
    | nil =>
      rw [lowerSegments, lowerItems]
      cases n.lower inVariable optional ps with
      | error e => rfl
      | ok r => obtain ⟨- | t, qs⟩ := r <;> rfl
    | cons m ns =>
      rw [lowerSegments, lowerItems]
      · cases n.lower inVariable optional ps with
        | error e => rfl
        | ok r =>
          obtain ⟨- | t, qs⟩ := r
          · rfl
          · have ih := ih qs
            dsimp only [Except.bind]
            cases hs : lowerSegments inVariable optional (m :: ns) qs <;>
              cases hi : lowerItems inVariable optional (m :: ns) qs <;>
                simp_all [Except.map]
      · simp

section
variable {inVariable optional : Bool} {ns : List Node} {ps qs : List Parameter}

theorem exists_lowerItems {ts : Option (List Template)}
    (h : lowerSegments inVariable optional ns ps = .ok (ts, qs)) :
    ∃ us, lowerItems inVariable optional ns ps = .ok (us, qs) ∧ us.isSome = ts.isSome := by
  have heq := lowerSegments_eq inVariable optional ns ps
  rw [h] at heq
  obtain ⟨⟨us, _⟩, hus, he⟩ := map_eq_ok.1 heq.symm
  obtain ⟨hsome, rfl⟩ := Prod.mk.inj he
  exact ⟨us, hus, hsome⟩

theorem exists_lowerItems_of_path {span : Span} {absolute : Bool} {t : Option Template}
    (h : (path span absolute ns).lower inVariable optional ps = .ok (t, qs)) :
    ∃ us, lowerItems inVariable optional ns ps = .ok (us, qs) ∧ us.isSome = t.isSome := by
  obtain ⟨ts, hts, rfl⟩ := lower_path_eq_ok h
  obtain ⟨us, hus, hsome⟩ := exists_lowerItems hts
  exact ⟨us, hus, hsome.trans Option.isSome_map.symm⟩

theorem exists_lowerSegments {us : Option (List Template)}
    (h : lowerItems inVariable optional ns ps = .ok (us, qs)) :
    ∃ ts, lowerSegments inVariable optional ns ps = .ok (ts, qs) ∧ ts.isSome = us.isSome := by
  have heq := lowerSegments_eq inVariable optional ns ps
  rw [h] at heq
  obtain ⟨⟨ts, _⟩, hts, he⟩ := map_eq_ok.1 heq
  obtain ⟨hsome, rfl⟩ := Prod.mk.inj he
  exact ⟨ts, hts, hsome⟩

theorem lowerSegments_eq_error {e : PatternError}
    (h : lowerItems inVariable optional ns ps = .error e) :
    lowerSegments inVariable optional ns ps = .error e := by
  have heq := lowerSegments_eq inVariable optional ns ps
  rw [h] at heq
  cases hs : lowerSegments inVariable optional ns ps with
  | error e' => rw [hs] at heq; exact congrArg _ (Except.error.inj heq)
  | ok r => rw [hs] at heq; cases heq

end

mutual

/-- Lowering fails only at raw regular expressions that stand in no constraint. -/
theorem lower_isOk : ∀ (n : Node) (inVariable optional : Bool) (ps : List Parameter),
    (inVariable = false → n.bareRegexps = []) → ∃ r, n.lower inVariable optional ps = .ok r
  | .path _ _ ns, inVariable, optional, ps, h => by
    obtain ⟨⟨ts, qs⟩, hts⟩ := lowerItems_isOk ns inVariable optional ps h
    obtain ⟨_, hus, -⟩ := exists_lowerSegments hts
    exact ⟨_, map_eq_ok.2 ⟨_, hus, rfl⟩⟩
  | .segment _ ns, _, _, ps, h => by
    obtain ⟨_, hns⟩ := lowerItems_isOk ns _ _ ps h
    exact ⟨_, map_eq_ok.2 ⟨_, hns, rfl⟩⟩
  | .alternation _ ns, _, _, ps, h => by
    obtain ⟨_, hns⟩ := lowerBranches_isOk ns _ _ ps h
    exact ⟨_, map_eq_ok.2 ⟨_, hns, rfl⟩⟩
  | .variable _ _ (some c), _, _, _, _ => by
    obtain ⟨_, hc⟩ := lower_isOk c true true _ (fun h => nomatch h)
    exact ⟨_, map_eq_ok.2 ⟨_, hc, rfl⟩⟩
  | .regexp .., true, _, _, _ => ⟨_, rfl⟩
  | .regexp .., false, _, _, h => nomatch h rfl
  | .variable _ _ none, _, _, _, _ | .wildcard .., _, _, _, _ | .text .., _, _, _, _ => ⟨_, rfl⟩

theorem lowerItems_isOk : ∀ (ns : List Node) (inVariable optional : Bool) (ps : List Parameter),
    (inVariable = false → bareRegexpsOf ns = []) →
      ∃ r, lowerItems inVariable optional ns ps = .ok r
  | [], _, _, _, _ => ⟨_, rfl⟩
  | n :: ns, inVariable, optional, ps, h => by
    obtain ⟨⟨t, ps'⟩, ht⟩ := lower_isOk n inVariable optional ps fun hv =>
      (List.append_eq_nil_iff.1 (h hv)).1
    cases t with
    | none => exact ⟨_, bind_eq_ok.2 ⟨_, ht, rfl⟩⟩
    | some t =>
      obtain ⟨_, hts⟩ := lowerItems_isOk ns inVariable optional ps' fun hv =>
        (List.append_eq_nil_iff.1 (h hv)).2
      exact ⟨_, bind_eq_ok.2 ⟨_, ht, map_eq_ok.2 ⟨_, hts, rfl⟩⟩⟩

theorem lowerBranches_isOk : ∀ (ns : List Node) (inVariable optional : Bool)
    (ps : List Parameter), (inVariable = false → bareRegexpsOf ns = []) →
      ∃ r, lowerBranches inVariable optional ns ps = .ok r
  | [], _, _, _, _ => ⟨_, rfl⟩
  | n :: ns, inVariable, optional, ps, h => by
    obtain ⟨⟨t, ps'⟩, ht⟩ := lower_isOk n inVariable optional ps fun hv =>
      (List.append_eq_nil_iff.1 (h hv)).1
    obtain ⟨_, hts⟩ := lowerBranches_isOk ns inVariable optional ps' fun hv =>
      (List.append_eq_nil_iff.1 (h hv)).2
    exact ⟨_, bind_eq_ok.2 ⟨_, ht, map_eq_ok.2 ⟨_, hts, rfl⟩⟩⟩

end

end Node

/-- Trees without bare raw regular expressions have builders. -/
theorem PathBuilder.exists_of_bare {root : Node} (h : root.bareRegexps = []) :
    ∃ p, PathBuilder.ofNode root = .ok p := by
  obtain ⟨_, hr⟩ := root.lower_isOk false false [] fun _ => h
  exact ⟨_, map_eq_ok.2 ⟨_, hr, rfl⟩⟩

end PathRouting.Pattern
